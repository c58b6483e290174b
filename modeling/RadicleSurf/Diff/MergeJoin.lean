import RadicleSurf.Diff.Traversal

/-! # The traversal with an immutable prefix

The spec's design note asks for the shared path accumulator to become a prefix passed by
argument. `mergeJoin` is that traversal: it never changes its prefix and returns the records
it adds. The faithful traversal appends exactly these records and gives the accumulator back
as it received it, at every depth and on every branch. -/

namespace RadicleSurf

variable {Label : Type} {α : Type}

/-- The records `Diff::add_created_files` makes of an entry below `parent`. -/
def createdRecords (parent : Path Label) (entry : DirectoryContents Label) :
    List (CreateFile Label) :=
  entry.files.map fun file => ⟨parent.append file.1, .plain default⟩

/-- The records `Diff::add_deleted_files` makes of an entry below `parent`. -/
def deletedRecords (parent : Path Label) (entry : DirectoryContents Label) :
    List (DeleteFile Label) :=
  entry.files.map fun file => ⟨parent.append file.1, .plain default⟩

/-- Two versions of a file at one label differ when their sizes or checksums do. -/
def fileChanged (checksum : File → UInt64) (oldFile newFile : File) : Bool :=
  oldFile.size != newFile.size || checksum oldFile != checksum newFile

namespace Diff

/-! ## Collecting files -/

mutual
theorem collectFilesInner_eq (mapper : Path Label → α) :
    ∀ (dir : Directory Label) (parentPath : Path Label) (files : List α),
      collectFilesInner mapper dir parentPath files =
        (parentPath, files ++ dir.files.map fun file =>
          mapper (parentPath.append (dir.current :: file.1)))
  | .mk current contents, parentPath, files => by
      simp [collectFilesInner, collectFilesEntries_eq, Directory.files, Directory.current]

theorem collectFilesEntries_eq (mapper : Path Label → α) :
    ∀ (entries : List (DirectoryContents Label)) (parentPath : Path Label) (files : List α),
      collectFilesEntries mapper entries parentPath files =
        (parentPath, files ++ (filesOf entries).map fun file =>
          mapper (parentPath.append file.1))
  | [], parentPath, files => by simp [collectFilesEntries, filesOf]
  | .directory subdir :: rest, parentPath, files => by
      simp [collectFilesEntries, collectFilesInner_eq, collectFilesEntries_eq, filesOf,
        DirectoryContents.files]
  | .file name _ :: rest, parentPath, files => by
      simp [collectFilesEntries, collectFilesEntries_eq, filesOf, DirectoryContents.files]
end

theorem collectFilesFromEntry_eq (entry : DirectoryContents Label) (parentPath : Path Label)
    (mapper : Path Label → α) :
    collectFilesFromEntry entry parentPath mapper =
      (parentPath, entry.files.map fun file => mapper (parentPath.append file.1)) := by
  cases entry <;>
    simp [collectFilesFromEntry, collectFiles, collectFilesInner_eq, DirectoryContents.files]

theorem addCreatedFiles_eq (diff : Diff Label) (entry : DirectoryContents Label)
    (parentPath : Path Label) :
    diff.addCreatedFiles entry parentPath =
      (parentPath, diff.append (ofCreated (createdRecords parentPath entry))) := by
  simp [addCreatedFiles, collectFilesFromEntry_eq, append, ofCreated, new, createdRecords]

theorem addDeletedFiles_eq (diff : Diff Label) (entry : DirectoryContents Label)
    (parentPath : Path Label) :
    diff.addDeletedFiles entry parentPath =
      (parentPath, diff.append (ofDeleted (deletedRecords parentPath entry))) := by
  simp [addDeletedFiles, collectFilesFromEntry_eq, append, ofDeleted, new, deletedRecords]

/-! ## The merge-join -/

variable [LinearOrder Label] (checksum : File → UInt64)

/-- The records the tree diff adds for two entry lists under the prefix `parent`. -/
def mergeJoin (parent : Path Label) :
    List (DirectoryContents Label) → List (DirectoryContents Label) → Diff Label
  | [], [] => new
  | oldEntry :: olds, [] =>
      (ofDeleted (deletedRecords parent oldEntry)).append (mergeJoin parent olds [])
  | [], newEntry :: news =>
      (ofCreated (createdRecords parent newEntry)).append (mergeJoin parent [] news)
  | oldEntry :: olds, newEntry :: news =>
      match compare newEntry.label oldEntry.label with
      | .gt => (ofDeleted (deletedRecords parent oldEntry)).append
          (mergeJoin parent olds (newEntry :: news))
      | .lt => (ofCreated (createdRecords parent newEntry)).append
          (mergeJoin parent (oldEntry :: olds) news)
      | .eq =>
          let here := match newEntry, oldEntry with
            | .file name newFile, .file _ oldFile =>
                if fileChanged checksum oldFile newFile then
                  { new with modified := [⟨parent.push name, .plain default, none⟩] }
                else new
            | .file name _, .directory _ =>
                { new with created := [⟨parent.push name, .plain default⟩],
                           deleted := deletedRecords parent oldEntry }
            | .directory _, .file name _ =>
                { new with created := createdRecords parent newEntry,
                           deleted := [⟨parent.push name, .plain default⟩] }
            | .directory newDir, .directory oldDir =>
                mergeJoin (parent.push newDir.current) oldDir.contents newDir.contents
          here.append (mergeJoin parent olds news)
termination_by olds news => sizeOf olds + sizeOf news
decreasing_by
  all_goals simp_wf
  all_goals first
    | omega
    | have := oldDir.sizeOf_contents_lt
      have := newDir.sizeOf_contents_lt
      omega

section Order

variable {olds news : List (DirectoryContents Label)} {oldEntry newEntry : DirectoryContents Label}
  {parent : Path Label}

theorem mergeJoin_of_gt (greater : compare newEntry.label oldEntry.label = .gt) :
    mergeJoin checksum parent (oldEntry :: olds) (newEntry :: news) =
      (ofDeleted (deletedRecords parent oldEntry)).append
        (mergeJoin checksum parent olds (newEntry :: news)) := by
  cases newEntry <;> cases oldEntry <;> simp only [mergeJoin] <;> rw [greater]

theorem mergeJoin_of_lt (less : compare newEntry.label oldEntry.label = .lt) :
    mergeJoin checksum parent (oldEntry :: olds) (newEntry :: news) =
      (ofCreated (createdRecords parent newEntry)).append
        (mergeJoin checksum parent (oldEntry :: olds) news) := by
  cases newEntry <;> cases oldEntry <;> simp only [mergeJoin] <;> rw [less]

end Order

/-- One step of the loop appends what one step of `mergeJoin` adds, and the accumulator is
back where it was after every branch, the push and pop around a descent included. -/
theorem collectDiffEntries_eq (parentPath : Path Label)
    (olds news : List (DirectoryContents Label)) (diff : Diff Label) :
    collectDiffEntries checksum olds news parentPath diff =
      (parentPath, diff.append (mergeJoin checksum parentPath olds news)) := by
  induction parentPath, olds, news using @mergeJoin.induct Label _ checksum generalizing diff with
  | case1 parent => simp [collectDiffEntries, mergeJoin]
  | case2 parent oldEntry olds induction =>
      simp [collectDiffEntries, mergeJoin, addDeletedFiles_eq, induction, append_assoc]
  | case3 parent newEntry news induction =>
      simp [collectDiffEntries, mergeJoin, addCreatedFiles_eq, induction, append_assoc]
  | case4 parent oldEntry olds newEntry news greater induction =>
      simp [collectDiffEntries_of_gt checksum greater, mergeJoin_of_gt checksum greater,
        addDeletedFiles_eq, induction, append_assoc]
  | case5 parent oldEntry olds newEntry news less induction =>
      simp [collectDiffEntries_of_lt checksum less, mergeJoin_of_lt checksum less,
        addCreatedFiles_eq, induction, append_assoc]
  | case6 parent oldEntry olds newEntry news equal inner induction =>
      cases newEntry <;> cases oldEntry <;> simp only [collectDiffEntries, mergeJoin, equal]
      · split <;> simp [fileChanged, *, addModifiedFile_eq_append, append_assoc]
      · simp [induction, addDeletedFiles_eq, addCreatedFile_eq_append, append_assoc]
        simp [append, ofCreated, ofDeleted, new]
      · simp [induction, addCreatedFiles_eq, addDeletedFile_eq_append, append_assoc]
        simp [append, ofCreated, ofDeleted, new]
      · simp only [NonEmpty.push_eq_append] at inner
        simp [induction, inner, append_assoc]

theorem collectDiff_eq_mergeJoin :
    (∀ (mapper : Path Label → α) (dir : Directory Label) (parentPath : Path Label)
        (files : List α),
      collectFilesInner mapper dir parentPath files =
        (parentPath, files ++ dir.files.map fun file =>
          mapper (parentPath.append (dir.current :: file.1)))) ∧
    ∀ (old new : Directory Label) (parentPath : Path Label) (diff : Diff Label),
      collectDiff checksum old new parentPath diff =
        (parentPath, diff.append (mergeJoin checksum parentPath old.contents new.contents)) :=
  ⟨collectFilesInner_eq, fun old new parentPath =>
    collectDiffEntries_eq checksum parentPath old.contents new.contents⟩

end Diff

end RadicleSurf
