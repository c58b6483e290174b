import RadicleSurf.Diff.Model

/-! # The tree diff of `diff.rs`, as the code computes it

`Diff::collect_diff` walks two directories with one cursor each. The path of the
directory being visited is one `Rc<RefCell<Path>>` shared by every call, pushed before a
descent and popped after it; here it is passed in and returned by every function, beside
the `Diff` or the `Vec` being filled. `File::checksum` is not in the source and is a
parameter: only whether two checksums are equal matters. -/

namespace RadicleSurf

variable {Label : Type} {α : Type}

namespace Diff

mutual
/-- `Diff::collect_files_inner`: push the directory's label, visit its entries, pop. -/
def collectFilesInner (mapper : Path Label → α) :
    Directory Label → Path Label → List α → Path Label × List α
  | .mk current contents, parentPath, files =>
      let (parentPath, files) :=
        collectFilesEntries mapper contents (parentPath.push current) files
      (parentPath.pop.2, files)

/-- The `for entry in dir.contents()` loop of `Diff::collect_files_inner`. -/
def collectFilesEntries (mapper : Path Label → α) :
    List (DirectoryContents Label) → Path Label → List α → Path Label × List α
  | [], parentPath, files => (parentPath, files)
  | .directory subdir :: rest, parentPath, files =>
      let (parentPath, files) := collectFilesInner mapper subdir parentPath files
      collectFilesEntries mapper rest parentPath files
  | .file name _ :: rest, parentPath, files =>
      collectFilesEntries mapper rest parentPath (files ++ [mapper (parentPath.push name)])
end

def collectFiles (dir : Directory Label) (parentPath : Path Label) (mapper : Path Label → α) :
    Path Label × List α :=
  collectFilesInner mapper dir parentPath []

/-- `Diff::collect_files_from_entry`: a file is its own path, a directory all its files. -/
def collectFilesFromEntry (entry : DirectoryContents Label) (parentPath : Path Label)
    (mapper : Path Label → α) : Path Label × List α :=
  match entry with
  | .directory dir => collectFiles dir parentPath mapper
  | .file name _ => (parentPath, [mapper (parentPath.push name)])

def addCreatedFiles (diff : Diff Label) (dc : DirectoryContents Label)
    (parentPath : Path Label) : Path Label × Diff Label :=
  let (parentPath, newFiles) := collectFilesFromEntry dc parentPath fun path =>
    (⟨path, .plain default⟩ : CreateFile Label)
  (parentPath, { diff with created := diff.created ++ newFiles })

def addDeletedFiles (diff : Diff Label) (dc : DirectoryContents Label)
    (parentPath : Path Label) : Path Label × Diff Label :=
  let (parentPath, newFiles) := collectFilesFromEntry dc parentPath fun path =>
    (⟨path, .plain default⟩ : DeleteFile Label)
  (parentPath, { diff with deleted := diff.deleted ++ newFiles })

variable [LinearOrder Label] (checksum : File → UInt64)

/-- The `while` loop of `Diff::collect_diff`, from the entries left at the old and the new
cursor. A pair of subdirectories at one label is `Diff::collect_diff` of the two, run
between a push of the label and a pop. -/
def collectDiffEntries :
    List (DirectoryContents Label) → List (DirectoryContents Label) → Path Label →
      Diff Label → Path Label × Diff Label
  | [], [], parentPath, diff => (parentPath, diff)
  | oldEntry :: olds, [], parentPath, diff =>
      let (parentPath, diff) := diff.addDeletedFiles oldEntry parentPath
      collectDiffEntries olds [] parentPath diff
  | [], newEntry :: news, parentPath, diff =>
      let (parentPath, diff) := diff.addCreatedFiles newEntry parentPath
      collectDiffEntries [] news parentPath diff
  | oldEntry :: olds, newEntry :: news, parentPath, diff =>
      match compare newEntry.label oldEntry.label with
      | .gt =>
          let (parentPath, diff) := diff.addDeletedFiles oldEntry parentPath
          collectDiffEntries olds (newEntry :: news) parentPath diff
      | .lt =>
          let (parentPath, diff) := diff.addCreatedFiles newEntry parentPath
          collectDiffEntries (oldEntry :: olds) news parentPath diff
      | .eq =>
          match newEntry, oldEntry with
          | .file newFileName newFile, .file _ oldFile =>
              let diff :=
                if oldFile.size != newFile.size || checksum oldFile != checksum newFile then
                  diff.addModifiedFile (parentPath.push newFileName) default none
                else diff
              collectDiffEntries olds news parentPath diff
          | .file newFileName _, .directory _ =>
              let diff := diff.addCreatedFile (parentPath.push newFileName) (.plain default)
              let (parentPath, diff) := diff.addDeletedFiles oldEntry parentPath
              collectDiffEntries olds news parentPath diff
          | .directory _, .file oldFileName _ =>
              let path := parentPath.push oldFileName
              let (parentPath, diff) := diff.addCreatedFiles newEntry parentPath
              let diff := diff.addDeletedFile path (.plain default)
              collectDiffEntries olds news parentPath diff
          | .directory newDir, .directory oldDir =>
              let (parentPath, diff) := collectDiffEntries oldDir.contents newDir.contents
                (parentPath.push newDir.current) diff
              collectDiffEntries olds news parentPath.pop.2 diff
termination_by olds news => sizeOf olds + sizeOf news
decreasing_by
  all_goals simp_wf
  all_goals first
    | omega
    | have := oldDir.sizeOf_contents_lt
      have := newDir.sizeOf_contents_lt
      omega

section Order

variable {olds news : List (DirectoryContents Label)} {oldEntry newEntry : DirectoryContents Label}
  {parentPath : Path Label} {diff : Diff Label}

theorem collectDiffEntries_of_gt (greater : compare newEntry.label oldEntry.label = .gt) :
    collectDiffEntries checksum (oldEntry :: olds) (newEntry :: news) parentPath diff =
      let (parentPath, diff) := diff.addDeletedFiles oldEntry parentPath
      collectDiffEntries checksum olds (newEntry :: news) parentPath diff := by
  cases newEntry <;> cases oldEntry <;> simp only [collectDiffEntries] <;> rw [greater]

theorem collectDiffEntries_of_lt (less : compare newEntry.label oldEntry.label = .lt) :
    collectDiffEntries checksum (oldEntry :: olds) (newEntry :: news) parentPath diff =
      let (parentPath, diff) := diff.addCreatedFiles newEntry parentPath
      collectDiffEntries checksum (oldEntry :: olds) news parentPath diff := by
  cases newEntry <;> cases oldEntry <;> simp only [collectDiffEntries] <;> rw [less]

end Order

/-- `Diff::collect_diff`. -/
def collectDiff (old new : Directory Label) (parentPath : Path Label) (diff : Diff Label) :
    Path Label × Diff Label :=
  collectDiffEntries checksum old.contents new.contents parentPath diff

/-- `Diff::diff`: the accumulator starts as the new directory's label alone. -/
def diff (left right : Directory Label) : Diff Label :=
  (collectDiff checksum left right (Path.fromLabels right.current []) new).2

end Diff

end RadicleSurf
