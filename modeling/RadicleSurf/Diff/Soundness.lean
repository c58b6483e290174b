import RadicleSurf.Diff.MergeJoin

/-! # What the tree diff reports of any two snapshots

The merge-join finds every difference only when both snapshots are sorted, but what it does
report is sound for any two: each record names, below the new root's label, a file of the
snapshot it comes from; a modified record names a file of both, at one path, whose size or
checksum changed; and nothing is ever reported as moved or copied. -/

namespace RadicleSurf

variable {Label : Type}

/-- Every record of `diff` names below `parent` a file it comes from: a created record a file
of `newFiles`, a deleted one a file of `oldFiles`, a modified one a file of each at one path
whose size or checksum changed. There are no moves or copies. -/
structure Diff.Traced (checksum : File → UInt64) (parent : Path Label)
    (oldFiles newFiles : List (List Label × File)) (diff : Diff Label) : Prop where
  created : ∀ record ∈ diff.created, ∃ newFile ∈ newFiles,
    record.path = parent.append newFile.1
  deleted : ∀ record ∈ diff.deleted, ∃ oldFile ∈ oldFiles,
    record.path = parent.append oldFile.1
  modified : ∀ record ∈ diff.modified, ∃ oldFile ∈ oldFiles, ∃ newFile ∈ newFiles,
    oldFile.1 = newFile.1 ∧ record.path = parent.append newFile.1 ∧
      fileChanged checksum oldFile.2 newFile.2 = true
  moved : diff.moved = []
  copied : diff.copied = []

theorem files_subset_filesOf_cons (entry : DirectoryContents Label)
    (rest : List (DirectoryContents Label)) : entry.files ⊆ filesOf (entry :: rest) := by
  rw [filesOf_cons]
  exact List.subset_append_left _ _

theorem filesOf_subset_filesOf_cons (entry : DirectoryContents Label)
    (rest : List (DirectoryContents Label)) : filesOf rest ⊆ filesOf (entry :: rest) := by
  rw [filesOf_cons]
  exact List.subset_append_right _ _

namespace Diff.Traced

variable {checksum : File → UInt64} {parent : Path Label}
  {oldFiles newFiles : List (List Label × File)}

theorem new : (Diff.new : Diff Label).Traced checksum parent oldFiles newFiles :=
  ⟨nofun, nofun, nofun, rfl, rfl⟩

theorem append {first second : Diff Label}
    (firstTraced : first.Traced checksum parent oldFiles newFiles)
    (secondTraced : second.Traced checksum parent oldFiles newFiles) :
    (first.append second).Traced checksum parent oldFiles newFiles where
  created record member :=
    (List.mem_append.mp member).elim (firstTraced.created record) (secondTraced.created record)
  deleted record member :=
    (List.mem_append.mp member).elim (firstTraced.deleted record) (secondTraced.deleted record)
  modified record member :=
    (List.mem_append.mp member).elim (firstTraced.modified record) (secondTraced.modified record)
  moved := by simp [Diff.append, firstTraced.moved, secondTraced.moved]
  copied := by simp [Diff.append, firstTraced.copied, secondTraced.copied]

/-- More files on either side trace the same records. -/
theorem mono {diff : Diff Label} {oldFiles' newFiles' : List (List Label × File)}
    (traced : diff.Traced checksum parent oldFiles newFiles)
    (oldSub : oldFiles ⊆ oldFiles') (newSub : newFiles ⊆ newFiles') :
    diff.Traced checksum parent oldFiles' newFiles' where
  created record member :=
    let ⟨newFile, newMember, path⟩ := traced.created record member
    ⟨newFile, newSub newMember, path⟩
  deleted record member :=
    let ⟨oldFile, oldMember, path⟩ := traced.deleted record member
    ⟨oldFile, oldSub oldMember, path⟩
  modified record member :=
    let ⟨oldFile, oldMember, newFile, newMember, facts⟩ := traced.modified record member
    ⟨oldFile, oldSub oldMember, newFile, newSub newMember, facts⟩
  moved := traced.moved
  copied := traced.copied

/-- Records traced below a subdirectory's path are traced below its parent, by the files
with that subdirectory's label in front. -/
theorem below {diff : Diff Label} {label : Label}
    (traced : diff.Traced checksum (parent.push label) oldFiles newFiles) :
    diff.Traced checksum parent (oldFiles.map fun file => (label :: file.1, file.2))
      (newFiles.map fun file => (label :: file.1, file.2)) where
  created record member :=
    let ⟨newFile, newMember, path⟩ := traced.created record member
    ⟨_, List.mem_map_of_mem _ newMember, by simpa using path⟩
  deleted record member :=
    let ⟨oldFile, oldMember, path⟩ := traced.deleted record member
    ⟨_, List.mem_map_of_mem _ oldMember, by simpa using path⟩
  modified record member :=
    let ⟨oldFile, oldMember, newFile, newMember, same, path, changed⟩ :=
      traced.modified record member
    ⟨_, List.mem_map_of_mem _ oldMember, _, List.mem_map_of_mem _ newMember, by simp [same],
      by simpa using path, changed⟩
  moved := traced.moved
  copied := traced.copied

theorem ofDeleted {entry : DirectoryContents Label} (sub : entry.files ⊆ oldFiles) :
    (Diff.ofDeleted (deletedRecords parent entry)).Traced checksum parent oldFiles newFiles where
  created := nofun
  deleted record member := by
    obtain ⟨file, fileMember, rfl⟩ := List.mem_map.mp member
    exact ⟨file, sub fileMember, rfl⟩
  modified := nofun
  moved := rfl
  copied := rfl

theorem ofCreated {entry : DirectoryContents Label} (sub : entry.files ⊆ newFiles) :
    (Diff.ofCreated (createdRecords parent entry)).Traced checksum parent oldFiles newFiles where
  created record member := by
    obtain ⟨file, fileMember, rfl⟩ := List.mem_map.mp member
    exact ⟨file, sub fileMember, rfl⟩
  deleted := nofun
  modified := nofun
  moved := rfl
  copied := rfl

/-- The records of an entry the old cursor passes alone, then the traced rest. -/
theorem ofDeleted_append {entry : DirectoryContents Label} {rest : List (DirectoryContents Label)}
    {diff : Diff Label} (traced : diff.Traced checksum parent (filesOf rest) newFiles) :
    ((Diff.ofDeleted (deletedRecords parent entry)).append diff).Traced checksum parent
      (filesOf (entry :: rest)) newFiles :=
  (ofDeleted (files_subset_filesOf_cons entry rest)).append
    (traced.mono (filesOf_subset_filesOf_cons entry rest) (List.Subset.refl _))

/-- The records of an entry the new cursor passes alone, then the traced rest. -/
theorem ofCreated_append {entry : DirectoryContents Label} {rest : List (DirectoryContents Label)}
    {diff : Diff Label} (traced : diff.Traced checksum parent oldFiles (filesOf rest)) :
    ((Diff.ofCreated (createdRecords parent entry)).append diff).Traced checksum parent
      oldFiles (filesOf (entry :: rest)) :=
  (ofCreated (files_subset_filesOf_cons entry rest)).append
    (traced.mono (List.Subset.refl _) (filesOf_subset_filesOf_cons entry rest))

end Diff.Traced

variable [LinearOrder Label]

theorem mergeJoin_traced (checksum : File → UInt64) (parent : Path Label)
    (olds news : List (DirectoryContents Label)) :
    (Diff.mergeJoin checksum parent olds news).Traced checksum parent (filesOf olds)
      (filesOf news) := by
  induction parent, olds, news using @Diff.mergeJoin.induct Label _ checksum with
  | case1 parent =>
      rw [Diff.mergeJoin]
      exact .new
  | case2 parent oldEntry olds induction =>
      rw [Diff.mergeJoin]
      exact induction.ofDeleted_append
  | case3 parent newEntry news induction =>
      rw [Diff.mergeJoin]
      exact induction.ofCreated_append
  | case4 parent oldEntry olds newEntry news greater induction =>
      rw [Diff.mergeJoin_of_gt checksum greater]
      exact induction.ofDeleted_append
  | case5 parent oldEntry olds newEntry news less induction =>
      rw [Diff.mergeJoin_of_lt checksum less]
      exact induction.ofCreated_append
  | case6 parent oldEntry olds newEntry news equal inner induction =>
      have oldSub := files_subset_filesOf_cons oldEntry olds
      have newSub := files_subset_filesOf_cons newEntry news
      have rest := induction.mono (filesOf_subset_filesOf_cons oldEntry olds)
        (filesOf_subset_filesOf_cons newEntry news)
      have same := compare_eq_iff_eq.mp equal
      cases newEntry <;> cases oldEntry <;> simp only [Diff.mergeJoin, equal] <;>
        refine .append ?_ rest <;>
        simp only [DirectoryContents.label, DirectoryContents.files] at same oldSub newSub inner
      case file.file name newFile oldName oldFile =>
        split
        case isTrue changed =>
          refine ⟨nofun, nofun, ?_, rfl, rfl⟩
          rintro _ (_ | ⟨_, ⟨⟩⟩)
          exact ⟨_, oldSub (.head _), _, newSub (.head _), by rw [same], rfl, changed⟩
        case isFalse => exact .new
      case file.directory name newFile dir =>
        refine ⟨?_, fun record member => ?_, nofun, rfl, rfl⟩
        · rintro _ (_ | ⟨_, ⟨⟩⟩)
          exact ⟨_, newSub (.head _), rfl⟩
        · obtain ⟨file, fileMember, rfl⟩ := List.mem_map.mp member
          exact ⟨file, oldSub fileMember, rfl⟩
      case directory.file dir oldName oldFile =>
        refine ⟨fun record member => ?_, ?_, nofun, rfl, rfl⟩
        · obtain ⟨file, fileMember, rfl⟩ := List.mem_map.mp member
          exact ⟨file, newSub fileMember, rfl⟩
        · rintro _ (_ | ⟨_, ⟨⟩⟩)
          exact ⟨_, oldSub (.head _), rfl⟩
      case directory.directory newDir oldDir =>
        rw [← same] at oldSub
        simp only [Directory.files_eq] at oldSub newSub
        exact inner.below.mono oldSub newSub

/-- For any two snapshots, sorted or not, every record of `Diff::diff` names, below the new
root's label, a file of the snapshot it comes from, a modified record names a file of both
at one path whose size or checksum changed, and there are no moves or copies. -/
theorem diff_traced (checksum : File → UInt64) (old new : Directory Label) :
    (Diff.diff checksum old new).Traced checksum (Path.fromLabels new.current []) old.files
      new.files := by
  rw [Diff.diff, Diff.collectDiff, Diff.collectDiffEntries_eq, Diff.new_append,
    Directory.files_eq, Directory.files_eq]
  exact mergeJoin_traced checksum _ _ _

end RadicleSurf
