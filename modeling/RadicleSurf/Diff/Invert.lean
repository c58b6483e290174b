import RadicleSurf.Diff.MergeJoin

/-! # The tree diff in the other direction

Diffing the new snapshot against the old one gives the same diff with its created and
deleted records traded. The merge-join treats its two cursors alike, its two
file-against-directory cases mirror each other, and the size-or-checksum test is
symmetric, so this holds of any two snapshots, sorted or not. -/

namespace RadicleSurf

variable {Label : Type}

/-- The diff read in the other direction: created and deleted records trade places. The
tree diff makes no moves or copies, and its modified records keep their paths. -/
def Diff.invert (diff : Diff Label) : Diff Label :=
  { diff with
    created := diff.deleted.map fun file => ⟨file.path, file.diff⟩
    deleted := diff.created.map fun file => ⟨file.path, file.diff⟩ }

namespace Diff

@[simp] theorem invert_new : (new : Diff Label).invert = new := rfl

@[simp] theorem invert_append (first second : Diff Label) :
    (first.append second).invert = first.invert.append second.invert := by
  simp [invert, append]

@[simp] theorem deletedRecords_map (parent : Path Label) (entry : DirectoryContents Label) :
    (deletedRecords parent entry).map (fun file => (⟨file.path, file.diff⟩ : CreateFile Label)) =
      createdRecords parent entry := by
  simp [deletedRecords, createdRecords]

@[simp] theorem createdRecords_map (parent : Path Label) (entry : DirectoryContents Label) :
    (createdRecords parent entry).map (fun file => (⟨file.path, file.diff⟩ : DeleteFile Label)) =
      deletedRecords parent entry := by
  simp [deletedRecords, createdRecords]

@[simp] theorem invert_ofDeleted (parent : Path Label) (entry : DirectoryContents Label) :
    (ofDeleted (deletedRecords parent entry)).invert = ofCreated (createdRecords parent entry) := by
  simp [invert, ofDeleted, ofCreated, new]

@[simp] theorem invert_ofCreated (parent : Path Label) (entry : DirectoryContents Label) :
    (ofCreated (createdRecords parent entry)).invert = ofDeleted (deletedRecords parent entry) := by
  simp [invert, ofDeleted, ofCreated, new]

end Diff

theorem fileChanged_comm (checksum : File → UInt64) (first second : File) :
    fileChanged checksum first second = fileChanged checksum second first := by
  simp only [fileChanged, bne, Bool.beq_comm]

variable [LinearOrder Label] (checksum : File → UInt64)

theorem mergeJoin_swap (parent : Path Label) (olds news : List (DirectoryContents Label)) :
    Diff.mergeJoin checksum parent news olds = (Diff.mergeJoin checksum parent olds news).invert := by
  induction parent, olds, news using @Diff.mergeJoin.induct Label _ checksum with
  | case1 parent => rw [Diff.mergeJoin]; rfl
  | case2 parent oldEntry olds induction => simp only [Diff.mergeJoin, induction, Diff.invert_append,
      Diff.invert_ofDeleted]
  | case3 parent newEntry news induction => simp only [Diff.mergeJoin, induction,
      Diff.invert_append, Diff.invert_ofCreated]
  | case4 parent oldEntry olds newEntry news greater induction =>
      have less : compare oldEntry.label newEntry.label = .lt :=
        compare_lt_iff_lt.mpr (compare_gt_iff_gt.mp greater)
      rw [Diff.mergeJoin_of_lt checksum less, Diff.mergeJoin_of_gt checksum greater, induction,
        Diff.invert_append, Diff.invert_ofDeleted]
  | case5 parent oldEntry olds newEntry news less induction =>
      have greater : compare oldEntry.label newEntry.label = .gt :=
        compare_gt_iff_gt.mpr (compare_lt_iff_lt.mp less)
      rw [Diff.mergeJoin_of_gt checksum greater, Diff.mergeJoin_of_lt checksum less, induction,
        Diff.invert_append, Diff.invert_ofCreated]
  | case6 parent oldEntry olds newEntry news equal inner induction =>
      have same := compare_eq_iff_eq.mp equal
      have equal' : compare oldEntry.label newEntry.label = .eq := compare_eq_iff_eq.mpr same.symm
      cases newEntry <;> cases oldEntry <;> simp only [DirectoryContents.label] at same <;>
        simp only [Diff.mergeJoin, equal, equal'] at inner ⊢ <;>
        rw [induction, Diff.invert_append] <;> refine congrArg (Diff.append · _) ?_
      case file.file =>
        subst same
        rw [fileChanged_comm]
        split <;> rfl
      case file.directory => simp [Diff.invert, same]
      case directory.file => simp [Diff.invert, same]
      case directory.directory => rw [← same, inner]

/-- Diffing in the other direction trades the created and deleted records and keeps the
modified ones, for snapshots with the same root label, which heads every path. -/
theorem diff_swap_eq_invert (old new : Directory Label) (sameRoot : old.current = new.current) :
    Diff.diff checksum new old = (Diff.diff checksum old new).invert := by
  simp only [Diff.diff, Diff.collectDiff, Diff.collectDiffEntries_eq, Diff.new_append, sameRoot]
  exact mergeJoin_swap checksum _ _ _

theorem diff_swap_eq_invert_scenario :
    scenarioOld.current = scenarioNew.current ∧
      Diff.diff (fun _ => 0) scenarioNew scenarioOld =
        (Diff.diff (fun _ => 0) scenarioOld scenarioNew).invert :=
  ⟨rfl, diff_swap_eq_invert _ _ _ rfl⟩

end RadicleSurf
