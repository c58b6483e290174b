import RadicleSurf.Diff.MergeJoin
import RadicleSurf.Diff.Stats

/-! # What the tree diff computes

Written from the two snapshots' files in pre-order: a created record for every file only
in the new snapshot, a deleted record for every file only in the old one, a modified
record for every file in both whose size or checksum changed, and no moves or copies.
For sorted snapshots the merge-join computes exactly this, and so does `Diff::diff`. -/

namespace RadicleSurf

variable {Label : Type}

/-- Files with their paths, as `Directory.files` lists them. -/
abbrev Files (Label : Type) := List (List Label × File)

/-- No path of `files` is a path of `other`. -/
def Apart (files other : Files Label) : Prop :=
  ∀ file ∈ files, ∀ otherFile ∈ other, file.1 ≠ otherFile.1

theorem Apart.symm {files other : Files Label} (apart : Apart files other) :
    Apart other files :=
  fun otherFile otherMember file member equal => apart file member otherFile otherMember equal.symm

theorem not_mem_paths_of_apart {files other : Files Label} (apart : Apart files other)
    {file : List Label × File} (member : file ∈ files) : file.1 ∉ other.map Prod.fst := by
  simp only [List.mem_map, not_exists, not_and]
  exact fun otherFile otherMember equal => apart file member otherFile otherMember equal.symm

theorem apart_files_filesOf {entry : DirectoryContents Label} {rest : List (DirectoryContents Label)}
    (distinct : ∀ other ∈ rest, entry.label ≠ other.label) : Apart entry.files (filesOf rest) := by
  intro file member otherFile otherMember equal
  obtain ⟨other, otherIn, otherHead⟩ := head?_of_mem_filesOf otherMember
  have head := DirectoryContents.head?_of_mem_files member
  rw [equal, otherHead] at head
  exact distinct other otherIn (Option.some.inj head).symm

/-- A directory's files all lie strictly below its label, so none is the file at that label. -/
theorem apart_directory_file (dir : Directory Label) (file : File) :
    Apart (DirectoryContents.directory dir).files [([dir.current], file)] := by
  intro dirFile member otherFile otherMember equal
  simp only [DirectoryContents.files, List.mem_map] at member
  obtain ⟨file, fileMember, rfl⟩ := member
  simp only [List.mem_singleton] at otherMember
  subst otherMember
  simp only [List.cons.injEq, true_and] at equal
  exact Directory.ne_nil_of_mem_files fileMember equal

theorem Apart.disjoint {files other : Files Label} (apart : Apart files other) :
    (files.map Prod.fst).Disjoint (other.map Prod.fst) := by
  simp only [List.disjoint_left, List.mem_map]
  rintro _ ⟨file, member, rfl⟩ ⟨otherFile, otherMember, equal⟩
  exact apart file member otherFile otherMember equal.symm

variable [LinearOrder Label]

mutual
theorem Directory.nodup_paths : ∀ dir : Directory Label, dir.Sorted → (dir.files.map Prod.fst).Nodup
  | .mk _ contents, sorted => by
      simpa [Directory.files_eq, Directory.contents] using nodup_paths_filesOf contents sorted

theorem nodup_paths_filesOf : ∀ entries : List (DirectoryContents Label), EntriesSorted entries →
    ((filesOf entries).map Prod.fst).Nodup
  | [], _ => by simp
  | entry :: rest, ⟨below, entrySorted, restSorted⟩ => by
      rw [filesOf_cons, List.map_append, List.nodup_append]
      exact ⟨DirectoryContents.nodup_paths entry entrySorted, nodup_paths_filesOf rest restSorted,
        (apart_files_filesOf fun other member => (below other member).ne).disjoint⟩

theorem DirectoryContents.nodup_paths : ∀ entry : DirectoryContents Label, entry.Sorted →
    (entry.files.map Prod.fst).Nodup
  | .file _ _, _ => by simp
  | .directory dir, sorted => by
      simpa [DirectoryContents.files, Function.comp_def] using
        (Directory.nodup_paths dir sorted).map (@List.cons_injective _ dir.current)
end

/-- The files of `files` whose path is not a path of `other`. -/
def onlyIn (files other : Files Label) : Files Label :=
  files.filter fun file => file.1 ∉ other.map Prod.fst

section Changed

variable (checksum : File → UInt64)

/-- The files of `newFiles` whose path names a file of `oldFiles` with another size or
checksum. -/
def changedIn (newFiles oldFiles : Files Label) : Files Label :=
  newFiles.filter fun newFile =>
    match oldFiles.find? (·.1 = newFile.1) with
    | some oldFile => fileChanged checksum oldFile.2 newFile.2
    | none => false

/-- The records of the tree diff of two file lists below `parent`. -/
def treeDiffOf (parent : Path Label) (oldFiles newFiles : Files Label) : Diff Label where
  created := (onlyIn newFiles oldFiles).map fun file => ⟨parent.append file.1, .plain default⟩
  deleted := (onlyIn oldFiles newFiles).map fun file => ⟨parent.append file.1, .plain default⟩
  moved := []
  copied := []
  modified := (changedIn checksum newFiles oldFiles).map fun file =>
    ⟨parent.append file.1, .plain default, none⟩

/-- The tree diff of two snapshots: every path is below the new root's label. -/
def treeDiff (old new : Directory Label) : Diff Label :=
  treeDiffOf checksum (Path.fromLabels new.current []) old.files new.files

end Changed

/-! ## Lists of files -/

@[simp] theorem onlyIn_nil_right (files : Files Label) : onlyIn files [] = files := by
  simp [onlyIn]

@[simp] theorem onlyIn_nil_left (other : Files Label) : onlyIn [] other = [] := rfl

theorem onlyIn_append_left (first second other : Files Label) :
    onlyIn (first ++ second) other = onlyIn first other ++ onlyIn second other :=
  List.filter_append _ _

theorem onlyIn_of_apart {files other : Files Label} (apart : Apart files other) :
    onlyIn files other = files :=
  List.filter_eq_self.mpr fun _ member => decide_eq_true (not_mem_paths_of_apart apart member)

theorem onlyIn_append_right_of_apart_left {files first second : Files Label}
    (apart : Apart files first) : onlyIn files (first ++ second) = onlyIn files second :=
  List.filter_congr fun _ member => by
    simp only [List.map_append, List.mem_append, not_mem_paths_of_apart apart member, false_or]

theorem onlyIn_append_right_of_apart_right {files first second : Files Label}
    (apart : Apart files second) : onlyIn files (first ++ second) = onlyIn files first :=
  List.filter_congr fun _ member => by
    simp only [List.map_append, List.mem_append, not_mem_paths_of_apart apart member, or_false]

section Changed

variable (checksum : File → UInt64)

@[simp] theorem changedIn_nil_right (files : Files Label) : changedIn checksum files [] = [] := by
  simp [changedIn]

@[simp] theorem changedIn_nil_left (other : Files Label) : changedIn checksum [] other = [] :=
  rfl

theorem changedIn_append_left (first second other : Files Label) :
    changedIn checksum (first ++ second) other =
      changedIn checksum first other ++ changedIn checksum second other :=
  List.filter_append _ _

theorem find?_eq_none_of_apart {files other : Files Label} (apart : Apart files other)
    {file : List Label × File} (member : file ∈ files) :
    other.find? (·.1 = file.1) = none :=
  List.find?_eq_none.mpr fun otherFile otherMember => by
    simpa [eq_comm] using apart file member otherFile otherMember

theorem changedIn_append_right_of_apart_left {files first second : Files Label}
    (apart : Apart files first) :
    changedIn checksum files (first ++ second) = changedIn checksum files second :=
  List.filter_congr fun file member => by
    simp [List.find?_append, find?_eq_none_of_apart apart member]

theorem changedIn_append_right_of_apart_right {files first second : Files Label}
    (apart : Apart files second) :
    changedIn checksum files (first ++ second) = changedIn checksum files first :=
  List.filter_congr fun file member => by
    simp [List.find?_append, find?_eq_none_of_apart apart member]

theorem changedIn_of_apart {files other : Files Label} (apart : Apart files other) :
    changedIn checksum files other = [] :=
  List.filter_eq_nil_iff.mpr fun file member => by simp [find?_eq_none_of_apart apart member]

/-- Prefixing every path with one label commutes with both filters. -/
theorem onlyIn_map_cons (label : Label) (files other : Files Label) :
    onlyIn (files.map fun file => (label :: file.1, file.2))
        (other.map fun file => (label :: file.1, file.2)) =
      (onlyIn files other).map fun file => (label :: file.1, file.2) := by
  simp only [onlyIn, List.filter_map, Function.comp_def]
  congr 1
  exact List.filter_congr fun file _ => by
    simp only [List.map_map, Function.comp_def, List.mem_map, List.cons.injEq, true_and]

theorem changedIn_map_cons (label : Label) (files other : Files Label) :
    changedIn checksum (files.map fun file => (label :: file.1, file.2))
        (other.map fun file => (label :: file.1, file.2)) =
      (changedIn checksum files other).map fun file => (label :: file.1, file.2) := by
  simp only [changedIn, List.filter_map, Function.comp_def]
  congr 1
  refine List.filter_congr fun file _ => ?_
  simp only [List.find?_map, Function.comp_def, List.cons.injEq, true_and]
  cases other.find? (·.1 = file.1) <;> rfl

end Changed

/-! ## Splitting the tree diff -/

section Split

variable (checksum : File → UInt64) (parent : Path Label)

theorem treeDiffOf_append {oldHead oldRest newHead newRest : Files Label}
    (oldApart : Apart oldHead newRest) (newApart : Apart newHead oldRest) :
    treeDiffOf checksum parent (oldHead ++ oldRest) (newHead ++ newRest) =
      (treeDiffOf checksum parent oldHead newHead).append
        (treeDiffOf checksum parent oldRest newRest) := by
  simp only [treeDiffOf, Diff.append, onlyIn_append_left, changedIn_append_left,
    onlyIn_append_right_of_apart_right newApart, onlyIn_append_right_of_apart_left oldApart.symm,
    onlyIn_append_right_of_apart_right oldApart, onlyIn_append_right_of_apart_left newApart.symm,
    changedIn_append_right_of_apart_right checksum newApart,
    changedIn_append_right_of_apart_left checksum oldApart.symm, List.map_append, List.append_nil]

theorem treeDiffOf_old_append {head oldRest newFiles : Files Label} (apart : Apart head newFiles) :
    treeDiffOf checksum parent (head ++ oldRest) newFiles =
      (Diff.ofDeleted (head.map fun file => ⟨parent.append file.1, .plain default⟩)).append
        (treeDiffOf checksum parent oldRest newFiles) := by
  have split := @treeDiffOf_append _ _ checksum parent head oldRest [] newFiles apart
    fun _ member => nomatch member
  simpa [treeDiffOf, Diff.ofDeleted, Diff.new] using split

theorem treeDiffOf_new_append {head oldFiles newRest : Files Label} (apart : Apart head oldFiles) :
    treeDiffOf checksum parent oldFiles (head ++ newRest) =
      (Diff.ofCreated (head.map fun file => ⟨parent.append file.1, .plain default⟩)).append
        (treeDiffOf checksum parent oldFiles newRest) := by
  have split := @treeDiffOf_append _ _ checksum parent [] oldFiles head newRest
    (fun _ member => nomatch member) apart
  simpa [treeDiffOf, Diff.ofCreated, Diff.new] using split

theorem treeDiffOf_of_apart {oldFiles newFiles : Files Label} (apart : Apart oldFiles newFiles) :
    treeDiffOf checksum parent oldFiles newFiles =
      { Diff.new with
        created := newFiles.map fun file => ⟨parent.append file.1, .plain default⟩,
        deleted := oldFiles.map fun file => ⟨parent.append file.1, .plain default⟩ } := by
  simp [treeDiffOf, Diff.new, onlyIn_of_apart apart, onlyIn_of_apart apart.symm,
    changedIn_of_apart checksum apart.symm]

end Split

/-! ## Entries at one label -/

section SameLabel

variable (checksum : File → UInt64) (parent : Path Label)

theorem treeDiffOf_file_file (name : Label) (oldFile newFile : File) :
    treeDiffOf checksum parent [([name], oldFile)] [([name], newFile)] =
      if fileChanged checksum oldFile newFile then
        { Diff.new with modified := [⟨parent.push name, .plain default, none⟩] }
      else Diff.new := by
  simp only [treeDiffOf, onlyIn, changedIn]
  split <;> simp_all [Diff.new]

theorem treeDiffOf_directory_directory (oldDir newDir : Directory Label)
    (same : oldDir.current = newDir.current) :
    treeDiffOf checksum parent (DirectoryContents.directory oldDir).files
        (DirectoryContents.directory newDir).files =
      treeDiffOf checksum (parent.push newDir.current) oldDir.files newDir.files := by
  simp [treeDiffOf, DirectoryContents.files, same, onlyIn_map_cons, changedIn_map_cons]

end SameLabel

/-! ## The merge-join computes the tree diff -/

theorem ne_label_of_lt {label : Label} {entry : DirectoryContents Label}
    {rest : List (DirectoryContents Label)} (below : label < entry.label)
    (sorted : EntriesSorted (entry :: rest)) : ∀ other ∈ entry :: rest, label ≠ other.label := by
  intro other member
  rcases List.mem_cons.mp member with rfl | member
  · exact below.ne
  · exact (below.trans (sorted.1 other member)).ne

theorem mergeJoin_eq_treeDiffOf (checksum : File → UInt64) (parent : Path Label)
    (olds news : List (DirectoryContents Label)) (oldsSorted : EntriesSorted olds)
    (newsSorted : EntriesSorted news) :
    Diff.mergeJoin checksum parent olds news =
      treeDiffOf checksum parent (filesOf olds) (filesOf news) := by
  induction parent, olds, news using @Diff.mergeJoin.induct Label _ checksum with
  | case1 parent => rw [Diff.mergeJoin]; rfl
  | case2 parent oldEntry olds induction =>
      rw [Diff.mergeJoin, induction oldsSorted.2.2 newsSorted, filesOf_cons,
        treeDiffOf_old_append checksum parent (by simp [Apart])]
      rfl
  | case3 parent newEntry news induction =>
      rw [Diff.mergeJoin, induction oldsSorted newsSorted.2.2, filesOf_cons,
        treeDiffOf_new_append checksum parent (by simp [Apart])]
      rfl
  | case4 parent oldEntry olds newEntry news greater induction =>
      have below : oldEntry.label < newEntry.label := compare_gt_iff_gt.mp greater
      rw [Diff.mergeJoin_of_gt checksum greater, induction oldsSorted.2.2 newsSorted,
        filesOf_cons oldEntry,
        treeDiffOf_old_append checksum parent
          (apart_files_filesOf (ne_label_of_lt below newsSorted))]
      rfl
  | case5 parent oldEntry olds newEntry news less induction =>
      have below : newEntry.label < oldEntry.label := compare_lt_iff_lt.mp less
      rw [Diff.mergeJoin_of_lt checksum less, induction oldsSorted newsSorted.2.2,
        filesOf_cons newEntry,
        treeDiffOf_new_append checksum parent
          (apart_files_filesOf (ne_label_of_lt below oldsSorted))]
      rfl
  | case6 parent oldEntry olds newEntry news equal inner induction =>
      have same : newEntry.label = oldEntry.label := compare_eq_iff_eq.mp equal
      rw [filesOf_cons, filesOf_cons, treeDiffOf_append checksum parent
        (apart_files_filesOf fun other member => (same ▸ newsSorted.1 other member).ne)
        (apart_files_filesOf fun other member => (same ▸ oldsSorted.1 other member).ne),
        ← induction oldsSorted.2.2 newsSorted.2.2]
      cases newEntry <;> cases oldEntry <;> simp only [Diff.mergeJoin] <;> rw [equal] <;>
        dsimp only <;> congr 1 <;> simp only [DirectoryContents.label] at same
      · subst same
        simpa using (treeDiffOf_file_file checksum parent _ _ _).symm
      · subst same
        rw [DirectoryContents.files_file, treeDiffOf_of_apart checksum parent (apart_directory_file _ _)]
        simp [deletedRecords, Diff.new]
      · subst same
        rw [DirectoryContents.files_file,
          treeDiffOf_of_apart checksum parent (apart_directory_file _ _).symm]
        simp [createdRecords, Diff.new]
      · rw [treeDiffOf_directory_directory checksum parent _ _ same.symm, Directory.files_eq,
          Directory.files_eq]
        exact inner ((Directory.sorted_iff _).mp oldsSorted.2.1)
          ((Directory.sorted_iff _).mp newsSorted.2.1)


/-! ## No path twice -/

theorem mem_paths_of_mem_onlyIn {files other : Files Label} {path : List Label}
    (member : path ∈ (onlyIn files other).map Prod.fst) :
    path ∈ files.map Prod.fst ∧ path ∉ other.map Prod.fst := by
  obtain ⟨file, fileMember, rfl⟩ := List.mem_map.mp member
  simp only [onlyIn, List.mem_filter, decide_eq_true_eq] at fileMember
  exact ⟨List.mem_map_of_mem _ fileMember.1, fileMember.2⟩

theorem mem_paths_of_mem_changedIn (checksum : File → UInt64) {newFiles oldFiles : Files Label}
    {path : List Label} (member : path ∈ (changedIn checksum newFiles oldFiles).map Prod.fst) :
    path ∈ newFiles.map Prod.fst ∧ path ∈ oldFiles.map Prod.fst := by
  obtain ⟨file, fileMember, rfl⟩ := List.mem_map.mp member
  simp only [changedIn, List.mem_filter] at fileMember
  obtain ⟨newMember, found⟩ := fileMember
  refine ⟨List.mem_map_of_mem _ newMember, ?_⟩
  split at found
  · rename_i oldFile equal
    exact List.mem_map.mpr ⟨oldFile, List.mem_of_find?_eq_some equal,
      by simpa using List.find?_some equal⟩
  · cases found

theorem treeDiffOf_paths_nodup (checksum : File → UInt64) (parent : Path Label)
    {oldFiles newFiles : Files Label} (oldNodup : (oldFiles.map Prod.fst).Nodup)
    (newNodup : (newFiles.map Prod.fst).Nodup) :
    ((treeDiffOf checksum parent oldFiles newFiles).created.map (·.path) ++
      (treeDiffOf checksum parent oldFiles newFiles).deleted.map (·.path) ++
      (treeDiffOf checksum parent oldFiles newFiles).modified.map (·.path)).Nodup := by
  have paths : (treeDiffOf checksum parent oldFiles newFiles).created.map (·.path) ++
      (treeDiffOf checksum parent oldFiles newFiles).deleted.map (·.path) ++
      (treeDiffOf checksum parent oldFiles newFiles).modified.map (·.path) =
      ((onlyIn newFiles oldFiles).map Prod.fst ++ (onlyIn oldFiles newFiles).map Prod.fst ++
        (changedIn checksum newFiles oldFiles).map Prod.fst).map parent.append := by
    simp [treeDiffOf, Function.comp_def]
  rw [paths]
  refine List.Nodup.map parent.append_injective (List.nodup_append.mpr ⟨?_, ?_, ?_⟩)
  · refine List.nodup_append.mpr ⟨newNodup.sublist ((List.filter_sublist _).map _),
      oldNodup.sublist ((List.filter_sublist _).map _), ?_⟩
    exact List.disjoint_left.mpr fun _ created deleted =>
      (mem_paths_of_mem_onlyIn created).2 (mem_paths_of_mem_onlyIn deleted).1
  · exact newNodup.sublist ((List.filter_sublist _).map _)
  · refine List.disjoint_left.mpr fun _ member changed => ?_
    rcases List.mem_append.mp member with created | deleted
    · exact (mem_paths_of_mem_onlyIn created).2 (mem_paths_of_mem_changedIn checksum changed).2
    · exact (mem_paths_of_mem_onlyIn deleted).2 (mem_paths_of_mem_changedIn checksum changed).1

/-! ## `Diff::diff` -/

mutual
/-- The two cursors move in step over equal entry lists, and equal files are unchanged. -/
theorem mergeJoin_self (checksum : File → UInt64) :
    ∀ (parent : Path Label) (entries : List (DirectoryContents Label)),
      Diff.mergeJoin checksum parent entries entries = Diff.new
  | _, [] => by rw [Diff.mergeJoin]
  | parent, .file name file :: rest => by
      simp only [Diff.mergeJoin]
      rw [compare_eq_iff_eq.mpr rfl]
      simp [mergeJoin_self checksum parent rest, fileChanged]
  | parent, .directory dir :: rest => by
      simp only [Diff.mergeJoin]
      rw [compare_eq_iff_eq.mpr rfl]
      simp only [mergeJoin_self_directory checksum parent dir, mergeJoin_self checksum parent rest,
        Diff.append_new]

theorem mergeJoin_self_directory (checksum : File → UInt64) :
    ∀ (parent : Path Label) (dir : Directory Label),
      Diff.mergeJoin checksum (parent.push dir.current) dir.contents dir.contents = Diff.new
  | _, .mk _ contents => mergeJoin_self checksum _ contents
end

theorem Diff.diff_self (checksum : File → UInt64) (dir : Directory Label) :
    Diff.diff checksum dir dir = Diff.new := by
  simp [Diff.diff, Diff.collectDiff, Diff.collectDiffEntries_eq, mergeJoin_self]

theorem diff_eq_treeDiff (checksum : File → UInt64) (old new : Directory Label)
    (oldSorted : old.Sorted) (newSorted : new.Sorted) :
    Diff.diff checksum old new = treeDiff checksum old new ∧
    ((Diff.diff checksum old new).created.map (·.path) ++
      (Diff.diff checksum old new).deleted.map (·.path) ++
      (Diff.diff checksum old new).modified.map (·.path)).Nodup ∧
    ∀ dir : Directory Label, Diff.diff checksum dir dir = Diff.new := by
  have correct : Diff.diff checksum old new = treeDiff checksum old new := by
    rw [Diff.diff, Diff.collectDiff, Diff.collectDiffEntries_eq, Diff.new_append,
      mergeJoin_eq_treeDiffOf checksum _ _ _ ((Directory.sorted_iff old).mp oldSorted)
        ((Directory.sorted_iff new).mp newSorted), treeDiff, Directory.files_eq, Directory.files_eq]
  exact ⟨correct, correct ▸ treeDiffOf_paths_nodup checksum _ (old.nodup_paths oldSorted)
    (new.nodup_paths newSorted), Diff.diff_self checksum⟩

/-- The spec's scenario: `A/x` and `z` against a file `A` and a larger `z`. -/
theorem diff_eq_treeDiff_scenario :
    scenarioOld.Sorted ∧ scenarioNew.Sorted ∧
      Diff.diff (fun _ => 0) scenarioOld scenarioNew =
        treeDiff (fun _ => 0) scenarioOld scenarioNew :=
  ⟨by decide, by decide, (diff_eq_treeDiff _ _ _ (by decide) (by decide)).1⟩

/-! ## The tree diff counts files, never lines

The tree diff compares files by size and checksum only: every record it makes carries an
empty plain diff, so its stats count changed files and no inserted or deleted line. -/

/-- Every created, deleted and modified record of `diff` carries an empty plain diff. -/
def Diff.HasEmptyContents (diff : Diff Label) : Prop :=
  (∀ file ∈ diff.created, file.diff = .plain default) ∧
  (∀ file ∈ diff.deleted, file.diff = .plain default) ∧
  ∀ file ∈ diff.modified, file.diff = .plain default

omit [LinearOrder Label] in
theorem createdRecords_empty (parent : Path Label) (entry : DirectoryContents Label) :
    ∀ file ∈ createdRecords parent entry, file.diff = .plain default := by
  simp only [createdRecords, List.mem_map]
  rintro _ ⟨_, _, rfl⟩
  rfl

omit [LinearOrder Label] in
theorem deletedRecords_empty (parent : Path Label) (entry : DirectoryContents Label) :
    ∀ file ∈ deletedRecords parent entry, file.diff = .plain default := by
  simp only [deletedRecords, List.mem_map]
  rintro _ ⟨_, _, rfl⟩
  rfl

namespace Diff.HasEmptyContents

omit [LinearOrder Label] in
theorem new : (Diff.new : Diff Label).HasEmptyContents := by
  simp [Diff.HasEmptyContents, Diff.new]

omit [LinearOrder Label] in
theorem append {first second : Diff Label} (firstEmpty : first.HasEmptyContents)
    (secondEmpty : second.HasEmptyContents) : (first.append second).HasEmptyContents := by
  obtain ⟨created, deleted, modified⟩ := firstEmpty
  obtain ⟨created', deleted', modified'⟩ := secondEmpty
  simp only [Diff.HasEmptyContents, Diff.append, List.mem_append]
  exact ⟨fun file => Or.rec (created file) (created' file),
    fun file => Or.rec (deleted file) (deleted' file),
    fun file => Or.rec (modified file) (modified' file)⟩

omit [LinearOrder Label] in
theorem ofCreated (parent : Path Label) (entry : DirectoryContents Label) :
    (Diff.ofCreated (createdRecords parent entry)).HasEmptyContents :=
  ⟨createdRecords_empty parent entry, by simp [Diff.ofCreated, Diff.new],
    by simp [Diff.ofCreated, Diff.new]⟩

omit [LinearOrder Label] in
theorem ofDeleted (parent : Path Label) (entry : DirectoryContents Label) :
    (Diff.ofDeleted (deletedRecords parent entry)).HasEmptyContents :=
  ⟨by simp [Diff.ofDeleted, Diff.new], deletedRecords_empty parent entry,
    by simp [Diff.ofDeleted, Diff.new]⟩

end Diff.HasEmptyContents

theorem mergeJoin_hasEmptyContents (checksum : File → UInt64) (parent : Path Label)
    (olds news : List (DirectoryContents Label)) :
    (Diff.mergeJoin checksum parent olds news).HasEmptyContents := by
  induction parent, olds, news using @Diff.mergeJoin.induct Label _ checksum with
  | case1 parent =>
      rw [Diff.mergeJoin]
      exact .new
  | case2 parent oldEntry olds induction =>
      rw [Diff.mergeJoin]
      exact (Diff.HasEmptyContents.ofDeleted parent oldEntry).append induction
  | case3 parent newEntry news induction =>
      rw [Diff.mergeJoin]
      exact (Diff.HasEmptyContents.ofCreated parent newEntry).append induction
  | case4 parent oldEntry olds newEntry news greater induction =>
      rw [Diff.mergeJoin_of_gt checksum greater]
      exact (Diff.HasEmptyContents.ofDeleted parent oldEntry).append induction
  | case5 parent oldEntry olds newEntry news less induction =>
      rw [Diff.mergeJoin_of_lt checksum less]
      exact (Diff.HasEmptyContents.ofCreated parent newEntry).append induction
  | case6 parent oldEntry olds newEntry news equal inner induction =>
      cases newEntry <;> cases oldEntry <;> simp only [Diff.mergeJoin, equal] <;>
        refine .append ?_ induction
      · split
        · simp [Diff.HasEmptyContents, Diff.new]
        · exact .new
      · exact ⟨by simp, deletedRecords_empty parent _, by simp [Diff.new]⟩
      · exact ⟨createdRecords_empty parent _, by simp, by simp [Diff.new]⟩
      · exact inner

omit [LinearOrder Label] in
/-- Files with empty plain diffs add nothing to either counter. -/
theorem sums_eq_zero_of_empty {files : List α} {fileDiff : α → FileDiff}
    (empty : ∀ file ∈ files, fileDiff file = .plain default) :
    (files.map (fileDiff · |>.additions)).sum = 0 ∧
      (files.map (fileDiff · |>.deletions)).sum = 0 := by
  simp only [List.sum_eq_zero_iff, List.mem_map]
  constructor <;> rintro _ ⟨file, member, rfl⟩ <;> rw [empty file member] <;> rfl

omit [LinearOrder Label] in
theorem Diff.stats_of_hasEmptyContents {diff : Diff Label} (empty : diff.HasEmptyContents) :
    diff.stats =
      ⟨diff.modified.length + diff.created.length + diff.deleted.length, 0, 0⟩ := by
  obtain ⟨created, deleted, modified⟩ := empty
  simp [Diff.stats, foldl_countFile, (sums_eq_zero_of_empty created).1,
    (sums_eq_zero_of_empty modified).1, (sums_eq_zero_of_empty modified).2,
    (sums_eq_zero_of_empty deleted).2]

/-- `Diff::diff` of any two snapshots, sorted or not, gives every created, deleted and
modified record an empty plain diff, so its stats count every record as a changed file and
no inserted or deleted line. -/
theorem diff_stats_eq (checksum : File → UInt64) (old new : Directory Label) :
    (Diff.diff checksum old new).HasEmptyContents ∧
    (Diff.diff checksum old new).stats =
      { filesChanged := (Diff.diff checksum old new).modified.length +
          (Diff.diff checksum old new).created.length + (Diff.diff checksum old new).deleted.length,
        insertions := 0, deletions := 0 } := by
  have empty : (Diff.diff checksum old new).HasEmptyContents := by
    rw [Diff.diff, Diff.collectDiff, Diff.collectDiffEntries_eq, Diff.new_append]
    exact mergeJoin_hasEmptyContents checksum _ _ _
  exact ⟨empty, Diff.stats_of_hasEmptyContents empty⟩

end RadicleSurf
