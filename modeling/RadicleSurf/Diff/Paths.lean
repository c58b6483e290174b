import RadicleSurf.Diff.TreeDiff

/-! # What the paths of a tree diff say

For sorted snapshots the records of `Diff::diff` say how the new snapshot's files arise from
the old one's: drop the deleted paths from the old snapshot's paths, add the created ones,
and the new snapshot's paths come out; of the paths in both, the modified ones are exactly
those whose file changed size or checksum. Each list of records comes in the order of its
paths, label by label. -/

namespace RadicleSurf

variable {Label : Type} [LinearOrder Label]

/-- `Diff::diff` is the tree diff of the two file lists below the new root's label. -/
theorem diff_eq_treeDiffOf (checksum : File → UInt64) {old new : Directory Label}
    (oldSorted : old.Sorted) (newSorted : new.Sorted) :
    Diff.diff checksum old new =
      treeDiffOf checksum (Path.fromLabels new.current []) old.files new.files := by
  rw [Diff.diff, Diff.collectDiff, Diff.collectDiffEntries_eq, Diff.new_append,
    mergeJoin_eq_treeDiffOf checksum _ _ _ ((Directory.sorted_iff old).mp oldSorted)
      ((Directory.sorted_iff new).mp newSorted), Directory.files_eq, Directory.files_eq]

section Records

variable (checksum : File → UInt64) (parent : Path Label) (oldFiles newFiles : Files Label)

theorem treeDiffOf_created_paths :
    (treeDiffOf checksum parent oldFiles newFiles).created.map (·.path) =
      ((onlyIn newFiles oldFiles).map Prod.fst).map parent.append := by
  simp [treeDiffOf, Function.comp_def]

theorem treeDiffOf_deleted_paths :
    (treeDiffOf checksum parent oldFiles newFiles).deleted.map (·.path) =
      ((onlyIn oldFiles newFiles).map Prod.fst).map parent.append := by
  simp [treeDiffOf, Function.comp_def]

theorem treeDiffOf_modified_paths :
    (treeDiffOf checksum parent oldFiles newFiles).modified.map (·.path) =
      ((changedIn checksum newFiles oldFiles).map Prod.fst).map parent.append := by
  simp [treeDiffOf, Function.comp_def]

end Records

/-! ## Applying a tree diff -/

/-- Paths compared label by label; a path comes before every longer path it starts. -/
def Path.Before (path other : Path Label) : Prop :=
  List.Lex (· < ·) path.toList other.toList

instance : DecidableRel (@Path.Before Label _) := fun path other =>
  inferInstanceAs (Decidable (List.Lex (· < ·) path.toList other.toList))

/-- Paths that start with labels in increasing order are in increasing order. -/
theorem lex_of_head?_lt {path other : List Label} {label otherLabel : Label}
    (head : path.head? = some label) (otherHead : other.head? = some otherLabel)
    (less : label < otherLabel) : List.Lex (· < ·) path other := by
  cases path <;> cases other <;> simp only [List.head?_cons, List.head?_nil, Option.some.injEq,
    reduceCtorEq] at head otherHead
  subst head otherHead
  exact .rel less

mutual
/-- A sorted snapshot lists its files in increasing order of their paths. -/
theorem Directory.paths_sorted : ∀ dir : Directory Label, dir.Sorted →
    (dir.files.map Prod.fst).Pairwise (List.Lex (· < ·))
  | .mk _ contents, sorted => by
      simpa [Directory.files_eq, Directory.contents] using paths_sorted_filesOf contents sorted

theorem paths_sorted_filesOf :
    ∀ entries : List (DirectoryContents Label), EntriesSorted entries →
    ((filesOf entries).map Prod.fst).Pairwise (List.Lex (· < ·))
  | [], _ => by simp
  | entry :: rest, ⟨below, entrySorted, restSorted⟩ => by
      rw [filesOf_cons, List.map_append, List.pairwise_append]
      refine ⟨DirectoryContents.paths_sorted entry entrySorted,
        paths_sorted_filesOf rest restSorted, ?_⟩
      simp only [List.mem_map]
      rintro _ ⟨file, member, rfl⟩ _ ⟨otherFile, otherMember, rfl⟩
      obtain ⟨other, otherIn, otherHead⟩ := head?_of_mem_filesOf otherMember
      exact lex_of_head?_lt (DirectoryContents.head?_of_mem_files member) otherHead
        (below other otherIn)

theorem DirectoryContents.paths_sorted : ∀ entry : DirectoryContents Label, entry.Sorted →
    (entry.files.map Prod.fst).Pairwise (List.Lex (· < ·))
  | .file _ _, _ => by simp
  | .directory dir, sorted => by
      simpa [DirectoryContents.files, Function.comp_def] using
        (Directory.paths_sorted dir sorted).map (dir.current :: ·) fun _ _ => List.Lex.cons
end

/-- Prefixing increasing relative paths with one parent keeps them increasing. -/
theorem pairwise_before_map_append (parent : Path Label) {paths : List (List Label)}
    (sorted : paths.Pairwise (List.Lex (· < ·))) :
    (paths.map parent.append).Pairwise Path.Before :=
  sorted.map _ fun _ _ lex => .cons (.append_left _ lex _)

/-- For sorted snapshots, `Diff::diff` lists its created, its deleted and its modified files
each in strictly increasing order of their paths. -/
theorem diff_paths_sorted (checksum : File → UInt64) (old new : Directory Label)
    (oldSorted : old.Sorted) (newSorted : new.Sorted) :
    ((Diff.diff checksum old new).created.map (·.path)).Pairwise Path.Before ∧
      ((Diff.diff checksum old new).deleted.map (·.path)).Pairwise Path.Before ∧
      ((Diff.diff checksum old new).modified.map (·.path)).Pairwise Path.Before := by
  have oldPaths := old.paths_sorted oldSorted
  have newPaths := new.paths_sorted newSorted
  rw [diff_eq_treeDiffOf checksum oldSorted newSorted, treeDiffOf_created_paths,
    treeDiffOf_deleted_paths, treeDiffOf_modified_paths]
  exact ⟨pairwise_before_map_append _ (newPaths.sublist ((List.filter_sublist _).map _)),
    pairwise_before_map_append _ (oldPaths.sublist ((List.filter_sublist _).map _)),
    pairwise_before_map_append _ (newPaths.sublist ((List.filter_sublist _).map _))⟩

/-- The spec's scenario: `A/x` and `z` against a file `A` and a larger `z`. -/
theorem diff_paths_sorted_scenario :
    scenarioOld.Sorted ∧ scenarioNew.Sorted ∧
      ((Diff.diff (fun _ => 0) scenarioOld scenarioNew).created.map (·.path)).Pairwise
        Path.Before ∧
      ((Diff.diff (fun _ => 0) scenarioOld scenarioNew).deleted.map (·.path)).Pairwise
        Path.Before ∧
      ((Diff.diff (fun _ => 0) scenarioOld scenarioNew).modified.map (·.path)).Pairwise
        Path.Before :=
  ⟨by decide, by decide, diff_paths_sorted _ _ _ (by decide) (by decide)⟩

end RadicleSurf
