import Mathlib.Data.Char
import Mathlib.Data.List.Sort

/-! # Snapshots of a file tree

The `file_system` module of radicle-surf is not part of this source; the diff and the
tree walk read only the parts modelled here: `NonEmpty`, `Path` with `push` and `pop`,
`File`, and `Directory` with its `contents`. `Label` is a type parameter: the code only
compares labels, with their `Ord`, so every linearly ordered type of labels is covered. -/

namespace RadicleSurf

/-- The `nonempty` crate's `NonEmpty`: a first element and the rest. -/
structure NonEmpty (α : Type) where
  head : α
  tail : List α
deriving DecidableEq, Repr

namespace NonEmpty

def new (head : α) : NonEmpty α := ⟨head, []⟩

def toList (list : NonEmpty α) : List α := list.head :: list.tail

/-- `NonEmpty::push` appends at the end. -/
def push (list : NonEmpty α) (value : α) : NonEmpty α := ⟨list.head, list.tail ++ [value]⟩

/-- `NonEmpty::pop` removes the last element of the tail; the head is never removed. -/
def pop (list : NonEmpty α) : Option α × NonEmpty α :=
  (list.tail.getLast?, ⟨list.head, list.tail.dropLast⟩)

/-- `NonEmpty::from_vec`. -/
def fromVec : List α → Option (NonEmpty α)
  | [] => none
  | head :: tail => some ⟨head, tail⟩

/-- Every element of `extra` pushed in order. -/
def append (list : NonEmpty α) (extra : List α) : NonEmpty α := ⟨list.head, list.tail ++ extra⟩

@[simp] theorem append_nil (list : NonEmpty α) : list.append [] = list := by
  simp [append]

@[simp] theorem append_append (list : NonEmpty α) (first second : List α) :
    (list.append first).append second = list.append (first ++ second) := by
  simp [append]

@[simp] theorem push_eq_append (list : NonEmpty α) (value : α) :
    list.push value = list.append [value] :=
  rfl

@[simp] theorem pop_append_singleton (list : NonEmpty α) (value : α) :
    (list.append [value]).pop.2 = list := by
  simp [append, pop]

theorem append_injective (list : NonEmpty α) : Function.Injective list.append := by
  intro first second equal
  simpa [append] using equal

end NonEmpty

/-- `file_system::Path`, a non-empty sequence of labels. -/
abbrev Path (Label : Type) := NonEmpty Label

/-- `Path::from_labels(root, labels)`. -/
def Path.fromLabels (root : Label) (labels : List Label) : Path Label := ⟨root, labels⟩

/-- `directory::File`, as `Browser::get_tree` builds it from a blob. -/
structure File where
  contents : List UInt8
  size : Nat
deriving DecidableEq, Repr, Inhabited

mutual
/-- `file_system::Directory`: its label and the entries `Directory::contents` yields,
in that order. -/
inductive Directory (Label : Type) where
  | mk (current : Label) (contents : List (DirectoryContents Label))

/-- `file_system::DirectoryContents`: a named file or a subdirectory. -/
inductive DirectoryContents (Label : Type) where
  | file (name : Label) (file : File)
  | directory (dir : Directory Label)
end

namespace Directory

def current : Directory Label → Label
  | .mk current _ => current

def contents : Directory Label → List (DirectoryContents Label)
  | .mk _ contents => contents

theorem sizeOf_contents_lt (dir : Directory Label) : sizeOf dir.contents < sizeOf dir := by
  cases dir
  simp [contents]

end Directory

/-- `DirectoryContents::label`: a file's name or a subdirectory's label. -/
def DirectoryContents.label : DirectoryContents Label → Label
  | .file name _ => name
  | .directory dir => dir.current

/-! ## Sorted snapshots -/

section Sorted

variable [LinearOrder Label]

mutual
/-- The entries of every directory are strictly increasing by label, the input the tree
diff requires. -/
def Directory.Sorted : Directory Label → Prop
  | .mk _ contents => EntriesSorted contents

/-- Each entry's label is below the labels of the entries after it, and every
subdirectory is sorted. -/
def EntriesSorted : List (DirectoryContents Label) → Prop
  | [] => True
  | entry :: rest =>
      (∀ other ∈ rest, entry.label < other.label) ∧ entry.Sorted ∧ EntriesSorted rest

def DirectoryContents.Sorted : DirectoryContents Label → Prop
  | .file _ _ => True
  | .directory dir => dir.Sorted
end

mutual
def Directory.decideSorted : (dir : Directory Label) → Decidable dir.Sorted
  | .mk _ contents => decideEntriesSorted contents

def decideEntriesSorted :
    (entries : List (DirectoryContents Label)) → Decidable (EntriesSorted entries)
  | [] => isTrue trivial
  | entry :: rest =>
      have := entry.decideSorted
      have := decideEntriesSorted rest
      inferInstanceAs (Decidable ((∀ other ∈ rest, _) ∧ entry.Sorted ∧ EntriesSorted rest))

def DirectoryContents.decideSorted : (entry : DirectoryContents Label) → Decidable entry.Sorted
  | .file _ _ => isTrue trivial
  | .directory dir => dir.decideSorted
end

instance : DecidablePred (@Directory.Sorted Label _) := Directory.decideSorted

theorem Directory.sorted_iff (dir : Directory Label) : dir.Sorted ↔ EntriesSorted dir.contents := by
  cases dir
  simp [Directory.Sorted, Directory.contents]

example : (Directory.mk 'A' [.file 'x' ⟨[], 1⟩, .file 'z' ⟨[], 1⟩]).Sorted := by decide

end Sorted

/-! ## The files of a snapshot in pre-order -/

mutual
/-- The files under a directory in pre-order, each with its path relative to the
directory (its own label excluded). -/
def Directory.files : Directory Label → List (List Label × File)
  | .mk _ contents => filesOf contents

/-- The files under `entries`, in pre-order, with paths relative to their directory. -/
def filesOf : List (DirectoryContents Label) → List (List Label × File)
  | [] => []
  | entry :: rest => entry.files ++ filesOf rest

/-- A file is its own path; a subdirectory contributes its files below its label. -/
def DirectoryContents.files : DirectoryContents Label → List (List Label × File)
  | .file name file => [([name], file)]
  | .directory dir => dir.files.map fun (path, file) => (dir.current :: path, file)
end

@[simp] theorem DirectoryContents.files_file (name : Label) (file : File) :
    (DirectoryContents.file name file).files = [([name], file)] := by
  simp [DirectoryContents.files]

theorem Directory.files_eq (dir : Directory Label) : dir.files = filesOf dir.contents := by
  cases dir
  simp [Directory.files, Directory.contents]

@[simp] theorem filesOf_nil : filesOf ([] : List (DirectoryContents Label)) = [] := by
  simp [filesOf]

@[simp] theorem filesOf_cons (entry : DirectoryContents Label)
    (rest : List (DirectoryContents Label)) :
    filesOf (entry :: rest) = entry.files ++ filesOf rest := by
  simp [filesOf]

/-- The directory `A` holding `x` and then `b/y` has the files `x` and `b/y`. -/
example :
    (Directory.mk 'A' [.file 'x' ⟨[], 1⟩, .directory (.mk 'b' [.file 'y' ⟨[], 2⟩])]).files =
      [(['x'], ⟨[], 1⟩), (['b', 'y'], ⟨[], 2⟩)] := by decide

theorem DirectoryContents.head?_of_mem_files {entry : DirectoryContents Label}
    {file : List Label × File} (member : file ∈ entry.files) :
    file.1.head? = some entry.label := by
  cases entry with
  | file name file => simp_all [DirectoryContents.files, DirectoryContents.label]
  | directory dir =>
      simp only [DirectoryContents.files, List.mem_map] at member
      obtain ⟨_, -, rfl⟩ := member
      rfl

theorem head?_of_mem_filesOf {entries : List (DirectoryContents Label)}
    {file : List Label × File} (member : file ∈ filesOf entries) :
    ∃ entry ∈ entries, file.1.head? = some entry.label := by
  induction entries with
  | nil => simp [filesOf] at member
  | cons entry rest induction =>
      rcases List.mem_append.mp (filesOf_cons entry rest ▸ member) with member | member
      · exact ⟨entry, List.mem_cons_self _ _, DirectoryContents.head?_of_mem_files member⟩
      · obtain ⟨other, otherMember, head⟩ := induction member
        exact ⟨other, List.mem_cons_of_mem _ otherMember, head⟩

theorem Directory.ne_nil_of_mem_files {dir : Directory Label} {file : List Label × File}
    (member : file ∈ dir.files) : file.1 ≠ [] := by
  cases dir
  obtain ⟨_, -, head⟩ := head?_of_mem_filesOf member
  rintro empty
  simp [empty] at head

/-! ## The spec's scenario -/

/-- The old snapshot of the spec's scenario: a directory `A` holding a file `x` of size 1,
then a file `z` of size 10. -/
def scenarioOld : Directory Char :=
  .mk '~' [.directory (.mk 'A' [.file 'x' ⟨[], 1⟩]), .file 'z' ⟨[], 10⟩]

/-- The new snapshot of the spec's scenario: a file `A` of size 3, then a file `z` of
size 20. -/
def scenarioNew : Directory Char :=
  .mk '~' [.file 'A' ⟨[], 3⟩, .file 'z' ⟨[], 20⟩]

end RadicleSurf
