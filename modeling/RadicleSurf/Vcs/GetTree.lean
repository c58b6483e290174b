import Mathlib.Data.List.AList
import RadicleSurf.Git2

/-! # Reading a commit's tree: `Browser::get_tree`

`get_tree` walks the tree of a commit in pre-order and groups its blobs by the path of the
tree each sits in. The callback keeps the first `TreeWalkError::Git` and aborts the walk;
entries that are trees or submodules are passed over. vcs/git/error.rs and `file_system`
are not in this source: `Error` has the variants `get_tree` builds, each `?` of
`tree_entry_to_file_and_path` wraps its error in `TreeWalkError::Git`, and the parsers it
calls are the fields of `Externals`. -/

namespace RadicleSurf.Vcs

/-- `vcs::git::Error`, with the variants `get_tree` builds; `FsError` is
`file_system::Error`. -/
inductive Error (FsError : Type) where
  | fileSystem (error : FsError)
  | git (error : Git2.Error)
  | utf8Error
deriving DecidableEq, Repr

/-- `TreeWalkError`, with the three variants the callback of `get_tree` matches on. -/
inductive TreeWalkError (FsError : Type) where
  | notBlob
  | commit
  | git (error : Error FsError)
deriving DecidableEq, Repr

/-- The functions of `file_system` and `std` that `tree_entry_to_file_and_path` calls. -/
structure Externals (Label FsError : Type) where
  /-- `Path::root()`. -/
  pathRoot : Path Label
  /-- `Path::try_from(&str)`. -/
  pathTryFrom : String → Except FsError (Path Label)
  /-- `str::from_utf8`, its `Utf8Error` left out. -/
  fromUtf8 : List UInt8 → Option String
  /-- `Label::try_from(&str)`. -/
  labelTryFrom : String → Except FsError Label

/-- The `HashMap` that `get_tree` builds, from the path of a tree to the names and files of
its blobs; the keys of an `AList` are unique, as those of a map are. -/
abbrev FileMap (Label : Type) [DecidableEq Label] :=
  AList fun _ : Path Label => NonEmpty (Label × File)

variable {Label FsError : Type} [DecidableEq Label] (externals : Externals Label FsError)

/-- `Browser::tree_entry_to_file_and_path`. -/
def treeEntryToFileAndPath (treePath : String) (entry : Git2.TreeEntry) :
    Except (TreeWalkError FsError) (Path Label × Label × File) := do
  let path ← (if treePath.isEmpty then .ok externals.pathRoot
    else externals.pathTryFrom treePath).mapError (.git ∘ .fileSystem)
  if entry.kind = some .commit then throw .commit
  let object ← entry.object.mapError (.git ∘ .git)
  let content ← match object with
    | .blob content => pure content
    | .other _ => throw .notBlob
  let name ← match externals.fromUtf8 entry.nameBytes with
    | some name => pure name
    | none => throw (.git .utf8Error)
  let name ← (externals.labelTryFrom name).mapError (.git ∘ .fileSystem)
  pure (path, name, ⟨content, content.length⟩)

/-- `Browser::update_file_map`: push the blob onto the list of its path, or start one. -/
def updateFileMap (path : Path Label) (name : Label) (file : File) (files : FileMap Label) :
    FileMap Label :=
  files.insert path <|
    match files.lookup path with
    | some entries => entries.push (name, file)
    | none => NonEmpty.new (name, file)

/-- The callback `get_tree` gives `Tree::walk`, on the map or error it captures by `&mut`. -/
def walkCallback (treePath : String) (entry : Git2.TreeEntry)
    (filePathsOrError : Except (Error FsError) (FileMap Label)) :
    Except (Error FsError) (FileMap Label) × Git2.TreeWalkResult :=
  match treeEntryToFileAndPath externals treePath entry with
  | .ok (path, name, file) =>
      (filePathsOrError.map fun files => updateFileMap path name file files, .ok)
  | .error .notBlob => (filePathsOrError, .ok)
  | .error .commit => (filePathsOrError, .ok)
  | .error (.git error) => (.error error, .abort)

/-- `Browser::get_tree`; `tree` is what `find_commit` and `peel_to_tree` give. -/
def getTree (tree : Except Git2.Error Git2.TreeWalk) : Except (Error FsError) (FileMap Label) := do
  let tree ← tree.mapError .git
  let filePathsOrError := Git2.walk (walkCallback externals) tree.entries (.ok ∅)
  tree.result.mapError .git
  filePathsOrError

/-! ## What the walk makes of each entry

The claim describes each entry by its kind: a blob contributes its name and a file of its
contents and their size under its parent path, which is the root for the empty tree path;
trees and submodules are passed over; and the `TreeWalkError::Git` failures abort the walk.
`entryOutcome` says so, and `treeEntryToFileAndPath_eq` that the code decides each entry that
way. -/

/-- What the walk makes of one entry. -/
inductive EntryOutcome (Label FsError : Type) where
  | blob (path : Path Label) (name : Label) (file : File)
  | passedOver
  | aborts (error : Error FsError)

/-- The outcome of an entry under the tree path `treePath`. Its parent path is the root for
the empty tree path and the parsed tree path otherwise; a path that does not parse aborts. A
submodule is passed over, and so is an object that is no blob; an object that cannot be
read aborts. A blob whose name is UTF-8 and parses as a label is a file of the blob's
contents and their length; any other blob aborts. -/
def entryOutcome (treePath : String) (entry : Git2.TreeEntry) : EntryOutcome Label FsError :=
  match (if treePath.isEmpty then .ok externals.pathRoot else externals.pathTryFrom treePath) with
  | .error error => .aborts (.fileSystem error)
  | .ok path =>
      if entry.kind = some .commit then .passedOver
      else match entry.object with
        | .error error => .aborts (.git error)
        | .ok (.other _) => .passedOver
        | .ok (.blob contents) =>
            match externals.fromUtf8 entry.nameBytes with
            | none => .aborts .utf8Error
            | some name =>
                match externals.labelTryFrom name with
                | .error error => .aborts (.fileSystem error)
                | .ok name => .blob path name ⟨contents, contents.length⟩

omit [DecidableEq Label] in
/-- `tree_entry_to_file_and_path` decides every entry as `entryOutcome` does: `Ok` for a
blob, `Commit` for a passed-over submodule and `NotBlob` for any other passed-over entry,
and `Git` for an entry that aborts. -/
theorem treeEntryToFileAndPath_eq (treePath : String) (entry : Git2.TreeEntry) :
    treeEntryToFileAndPath externals treePath entry =
      match entryOutcome externals treePath entry with
      | .blob path name file => .ok (path, name, file)
      | .passedOver => .error (if entry.kind = some .commit then .commit else .notBlob)
      | .aborts error => .error (.git error) := by
  unfold treeEntryToFileAndPath entryOutcome
  simp only [bind, Except.bind, Except.mapError, pure, Except.pure, throw, throwThe,
    MonadExceptOf.throw]
  cases (if treePath.isEmpty then .ok externals.pathRoot else externals.pathTryFrom treePath) with
  | error error => rfl
  | ok path =>
      obtain ⟨kind, object, nameBytes⟩ := entry
      by_cases submodule : kind = some .commit
      · simp [submodule]
      rcases object with error | contents | other
      · simp [submodule]
      · cases externals.fromUtf8 nameBytes with
        | none => simp [submodule]
        | some name => cases label : externals.labelTryFrom name <;> simp [submodule, label]
      · simp [submodule]

/-- The callback of `get_tree` on one entry: a blob is added to the captured map, a
passed-over entry changes nothing, and an aborting entry replaces the map by its error. -/
theorem walkCallback_eq (treePath : String) (entry : Git2.TreeEntry)
    (filePathsOrError : Except (Error FsError) (FileMap Label)) :
    walkCallback externals treePath entry filePathsOrError =
      match entryOutcome externals treePath entry with
      | .blob path name file =>
          (filePathsOrError.map fun files => updateFileMap path name file files, .ok)
      | .passedOver => (filePathsOrError, .ok)
      | .aborts error => (.error error, .abort) := by
  rw [walkCallback, treeEntryToFileAndPath_eq]
  rcases entryOutcome externals treePath entry with _ | _ | _
  case passedOver =>
    by_cases submodule : entry.kind = some .commit
    · rw [if_pos submodule]
    · rw [if_neg submodule]
  all_goals rfl

/-! ## What the walk collects -/

/-- The error of the first entry that aborts the walk. -/
def firstGitError (entries : List (String × Git2.TreeEntry)) : Option (Error FsError) :=
  entries.findSome? fun (treePath, entry) =>
    match entryOutcome externals treePath entry with
    | .aborts error => some error
    | _ => none

/-- The parent path, name and file of every blob entry, in walk order. -/
def blobsOf (entries : List (String × Git2.TreeEntry)) : List (Path Label × Label × File) :=
  entries.filterMap fun (treePath, entry) =>
    match entryOutcome externals treePath entry with
    | .blob path name file => some (path, name, file)
    | _ => none

/-- The names and files of the blob entries under `path`, in walk order. -/
def blobsUnder (path : Path Label) (entries : List (String × Git2.TreeEntry)) :
    List (Label × File) :=
  ((blobsOf externals entries).filter (·.1 = path)).map (·.2)

/-- `list` with the elements of `extra` pushed, or `extra` as a new list. -/
def appendAll : Option (NonEmpty α) → List α → Option (NonEmpty α)
  | some list, extra => some (list.append extra)
  | none, extra => NonEmpty.fromVec extra

@[simp] theorem appendAll_nil (list : Option (NonEmpty α)) : appendAll list [] = list := by
  cases list <;> simp [appendAll, NonEmpty.fromVec]

theorem lookup_updateFileMap (path : Path Label) (name : Label) (file : File)
    (files : FileMap Label) (key : Path Label) :
    (updateFileMap path name file files).lookup key =
      if key = path then appendAll (files.lookup path) [(name, file)] else files.lookup key := by
  by_cases same : key = path
  · subst same
    rw [updateFileMap, AList.lookup_insert, if_pos rfl]
    cases files.lookup key <;> rfl
  · rw [updateFileMap, AList.lookup_insert_ne same, if_neg same]

/-- Folding `update_file_map` over blobs appends, under each path, the blobs of that path. -/
theorem lookup_foldl_updateFileMap (blobs : List (Path Label × Label × File))
    (files : FileMap Label) (key : Path Label) :
    (blobs.foldl (fun files blob => updateFileMap blob.1 blob.2.1 blob.2.2 files) files).lookup
        key =
      appendAll (files.lookup key) ((blobs.filter (·.1 = key)).map (·.2)) := by
  induction blobs generalizing files with
  | nil => simp
  | cons blob rest induction =>
    rw [List.foldl_cons, induction, lookup_updateFileMap]
    by_cases same : key = blob.1
    · subst same
      cases files.lookup blob.1 <;> simp [appendAll, NonEmpty.fromVec, NonEmpty.append]
    · simp [same, Ne.symm same]

section Step

variable (treePath : String) (entry : Git2.TreeEntry) (rest : List (String × Git2.TreeEntry))

omit [DecidableEq Label] in
theorem firstGitError_cons :
    firstGitError externals ((treePath, entry) :: rest) =
      match entryOutcome externals treePath entry with
      | .aborts error => some error
      | _ => firstGitError externals rest := by
  simp only [firstGitError, List.findSome?]
  cases entryOutcome externals treePath entry <;> rfl

omit [DecidableEq Label] in
theorem blobsOf_cons :
    blobsOf externals ((treePath, entry) :: rest) =
      match entryOutcome externals treePath entry with
      | .blob path name file => (path, name, file) :: blobsOf externals rest
      | _ => blobsOf externals rest := by
  simp only [blobsOf, List.filterMap]
  cases entryOutcome externals treePath entry <;> rfl

end Step

/-- The walk over any entries, from any captured state: the first `Git` error replaces the
state, and otherwise every blob is added to the map in walk order. -/
theorem walk_walkCallback (entries : List (String × Git2.TreeEntry))
    (filePathsOrError : Except (Error FsError) (FileMap Label)) :
    Git2.walk (walkCallback externals) entries filePathsOrError =
      match firstGitError externals entries with
      | some error => .error error
      | none => filePathsOrError.map fun files =>
          (blobsOf externals entries).foldl
            (fun files blob => updateFileMap blob.1 blob.2.1 blob.2.2 files) files := by
  induction entries generalizing filePathsOrError with
  | nil => cases filePathsOrError <;> rfl
  | cons head rest induction =>
    obtain ⟨treePath, entry⟩ := head
    simp only [Git2.walk, walkCallback_eq, firstGitError_cons, blobsOf_cons]
    rcases entryOutcome externals treePath entry with ⟨path, name, file⟩ | _ | error <;>
      dsimp only
    case blob =>
      rw [induction]
      cases firstGitError externals rest <;> cases filePathsOrError <;> rfl
    case passedOver => exact induction filePathsOrError

/-- `get_tree` on a walk that returns `Ok`: the error of the first entry that aborts, or else
the map whose entry under each parent path, the root for the empty tree path, lists the name
and file (the blob's contents and size) of every blob entry under it, in walk order, and
which has no other keys. Trees and submodules contribute nothing and do not abort. -/
theorem getTree_eq_blobsUnder (entries : List (String × Git2.TreeEntry)) :
    (getTree externals (.ok ⟨entries, .ok ()⟩)).map (fun files path => files.lookup path) =
      match firstGitError externals entries with
      | some error => .error error
      | none => .ok fun path => NonEmpty.fromVec (blobsUnder externals path entries) := by
  show (Git2.walk (walkCallback externals) entries (.ok ∅)).map _ = _
  rw [walk_walkCallback]
  cases firstGitError externals entries
  · exact congrArg Except.ok (funext fun path => by
      beta_reduce
      rw [lookup_foldl_updateFileMap, AList.lookup_empty]
      rfl)
  · rfl

end RadicleSurf.Vcs
