import RadicleSurf.FileSystem

/-! # What the code reads from libgit2

The `git2` crate is outside this source. Its values are modelled as the data the
conversions read: a patch is its hunks in order (what `num_hunks`, `hunk` and
`line_in_hunk` index), a delta carries the outcome of `git2::Patch::from_diff` at its own
index, and a tree walk is the sequence of callbacks it makes. -/

namespace RadicleSurf.Git2

/-- `git2::Error`, opaque to the code. -/
structure Error where
  message : String
deriving DecidableEq, Repr, Inhabited

/-- `git2::DiffLineType`, the origin of a patch line. -/
inductive DiffLineType where
  | context
  | addition
  | deletion
  | contextEOFNL
  | addEOFNL
  | deleteEOFNL
  | fileHeader
  | hunkHeader
  | binary
deriving DecidableEq, Repr, Inhabited

/-- `git2::DiffLine`, as `Patch::line_in_hunk` returns it. -/
structure DiffLine where
  origin : DiffLineType
  oldLineno : Option UInt32
  newLineno : Option UInt32
  content : List UInt8
deriving DecidableEq, Repr, Inhabited

/-- One hunk of a patch: the bytes of `DiffHunk::header` and its lines. -/
structure DiffHunk where
  header : List UInt8
  lines : List DiffLine
deriving DecidableEq, Repr, Inhabited

/-- `git2::Patch`. -/
structure Patch where
  hunks : List DiffHunk
deriving DecidableEq, Repr, Inhabited

/-- `git2::Delta`, the status of a file in a diff. -/
inductive Delta where
  | unmodified
  | added
  | deleted
  | modified
  | renamed
  | copied
  | ignored
  | untracked
  | typechange
  | unreadable
  | conflicted
deriving DecidableEq, Repr, Inhabited

/-- `git2::DiffFile`: its path, if any, and whether it is binary. -/
structure DiffFile where
  path : Option String
  isBinary : Bool
deriving DecidableEq, Repr, Inhabited

/-- `git2::DiffDelta`. `patch` is what `git2::Patch::from_diff(git_diff, idx)` returns at
this delta's index `idx`. -/
structure DiffDelta where
  status : Delta
  oldFile : DiffFile
  newFile : DiffFile
  patch : Except Error (Option Patch)

/-- `git2::DiffStats`. -/
structure DiffStats where
  filesChanged : Nat
  insertions : Nat
  deletions : Nat
deriving DecidableEq, Repr, Inhabited

/-- `git2::Diff`: its deltas in order and the outcome of `Diff::stats`. -/
structure Diff where
  deltas : List DiffDelta
  stats : Except Error DiffStats

/-! ## Trees -/

/-- `git2::ObjectType`. -/
inductive ObjectType where
  | any
  | commit
  | tree
  | blob
  | tag
deriving DecidableEq, Repr, Inhabited

/-- `git2::Object`, as `Object::as_blob` sees it: a blob's bytes or another object. -/
inductive Object where
  | blob (content : List UInt8)
  | other (kind : ObjectType)
deriving DecidableEq, Repr, Inhabited

/-- `git2::TreeEntry`: its `kind`, the outcome of `to_object(repo)`, and `name_bytes`. -/
structure TreeEntry where
  kind : Option ObjectType
  object : Except Error Object
  nameBytes : List UInt8

/-- `git2::TreeWalkResult`. -/
inductive TreeWalkResult where
  | ok
  | skip
  | abort
deriving DecidableEq, Repr, Inhabited

/-- A tree as `Tree::walk` in pre-order sees it: the (tree path, entry) pairs it passes to
the callback, in order, and what `walk` itself returns. -/
structure TreeWalk where
  entries : List (String × TreeEntry)
  result : Except Error Unit

/-- `Tree::walk`: the callback runs on each (tree path, entry) in turn, on the state it
captures, and the walk stops after the first `Abort`. `Skip`, which would pass over the
entries below a tree, is taken as `Ok`: the entries do not record which lie below which,
and no callback modelled here returns `Skip`. -/
def walk (callback : String → TreeEntry → σ → σ × TreeWalkResult) :
    List (String × TreeEntry) → σ → σ
  | [], state => state
  | (treePath, entry) :: rest, state =>
      match callback treePath entry state with
      | (state, .abort) => state
      | (state, _) => walk callback rest state

end RadicleSurf.Git2
