import RadicleSurf.Diff.Git.Content

/-! # `TryFrom<git2::Diff> for Diff`

The conversion handles the deltas in order. The handler for a delta's status pushes one
record onto one list of the `Diff` it is given by `&mut` and may return `Err` instead. Here
a handler is an `EStateM` program over that `Diff`, so the state it leaves after an error is
part of its result. The `Diff` of diff/git.rs, with a `stats` field, `DiffContent` records
and the `insert_*` builders, is not in the source and is modelled from the spec. -/

namespace RadicleSurf.Git

/-- `error::Diff`, with the variants these functions build. -/
inductive Error.Diff where
  | deltaUnhandled (delta : Git2.Delta)
  | git (error : Git2.Error)
  | hunk (error : Error.Hunk)
  | patchUnavailable (path : String)
  | pathUnavailable
deriving DecidableEq, Repr

/-- Modelled from the spec: a created file, its path and its content. -/
structure CreateFile where
  path : String
  diff : DiffContent
deriving DecidableEq, Repr

/-- Modelled from the spec: a deleted file, its path and its content. -/
structure DeleteFile where
  path : String
  diff : DiffContent
deriving DecidableEq, Repr

/-- Modelled from the spec: a modified file, its path and its content. -/
structure ModifiedFile where
  path : String
  diff : DiffContent
deriving DecidableEq, Repr

/-- Modelled from the spec: a moved file, its old and its new path. -/
structure MoveFile where
  oldPath : String
  newPath : String
deriving DecidableEq, Repr

/-- Modelled from the spec: a copied file, its old and its new path. -/
structure CopyFile where
  oldPath : String
  newPath : String
deriving DecidableEq, Repr

/-- Modelled from the spec: the `Diff` that diff/git.rs fills, five lists and its stats. -/
structure Diff where
  created : List CreateFile
  deleted : List DeleteFile
  moved : List MoveFile
  copied : List CopyFile
  modified : List ModifiedFile
  stats : Stats
deriving DecidableEq, Repr

namespace Diff

/-- Modelled from the spec: `Diff::new`, no records and zero stats. -/
def new : Diff := ⟨[], [], [], [], [], ⟨0, 0, 0⟩⟩

/-- Modelled from the spec: `insert_added` appends one created record. -/
def insertAdded (diff : Diff) (path : String) (content : DiffContent) : Diff :=
  { diff with created := diff.created ++ [⟨path, content⟩] }

/-- Modelled from the spec: `insert_deleted` appends one deleted record. -/
def insertDeleted (diff : Diff) (path : String) (content : DiffContent) : Diff :=
  { diff with deleted := diff.deleted ++ [⟨path, content⟩] }

/-- Modelled from the spec: `insert_modified` appends one modified record. -/
def insertModified (diff : Diff) (path : String) (content : DiffContent) : Diff :=
  { diff with modified := diff.modified ++ [⟨path, content⟩] }

/-- Modelled from the spec: `insert_moved` appends one moved pair. -/
def insertMoved (diff : Diff) (oldPath newPath : String) : Diff :=
  { diff with moved := diff.moved ++ [⟨oldPath, newPath⟩] }

/-- Modelled from the spec: `insert_copied` appends one copied pair. -/
def insertCopied (diff : Diff) (oldPath newPath : String) : Diff :=
  { diff with copied := diff.copied ++ [⟨oldPath, newPath⟩] }

end Diff

/-- `From<git2::DiffStats> for Stats`. -/
def Stats.fromDiffStats (stats : Git2.DiffStats) : Stats :=
  ⟨stats.filesChanged, stats.insertions, stats.deletions⟩

/-! ## The handlers -/

/-- `?` on a `Result` whose error converts into `error::Diff`. -/
def liftResult (convert : ε → Error.Diff) : Except ε α → EStateM Error.Diff Diff α
  | .ok value => pure value
  | .error error => throw (convert error)

/-- `.path().ok_or(error::Diff::PathUnavailable)?`. -/
def pathOrUnavailable : Option String → EStateM Error.Diff Diff String
  | some path => pure path
  | none => throw .pathUnavailable

/-- The body shared by `created`, `deleted` and `modified`: the path of one side of the
delta, its patch converted by `DiffContent::try_from`, or `Binary` for a binary file
without a patch, inserted as one record. -/
def insertContent (diffFile : Git2.DiffFile) (patch : Except Git2.Error (Option Git2.Patch))
    (insert : Diff → String → DiffContent → Diff) : EStateM Error.Diff Diff Unit := do
  let path ← pathOrUnavailable diffFile.path
  let patch ← liftResult .git patch
  match patch with
  | some patch =>
      let content ← liftResult .hunk (DiffContent.tryFrom patch)
      modify fun diff => insert diff path content
  | none =>
      if diffFile.isBinary then modify fun diff => insert diff path .binary
      else throw (.patchUnavailable path)

def created (delta : Git2.DiffDelta) : EStateM Error.Diff Diff Unit :=
  insertContent delta.newFile delta.patch Diff.insertAdded

def deleted (delta : Git2.DiffDelta) : EStateM Error.Diff Diff Unit :=
  insertContent delta.oldFile delta.patch Diff.insertDeleted

def modified (delta : Git2.DiffDelta) : EStateM Error.Diff Diff Unit :=
  insertContent delta.newFile delta.patch Diff.insertModified

/-- The body shared by `renamed` and `copied`: both paths, inserted as one pair. -/
def insertPaths (delta : Git2.DiffDelta) (insert : Diff → String → String → Diff) :
    EStateM Error.Diff Diff Unit := do
  let old ← pathOrUnavailable delta.oldFile.path
  let new ← pathOrUnavailable delta.newFile.path
  modify fun diff => insert diff old new

def renamed (delta : Git2.DiffDelta) : EStateM Error.Diff Diff Unit :=
  insertPaths delta Diff.insertMoved

def copied (delta : Git2.DiffDelta) : EStateM Error.Diff Diff Unit :=
  insertPaths delta Diff.insertCopied

/-! ## The conversion -/

/-- The body of the loop of `TryFrom<git2::Diff>`: the handler for the delta's status. -/
def handleDelta (delta : Git2.DiffDelta) : EStateM Error.Diff Diff Unit :=
  match delta.status with
  | .added => created delta
  | .deleted => deleted delta
  | .modified => modified delta
  | .renamed => renamed delta
  | .copied => copied delta
  | status => throw (.deltaUnhandled status)

def handleDeltas : List Git2.DiffDelta → EStateM Error.Diff Diff Unit
  | [] => pure ()
  | delta :: rest => do
      handleDelta delta
      handleDeltas rest

/-- What `TryFrom` returns of a run: the diff on success; on an error the diff is dropped. -/
def resultOf : EStateM.Result Error.Diff Diff Unit → Except Error.Diff Diff
  | .ok () diff => .ok diff
  | .error error _ => .error error

/-- `TryFrom<git2::Diff> for Diff`. -/
def Diff.tryFrom (gitDiff : Git2.Diff) : Except Error.Diff Diff :=
  resultOf <| EStateM.run (s := Diff.new) do
    let stats ← liftResult .git gitDiff.stats
    modify fun diff => { diff with stats := Stats.fromDiffStats stats }
    handleDeltas gitDiff.deltas

/-! ## Running a handler -/

theorem run_bind_ok {x : EStateM ε σ α} {f : α → EStateM ε σ β} {s s' : σ} {value : α}
    (run : x.run s = .ok value s') : (x >>= f).run s = (f value).run s' := by
  show EStateM.bind x f s = _
  simp only [EStateM.bind, show x s = _ from run]
  rfl

theorem run_bind_error {x : EStateM ε σ α} {f : α → EStateM ε σ β} {s s' : σ} {error : ε}
    (run : x.run s = .error error s') : (x >>= f).run s = .error error s' := by
  show EStateM.bind x f s = _
  simp only [EStateM.bind, show x s = _ from run]

/-- The path and content that `created`, `deleted` or `modified` records for one side of a
delta, or the error it returns. -/
def contentOf (diffFile : Git2.DiffFile) (patch : Except Git2.Error (Option Git2.Patch)) :
    Except Error.Diff (String × DiffContent) :=
  match diffFile.path, patch with
  | none, _ => .error .pathUnavailable
  | some _, .error error => .error (.git error)
  | some path, .ok (some patch) => ((DiffContent.tryFrom patch).mapError .hunk).map (path, ·)
  | some path, .ok none =>
      if diffFile.isBinary then .ok (path, .binary) else .error (.patchUnavailable path)

/-- The old and new paths that `renamed` or `copied` records, or `PathUnavailable`. -/
def pathsOf (delta : Git2.DiffDelta) : Except Error.Diff (String × String) :=
  match delta.oldFile.path, delta.newFile.path with
  | some old, some new => .ok (old, new)
  | _, _ => .error .pathUnavailable

/-- A content handler leaves the diff as it was on an error, and otherwise inserts the
path and content of `contentOf`. -/
theorem insertContent_run (diffFile : Git2.DiffFile) (patch : Except Git2.Error (Option Git2.Patch))
    (insert : Diff → String → DiffContent → Diff) (diff : Diff) :
    (insertContent diffFile patch insert).run diff =
      match contentOf diffFile patch with
      | .ok (path, content) => .ok () (insert diff path content)
      | .error error => .error error diff := by
  rcases diffFile with ⟨_ | path, isBinary⟩
  · rfl
  rcases patch with error | _ | patch
  · rfl
  · cases isBinary <;> rfl
  · simp only [contentOf]
    show (liftResult .hunk (DiffContent.tryFrom patch) >>= _).run diff = _
    cases DiffContent.tryFrom patch <;> rfl

theorem insertPaths_run (delta : Git2.DiffDelta) (insert : Diff → String → String → Diff)
    (diff : Diff) :
    (insertPaths delta insert).run diff =
      match pathsOf delta with
      | .ok (old, new) => .ok () (insert diff old new)
      | .error error => .error error diff := by
  rcases delta with ⟨_, ⟨_ | old, _⟩, ⟨_ | new, _⟩, _⟩ <;> rfl

theorem insertContent_atomic (diffFile : Git2.DiffFile)
    (patch : Except Git2.Error (Option Git2.Patch)) (insert : Diff → String → DiffContent → Diff)
    (diff : Diff) :
    (∃ error, (insertContent diffFile patch insert).run diff = .error error diff) ∨
      ∃ path content, (insertContent diffFile patch insert).run diff =
        .ok () (insert diff path content) := by
  rw [insertContent_run]
  rcases contentOf diffFile patch with error | ⟨path, content⟩
  exacts [.inl ⟨error, rfl⟩, .inr ⟨path, content, rfl⟩]

theorem insertPaths_atomic (delta : Git2.DiffDelta) (insert : Diff → String → String → Diff)
    (diff : Diff) :
    (∃ error, (insertPaths delta insert).run diff = .error error diff) ∨
      ∃ old new, (insertPaths delta insert).run diff = .ok () (insert diff old new) := by
  rw [insertPaths_run]
  rcases pathsOf delta with error | ⟨old, new⟩
  exacts [.inl ⟨error, rfl⟩, .inr ⟨old, new, rfl⟩]

/-- Each handler either fails and leaves the diff exactly as it was, or succeeds and
appends one record to its own list, leaving the other lists and the stats as they were. -/
theorem handlers_atomic (diff : Diff) (delta : Git2.DiffDelta) :
    ((∃ error, (created delta).run diff = .error error diff) ∨
      ∃ file, (created delta).run diff = .ok () { diff with created := diff.created ++ [file] }) ∧
    ((∃ error, (deleted delta).run diff = .error error diff) ∨
      ∃ file, (deleted delta).run diff = .ok () { diff with deleted := diff.deleted ++ [file] }) ∧
    ((∃ error, (modified delta).run diff = .error error diff) ∨
      ∃ file, (modified delta).run diff =
        .ok () { diff with modified := diff.modified ++ [file] }) ∧
    ((∃ error, (renamed delta).run diff = .error error diff) ∨
      ∃ file, (renamed delta).run diff = .ok () { diff with moved := diff.moved ++ [file] }) ∧
    ((∃ error, (copied delta).run diff = .error error diff) ∨
      ∃ file, (copied delta).run diff = .ok () { diff with copied := diff.copied ++ [file] }) := by
  refine ⟨?created, ?deleted, ?modified, ?renamed, ?copied⟩
  case created =>
    rcases insertContent_atomic delta.newFile delta.patch Diff.insertAdded diff with
      failed | ⟨path, content, inserted⟩
    exacts [.inl failed, .inr ⟨⟨path, content⟩, inserted⟩]
  case deleted =>
    rcases insertContent_atomic delta.oldFile delta.patch Diff.insertDeleted diff with
      failed | ⟨path, content, inserted⟩
    exacts [.inl failed, .inr ⟨⟨path, content⟩, inserted⟩]
  case modified =>
    rcases insertContent_atomic delta.newFile delta.patch Diff.insertModified diff with
      failed | ⟨path, content, inserted⟩
    exacts [.inl failed, .inr ⟨⟨path, content⟩, inserted⟩]
  case renamed =>
    rcases insertPaths_atomic delta Diff.insertMoved diff with failed | ⟨old, new, inserted⟩
    exacts [.inl failed, .inr ⟨⟨old, new⟩, inserted⟩]
  case copied =>
    rcases insertPaths_atomic delta Diff.insertCopied diff with failed | ⟨old, new, inserted⟩
    exacts [.inl failed, .inr ⟨⟨old, new⟩, inserted⟩]

/-! ## The whole conversion -/

/-- One record of a `Diff`, tagged with its list. -/
inductive Record where
  | created (file : CreateFile)
  | deleted (file : DeleteFile)
  | moved (file : MoveFile)
  | copied (file : CopyFile)
  | modified (file : ModifiedFile)
deriving DecidableEq, Repr

namespace Record

def created? : Record → Option CreateFile
  | created file => some file
  | _ => none

def deleted? : Record → Option DeleteFile
  | deleted file => some file
  | _ => none

def moved? : Record → Option MoveFile
  | moved file => some file
  | _ => none

def copied? : Record → Option CopyFile
  | copied file => some file
  | _ => none

def modified? : Record → Option ModifiedFile
  | modified file => some file
  | _ => none

end Record

/-- The record a delta contributes by its status, or the error its handler returns. -/
def recordOf (delta : Git2.DiffDelta) : Except Error.Diff Record :=
  match delta.status with
  | .added => (contentOf delta.newFile delta.patch).map fun (path, diff) => .created ⟨path, diff⟩
  | .deleted => (contentOf delta.oldFile delta.patch).map fun (path, diff) => .deleted ⟨path, diff⟩
  | .modified =>
      (contentOf delta.newFile delta.patch).map fun (path, diff) => .modified ⟨path, diff⟩
  | .renamed => (pathsOf delta).map fun (old, new) => .moved ⟨old, new⟩
  | .copied => (pathsOf delta).map fun (old, new) => .copied ⟨old, new⟩
  | status => .error (.deltaUnhandled status)

namespace Diff

def appendRecord (diff : Diff) : Record → Diff
  | .created file => { diff with created := diff.created ++ [file] }
  | .deleted file => { diff with deleted := diff.deleted ++ [file] }
  | .moved file => { diff with moved := diff.moved ++ [file] }
  | .copied file => { diff with copied := diff.copied ++ [file] }
  | .modified file => { diff with modified := diff.modified ++ [file] }

def appendRecords (diff : Diff) : List Record → Diff
  | [] => diff
  | record :: rest => (diff.appendRecord record).appendRecords rest

theorem appendRecords_eq (diff : Diff) (records : List Record) :
    diff.appendRecords records =
      { created := diff.created ++ records.filterMap Record.created?
        deleted := diff.deleted ++ records.filterMap Record.deleted?
        moved := diff.moved ++ records.filterMap Record.moved?
        copied := diff.copied ++ records.filterMap Record.copied?
        modified := diff.modified ++ records.filterMap Record.modified?
        stats := diff.stats } := by
  induction records generalizing diff with
  | nil => simp [appendRecords]
  | cons record rest induction =>
    cases record <;> simp [appendRecords, appendRecord, induction, Record.created?,
      Record.deleted?, Record.moved?, Record.copied?, Record.modified?]

end Diff

theorem handleDelta_run (delta : Git2.DiffDelta) (diff : Diff) :
    (handleDelta delta).run diff =
      match recordOf delta with
      | .ok record => .ok () (diff.appendRecord record)
      | .error error => .error error diff := by
  unfold handleDelta recordOf
  cases delta.status
  case added =>
    rw [created, insertContent_run]
    rcases contentOf delta.newFile delta.patch with _ | ⟨_, _⟩ <;> rfl
  case deleted =>
    rw [deleted, insertContent_run]
    rcases contentOf delta.oldFile delta.patch with _ | ⟨_, _⟩ <;> rfl
  case modified =>
    rw [modified, insertContent_run]
    rcases contentOf delta.newFile delta.patch with _ | ⟨_, _⟩ <;> rfl
  case renamed =>
    rw [renamed, insertPaths_run]
    rcases pathsOf delta with _ | ⟨_, _⟩ <;> rfl
  case copied =>
    rw [copied, insertPaths_run]
    rcases pathsOf delta with _ | ⟨_, _⟩ <;> rfl
  all_goals rfl

/-- The loop stops at the first delta whose record fails; otherwise it appends every
record in delta order. -/
theorem handleDeltas_run (deltas : List Git2.DiffDelta) (diff : Diff) :
    resultOf ((handleDeltas deltas).run diff) = (deltas.mapM recordOf).map diff.appendRecords := by
  induction deltas generalizing diff with
  | nil => rfl
  | cons delta rest induction =>
    have step := handleDelta_run delta diff
    rcases record : recordOf delta with error | record
    · rw [record] at step
      rw [handleDeltas, run_bind_error step, List.mapM_cons, record]
      rfl
    · rw [record] at step
      rw [handleDeltas, run_bind_ok step, induction, List.mapM_cons, record]
      cases rest.mapM recordOf <;> rfl

/-- `TryFrom<git2::Diff>` fails with the error of `stats()` if it fails, and then with the
error of the first delta whose record fails; otherwise each list holds the records of its
kind in delta order. -/
theorem Diff.tryFrom_eq_mapM_recordOf (gitDiff : Git2.Diff) :
    Diff.tryFrom gitDiff =
      (gitDiff.stats.mapError .git).bind fun stats =>
        (gitDiff.deltas.mapM recordOf).map fun records =>
          { created := records.filterMap Record.created?
            deleted := records.filterMap Record.deleted?
            moved := records.filterMap Record.moved?
            copied := records.filterMap Record.copied?
            modified := records.filterMap Record.modified?
            stats := Stats.fromDiffStats stats } := by
  rcases gitDiff with ⟨deltas, error | stats⟩
  · rfl
  · show resultOf ((handleDeltas deltas).run { Diff.new with stats := Stats.fromDiffStats stats }) = _
    rw [handleDeltas_run]
    cases deltas.mapM recordOf
    · rfl
    · exact congrArg Except.ok (Diff.appendRecords_eq _ _)

/-- A file renamed from `a` to `b` whose blob cannot be read. `renamed` reads only the two
paths and records the move, but libgit2's `stats()` reads the blobs of every delta and
fails, so the conversion fails with that error. -/
theorem Diff.tryFrom_stats_error :
    (renamed ⟨.renamed, ⟨some "a", false⟩, ⟨some "b", false⟩,
        .error ⟨"object not found"⟩⟩).run Diff.new = .ok () (Diff.new.insertMoved "a" "b") ∧
      Diff.tryFrom ⟨[⟨.renamed, ⟨some "a", false⟩, ⟨some "b", false⟩,
          .error ⟨"object not found"⟩⟩], .error ⟨"object not found"⟩⟩ =
        .error (.git ⟨"object not found"⟩) :=
  ⟨rfl, rfl⟩

end RadicleSurf.Git
