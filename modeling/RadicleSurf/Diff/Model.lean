import RadicleSurf.FileSystem

/-! # The diff data model of `diff.rs`

A `Diff` is five lists of change records, built by append-only operations. -/

namespace RadicleSurf

variable {Label : Type}

/-- `diff::Line`: the bytes of one line. -/
structure Line where
  bytes : List UInt8
deriving DecidableEq, Repr

/-- `diff::LineDiff`: one line of a hunk with its line number on each side it belongs to. -/
inductive LineDiff where
  | addition (line : Line) (lineNum : UInt32)
  | deletion (line : Line) (lineNum : UInt32)
  | context (line : Line) (lineNumOld lineNumNew : UInt32)
deriving DecidableEq, Repr

structure Hunk where
  header : Line
  lines : List LineDiff
deriving DecidableEq, Repr

/-- `diff::Hunks`, the newtype `Hunks(Vec<Hunk>)`; `Hunks::default()` is empty. -/
structure Hunks where
  toList : List Hunk
deriving DecidableEq, Repr

instance : Inhabited Hunks := ⟨⟨[]⟩⟩

inductive FileDiff where
  | binary
  | plain (hunks : Hunks)
deriving DecidableEq, Repr

inductive EofNewLine where
  | oldMissing
  | newMissing
  | bothMissing
deriving DecidableEq, Repr

structure CreateFile (Label : Type) where
  path : Path Label
  diff : FileDiff
deriving DecidableEq, Repr

structure DeleteFile (Label : Type) where
  path : Path Label
  diff : FileDiff
deriving DecidableEq, Repr

structure MoveFile (Label : Type) where
  oldPath : Path Label
  newPath : Path Label
deriving DecidableEq, Repr

structure CopyFile (Label : Type) where
  oldPath : Path Label
  newPath : Path Label
deriving DecidableEq, Repr

structure ModifiedFile (Label : Type) where
  path : Path Label
  diff : FileDiff
  eof : Option EofNewLine
deriving DecidableEq, Repr

structure Stats where
  filesChanged : Nat
  insertions : Nat
  deletions : Nat
deriving DecidableEq, Repr

structure Diff (Label : Type) where
  created : List (CreateFile Label)
  deleted : List (DeleteFile Label)
  moved : List (MoveFile Label)
  copied : List (CopyFile Label)
  modified : List (ModifiedFile Label)
deriving DecidableEq, Repr

namespace Diff

def new : Diff Label := ⟨[], [], [], [], []⟩

/-! ## Builder operations

Each pushes one record onto one list (`Vec::push`). -/

def addModifiedFile (diff : Diff Label) (path : Path Label) (hunks : Hunks)
    (eof : Option EofNewLine) : Diff Label :=
  { diff with modified := diff.modified ++ [⟨path, .plain hunks, eof⟩] }

def addMovedFile (diff : Diff Label) (oldPath newPath : Path Label) : Diff Label :=
  { diff with moved := diff.moved ++ [⟨oldPath, newPath⟩] }

def addCopiedFile (diff : Diff Label) (oldPath newPath : Path Label) : Diff Label :=
  { diff with copied := diff.copied ++ [⟨oldPath, newPath⟩] }

def addModifiedBinaryFile (diff : Diff Label) (path : Path Label) : Diff Label :=
  { diff with modified := diff.modified ++ [⟨path, .binary, none⟩] }

def addCreatedFile (diff : Diff Label) (path : Path Label) (fileDiff : FileDiff) :
    Diff Label :=
  { diff with created := diff.created ++ [⟨path, fileDiff⟩] }

def addDeletedFile (diff : Diff Label) (path : Path Label) (fileDiff : FileDiff) :
    Diff Label :=
  { diff with deleted := diff.deleted ++ [⟨path, fileDiff⟩] }

/-! ## Concatenation

Not an operation of the source: the diff that the records of `more` appended to those of
`diff` make, one list at a time. The traversal's results are stated with it. -/

def append (diff more : Diff Label) : Diff Label :=
  ⟨diff.created ++ more.created, diff.deleted ++ more.deleted, diff.moved ++ more.moved,
    diff.copied ++ more.copied, diff.modified ++ more.modified⟩

@[simp] theorem append_new (diff : Diff Label) : diff.append new = diff := by
  simp [append, new]

@[simp] theorem new_append (diff : Diff Label) : new.append diff = diff := by
  simp [append, new]

theorem append_assoc (first second third : Diff Label) :
    (first.append second).append third = first.append (second.append third) := by
  simp [append]

/-- A diff whose only records are `created`. -/
def ofCreated (created : List (CreateFile Label)) : Diff Label := { new with created }

/-- A diff whose only records are `deleted`. -/
def ofDeleted (deleted : List (DeleteFile Label)) : Diff Label := { new with deleted }

theorem addCreatedFile_eq_append (diff : Diff Label) (path : Path Label) (fileDiff : FileDiff) :
    diff.addCreatedFile path fileDiff = diff.append (ofCreated [⟨path, fileDiff⟩]) := by
  simp [addCreatedFile, append, ofCreated, new]

theorem addDeletedFile_eq_append (diff : Diff Label) (path : Path Label) (fileDiff : FileDiff) :
    diff.addDeletedFile path fileDiff = diff.append (ofDeleted [⟨path, fileDiff⟩]) := by
  simp [addDeletedFile, append, ofDeleted, new]

theorem addModifiedFile_eq_append (diff : Diff Label) (path : Path Label) (hunks : Hunks)
    (eof : Option EofNewLine) :
    diff.addModifiedFile path hunks eof =
      diff.append { new with modified := [⟨path, .plain hunks, eof⟩] } := by
  simp [addModifiedFile, append, new]

end Diff

end RadicleSurf
