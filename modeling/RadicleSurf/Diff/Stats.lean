import RadicleSurf.Diff.Model
import Mathlib

/-! # `Diff::stats`

Three loops over the modified, created and deleted files count the lines of their plain
hunks on two counters; moved and copied files are never visited. -/

namespace RadicleSurf

variable {Label : Type}

namespace LineDiff

def isAddition : LineDiff → Bool
  | .addition .. => true
  | _ => false

def isDeletion : LineDiff → Bool
  | .deletion .. => true
  | _ => false

end LineDiff

/-- The body of the innermost loops of `Diff::stats` on the counters
`(deletions, insertions)`. The loop over modified files counts both kinds of line, the one
over created files only additions, the one over deleted files only deletions; context
lines are never counted. -/
def countLine (countsAdditions countsDeletions : Bool) : Nat × Nat → LineDiff → Nat × Nat
  | (deletions, insertions), .addition .. =>
      (deletions, if countsAdditions then insertions + 1 else insertions)
  | (deletions, insertions), .deletion .. =>
      (if countsDeletions then deletions + 1 else deletions, insertions)
  | counts, .context .. => counts

/-- One file of a loop of `Diff::stats`: `if let FileDiff::Plain { hunks } = file.diff`,
every line of every hunk in turn. -/
def countFile (countsAdditions countsDeletions : Bool) (counts : Nat × Nat) :
    FileDiff → Nat × Nat
  | .binary => counts
  | .plain hunks => hunks.toList.foldl
      (fun counts hunk => hunk.lines.foldl (countLine countsAdditions countsDeletions) counts)
      counts

def Diff.stats (diff : Diff Label) : Stats :=
  let counts := diff.modified.foldl (fun counts file => countFile true true counts file.diff)
    (0, 0)
  let counts := diff.created.foldl (fun counts file => countFile true false counts file.diff)
    counts
  let (deletions, insertions) := diff.deleted.foldl
    (fun counts file => countFile false true counts file.diff) counts
  { filesChanged := diff.modified.length + diff.created.length + diff.deleted.length,
    insertions, deletions }

/-! ## What the counters count -/

namespace FileDiff

/-- The addition lines over all hunks of a plain file diff; a binary one has none. -/
def additions : FileDiff → Nat
  | .binary => 0
  | .plain hunks => (hunks.toList.map fun hunk => hunk.lines.countP LineDiff.isAddition).sum

/-- The deletion lines over all hunks of a plain file diff; a binary one has none. -/
def deletions : FileDiff → Nat
  | .binary => 0
  | .plain hunks => (hunks.toList.map fun hunk => hunk.lines.countP LineDiff.isDeletion).sum

end FileDiff

section Counting

variable (countsAdditions countsDeletions : Bool)

theorem foldl_countLine (lines : List LineDiff) (counts : Nat × Nat) :
    lines.foldl (countLine countsAdditions countsDeletions) counts =
      (counts.1 + if countsDeletions then lines.countP LineDiff.isDeletion else 0,
        counts.2 + if countsAdditions then lines.countP LineDiff.isAddition else 0) := by
  induction lines generalizing counts with
  | nil => simp
  | cons line lines induction =>
      obtain ⟨deletions, insertions⟩ := counts
      cases line <;> cases countsAdditions <;> cases countsDeletions <;>
        simp [countLine, induction, LineDiff.isAddition, LineDiff.isDeletion] <;> omega

theorem countFile_eq (counts : Nat × Nat) (fileDiff : FileDiff) :
    countFile countsAdditions countsDeletions counts fileDiff =
      (counts.1 + if countsDeletions then fileDiff.deletions else 0,
        counts.2 + if countsAdditions then fileDiff.additions else 0) := by
  cases fileDiff with
  | binary => simp [countFile, FileDiff.additions, FileDiff.deletions]
  | plain hunks =>
      obtain ⟨hunks⟩ := hunks
      simp only [countFile, FileDiff.additions, FileDiff.deletions]
      induction hunks generalizing counts with
      | nil => simp
      | cons hunk hunks induction =>
          rw [List.foldl_cons, induction, foldl_countLine]
          cases countsAdditions <;> cases countsDeletions <;> simp [Nat.add_assoc]

theorem foldl_countFile (files : List α) (fileDiff : α → FileDiff) (counts : Nat × Nat) :
    files.foldl (fun counts file => countFile countsAdditions countsDeletions counts
        (fileDiff file)) counts =
      (counts.1 + if countsDeletions then (files.map (fileDiff · |>.deletions)).sum else 0,
        counts.2 + if countsAdditions then (files.map (fileDiff · |>.additions)).sum else 0) := by
  induction files generalizing counts with
  | nil => simp
  | cons file files induction =>
      rw [List.foldl_cons, induction, countFile_eq]
      cases countsAdditions <;> cases countsDeletions <;> simp [Nat.add_assoc]

end Counting

theorem stats_eq (diff : Diff Label) :
    diff.stats =
      { filesChanged := diff.modified.length + diff.created.length + diff.deleted.length,
        insertions := (diff.modified.map (·.diff.additions)).sum +
          (diff.created.map (·.diff.additions)).sum,
        deletions := (diff.modified.map (·.diff.deletions)).sum +
          (diff.deleted.map (·.diff.deletions)).sum } := by
  simp [Diff.stats, foldl_countFile]

end RadicleSurf
