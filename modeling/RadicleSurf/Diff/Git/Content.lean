import RadicleSurf.Diff.Model
import RadicleSurf.Git2

/-! # From a libgit2 patch to hunks of classified lines

`DiffContent::try_from` in diff/git.rs classifies every line of every hunk by its line
numbers and turns the three end-of-file markers into two flags instead of lines.
`Modification`, `DiffContent`, its `Hunk` and the four-way `EofNewLine` belong to a version
of diff.rs that is not in this source and are modelled from the spec. -/

namespace RadicleSurf.Git

namespace Error

/-- `error::Modification`. -/
inductive Modification where
  | invalid
deriving DecidableEq, Repr

/-- `error::Hunk`. -/
inductive Hunk where
  | git (error : Git2.Error)
  | line (error : Modification)
deriving DecidableEq, Repr

end Error

/-- Modelled from the spec: `Modification`, the classified line of diff/git.rs, is not in
the source; it is the spec's `LineDiff`. -/
inductive Modification where
  | addition (line : Line) (lineNo : UInt32)
  | deletion (line : Line) (lineNo : UInt32)
  | context (line : Line) (lineNoOld lineNoNew : UInt32)
deriving DecidableEq, Repr

/-- Modelled from the spec: a hunk of diff/git.rs, its header and `Modification`s. -/
structure Hunk where
  header : Line
  lines : List Modification
deriving DecidableEq, Repr

/-- Modelled from the spec: the hunks of a plain file's content, in order. -/
structure Hunks where
  toList : List Hunk
deriving DecidableEq, Repr

/-- Modelled from the spec: `EofNewLine` of diff/git.rs, with `NoneMissing`. -/
inductive EofNewLine where
  | oldMissing
  | newMissing
  | bothMissing
  | noneMissing
deriving DecidableEq, Repr

/-- Modelled from the spec: `DiffContent`, a binary file or plain hunks with their
end-of-file outcome. -/
inductive DiffContent where
  | binary
  | plain (hunks : Hunks) (eof : EofNewLine)
deriving DecidableEq, Repr

/-- `TryFrom<git2::DiffLine> for Modification`. -/
def Modification.tryFrom (line : Git2.DiffLine) : Except Error.Modification Modification :=
  match line.oldLineno, line.newLineno with
  | none, some n => .ok (.addition ⟨line.content⟩ n)
  | some n, none => .ok (.deletion ⟨line.content⟩ n)
  | some l, some r => .ok (.context ⟨line.content⟩ l r)
  | none, none => .error .invalid

namespace DiffContent

/-- The loop over one hunk's lines in `DiffContent::try_from`, on the lines pushed so far
and the flags `old_missing_eof` and `new_missing_eof`. -/
def tryFromLines : List Git2.DiffLine → List Modification × Bool × Bool →
    Except Error.Hunk (List Modification × Bool × Bool)
  | [], state => pure state
  | line :: rest, (lines, oldMissingEof, newMissingEof) =>
      match line.origin with
      | .contextEOFNL => tryFromLines rest (lines, true, true)
      | .addEOFNL => tryFromLines rest (lines, true, newMissingEof)
      | .deleteEOFNL => tryFromLines rest (lines, oldMissingEof, true)
      | _ => do
          let line ← (Modification.tryFrom line).mapError .line
          tryFromLines rest (lines ++ [line], oldMissingEof, newMissingEof)

/-- The loop over the hunks in `DiffContent::try_from`. -/
def tryFromHunks : List Git2.DiffHunk → List Hunk × Bool × Bool →
    Except Error.Hunk (List Hunk × Bool × Bool)
  | [], state => pure state
  | hunk :: rest, (hunks, oldMissingEof, newMissingEof) => do
      let (lines, oldMissingEof, newMissingEof) ←
        tryFromLines hunk.lines ([], oldMissingEof, newMissingEof)
      tryFromHunks rest (hunks ++ [⟨⟨hunk.header⟩, lines⟩], oldMissingEof, newMissingEof)

/-- `TryFrom<git2::Patch> for DiffContent`. -/
def tryFrom (patch : Git2.Patch) : Except Error.Hunk DiffContent := do
  let (hunks, oldMissingEof, newMissingEof) ← tryFromHunks patch.hunks ([], false, false)
  let eof := match oldMissingEof, newMissingEof with
    | true, true => EofNewLine.bothMissing
    | true, false => .oldMissing
    | false, true => .newMissing
    | false, false => .noneMissing
  pure (.plain ⟨hunks⟩ eof)

end DiffContent

end RadicleSurf.Git

/-! ## What `DiffContent::try_from` computes -/

namespace RadicleSurf.Git2.DiffLine

/-- The three markers of a missing newline at the end of a file. -/
def isEofMarker (line : DiffLine) : Bool :=
  match line.origin with
  | .contextEOFNL | .addEOFNL | .deleteEOFNL => true
  | _ => false

/-- A line that is no marker and has no line number on either side. -/
def isInvalid (line : DiffLine) : Bool :=
  !line.isEofMarker && line.oldLineno.isNone && line.newLineno.isNone

/-- The markers that set `old_missing_eof`. -/
def marksOldMissing (line : DiffLine) : Bool :=
  match line.origin with
  | .contextEOFNL | .addEOFNL => true
  | _ => false

/-- The markers that set `new_missing_eof`. -/
def marksNewMissing (line : DiffLine) : Bool :=
  match line.origin with
  | .contextEOFNL | .deleteEOFNL => true
  | _ => false

variable {line : DiffLine}

theorem isInvalid_of_marker (marker : line.isEofMarker = true) : line.isInvalid = false := by
  simp [isInvalid, marker]

theorem isInvalid_of_not_marker (notMarker : line.isEofMarker = false) :
    line.isInvalid = (line.oldLineno.isNone && line.newLineno.isNone) := by
  simp [isInvalid, notMarker]

theorem marksOldMissing_of_not_marker (notMarker : line.isEofMarker = false) :
    line.marksOldMissing = false := by
  obtain ⟨origin, _, _, _⟩ := line
  cases origin <;> simp_all [isEofMarker, marksOldMissing]

theorem marksNewMissing_of_not_marker (notMarker : line.isEofMarker = false) :
    line.marksNewMissing = false := by
  obtain ⟨origin, _, _, _⟩ := line
  cases origin <;> simp_all [isEofMarker, marksNewMissing]

end RadicleSurf.Git2.DiffLine

namespace RadicleSurf.Git

/-- The classification table of the spec: a record with only a new line number is an
addition at it, one with only an old line number a deletion at it, one with both a context
line at both; a record with neither has no classification. -/
def classifyByLineNumbers (line : Git2.DiffLine) : Option Modification :=
  match line.oldLineno, line.newLineno with
  | none, some new => some (.addition ⟨line.content⟩ new)
  | some old, none => some (.deletion ⟨line.content⟩ old)
  | some old, some new => some (.context ⟨line.content⟩ old new)
  | none, none => none

/-- `Modification::try_from` follows the table of the spec. -/
theorem Modification.tryFrom_toOption (line : Git2.DiffLine) :
    (Modification.tryFrom line).toOption = classifyByLineNumbers line := by
  obtain ⟨_, _ | _, _ | _, _⟩ := line <;> rfl

/-- The lines of a hunk that are no marker, each classified by the table of the spec. -/
def classifiedLines (lines : List Git2.DiffLine) : List Modification :=
  (lines.filter (!·.isEofMarker)).filterMap classifyByLineNumbers

/-- The end-of-file outcome of the flags (old side missing, new side missing). -/
def eofOf : Bool → Bool → EofNewLine
  | true, true => .bothMissing
  | true, false => .oldMissing
  | false, true => .newMissing
  | false, false => .noneMissing

section Lines

variable {line : Git2.DiffLine} {rest : List Git2.DiffLine}

@[simp] theorem classifiedLines_nil : classifiedLines [] = [] := rfl

theorem classifiedLines_cons_of_marker (marker : line.isEofMarker = true) :
    classifiedLines (line :: rest) = classifiedLines rest := by
  simp [classifiedLines, marker]

theorem classifiedLines_cons_of_not_marker (notMarker : line.isEofMarker = false) :
    classifiedLines (line :: rest) =
      (Modification.tryFrom line).toOption.toList ++ classifiedLines rest := by
  rw [Modification.tryFrom_toOption]
  cases result : classifyByLineNumbers line <;>
    simp [classifiedLines, notMarker, List.filterMap_cons, result]

end Lines

namespace DiffContent

section Step

variable {line : Git2.DiffLine} {rest : List Git2.DiffLine} {pushed : List Modification}
  {oldMissingEof newMissingEof : Bool}

theorem tryFromLines_cons_of_marker (marker : line.isEofMarker = true) :
    tryFromLines (line :: rest) (pushed, oldMissingEof, newMissingEof) =
      tryFromLines rest (pushed, oldMissingEof || line.marksOldMissing,
        newMissingEof || line.marksNewMissing) := by
  obtain ⟨origin, _, _, _⟩ := line
  cases origin <;> simp_all [tryFromLines, Git2.DiffLine.isEofMarker,
    Git2.DiffLine.marksOldMissing, Git2.DiffLine.marksNewMissing]

theorem tryFromLines_cons_of_not_marker (notMarker : line.isEofMarker = false) :
    tryFromLines (line :: rest) (pushed, oldMissingEof, newMissingEof) =
      (Modification.tryFrom line).mapError .line >>= fun modification =>
        tryFromLines rest (pushed ++ [modification], oldMissingEof, newMissingEof) := by
  obtain ⟨origin, _, _, _⟩ := line
  cases origin <;> simp_all [tryFromLines, Git2.DiffLine.isEofMarker]

end Step

theorem tryFromLines_eq (lines : List Git2.DiffLine) (pushed : List Modification)
    (oldMissingEof newMissingEof : Bool) :
    tryFromLines lines (pushed, oldMissingEof, newMissingEof) =
      if lines.any (·.isInvalid) then .error (.line .invalid)
      else .ok (pushed ++ classifiedLines lines,
        oldMissingEof || lines.any (·.marksOldMissing),
        newMissingEof || lines.any (·.marksNewMissing)) := by
  induction lines generalizing pushed oldMissingEof newMissingEof with
  | nil => simp [tryFromLines]; rfl
  | cons line rest induction =>
      cases marker : line.isEofMarker
      · rw [tryFromLines_cons_of_not_marker marker, classifiedLines_cons_of_not_marker marker]
        simp only [List.any_cons, Git2.DiffLine.isInvalid_of_not_marker marker,
          Git2.DiffLine.marksOldMissing_of_not_marker marker,
          Git2.DiffLine.marksNewMissing_of_not_marker marker, Bool.false_or]
        obtain ⟨origin, _ | _, _ | _, content⟩ := line <;>
          simp [Modification.tryFrom, Except.mapError, Except.toOption, bind, Except.bind, induction]
      · rw [tryFromLines_cons_of_marker marker, classifiedLines_cons_of_marker marker, induction]
        simp [Git2.DiffLine.isInvalid_of_marker marker, Bool.or_assoc]

theorem tryFromHunks_eq (hunks : List Git2.DiffHunk) (pushed : List Hunk)
    (oldMissingEof newMissingEof : Bool) :
    tryFromHunks hunks (pushed, oldMissingEof, newMissingEof) =
      if hunks.any (·.lines.any (·.isInvalid)) then .error (.line .invalid)
      else .ok (pushed ++ hunks.map fun hunk => ⟨⟨hunk.header⟩, classifiedLines hunk.lines⟩,
        oldMissingEof || hunks.any (·.lines.any (·.marksOldMissing)),
        newMissingEof || hunks.any (·.lines.any (·.marksNewMissing))) := by
  induction hunks generalizing pushed oldMissingEof newMissingEof with
  | nil => simp [tryFromHunks]; rfl
  | cons hunk rest induction =>
      simp only [tryFromHunks, tryFromLines_eq]
      cases invalid : hunk.lines.any (·.isInvalid) <;>
        simp [invalid, bind, Except.bind, induction, Bool.or_assoc]

/-- `DiffContent::try_from` fails with `Invalid` exactly when a record that is no marker has
no line number; otherwise it keeps every hunk with its header and its records that are no
marker, classified by the spec's table, and reads the end-of-file outcome off the markers
anywhere in the patch. -/
theorem tryFrom_eq (patch : Git2.Patch) :
    DiffContent.tryFrom patch =
      if patch.hunks.any (·.lines.any (·.isInvalid)) then .error (.line .invalid)
      else .ok (.plain ⟨patch.hunks.map fun hunk => ⟨⟨hunk.header⟩,
          (hunk.lines.filter (!·.isEofMarker)).filterMap classifyByLineNumbers⟩⟩
        (eofOf (patch.hunks.any (·.lines.any (·.marksOldMissing)))
          (patch.hunks.any (·.lines.any (·.marksNewMissing))))) := by
  simp only [tryFrom, tryFromHunks_eq]
  split
  · rfl
  · cases patch.hunks.any (·.lines.any (·.marksOldMissing)) <;>
      cases patch.hunks.any (·.lines.any (·.marksNewMissing)) <;> rfl

end DiffContent

end RadicleSurf.Git

/-! ## `Hunks::try_from` of diff.rs -/

namespace RadicleSurf

/-- `TryFrom<git2::Patch> for Hunks`: every line of every hunk, in order, through
`LineDiff::try_from`, and the first failure is returned. `TryFrom<git2::DiffLine> for
LineDiff` is not in the source, so it is the parameter `lineDiffTryFrom`, its error already
converted by the `?`. -/
def Hunks.tryFrom (lineDiffTryFrom : Git2.DiffLine → Except Git.Error.Hunk LineDiff)
    (patch : Git2.Patch) : Except Git.Error.Hunk Hunks := do
  let hunks ← patch.hunks.mapM fun hunk => do
    let lines ← hunk.lines.mapM lineDiffTryFrom
    pure (⟨⟨hunk.header⟩, lines⟩ : Hunk)
  pure ⟨hunks⟩

/-- A bind into `Except` that succeeds went through a successful first step. -/
theorem bind_eq_ok {ε α β : Type} {x : Except ε α} {f : α → Except ε β} {result : β} :
    x >>= f = .ok result ↔ ∃ value, x = .ok value ∧ f value = .ok result := by
  cases x <;> simp [bind, Except.bind]

/-- A `mapM` into `Except` that succeeds relates each output to its input, in order. -/
theorem mapM_ok_map {α ε β γ : Type} {f : α → Except ε β} {p : β → γ} {q : α → γ}
    (each : ∀ a b, f a = .ok b → p b = q a) :
    ∀ {as : List α} {bs : List β}, as.mapM f = .ok bs → bs.map p = as.map q
  | [], _, ok => by cases ok; rfl
  | a :: as, _, ok => by
    obtain ⟨b, first, ok⟩ := bind_eq_ok.mp ((List.mapM_cons _).symm.trans ok)
    obtain ⟨bs, rest, ok⟩ := bind_eq_ok.mp ok
    cases ok
    simp only [List.map_cons, each a b first, mapM_ok_map each rest]

/-- `Hunks::try_from` emits one line per line record of every hunk, the end-of-file
markers included, whatever `LineDiff::try_from` does with each record. -/
theorem Hunks.tryFrom_lines_length (lineDiffTryFrom : Git2.DiffLine → Except Git.Error.Hunk LineDiff)
    {patch : Git2.Patch} {hunks : Hunks} (converted : Hunks.tryFrom lineDiffTryFrom patch = .ok hunks) :
    hunks.toList.map (·.lines.length) = patch.hunks.map (·.lines.length) := by
  obtain ⟨_, all, ok⟩ := bind_eq_ok.mp converted
  cases ok
  refine mapM_ok_map (fun hunk _ hunkOk => ?_) all
  obtain ⟨_, lines, ok⟩ := bind_eq_ok.mp hunkOk
  cases ok
  simpa only [List.length_map] using congrArg List.length
    (mapM_ok_map (p := fun _ => ()) (q := fun _ => ()) (fun _ _ _ => rfl) lines)

/-- A file `a` with no newline at its end becomes `a` with one. libgit2 reports the
deletion, then an `AddEOFNL` marker carrying the old line number, then the addition.
`DiffContent::try_from` drops the marker and records `OldMissing`; `Hunks::try_from` hands
it to `LineDiff::try_from` like any other line, so it fails or keeps three lines. -/
theorem hunks_tryFrom_keeps_eof_marker
    (lineDiffTryFrom : Git2.DiffLine → Except Git.Error.Hunk LineDiff) :
    Git.DiffContent.tryFrom ⟨[⟨[64, 64], [⟨.deletion, some 1, none, [97]⟩,
        ⟨.addEOFNL, some 1, none, [10]⟩, ⟨.addition, none, some 1, [97, 10]⟩]⟩]⟩ =
      .ok (.plain ⟨[⟨⟨[64, 64]⟩, [.deletion ⟨[97]⟩ 1, .addition ⟨[97, 10]⟩ 1]⟩]⟩ .oldMissing) ∧
    ((∃ error, Hunks.tryFrom lineDiffTryFrom ⟨[⟨[64, 64], [⟨.deletion, some 1, none, [97]⟩,
        ⟨.addEOFNL, some 1, none, [10]⟩, ⟨.addition, none, some 1, [97, 10]⟩]⟩]⟩ = .error error) ∨
      ∃ hunks, Hunks.tryFrom lineDiffTryFrom ⟨[⟨[64, 64], [⟨.deletion, some 1, none, [97]⟩,
        ⟨.addEOFNL, some 1, none, [10]⟩, ⟨.addition, none, some 1, [97, 10]⟩]⟩]⟩ = .ok hunks ∧
        hunks.toList.map (·.lines.length) = [3]) := by
  refine ⟨rfl, ?_⟩
  rcases converted : Hunks.tryFrom lineDiffTryFrom _ with error | hunks
  exacts [.inl ⟨error, rfl⟩, .inr ⟨hunks, rfl, Hunks.tryFrom_lines_length lineDiffTryFrom converted⟩]

end RadicleSurf

/-! ## Where `Hunks::try_from` and `DiffContent::try_from` agree

The two conversions of a patch differ in the end-of-file markers and in their types. To
compare them, a classified line of diff/git.rs is read as the `LineDiff` of diff.rs with the
same kind and line numbers. -/

namespace RadicleSurf.Git

/-- A `Modification` read as the `LineDiff` of the same kind and line numbers. -/
def Modification.toLineDiff : Modification → LineDiff
  | .addition line lineNo => .addition line lineNo
  | .deletion line lineNo => .deletion line lineNo
  | .context line lineNoOld lineNoNew => .context line lineNoOld lineNoNew

/-- A hunk of diff/git.rs read as a hunk of diff.rs. -/
def Hunk.toHunk (hunk : Hunk) : RadicleSurf.Hunk :=
  ⟨hunk.header, hunk.lines.map Modification.toLineDiff⟩

/-- The hunks of a content; a binary file has none. -/
def DiffContent.hunks : DiffContent → List Hunk
  | .binary => []
  | .plain hunks _ => hunks.toList

end RadicleSurf.Git

namespace RadicleSurf

section Agreement

variable {lineDiffTryFrom : Git2.DiffLine → Except Git.Error.Hunk LineDiff}

/-- The line loop of `Hunks::try_from` in closed form, on lines with no marker and a
`LineDiff::try_from` that classifies as `Modification::try_from` does. -/
theorem mapM_lineDiffTryFrom_eq
    (classifies : ∀ line, lineDiffTryFrom line =
      ((Git.Modification.tryFrom line).mapError .line).map Git.Modification.toLineDiff) :
    ∀ {lines : List Git2.DiffLine}, (∀ line ∈ lines, line.isEofMarker = false) →
      lines.mapM lineDiffTryFrom =
        if lines.any (·.isInvalid) then .error (.line .invalid)
        else .ok ((Git.classifiedLines lines).map Git.Modification.toLineDiff)
  | [], _ => rfl
  | line :: rest, noMarkers => by
    have notMarker := noMarkers line (.head _)
    rw [List.mapM_cons, classifies, mapM_lineDiffTryFrom_eq classifies
        fun line member => noMarkers line (.tail _ member),
      Git.classifiedLines_cons_of_not_marker notMarker, List.any_cons,
      Git2.DiffLine.isInvalid_of_not_marker notMarker]
    obtain ⟨origin, _ | _, _ | _, content⟩ := line <;> cases rest.any (·.isInvalid) <;>
      simp [Git.Modification.tryFrom, Except.mapError, Except.map, Except.toOption, bind,
        Except.bind, pure, Except.pure, Git.Modification.toLineDiff]

/-- The hunk loop of `Hunks::try_from` in closed form, under the same conditions. -/
theorem mapM_hunk_eq
    (classifies : ∀ line, lineDiffTryFrom line =
      ((Git.Modification.tryFrom line).mapError .line).map Git.Modification.toLineDiff) :
    ∀ {hunks : List Git2.DiffHunk},
      (∀ hunk ∈ hunks, ∀ line ∈ hunk.lines, line.isEofMarker = false) →
      hunks.mapM (fun hunk => do
          let lines ← hunk.lines.mapM lineDiffTryFrom
          pure (⟨⟨hunk.header⟩, lines⟩ : Hunk)) =
        if hunks.any (·.lines.any (·.isInvalid)) then .error (.line .invalid)
        else .ok (hunks.map fun hunk =>
          (⟨⟨hunk.header⟩, Git.classifiedLines hunk.lines⟩ : Git.Hunk).toHunk)
  | [], _ => rfl
  | hunk :: rest, noMarkers => by
    rw [List.mapM_cons, mapM_lineDiffTryFrom_eq classifies (noMarkers hunk (.head _)),
      mapM_hunk_eq classifies fun hunk member => noMarkers hunk (.tail _ member), List.any_cons]
    cases hunk.lines.any (·.isInvalid) <;> cases rest.any (·.lines.any (·.isInvalid)) <;>
      simp [bind, Except.bind, pure, Except.pure, Git.Hunk.toHunk]

end Agreement

/-- On a patch with no end-of-file marker, `Hunks::try_from` returns what
`DiffContent::try_from` returns, read in the types of diff.rs, whenever `LineDiff::try_from`
classifies a line as `Modification::try_from` does: the same error, or the same hunks,
header for header and line for line. The markers are the only place the two conversions
part. -/
theorem hunks_tryFrom_eq_of_no_eof_markers
    (lineDiffTryFrom : Git2.DiffLine → Except Git.Error.Hunk LineDiff)
    (classifies : ∀ line, lineDiffTryFrom line =
      ((Git.Modification.tryFrom line).mapError .line).map Git.Modification.toLineDiff)
    (patch : Git2.Patch)
    (noMarkers : ∀ hunk ∈ patch.hunks, ∀ line ∈ hunk.lines, line.isEofMarker = false) :
    Hunks.tryFrom lineDiffTryFrom patch =
      (Git.DiffContent.tryFrom patch).map fun content =>
        ⟨content.hunks.map Git.Hunk.toHunk⟩ := by
  rw [Hunks.tryFrom, mapM_hunk_eq classifies noMarkers, Git.DiffContent.tryFrom,
    Git.DiffContent.tryFromHunks_eq]
  split <;> simp [bind, Except.bind, pure, Except.pure, Except.map, Git.DiffContent.hunks]

/-- A hunk of a context line and an addition, through a `LineDiff::try_from` that classifies
by line numbers. -/
theorem hunks_tryFrom_eq_of_no_eof_markers_scenario :
    (∀ hunk ∈ (⟨[⟨[64], [⟨.context, some 1, some 1, [97]⟩, ⟨.addition, none, some 2, [98]⟩]⟩]⟩ :
        Git2.Patch).hunks, ∀ line ∈ hunk.lines, line.isEofMarker = false) ∧
      Hunks.tryFrom (fun line => ((Git.Modification.tryFrom line).mapError .line).map
          Git.Modification.toLineDiff)
        ⟨[⟨[64], [⟨.context, some 1, some 1, [97]⟩, ⟨.addition, none, some 2, [98]⟩]⟩]⟩ =
      (Git.DiffContent.tryFrom
        ⟨[⟨[64], [⟨.context, some 1, some 1, [97]⟩, ⟨.addition, none, some 2, [98]⟩]⟩]⟩).map
        fun content => ⟨content.hunks.map Git.Hunk.toHunk⟩ :=
  ⟨by decide, hunks_tryFrom_eq_of_no_eof_markers _ (fun _ => rfl) _ (by decide)⟩

end RadicleSurf
