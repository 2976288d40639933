import MotionFirmware.Drivers.PrintedLines
import MotionFirmware.Rtos.TelemetryLines

/-!
# The lines on the console

Every call of `telemetry.c` prints a line, but for the time at the start of the line of a record.
Only the line of a record starts with a bracket, so that a reader finds the records among the other
lines, each with its time and its text.
-/

namespace MotionFirmware

/-! ### Reading -/

/-- The time and the text in a line that starts as the line of a record. -/
def entryOf (line : List UInt8) : Option (ℕ × List UInt8) :=
  if line.head? = some (ascii '[') then
    some (decimal (line.tail.takeWhile digit), (line.tail.dropWhile digit).drop 2)
  else none

/-- The records that a reader finds in the bytes on the console. -/
def entries (bytes : List UInt8) : List (ℕ × List UInt8) :=
  (Lines.cut newline bytes).filterMap entryOf

/-- The line of a record. -/
def recordLine (timestampMs : UInt32) (text : List UInt8) : List UInt8 :=
  literal "[" ++ padded true timestampMs.toNat ++ literal "] " ++ text

/-- The reader finds the time and the text. -/
lemma entryOf_recordLine (timestampMs : UInt32) (text : List UInt8) :
    entryOf (recordLine timestampMs text) = some (timestampMs.toNat, text) := by
  have hdigits : ∀ c ∈ padded true timestampMs.toNat, digit c = true :=
    fun c hc => digit_of_mem_leftpad hc
  have hvalue : decimal (padded true timestampMs.toNat) = timestampMs.toNat :=
    decimal_leftpad 6 timestampMs.toNat
  have htail : (recordLine timestampMs text).tail =
      padded true timestampMs.toNat ++ (literal "] " ++ text) := by
    simp [recordLine, literal]
  have hbracket : literal "] " ++ text = ascii ']' :: ascii ' ' :: text := rfl
  have hend : digit (ascii ']') = false := by decide
  have htake : (padded true timestampMs.toNat ++ (literal "] " ++ text)).takeWhile digit =
      padded true timestampMs.toNat := by
    rw [List.takeWhile_append_of_pos hdigits, hbracket, List.takeWhile_cons_of_neg (by simp [hend]),
      List.append_nil]
  have hdrop : (padded true timestampMs.toNat ++ (literal "] " ++ text)).dropWhile digit =
      literal "] " ++ text := by
    rw [List.dropWhile_append_of_pos hdigits, hbracket, List.dropWhile_cons_of_neg (by simp [hend])]
  unfold entryOf
  rw [if_pos (by simp [recordLine, literal]), htail, htake, hdrop, hvalue, hbracket]
  rfl

/-- A line of a record has no line feed. -/
lemma newline_notMem_recordLine (timestampMs : UInt32) {body : List UInt8}
    (hbody : newline ∉ body) : newline ∉ recordLine timestampMs body := by
  have hdigits : newline ∉ padded true timestampMs.toNat :=
    foreign_newline.notMem_leftpad 6 timestampMs.toNat
  have hopen : newline ∉ literal "[" := by decide
  have hclose : newline ∉ literal "] " := by decide
  simp only [recordLine, List.mem_append, not_or]
  exact ⟨⟨⟨hopen, hdigits⟩, hclose⟩, hbody⟩

/-! ### The names -/

lemma newline_notMem_applicationStateName (state : Option AppState) :
    newline ∉ (cString (applicationStateName state)).bytes := by
  rcases state with - | state
  · decide
  · cases state <;> decide

lemma newline_notMem_faultName (code : Option FaultCode) :
    newline ∉ (cString (faultName code)).bytes := by
  rcases code with - | code
  · decide
  · cases code <;> decide

lemma newline_notMem_homingResultName (result : Option HomingResult) :
    newline ∉ (cString (homingResultName result)).bytes := by
  rcases result with - | result
  · decide
  · cases result <;> decide

lemma newline_notMem_motionResultName (result : Option MotionResult) :
    newline ∉ (cString (motionResultName result)).bytes := by
  rcases result with - | result
  · decide
  · cases result <;> decide

lemma newline_notMem_commandName (type : Option CommandType) :
    newline ∉ (cString (commandName type)).bytes := by
  rcases type with - | type
  · decide
  · cases type <;> decide

lemma newline_notMem_commandParseError (result : Option CommandParseResult) :
    newline ∉ (cString (commandParseError result)).bytes := by
  rcases result with - | result
  · decide
  · cases result <;> decide

/-! ### Lines -/

section Calls

variable [DoubleRounding] {p : Print} {ps : List Print}

/-- A call of a line that fits hands exactly this line to the driver. -/
lemma Print.IsLine.printed (hline : p.IsLine) (hfits : p.Fits) (buffer : ℕ → UInt8)
    (rest : Stream' VaArg) :
    ∃ body, newline ∉ body ∧ uartPrint buffer rest p = some (body ++ [newline]) ∧
      Renders p.format.bytes (slots rest p.args) (body ++ [newline]) true := by
  obtain ⟨line, hrenders, hprint, -, hcount⟩ := hfits.complete buffer rest
  have hone : line.count newline = 1 :=
    (hcount newline foreign_newline (by decide) hline.args).trans hline.count
  obtain ⟨format, hformat⟩ := List.getLast?_eq_some_iff.mp hline.last
  have hlast : line.getLast? = some newline := by
    rw [hformat] at hrenders
    exact hrenders.getLast (by decide)
  obtain ⟨body, hbody, rfl⟩ := Lines.eq_line_of_count hone hlast
  exact ⟨body, hbody, hprint, hrenders⟩

omit [DoubleRounding] in
/-- A call of a line, from its format and its arguments. -/
lemma isLine_of_format {format : CString} {args : List PrintArg}
    (hformat : format.bytes.count newline = 1 ∧ format.bytes.getLast? = some newline)
    (hargs : ∀ arg ∈ args, newline ∉ arg.bytes) : Print.IsLine ⟨format, args⟩ :=
  ⟨hformat.1, hformat.2, hargs⟩

/-- The text of a call does not start with a bracket. -/
def Print.Unmarked (p : Print) : Prop :=
  ∀ (rest : Stream' VaArg) (text : List UInt8),
    Renders p.format.bytes (slots rest p.args) text true → text.head? ≠ some (ascii '[')

/-- A format that starts with an ordinary character. -/
lemma unmarked_of_ordinary {c : UInt8} (hhead : p.format.bytes.head? = some c)
    (hc : c ≠ ascii '%') (hmark : c ≠ ascii '[') : p.Unmarked := by
  intro rest text hrenders
  obtain ⟨format, hformat⟩ := List.head?_eq_some_iff.mp hhead
  rw [hformat] at hrenders
  obtain ⟨tail, rfl, -⟩ := hrenders.of_ordinary hc
  rw [List.head?_cons, ne_eq, Option.some.injEq]
  exact hmark

/-- A format that starts with a string. -/
lemma unmarked_of_string {s : CString} {args : List PrintArg} {c : UInt8}
    (hformat : Directive.string.spell <+: p.format.bytes) (hargs : p.args = .text s :: args)
    (hhead : s.bytes.head? = some c) (hmark : c ≠ ascii '[') : p.Unmarked := by
  intro rest text hrenders
  obtain ⟨format, hformat⟩ := hformat
  obtain ⟨tail, htail⟩ := List.head?_eq_some_iff.mp hhead
  rw [← hformat, hargs] at hrenders
  obtain ⟨first, others, hfirst, rfl, -⟩ := hrenders.of_directive
  obtain rfl : s.bytes = first := Option.some.inj hfirst
  rw [htail, List.cons_append, List.head?_cons, ne_eq, Option.some.injEq]
  exact hmark

/-- The call prints a line, and not the line of a record. -/
structure Print.Other (p : Print) : Prop where
  fits : p.Fits
  line : p.IsLine
  unmarked : p.Unmarked

end Calls

/-- What the buffer and the memory behind the arguments hold at a call. -/
structure Memory where
  buffer : Print → ℕ → UInt8
  rest : Print → Stream' VaArg

section Groups

variable [DoubleRounding] (m : Memory) {p : Print} {ps : List Print}

/-- The bytes that a call hands to `uart_write`. -/
def handed (p : Print) : List UInt8 := (uartPrint (m.buffer p) (m.rest p) p).getD []

/-- A line is handed over whole. -/
lemma handed_line (hline : p.IsLine) (hfits : p.Fits) :
    ∃ body, newline ∉ body ∧ handed m p = body ++ [newline] ∧
      Renders p.format.bytes (slots (m.rest p) p.args) (body ++ [newline]) true := by
  obtain ⟨body, hbody, hprint, hrenders⟩ := hline.printed hfits (m.buffer p) (m.rest p)
  refine ⟨body, hbody, ?_, hrenders⟩
  rw [handed, hprint, Option.getD_some]

/-- Lines among which there is no line of a record. -/
lemma handed_others (h : ∀ p ∈ ps, p.Other) :
    ∃ ls, (∀ l ∈ ls, newline ∉ l ∧ entryOf l = none) ∧
      ps.flatMap (handed m) = Lines.join newline ls := by
  induction ps with
  | nil => exact ⟨[], by simp, rfl⟩
  | cons p ps ih =>
    obtain ⟨hp, hps⟩ := List.forall_mem_cons.mp h
    obtain ⟨ls, hls, hjoin⟩ := ih hps
    obtain ⟨body, hbody, hhanded, hrenders⟩ := handed_line m hp.line hp.fits
    have hhead : body.head? ≠ some (ascii '[') := by
      intro hmark
      obtain ⟨tail, rfl⟩ := List.head?_eq_some_iff.mp hmark
      exact hp.unmarked _ _ hrenders rfl
    refine ⟨body :: ls, List.forall_mem_cons.mpr ⟨⟨hbody, if_neg hhead⟩, hls⟩, ?_⟩
    rw [List.flatMap_cons, hhanded, hjoin, Lines.join_cons, List.append_assoc,
      List.singleton_append]

omit [DoubleRounding] in
/-- The start of the line of a record fits. -/
lemma time_fits (timestampMs : UInt32) :
    Print.Fits ⟨cString "[%06lu] ", [.unsignedLong timestampMs]⟩ := by
  have hskeleton : (cString "[%06lu] ").skeleton = some (3, [.unsigned true true]) := by
    decide +kernel
  exact fits_of_skeleton hskeleton rfl (by omega)

/-- The start of the line of a record. -/
lemma handed_time (timestampMs : UInt32) :
    handed m ⟨cString "[%06lu] ", [.unsignedLong timestampMs]⟩ =
      literal "[" ++ padded true timestampMs.toNat ++ literal "] " := by
  have hformat : (cString "[%06lu] ").bytes =
      ascii '[' :: ((Directive.unsigned true true).spell ++ [ascii ']', ascii ' ']) := by
    decide +kernel
  obtain ⟨line, hrenders, hprint, -⟩ := (time_fits timestampMs).complete
    (m.buffer ⟨cString "[%06lu] ", [.unsignedLong timestampMs]⟩)
    (m.rest ⟨cString "[%06lu] ", [.unsignedLong timestampMs]⟩)
  dsimp only at hrenders
  rw [hformat] at hrenders
  obtain ⟨tail, rfl, hnumber⟩ := hrenders.of_ordinary (by decide)
  obtain ⟨digits, tail, hdigits, rfl, hbracket⟩ := hnumber.of_directive
  obtain ⟨tail, rfl, hblank⟩ := hbracket.of_ordinary (by decide)
  obtain ⟨tail, rfl, hrest⟩ := hblank.of_ordinary (by decide)
  obtain rfl := hrest.of_nil
  obtain rfl : padded true timestampMs.toNat = digits := Option.some.inj hdigits
  rw [handed, hprint]
  rfl

end Groups

/-! ### The groups of lines -/

section Lines

variable [DoubleRounding] (v : RuntimeSnapshot)

/-- A line that starts with the word for its group. -/
lemma other_of_kind {kind format : CString} {args : List PrintArg} {c : UInt8}
    (hfits : Print.Fits ⟨format, .text kind :: args⟩)
    (hformat : (format.bytes.count newline = 1 ∧ format.bytes.getLast? = some newline) ∧
      Directive.string.spell <+: format.bytes)
    (hkind : newline ∉ kind.bytes) (hhead : kind.bytes.head? = some c) (hmark : c ≠ ascii '[')
    (hargs : ∀ arg ∈ args, newline ∉ arg.bytes) : Print.Other ⟨format, .text kind :: args⟩ where
  fits := hfits
  line := isLine_of_format hformat.1 (List.forall_mem_cons.mpr ⟨hkind, hargs⟩)
  unmarked := unmarked_of_string hformat.2 rfl hhead hmark

/-- **Snapshots.**  The lines of a snapshot are not lines of records. -/
lemma emitSnapshot_other {kind : CString} {c : UInt8} (hlength : kind.bytes.length ≤ 6)
    (hkind : newline ∉ kind.bytes) (hhead : kind.bytes.head? = some c) (hmark : c ≠ ascii '[') :
    ∀ p ∈ emitSnapshot kind v, p.Other := by
  have hstate := newline_notMem_applicationStateName v.state
  have hfault := newline_notMem_faultName v.safety.activeCode
  have hhoming := newline_notMem_homingResultName v.motion.homingResult
  have hhealth : newline ∉ (cString (if v.fresh .motion && v.fresh .safety && v.fresh .comms
      then "HEALTHY" else "UNHEALTHY")).bytes := by
    split_ifs <;> decide
  unfold emitSnapshot
  simp only [List.forall_mem_cons]
  refine ⟨?_, ?_, ?_, ?_, ?_, List.forall_mem_nil _⟩
  · exact other_of_kind (motionLine_fits v hlength) (by decide +kernel) hkind hhead hmark
      (by simpa [PrintArg.bytes, flag] using hstate)
  · exact other_of_kind (safetyLine_fits v hlength) (by decide +kernel) hkind hhead hmark
      (by simpa [PrintArg.bytes, flag] using hfault)
  · exact other_of_kind (healthLine_fits v hlength) (by decide +kernel) hkind hhead hmark
      (by simpa [PrintArg.bytes, flag] using hhealth)
  · exact other_of_kind (homeLine_fits v hlength) (by decide +kernel) hkind hhead hmark
      (by simpa [PrintArg.bytes, flag] using hhoming)
  · exact other_of_kind (countersLine_fits v hlength) (by decide +kernel) hkind hhead hmark
      (by simp [PrintArg.bytes])

/-- **Help.**  Nor are the lines of `HELP`. -/
lemma helpLines_other : ∀ p ∈ helpLines, p.Other := by
  have hchecks : ∀ p ∈ helpLines, p.Fits ∧ p.args.isEmpty ∧ p.format.bytes.count newline = 1 ∧
      p.format.bytes.getLast? = some newline ∧ (p.format.bytes.head? = some (ascii 'A') ∨
        p.format.bytes.head? = some (ascii 'H')) := by
    decide +kernel
  intro p hp
  obtain ⟨hfits, hargs, hcount, hlast, hhead⟩ := hchecks p hp
  rw [List.isEmpty_iff] at hargs
  refine ⟨hfits, ⟨hcount, hlast, by simp [hargs]⟩, ?_⟩
  rcases hhead with hhead | hhead
  · exact unmarked_of_ordinary hhead (by decide) (by decide)
  · exact unmarked_of_ordinary hhead (by decide) (by decide)

/-- The text of a record has no line feed. -/
def Diagnostic.OneLine (record : Diagnostic) : Prop := newline ∉ record.text.cString.bytes

/-- **Records.**  A record is answered by a line, and after it by other lines only. -/
lemma diagnosticLines_cases {record : Diagnostic} (htext : record.OneLine) :
    ∃ p ps, diagnosticLines v record = p :: ps ∧ p.IsLine ∧ ∀ q ∈ ps, q.Other := by
  have hnone : ∀ q ∈ ([] : List Print), q.Other := List.forall_mem_nil _
  have hcommand := newline_notMem_commandName record.commandType
  have hparse := newline_notMem_commandParseError record.parseResult
  have hmotion := newline_notMem_motionResultName record.motionResult
  have hunknown : (constantLine "ERR DIAGNOSTIC_KIND\n").IsLine :=
    ⟨by decide +kernel, by decide +kernel, List.forall_mem_nil _⟩
  unfold diagnosticLines
  cases record.kind with
  | none => exact ⟨_, _, rfl, hunknown, hnone⟩
  | some kind =>
    cases kind with
    | text =>
      refine ⟨_, _, rfl, isLine_of_format (by decide +kernel) ?_, hnone⟩
      exact List.forall_mem_singleton.mpr htext
    | queued =>
      refine ⟨_, _, rfl, isLine_of_format (by decide +kernel) ?_, hnone⟩
      simpa [PrintArg.bytes] using hcommand
    | queueFull =>
      refine ⟨_, _, rfl, isLine_of_format (by decide +kernel) ?_, hnone⟩
      simpa [PrintArg.bytes] using hcommand
    | parseError =>
      refine ⟨_, _, rfl, isLine_of_format (by decide +kernel) ?_, hnone⟩
      simpa [PrintArg.bytes] using hparse
    | received =>
      dsimp only
      split_ifs
      · refine ⟨_, _, rfl, isLine_of_format (by decide +kernel) (by simp [PrintArg.bytes]), ?_⟩
        exact emitSnapshot_other v (c := ascii 'S') (by decide) (by decide) (by decide) (by decide)
      · obtain ⟨hfirst, hothers⟩ := List.forall_mem_cons.mp helpLines_other
        exact ⟨_, _, rfl, hfirst.line, hothers⟩
      · exact ⟨_, _, rfl, hunknown, hnone⟩
    | motion =>
      refine ⟨_, _, rfl, isLine_of_format (by decide +kernel) ?_, hnone⟩
      simpa [PrintArg.bytes] using And.intro hcommand hmotion

/-- The entry has the time of the record, and the first line that answers it; for a text this is the
text. -/
structure Diagnostic.Reads (record : Diagnostic) (entry : ℕ × List UInt8) : Prop where
  time : entry.1 = record.timestampMs.toNat
  line : ∃ (v : RuntimeSnapshot) (p : Print) (ps : List Print) (rest : Stream' VaArg),
    diagnosticLines v record = p :: ps ∧
      Renders p.format.bytes (slots rest p.args) (entry.2 ++ [newline]) true
  text : record.kind = some .text → entry.2 = record.text.cString.bytes

/-- The rendering of a text. -/
lemma text_of_renders {s : CString} {rest : Stream' VaArg} {body : List UInt8}
    (h : Renders (cString "%s\n").bytes (slots rest [.text s]) (body ++ [newline]) true) :
    body = s.bytes := by
  have hformat : (cString "%s\n").bytes = Directive.string.spell ++ [newline] := by decide +kernel
  rw [hformat] at h
  obtain ⟨first, tail, hfirst, hbody, hrest⟩ := h.of_directive
  obtain ⟨tail, rfl, hend⟩ := hrest.of_ordinary (by decide)
  obtain rfl := hend.of_nil
  obtain rfl : s.bytes = first := Option.some.inj hfirst
  exact List.append_cancel_right hbody

/-- **Records.**  The bytes of a record are its line and others. -/
lemma handed_record (m : Memory) {record : Diagnostic} (htext : record.OneLine) :
    ∃ body ls, newline ∉ body ∧ (∀ l ∈ ls, newline ∉ l ∧ entryOf l = none) ∧
      (platformDiagnosticEmit v record).flatMap (handed m) =
        Lines.join newline (recordLine record.timestampMs body :: ls) ∧
      record.Reads (record.timestampMs.toNat, body) := by
  obtain ⟨p, ps, hlines, hline, hothers⟩ := diagnosticLines_cases v htext
  have hfits : p.Fits := diagnosticLines_fits v record p (by simp [hlines])
  obtain ⟨body, hbody, hhanded, hrenders⟩ := handed_line m hline hfits
  obtain ⟨ls, hls, hjoin⟩ := handed_others m hothers
  refine ⟨body, ls, hbody, hls, ?_, rfl, ⟨v, p, ps, m.rest p, hlines, hrenders⟩, ?_⟩
  · unfold platformDiagnosticEmit
    rw [hlines, List.flatMap_cons, List.flatMap_cons, handed_time, hhanded, hjoin, Lines.join_cons,
      recordLine]
    simp only [List.append_assoc, List.singleton_append]
  · intro hkind
    simp only [diagnosticLines, hkind] at hlines
    obtain ⟨rfl, -⟩ := List.cons.inj hlines
    exact text_of_renders hrenders

end Lines

end MotionFirmware
