import MotionFirmware.Rtos.Telemetry

/-!
# Complete lines

Every call of `uart_print` in `telemetry.c` passes the static check of its format and arguments with
a width of at most `UART_TX_MAX_WRITE`: the names in the tables are short, a decimal number has at
most ten digits, and a real at most fourteen characters.  So no line is lost in the formatter.
-/

namespace MotionFirmware

variable {p : Print} {n m : ℕ} {ds : List Directive}

/-- The call passes the check within the largest write. -/
def Print.Fits (p : Print) : Prop := ∃ n, p.width = some n ∧ n ≤ uartTxMaxWrite

instance : Decidable p.Fits :=
  match h : p.width with
  | none => .isFalse (by simp [Print.Fits, h])
  | some n => decidable_of_iff (n ≤ uartTxMaxWrite) (by simp [Print.Fits, h])

/-- The check of a call, from the skeleton of its format. -/
lemma fits_of_skeleton (hs : p.format.skeleton = some (n, ds)) (hw : widths ds p.args = some m)
    (hle : n + m ≤ 256) : p.Fits :=
  ⟨n + m, by simp [Print.width, hs, hw], hle⟩

/-- A call that passes the check hands its whole line to the driver, with other bytes than those of
numbers from its format and its arguments only. -/
lemma Print.Fits.complete [DoubleRounding] (h : p.Fits) (buffer : ℕ → UInt8)
    (rest : Stream' VaArg) :
    ∃ line, Renders p.format.bytes (slots rest p.args) line true ∧
      uartPrint buffer rest p = some line ∧ line.length ≤ uartTxMaxWrite ∧
      ∀ c, Foreign c → c ∉ literal "%sudl06.g" → (∀ arg ∈ p.args, c ∉ arg.bytes) →
        line.count c = p.format.bytes.count c := by
  obtain ⟨n, hn, hle⟩ := h
  obtain ⟨line, hline, hlength, hcount⟩ := p.renders hn rest
  have hmax : uartTxMaxWrite = 256 := rfl
  refine ⟨line, hline, ?_, hlength.trans hle, hcount⟩
  rw [uartPrint, formatted_of_renders buffer hline (by omega), if_pos (by omega)]

/-! ### The tables of names -/

lemma length_applicationStateName (state : Option AppState) :
    (cString (applicationStateName state)).bytes.length ≤ 12 := by
  rcases state with - | state
  · decide
  · cases state <;> decide

lemma length_faultName (code : Option FaultCode) :
    (cString (faultName code)).bytes.length ≤ 23 := by
  rcases code with - | code
  · decide
  · cases code <;> decide

lemma length_homingResultName (result : Option HomingResult) :
    (cString (homingResultName result)).bytes.length ≤ 8 := by
  rcases result with - | result
  · decide
  · cases result <;> decide

lemma length_motionResultName (result : Option MotionResult) :
    (cString (motionResultName result)).bytes.length ≤ 19 := by
  rcases result with - | result
  · decide
  · cases result <;> decide

lemma length_commandName (type : Option CommandType) :
    (cString (commandName type)).bytes.length ≤ 8 := by
  rcases type with - | type
  · decide
  · cases type <;> decide

lemma length_commandParseError (result : Option CommandParseResult) :
    (cString (commandParseError result)).bytes.length ≤ 16 := by
  rcases result with - | result
  · decide
  · cases result <;> decide

/-- The text of a record ends before its last byte at the latest. -/
lemma length_diagnosticText (text : DiagnosticText) : text.cString.bytes.length ≤ 79 := by
  have hlength := text.length_eq
  have hle : text.cString.bytes.length ≤ text.bytes.length :=
    (List.takeWhile_prefix _).length_le
  have hne : text.cString.bytes ≠ text.bytes := by
    intro heq
    exact text.cString.noNul (heq ▸ text.terminated)
  have hlt : text.cString.bytes.length ≠ text.bytes.length := by
    intro heq
    exact hne ((List.takeWhile_prefix _).eq_of_length heq)
  have hcapacity : diagnosticTextCapacity = 80 := rfl
  omega

/-- A record keeps the first 79 bytes of its string. -/
lemma cString_copy (text : CString) :
    (DiagnosticText.copy text).cString.bytes = text.bytes.take (diagnosticTextCapacity - 1) := by
  have hcapacity : diagnosticTextCapacity = 80 := rfl
  have hlength := List.length_take_le (diagnosticTextCapacity - 1) text.bytes
  obtain ⟨k, hk⟩ : ∃ k, diagnosticTextCapacity -
      (text.bytes.take (diagnosticTextCapacity - 1)).length = k + 1 :=
    Nat.exists_eq_add_one.mpr (by omega)
  have hnonzero : ∀ c ∈ text.bytes.take (diagnosticTextCapacity - 1), (c != 0) = true := by
    intro c hc
    rw [bne_iff_ne]
    rintro rfl
    exact text.noNul (List.mem_of_mem_take hc)
  change List.takeWhile _ (_ ++ List.replicate _ 0) = _
  rw [hk, List.takeWhile_append_of_pos hnonzero, List.replicate_succ]
  simp

/-! ### The lines -/

section Lines

variable {kind : CString} (v : RuntimeSnapshot)

lemma motionLine_fits (hkind : kind.bytes.length ≤ 6) : (motionLine kind v).Fits := by
  have hformat : motionFormat.skeleton = some (102, [.string, .unsigned true false, .string,
      .signed true false, .signed true false, .real false, .real false,
      .unsigned false false]) := by decide +kernel
  have hname := length_applicationStateName v.state
  exact fits_of_skeleton hformat rfl (by omega)

lemma safetyLine_fits (hkind : kind.bytes.length ≤ 6) : (safetyLine kind v).Fits := by
  have hformat : safetyFormat.skeleton = some (102, [.string, .unsigned true false, .real false,
      .real false, .string, .unsigned true false, .unsigned false false, .unsigned false false,
      .unsigned false false, .unsigned false false]) := by decide +kernel
  have hname := length_faultName v.safety.activeCode
  exact fits_of_skeleton hformat rfl (by omega)

lemma healthLine_fits (hkind : kind.bytes.length ≤ 6) : (healthLine kind v).Fits := by
  have hformat : healthFormat.skeleton = some (88, [.string, .unsigned true false,
      .unsigned false false, .unsigned false false, .unsigned false false, .string,
      .unsigned true false]) := by decide +kernel
  have hname : (cString (if v.fresh .motion && v.fresh .safety && v.fresh .comms then "HEALTHY"
      else "UNHEALTHY")).bytes.length ≤ 9 := by
    split_ifs <;> decide
  exact fits_of_skeleton hformat rfl (by omega)

lemma homeLine_fits (hkind : kind.bytes.length ≤ 6) : (homeLine kind v).Fits := by
  have hformat : homeFormat.skeleton = some (74, [.string, .unsigned true false, .string,
      .unsigned false false, .unsigned true false, .unsigned true false,
      .unsigned false false]) := by decide +kernel
  have hname := length_homingResultName v.motion.homingResult
  exact fits_of_skeleton hformat rfl (by omega)

lemma countersLine_fits (hkind : kind.bytes.length ≤ 6) : (countersLine kind v).Fits := by
  have hformat : countersFormat.skeleton = some (106, [.string, .unsigned true false,
      .unsigned true false, .unsigned false false, .unsigned true false, .unsigned true false,
      .unsigned true false, .unsigned true false]) := by decide +kernel
  exact fits_of_skeleton hformat rfl (by omega)

/-- **Snapshots.**  All lines of a snapshot fit. -/
lemma emitSnapshot_fits (hkind : kind.bytes.length ≤ 6) : ∀ p ∈ emitSnapshot kind v, p.Fits := by
  unfold emitSnapshot
  simp only [List.forall_mem_cons]
  exact ⟨motionLine_fits v hkind, safetyLine_fits v hkind, healthLine_fits v hkind,
    homeLine_fits v hkind, countersLine_fits v hkind, List.forall_mem_nil _⟩

/-- **Records.**  The line of a record fits, and so do the lines of the snapshot or of the help that
it asks for. -/
lemma diagnosticLines_fits (record : Diagnostic) : ∀ p ∈ diagnosticLines v record, p.Fits := by
  have hcommand := length_commandName record.commandType
  have hline {p : Print} (h : p.Fits) : ∀ q ∈ [p], q.Fits := by
    simpa only [List.forall_mem_singleton] using h
  have hunknown : ∀ p ∈ [constantLine "ERR DIAGNOSTIC_KIND\n"], p.Fits := by decide +kernel
  unfold diagnosticLines
  cases record.kind with
  | none => exact hunknown
  | some kind =>
    cases kind with
    | text =>
      have hformat : (cString "%s\n").skeleton = some (1, [.string]) := by decide +kernel
      have htext := length_diagnosticText record.text
      exact hline (fits_of_skeleton hformat rfl (by omega))
    | queued =>
      have hformat : (cString "ACK QUEUED command=%s value=%ld\n").skeleton =
          some (27, [.string, .signed true false]) := by decide +kernel
      exact hline (fits_of_skeleton hformat rfl (by omega))
    | queueFull =>
      have hformat : (cString "ERR QUEUE_FULL command=%s\n").skeleton = some (24, [.string]) := by
        decide +kernel
      exact hline (fits_of_skeleton hformat rfl (by omega))
    | parseError =>
      have hformat : (cString "ERR %s\n").skeleton = some (5, [.string]) := by decide +kernel
      have hname := length_commandParseError record.parseResult
      exact hline (fits_of_skeleton hformat rfl (by omega))
    | received =>
      dsimp only
      split_ifs
      · have hformat : (cString "ACK STATUS snapshot_ms=%lu\n").skeleton =
            some (24, [.unsigned true false]) := by decide +kernel
        have hkind : (cString "STATUS").bytes.length ≤ 6 := by decide
        exact List.forall_mem_cons.mpr
          ⟨fits_of_skeleton hformat rfl (by omega), emitSnapshot_fits v hkind⟩
      · decide +kernel
      · exact hunknown
    | motion =>
      have hformat : (cString "MOTION command=%s value=%ld %s\n").skeleton =
          some (24, [.string, .signed true false, .string]) := by decide +kernel
      have hname := length_motionResultName record.motionResult
      exact hline (fits_of_skeleton hformat rfl (by omega))

end Lines

/-- No line is lost in the formatter.  For every snapshot and every record, whatever the buffer and
the memory behind the arguments hold: every call of `uart_print` renders its format as a whole, and
hands the complete line to the driver, which accepts lines of this length. -/
theorem telemetry_lines_complete [DoubleRounding] (snapshot : RuntimeSnapshot)
    (record : Diagnostic) :
    ∀ p ∈ platformTelemetryEmit snapshot ++ platformDiagnosticEmit snapshot record,
      ∀ (buffer : ℕ → UInt8) (rest : Stream' VaArg),
        ∃ line, Renders p.format.bytes (slots rest p.args) line true ∧
          uartPrint buffer rest p = some line ∧ line.length ≤ uartTxMaxWrite := by
  intro p hp buffer rest
  have hfits : p.Fits := by
    rcases List.mem_append.mp hp with hsnapshot | hrecord
    · exact emitSnapshot_fits snapshot (by decide) p hsnapshot
    · rcases List.mem_cons.mp hrecord with rfl | hline
      · have hformat : (cString "[%06lu] ").skeleton = some (3, [.unsigned true true]) := by
          decide +kernel
        exact fits_of_skeleton hformat rfl (by omega)
      · exact diagnosticLines_fits snapshot record p hline
  obtain ⟨line, hline, hprint, hlength, -⟩ := hfits.complete buffer rest
  exact ⟨line, hline, hprint, hlength⟩

/-- The largest number of the type `float`. -/
def fltMax : Single where
  value := .finite (2 ^ 128 - 2 ^ 104)
  range q hq _ := by
    obtain rfl := FloatValue.finite.inj hq
    constructor <;> norm_num

/-- A snapshot with the longest numbers, and a state outside of the enumeration. -/
def extremeSnapshot : RuntimeSnapshot where
  state := none
  timestampMs := 4294967295
  health _ := {}
  queueUsed := 4294967295
  queueHighWater := 4294967295
  diagnosticDrops := 4294967295
  gpio := {}
  gpioValid := false
  motion :=
    { target := Int32.minValue, position := Int32.minValue, velocity := fltMax, error := fltMax
      feedbackValid := true, completedMoves := 4294967295, homingResult := none
      homingReferenced := false, homingElapsedMs := 4294967295, homingCompleted := 4294967295 }
  safety :=
    { requestedPwm := fltMax, appliedPwm := fltMax, activeCode := some .noMotionUnderCommand
      activeTimestampMs := 4294967295, watchdogRefreshes := 4294967295
      abortedMoves := 4294967295, homeContact := false }

/-- The motion line of that snapshot is complete. -/
theorem telemetry_lines_complete_extreme :
    ∃ line, @uartPrint Binary64.rounding (fun _ => 0) sevens
        (motionLine (cString "TEL") extremeSnapshot) = some line ∧
      line.length ≤ uartTxMaxWrite := by
  obtain ⟨line, -, hprint, hlength⟩ := @telemetry_lines_complete Binary64.rounding extremeSnapshot
    (diagnosticsText 0 (cString "")) (motionLine (cString "TEL") extremeSnapshot)
    (List.mem_append_left _ List.mem_cons_self) (fun _ => 0) sevens
  exact ⟨line, hprint, hlength⟩

end MotionFirmware
