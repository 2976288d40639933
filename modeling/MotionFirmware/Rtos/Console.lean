import MotionFirmware.Rtos.ConsoleLines
import MotionFirmware.Rtos.Delivery

/-!
# The console

What Telemetry hands to the UART in a run: the lines of every record that it takes from the queue,
and a group of lines for the snapshot of every cycle.  The texts of the tasks have no line feeds, so
that the console consists of whole lines, and its entries are the records in their order.
-/

namespace MotionFirmware

/-! ### The texts of the tasks -/

/-- The text of a report has no line feed. -/
def Report.OneLine : Report → Prop
  | .text message => newline ∉ message.bytes
  | _ => True

/-- The record of such a report. -/
lemma Report.OneLine.record {report : Report} (h : report.OneLine) (now : UInt32) :
    (report.record now).OneLine := by
  have hcopy : ∀ text : CString, newline ∉ text.bytes →
      newline ∉ (DiagnosticText.copy text).cString.bytes := by
    intro text htext hmem
    rw [cString_copy] at hmem
    exact htext (List.mem_of_mem_take hmem)
  cases report with
  | text message => exact hcopy message h
  | command kind subject result => exact hcopy (cString "") (by decide)
  | motion subject result => exact hcopy (cString "") (by decide)

/-- Texts without line feeds, as reports. -/
lemma oneLine_texts {texts : List CString} (h : ∀ text ∈ texts, newline ∉ text.bytes) :
    ∀ report ∈ texts.map Report.text, report.OneLine := by
  intro report hmem
  obtain ⟨text, htext, rfl⟩ := List.mem_map.mp hmem
  exact h text htext

lemma newline_notMem_transition (old new : AppState) :
    ∀ text ∈ transition old new, newline ∉ text.bytes := by
  have hlatch : ∀ text ∈ latchTransition old new, newline ∉ text.bytes := by
    unfold latchTransition
    split_ifs <;> decide +kernel
  have hmotion : ∀ text ∈ motionTransition old new, newline ∉ text.bytes := by
    unfold motionTransition
    split_ifs <;> decide +kernel
  intro text hmem
  rcases List.mem_append.mp hmem with h | h
  · exact hlatch text h
  · exact hmotion text h

lemma newline_notMem_applicationReport (state : AppState) :
    ∀ text ∈ applicationReport state, newline ∉ text.bytes := by
  cases state <;> decide +kernel

lemma newline_notMem_stateReports (w v : World) :
    ∀ text ∈ stateReports w v, newline ∉ text.bytes := by
  unfold stateReports
  split
  · exact newline_notMem_transition _ _
  · exact newline_notMem_transition _ _
  · exact newline_notMem_transition _ _
  · exact List.forall_mem_nil _

/-- **Reports.**  What the tasks report has no line feeds. -/
lemma oneLine_motionReports [Rounding] (w v : World) (received : Option MotionCommand) :
    ∀ report ∈ motionReports w v received, report.OneLine := by
  have hstates := oneLine_texts (newline_notMem_stateReports w v)
  have hcreate : newline ∉ (cString "SYSTEM state=BOOT").bytes := by decide +kernel
  have hconfigure : newline ∉ (cString "RTOS scheduler_started owner=Motion").bytes := by
    decide +kernel
  have hfailed : newline ∉ (cString "CONTROL INTERNAL fault output=zero").bytes := by
    decide +kernel
  have hcomplete : newline ∉ (cString "MOTION COMPLETE output=zero").bytes := by decide +kernel
  intro report hmem
  unfold motionReports at hmem
  split at hmem
  · obtain rfl := List.mem_singleton.mp hmem
    exact hcreate
  · split_ifs at hmem
    · obtain rfl := List.mem_singleton.mp hmem
      exact hconfigure
    · exact absurd hmem List.not_mem_nil
  · exact oneLine_texts (newline_notMem_applicationReport _) report hmem
  · exact hstates report hmem
  · unfold receiveReports at hmem
    split at hmem
    · exact absurd hmem List.not_mem_nil
    · split_ifs at hmem
      · obtain rfl := List.mem_singleton.mp hmem
        trivial
      · exact absurd hmem List.not_mem_nil
  · rcases List.mem_append.mp hmem with hstate | hresult
    · exact hstates report hstate
    · split at hresult
      · obtain rfl := List.mem_singleton.mp hresult
        trivial
      · exact absurd hresult List.not_mem_nil
  · rcases List.mem_append.mp hmem with hfirst | hlast
    · rcases List.mem_append.mp hfirst with herror | hstate
      · split_ifs at herror
        · exact absurd herror List.not_mem_nil
        · obtain rfl := List.mem_singleton.mp herror
          exact hfailed
      · exact hstates report hstate
    · split_ifs at hlast
      · obtain rfl := List.mem_singleton.mp hlast
        exact hcomplete
      · exact absurd hlast List.not_mem_nil
  · exact absurd hmem List.not_mem_nil

lemma oneLine_safetyReports (w v : World) : ∀ report ∈ safetyReports w v, report.OneLine := by
  have hfault := newline_notMem_faultName (some v.safety.faults.active.code)
  have hlatch : newline ∉ (if v.safety.state = .estop then
      cString "SAFETY ESTOP_ACTIVE applied_pwm=0"
      else cString "SAFETY FAULT applied_pwm=0").bytes := by
    split_ifs <;> decide +kernel
  unfold safetyReports
  by_cases hchange : w.safety.state ≠ v.safety.state
  · rw [if_pos hchange]
    exact List.forall_mem_cons.mpr ⟨hlatch, List.forall_mem_singleton.mpr hfault⟩
  · rw [if_neg hchange]
    exact List.forall_mem_nil _

lemma oneLine_commsReports {δ : Type} (p : Pipeline δ) :
    ∀ report ∈ commsReports p, report.OneLine := by
  have herror : newline ∉ (cString "ERR UART_RX").bytes := by decide +kernel
  unfold commsReports
  split
  · exact List.forall_mem_singleton.mpr herror
  · split
    · exact List.forall_mem_singleton.mpr trivial
    · exact List.forall_mem_singleton.mpr trivial
    · exact List.forall_mem_nil _
  · exact List.forall_mem_nil _

/-! ### Steps -/

section Steps

variable {δ ε : Type} {f g : Firmware δ} {who : Reporter}

/-- No text on the way to the console has line feeds. -/
structure Firmware.OneLine (f : Firmware δ) : Prop where
  outbox : ∀ who, ∀ report ∈ (f.outbox who).reports, report.OneLine
  queue : ∀ record ∈ f.diagnostics.queue.items, record.OneLine
  inHand : ∀ record ∈ f.telemetry.inHand, record.OneLine

namespace Firmware.OneLine

/-- A change of the other fields. -/
lemma congr (hf : f.OneLine) (hdiagnostics : g.diagnostics = f.diagnostics)
    (htelemetry : g.telemetry = f.telemetry) (houtbox : g.outbox = f.outbox) : g.OneLine where
  outbox := houtbox ▸ hf.outbox
  queue := hdiagnostics ▸ hf.queue
  inHand := htelemetry ▸ hf.inHand

/-- A task reports. -/
lemma report (hf : f.OneLine) (who : Reporter) (now : UInt32) : (f.report who now).OneLine := by
  have hkeep : ∀ other, other ≠ who →
      ∀ r ∈ ((f.report who now).outbox other).reports, r.OneLine := by
    intro other hother
    rw [report_outbox_of_ne hother]
    exact hf.outbox other
  have hself : (f.report who now).outbox who = (sendRecord now f.diagnostics (f.outbox who)).2 :=
    Function.update_self ..
  have hqueue : (f.report who now).diagnostics = (sendRecord now f.diagnostics (f.outbox who)).1 :=
    rfl
  have hold := hf.outbox who
  -- What has been sent is gone from the outbox, and is in the queue if there was space.
  have hsend : (∀ r ∈ (sendRecord now f.diagnostics (f.outbox who)).2.reports, r.OneLine) ∧
      ∀ record ∈ (sendRecord now f.diagnostics (f.outbox who)).1.queue.items, record.OneLine := by
    unfold sendRecord
    split_ifs
    · exact ⟨hold, hf.queue⟩
    · split
      next => exact ⟨hold, hf.queue⟩
      next r reports hreports =>
        rw [hreports] at hold
        obtain ⟨hr, hrest⟩ := List.forall_mem_cons.mp hold
        refine ⟨hrest, fun record hmem => ?_⟩
        dsimp only at hmem
        rw [Fifo.send_items] at hmem
        split_ifs at hmem
        · rcases List.mem_append.mp hmem with hitem | hnew
          · exact hf.queue record hitem
          · obtain rfl := List.mem_singleton.mp hnew
            exact hr.record now
        · exact hf.queue record hmem
  refine ⟨fun other => ?_, hqueue ▸ hsend.2, hf.inHand⟩
  by_cases hother : other = who
  · subst hother
    rw [hself]
    exact hsend.1
  · exact hkeep other hother

/-- Telemetry takes a record from the queue. -/
lemma telemetryStep (hf : f.OneLine) : f.telemetryStep.OneLine := by
  have houtbox := telemetryStep_outbox f
  have hnil : ∀ record ∈ ([] : List Diagnostic), record.OneLine := List.forall_mem_nil _
  refine ⟨fun who => by rw [houtbox]; exact hf.outbox who, ?_, ?_⟩
  · unfold Firmware.telemetryStep
    cases f.telemetry with
    | receive i =>
      dsimp only
      split_ifs
      · have hrest : ∀ record ∈ (diagnosticsReceive f.diagnostics).2.queue.items,
            record.OneLine :=
          fun record hmem => hf.queue record (List.mem_of_mem_tail hmem)
        split
        next heq => rwa [heq] at hrest
        next heq => rwa [heq] at hrest
      · exact hf.queue
    | _ => exact hf.queue
  · have hinHand := hf.inHand
    unfold Firmware.telemetryStep
    cases hstage : f.telemetry with
    | receive i =>
      dsimp only
      split_ifs
      · split
        next => exact hnil
        next record diagnostics heq =>
          have hhead : f.diagnostics.queue.items.head? = some record := congrArg Prod.fst heq
          refine List.forall_mem_singleton.mpr (hf.queue record ?_)
          exact List.mem_of_head? hhead
      · exact hnil
    | checkpoint =>
      dsimp only
      split_ifs <;> exact hnil
    | parked =>
      rw [hstage] at hinHand
      rw [hstage]
      exact hinHand
    | _ => exact hnil

/-- A task gets something to report. -/
lemma enqueues (hf : f.OneLine) {P : List Report → Prop} (hg : Enqueues who P f g)
    (hP : ∀ reports, P reports → ∀ report ∈ reports, report.OneLine) : g.OneLine where
  outbox other := by
    rcases hg.outbox with hsame | ⟨reports, hreports, houtbox⟩
    · rw [hsame]
      exact hf.outbox other
    rw [houtbox]
    by_cases hother : other = who
    · subst hother
      simpa [Firmware.enqueue] using hP reports hreports
    · rw [enqueue_outbox_of_ne hother]
      exact hf.outbox other
  queue := hg.diagnostics ▸ hf.queue
  inHand := hg.telemetry ▸ hf.inHand

variable [Rounding] {driver : InputDriver δ ε}

/-- **Step lemma.**  Every step keeps the texts on their lines. -/
lemma step (hf : f.OneLine) (a : FirmwareAction ε) : (firmwareStep driver a f).OneLine := by
  have hreport : ∀ {who now} {next : Firmware δ → Firmware δ}, (next f).OneLine →
      (reportOr who now next f).OneLine := by
    intro who now next hnext
    unfold reportOr
    split_ifs
    · exact hnext
    · exact hf.report who now
  cases a with
  | motion now =>
    refine hreport (hf.enqueues (enqueues_motionTaskStep f) ?_)
    rintro reports ⟨received, rfl⟩
    exact oneLine_motionReports _ _ _
  | safety now =>
    refine hreport (hf.enqueues (enqueues_safetyStep f) ?_)
    rintro reports rfl
    exact oneLine_safetyReports _ _
  | comms now =>
    refine hreport (hf.enqueues (enqueues_commsStep f) ?_)
    rintro reports rfl
    exact oneLine_commsReports _
  | telemetry => exact hf.telemetryStep
  | timeout =>
    unfold firmwareStep
    dsimp only
    split_ifs
    · exact hf.congr rfl rfl rfl
    · exact hf
  | arrive | inputReady | requestStop | setFilter => exact hf.congr rfl rfl rfl

end Firmware.OneLine

end Steps

/-! ### The console of a run -/

/-- The calls of `uart_print` in a step, with the snapshot that it takes. -/
def printsOf {δ ε : Type} (snapshot : Firmware δ → RuntimeSnapshot) (a : FirmwareAction ε)
    (f : Firmware δ) : List Print :=
  match a with
  | .telemetry =>
    match f.telemetry with
    | .emit _ record => platformDiagnosticEmit (snapshot f) record
    | .snapshot => platformTelemetryEmit (snapshot f)
    | _ => []
  | _ => []

/-- The bytes consist of whole lines, and their entries are those of the records. -/
def Transcribes [DoubleRounding] (records : List Diagnostic) (bytes : List UInt8) : Prop :=
  ∃ ls, (∀ l ∈ ls, newline ∉ l) ∧ bytes = Lines.join newline ls ∧
    List.Forall₂ Diagnostic.Reads records (ls.filterMap entryOf)

section Prints

variable [DoubleRounding] {records records' : List Diagnostic} {bytes bytes' : List UInt8}

lemma Transcribes.nil : Transcribes [] [] :=
  ⟨[], List.forall_mem_nil _, rfl, .nil⟩

lemma Transcribes.append (h : Transcribes records bytes) (h' : Transcribes records' bytes') :
    Transcribes (records ++ records') (bytes ++ bytes') := by
  obtain ⟨ls, hls, rfl, hreads⟩ := h
  obtain ⟨ls', hls', rfl, hreads'⟩ := h'
  refine ⟨ls ++ ls', ?_, (Lines.join_append).symm, ?_⟩
  · exact List.forall_mem_append.mpr ⟨hls, hls'⟩
  · rw [List.filterMap_append]
    exact List.rel_append hreads hreads'

/-- What a reader finds in a transcript. -/
lemma Transcribes.reads (h : Transcribes records bytes) :
    Lines.join newline (Lines.cut newline bytes) = bytes ∧
      List.Forall₂ Diagnostic.Reads records (entries bytes) := by
  obtain ⟨ls, hls, rfl, hreads⟩ := h
  rw [entries, Lines.cut_join hls]
  exact ⟨rfl, hreads⟩

omit [DoubleRounding] in
/-- Lines among which there is no line of a record have no entries. -/
lemma entries_others {ls : List (List UInt8)} (h : ∀ l ∈ ls, newline ∉ l ∧ entryOf l = none) :
    ls.filterMap entryOf = [] :=
  List.filterMap_eq_nil_iff.mpr fun l hl => (h l hl).2

/-- A record. -/
lemma transcribes_record (v : RuntimeSnapshot) (m : Memory) {record : Diagnostic}
    (htext : record.OneLine) :
    Transcribes [record] ((platformDiagnosticEmit v record).flatMap (handed m)) := by
  obtain ⟨body, ls, hbody, hls, hjoin, hreads⟩ := handed_record v m htext
  refine ⟨recordLine record.timestampMs body :: ls, ?_, hjoin, ?_⟩
  · exact List.forall_mem_cons.mpr
      ⟨newline_notMem_recordLine _ hbody, fun l hl => (hls l hl).1⟩
  · rw [List.filterMap_cons_some (entryOf_recordLine _ _), entries_others hls]
    exact .cons hreads .nil

/-- The snapshot of a cycle. -/
lemma transcribes_snapshot (v : RuntimeSnapshot) (m : Memory) :
    Transcribes [] ((platformTelemetryEmit v).flatMap (handed m)) := by
  have hothers : ∀ p ∈ platformTelemetryEmit v, p.Other :=
    emitSnapshot_other v (c := ascii 'T') (by decide) (by decide) (by decide) (by decide)
  obtain ⟨ls, hls, hjoin⟩ := handed_others m hothers
  refine ⟨ls, fun l hl => (hls l hl).1, hjoin, ?_⟩
  rw [entries_others hls]
  exact .nil

variable {δ ε : Type} {f : Firmware δ}

/-- **Step lemma.**  A step prints the record that it emits, and no other one. -/
lemma transcribes_prints (hf : f.OneLine) (snapshot : Firmware δ → RuntimeSnapshot) (m : Memory)
    (a : FirmwareAction ε) :
    Transcribes (emittedOf a f) ((printsOf snapshot a f).flatMap (handed m)) := by
  cases a with
  | telemetry =>
    have hinHand := hf.inHand
    unfold emittedOf printsOf
    cases hstage : f.telemetry with
    | emit i record =>
      rw [hstage] at hinHand
      exact transcribes_record (snapshot f) m (List.forall_mem_singleton.mp hinHand)
    | snapshot => exact transcribes_snapshot (snapshot f) m
    | _ => exact .nil
  | _ => exact .nil

end Prints

section Runs

variable [Rounding] {δ ε : Type}

/-- The calls of `uart_write` in a run from `runtime_init`, with their bytes; `print` says what a
call of `uart_print` hands over. -/
def writes (driver : InputDriver δ ε) (env : Environment) (input : δ)
    (snapshot : Firmware δ → RuntimeSnapshot) (print : Firmware δ → Print → List UInt8)
    (as : List (FirmwareAction ε)) : List (List UInt8) :=
  Machine.trace (firmwareStep driver) (fun a f => (printsOf snapshot a f).map (print f))
    (firmwareInit env input) as

/-- All bytes that are handed to `uart_write` in a run. -/
def console (driver : InputDriver δ ε) (env : Environment) (input : δ)
    (snapshot : Firmware δ → RuntimeSnapshot) (print : Firmware δ → Print → List UInt8)
    (as : List (FirmwareAction ε)) : List UInt8 :=
  (writes driver env input snapshot print as).flatten

lemma writes_append (driver : InputDriver δ ε) (env : Environment) (input : δ)
    (snapshot : Firmware δ → RuntimeSnapshot) (print : Firmware δ → Print → List UInt8)
    (as : List (FirmwareAction ε)) (a : FirmwareAction ε) :
    writes driver env input snapshot print (as ++ [a]) =
      writes driver env input snapshot print as ++
        (printsOf snapshot a (firmware driver env input as)).map
          (print (firmware driver env input as)) := by
  unfold writes
  rw [Machine.trace_append, Machine.trace_cons, Machine.trace_nil, List.append_nil]
  rfl

/-- No text of a run has line feeds. -/
lemma oneLine_firmware (driver : InputDriver δ ε) (env : Environment) (input : δ)
    (as : List (FirmwareAction ε)) : (firmware driver env input as).OneLine := by
  have hstart : (firmwareInit env input).OneLine :=
    ⟨fun _ => List.forall_mem_nil _, List.forall_mem_nil _, List.forall_mem_nil _⟩
  induction as using List.reverseRecOn with
  | nil => exact hstart
  | append_singleton as a ih =>
    have hrun : firmware driver env input (as ++ [a]) =
        firmwareStep driver a (firmware driver env input as) := Machine.run_append
    rw [hrun]
    exact ih.step a

/-- **Run lemma.**  The console of a run transcribes the records that have been emitted. -/
lemma transcribes_console (double : DoubleRounding) (driver : InputDriver δ ε) (env : Environment)
    (input : δ) (snapshot : Firmware δ → RuntimeSnapshot) (memory : Firmware δ → Memory)
    (as : List (FirmwareAction ε)) :
    @Transcribes double (firmwareLog driver env input as).emitted
      (console driver env input snapshot (fun f => @handed double (memory f)) as) := by
  induction as using List.reverseRecOn with
  | nil => exact @Transcribes.nil double
  | append_singleton as a ih =>
    have hstep := @transcribes_prints double _ _ _ (oneLine_firmware driver env input as) snapshot
      (memory (firmware driver env input as)) a
    rw [List.flatMap_def] at hstep
    rw [firmwareLog_append, console, writes_append, List.flatten_append]
    exact @Transcribes.append double _ _ _ _ ih hstep

/-- **Console.**  In every run of the firmware, whatever the snapshots show and the buffers hold,
the console consists of whole lines; and a reader finds in them one entry for each record that
Telemetry has emitted, in their order, with the time of the record and the line that answers it. -/
theorem console_entries (double : DoubleRounding) (driver : InputDriver δ ε) (env : Environment)
    (input : δ) (snapshot : Firmware δ → RuntimeSnapshot) (memory : Firmware δ → Memory)
    (as : List (FirmwareAction ε)) :
    let text := console driver env input snapshot (fun f => @handed double (memory f)) as
    Lines.join newline (Lines.cut newline text) = text ∧
      List.Forall₂ (@Diagnostic.Reads double) (firmwareLog driver env input as).emitted
        (entries text) := by
  exact @Transcribes.reads double _ _
    (transcribes_console double driver env input snapshot memory as)

end Runs

end MotionFirmware
