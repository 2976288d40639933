import MotionFirmware.Rtos.FirmwareViews

/-!
# The records reach Telemetry

What the tasks want to report, what they have sent with the answer of the queue, and what Telemetry
has emitted are kept in a log.  In every run each task sends its reports in their order, the records
that were accepted come out in the order in which they went in, and every record that was refused is
counted once, or is about to be.
-/

namespace MotionFirmware

/-- A call of `send_record`: what is reported, the record, and whether the queue has taken it. -/
structure Send where
  reporter : Reporter
  report : Report
  record : Diagnostic
  accepted : Bool

/-- What has been reported in a run. -/
structure FirmwareLog where
  /-- What a task has had to report, sent or not. -/
  wanted : Reporter → List Report := fun _ => []
  sends : List Send := []
  emitted : List Diagnostic := []

/-- The tasks that report. -/
def reporters : List Reporter := [.motion, .safety, .comms]

section Definitions

variable {δ ε : Type}

/-- The record that the next step of the reports sends, if it sends one. -/
def sendOf (who : Reporter) (now : UInt32) (d : Diagnostics) (o : Outbox) : List Send :=
  if o.failed then []
  else
    match o.reports with
    | [] => []
    | report :: _ => [⟨who, report, report.record now, (d.queue.send (report.record now)).1⟩]

/-- The records that a step sends. -/
def sendsOf (a : FirmwareAction ε) (f : Firmware δ) : List Send :=
  match a with
  | .motion now => sendOf .motion now f.diagnostics (f.outbox .motion)
  | .safety now => sendOf .safety now f.diagnostics (f.outbox .safety)
  | .comms now => sendOf .comms now f.diagnostics (f.outbox .comms)
  | _ => []

/-- The record that Telemetry holds. -/
def TelemetryStage.inHand : TelemetryStage → List Diagnostic
  | .emit _ record => [record]
  | _ => []

/-- The records that a step emits. -/
def emittedOf (a : FirmwareAction ε) (f : Firmware δ) : List Diagnostic :=
  match a with
  | .telemetry => f.telemetry.inHand
  | _ => []

/-- What a task that had nothing to report has to report now. -/
def newReports (before after : Outbox) : List Report := if before.empty then after.reports else []

/-- The failed sends that have not been counted yet. -/
def Firmware.uncounted (f : Firmware δ) : ℕ := reporters.countP fun who => (f.outbox who).failed

variable [Rounding]

/-- The log after a step. -/
def observeFirmware (driver : InputDriver δ ε) (a : FirmwareAction ε) (f : Firmware δ)
    (l : FirmwareLog) : FirmwareLog where
  wanted who := l.wanted who ++ newReports (f.outbox who) ((firmwareStep driver a f).outbox who)
  sends := l.sends ++ sendsOf a f
  emitted := l.emitted ++ emittedOf a f

/-- The log of a run from `runtime_init`. -/
def firmwareLog (driver : InputDriver δ ε) (env : Environment) (input : δ)
    (as : List (FirmwareAction ε)) : FirmwareLog :=
  Machine.watch (firmwareStep driver) (observeFirmware driver) (firmwareInit env input) {} as

end Definitions

/-- The reports that a task has sent. -/
def FirmwareLog.sentBy (l : FirmwareLog) (who : Reporter) : List Report :=
  (l.sends.filter fun send => send.reporter = who).map Send.report

/-- The records that the queue has taken. -/
def FirmwareLog.accepted (l : FirmwareLog) : List Diagnostic :=
  (l.sends.filter Send.accepted).map Send.record

/-- The number of the records that the queue has refused. -/
def FirmwareLog.refused (l : FirmwareLog) : ℕ := l.sends.countP fun send => !send.accepted

/-- The firmware and its log agree. -/
structure Delivered {δ : Type} (f : Firmware δ) (l : FirmwareLog) : Prop where
  /-- A task sends its reports in their order. -/
  sent : ∀ who, l.sentBy who ++ (f.outbox who).reports = l.wanted who
  /-- What was accepted is emitted in its order. -/
  queue : l.accepted = l.emitted ++ f.telemetry.inHand ++ f.diagnostics.queue.items
  /-- `diagnostics_dropped` counts what was refused. -/
  dropped : f.diagnostics.dropped + UInt32.ofNat f.uncounted = UInt32.ofNat l.refused

variable {δ ε : Type} {f g : Firmware δ} {l : FirmwareLog} {who : Reporter}

/-! ### Steps that send nothing -/

/-- The queue and Telemetry are left alone, and only a task that had nothing to report has got
something. -/
structure Quiet (f g : Firmware δ) : Prop where
  diagnostics : g.diagnostics = f.diagnostics
  telemetry : g.telemetry = f.telemetry
  outbox : ∀ who, g.outbox who = f.outbox who ∨
    (f.outbox who).empty = true ∧ (g.outbox who).failed = false

/-- An outbox with nothing left holds no report and no failed send. -/
lemma Outbox.empty_iff {o : Outbox} : o.empty = true ↔ o.reports = [] ∧ o.failed = false := by
  unfold Outbox.empty
  rw [Bool.and_eq_true, List.isEmpty_iff, Bool.not_eq_true']

lemma newReports_self (o : Outbox) : newReports o o = [] := by
  unfold newReports
  split_ifs with hempty
  · exact (Outbox.empty_iff.mp hempty).1
  · rfl

lemma Quiet.uncounted (h : Quiet f g) : g.uncounted = f.uncounted := by
  have hfailed : ∀ who, (g.outbox who).failed = (f.outbox who).failed := by
    intro who
    rcases h.outbox who with hsame | ⟨hempty, hnone⟩
    · rw [hsame]
    · rw [hnone, (Outbox.empty_iff.mp hempty).2]
  unfold Firmware.uncounted
  simp only [hfailed]

/-- A step that sends nothing keeps the accounts. -/
lemma Delivered.quiet (hl : Delivered f l) (h : Quiet f g) :
    Delivered g { l with
      wanted := fun who => l.wanted who ++ newReports (f.outbox who) (g.outbox who) } := by
  refine ⟨fun who => ?_, ?_, ?_⟩
  · have hsent := hl.sent who
    change l.sentBy who ++ (g.outbox who).reports =
      l.wanted who ++ newReports (f.outbox who) (g.outbox who)
    rcases h.outbox who with hsame | ⟨hempty, -⟩
    · rw [hsame, newReports_self, List.append_nil, hsent]
    · rw [(Outbox.empty_iff.mp hempty).1, List.append_nil] at hsent
      rw [hsent]
      unfold newReports
      rw [if_pos hempty]
  · rw [h.diagnostics, h.telemetry]
    exact hl.queue
  · rw [h.diagnostics, h.uncounted]
    exact hl.dropped

/-- Getting something to report is quiet when there was nothing. -/
lemma Enqueues.quiet {P : List Report → Prop} (h : Enqueues who P f g)
    (hempty : (f.outbox who).empty = true) : Quiet f g := by
  refine ⟨h.diagnostics, h.telemetry, fun other => ?_⟩
  rcases h.outbox with hsame | ⟨reports, -, hreports⟩
  · exact Or.inl (congrFun hsame other)
  rw [hreports]
  by_cases hother : other = who
  · subst hother
    refine Or.inr ⟨hempty, ?_⟩
    simp [Firmware.enqueue]
  · exact Or.inl (enqueue_outbox_of_ne hother reports f)

/-- A change of the other fields is quiet. -/
lemma Quiet.congr (h : Quiet f g) {g' : Firmware δ} (hdiagnostics : g'.diagnostics = g.diagnostics)
    (htelemetry : g'.telemetry = g.telemetry) (houtbox : g'.outbox = g.outbox) : Quiet f g' :=
  ⟨hdiagnostics.trans h.diagnostics, htelemetry.trans h.telemetry, houtbox ▸ h.outbox⟩

lemma Quiet.refl (f : Firmware δ) : Quiet f f := ⟨rfl, rfl, fun _ => Or.inl rfl⟩

/-! ### Steps that send -/

lemma sentBy_append (l : FirmwareLog) (sends : List Send) (who : Reporter) :
    ({ l with sends := l.sends ++ sends } : FirmwareLog).sentBy who =
      l.sentBy who ++ (sends.filter fun send => send.reporter = who).map Send.report := by
  unfold FirmwareLog.sentBy
  rw [List.filter_append, List.map_append]

lemma accepted_append (l : FirmwareLog) (sends : List Send) :
    ({ l with sends := l.sends ++ sends } : FirmwareLog).accepted =
      l.accepted ++ (sends.filter Send.accepted).map Send.record := by
  unfold FirmwareLog.accepted
  rw [List.filter_append, List.map_append]

lemma refused_append (l : FirmwareLog) (sends : List Send) :
    ({ l with sends := l.sends ++ sends } : FirmwareLog).refused =
      l.refused + sends.countP fun send => !send.accepted := by
  unfold FirmwareLog.refused
  rw [List.countP_append]

/-- What changes in the number of failed sends that wait to be counted. -/
lemma uncounted_update (f : Firmware δ) (who : Reporter) (o : Outbox) :
    ({ f with outbox := Function.update f.outbox who o } : Firmware δ).uncounted +
        (if (f.outbox who).failed then 1 else 0) =
      f.uncounted + if o.failed then 1 else 0 := by
  unfold Firmware.uncounted reporters
  simp only [List.countP_cons, List.countP_nil]
  cases who <;> simp [Function.update] <;> omega

/-- A failed send is counted. -/
lemma Delivered.count (hl : Delivered f l) (now : UInt32) (hfailed : (f.outbox who).failed = true) :
    sendOf who now f.diagnostics (f.outbox who) = [] ∧ Delivered (f.report who now) l := by
  have hrecord : sendRecord now f.diagnostics (f.outbox who) =
      ({ f.diagnostics with dropped := f.diagnostics.dropped + 1 },
        { f.outbox who with failed := false }) := if_pos hfailed
  have hcount := uncounted_update f who { f.outbox who with failed := false }
  rw [hfailed] at hcount
  refine ⟨if_pos hfailed, fun other => ?_, ?_, ?_⟩
  · unfold Firmware.report
    rw [hrecord]
    dsimp only
    by_cases hother : other = who
    · subst hother
      rw [Function.update_self]
      exact hl.sent other
    · rw [Function.update_of_ne hother]
      exact hl.sent other
  · unfold Firmware.report
    rw [hrecord]
    exact hl.queue
  · have huncounted : (f.report who now).uncounted + 1 = f.uncounted := by
      unfold Firmware.report
      rw [hrecord]
      exact hcount
    have hdropped : (f.report who now).diagnostics.dropped = f.diagnostics.dropped + 1 := by
      unfold Firmware.report
      rw [hrecord]
    rw [hdropped, ← hl.dropped, ← huncounted, UInt32.ofNat_add]
    ac_rfl

/-- A record is sent: the queue takes it, or the failure waits to be counted. -/
lemma Delivered.send (hl : Delivered f l) (now : UInt32) {report : Report} {reports : List Report}
    (hfailed : (f.outbox who).failed = false)
    (hreports : (f.outbox who).reports = report :: reports) :
    Delivered (f.report who now)
      { l with sends := l.sends ++ sendOf who now f.diagnostics (f.outbox who) } := by
  have hsends : sendOf who now f.diagnostics (f.outbox who) =
      [⟨who, report, report.record now, (f.diagnostics.queue.send (report.record now)).1⟩] := by
    unfold sendOf
    rw [hfailed, hreports]
    rfl
  have hrecord : sendRecord now f.diagnostics (f.outbox who) =
      ({ f.diagnostics with queue := (f.diagnostics.queue.send (report.record now)).2 },
        { reports := reports
          failed := !(f.diagnostics.queue.send (report.record now)).1 }) := by
    unfold sendRecord
    rw [hfailed, hreports]
    rfl
  have hcount := uncounted_update f who
    { reports := reports, failed := !(f.diagnostics.queue.send (report.record now)).1 }
  rw [hfailed] at hcount
  rw [hsends]
  refine ⟨fun other => ?_, ?_, ?_⟩
  · rw [sentBy_append]
    unfold Firmware.report
    rw [hrecord]
    have hsent := hl.sent other
    by_cases hother : other = who
    · subst hother
      rw [hreports] at hsent
      rw [← hsent]
      simp
    · have hother' : ¬ who = other := fun h => hother h.symm
      rw [← hsent]
      simp [hother, hother']
  · rw [accepted_append]
    unfold Firmware.report
    rw [hrecord, hl.queue]
    dsimp only
    rw [Fifo.send_items, Fifo.send_fst]
    by_cases hspace : f.diagnostics.queue.items.length < diagnosticCapacity
    · simp [hspace]
    · simp [hspace]
  · have huncounted : (f.report who now).uncounted =
        f.uncounted + if !(f.diagnostics.queue.send (report.record now)).1 then 1 else 0 := by
      unfold Firmware.report
      rw [hrecord]
      exact hcount
    have hdropped : (f.report who now).diagnostics.dropped = f.diagnostics.dropped := by
      unfold Firmware.report
      rw [hrecord]
    rw [refused_append, huncounted, hdropped, UInt32.ofNat_add, UInt32.ofNat_add, ← hl.dropped,
      UInt32.add_assoc]
    simp

/-- **Step lemma.**  A step of the reports keeps the accounts. -/
lemma Delivered.report (hl : Delivered f l) (now : UInt32) (h : (f.outbox who).empty = false) :
    Delivered (f.report who now)
      { l with sends := l.sends ++ sendOf who now f.diagnostics (f.outbox who) } := by
  cases hfailed : (f.outbox who).failed with
  | true =>
    obtain ⟨hnone, hdelivered⟩ := hl.count now hfailed
    rw [hnone, List.append_nil]
    exact hdelivered
  | false =>
    cases hreports : (f.outbox who).reports with
    | nil =>
      rw [Outbox.empty_iff.mpr ⟨hreports, hfailed⟩] at h
      exact absurd h nofun
    | cons report reports => exact hl.send now hfailed hreports

/-! ### Steps of Telemetry -/

/-- Telemetry takes the oldest record and emits it. -/
lemma Delivered.telemetry (hl : Delivered f l) :
    Delivered f.telemetryStep { l with emitted := l.emitted ++ f.telemetry.inHand } := by
  have hqueue := hl.queue
  have hfifo := f.diagnostics.queue.toList_receive_append
  unfold Firmware.telemetryStep
  cases hstage : f.telemetry with
  | receive i =>
    rw [hstage] at hqueue
    simp only [TelemetryStage.inHand, List.append_nil] at hqueue ⊢
    split_ifs
    · unfold diagnosticsReceive
      cases hfirst : f.diagnostics.queue.receive.1 with
      | none =>
        rw [hfirst, Option.toList_none, List.nil_append] at hfifo
        refine ⟨hl.sent, ?_, hl.dropped⟩
        change l.accepted = l.emitted ++ [] ++ f.diagnostics.queue.receive.2.items
        rw [List.append_nil, hfifo]
        exact hqueue
      | some record =>
        rw [hfirst] at hfifo
        refine ⟨hl.sent, ?_, hl.dropped⟩
        change l.accepted = l.emitted ++ [record] ++ f.diagnostics.queue.receive.2.items
        rw [List.append_assoc, ← Option.toList_some, hfifo]
        exact hqueue
    · refine ⟨hl.sent, ?_, hl.dropped⟩
      change l.accepted = l.emitted ++ [] ++ f.diagnostics.queue.items
      rw [List.append_nil]
      exact hqueue
  | emit i record =>
    rw [hstage] at hqueue
    refine ⟨hl.sent, ?_, hl.dropped⟩
    change l.accepted = l.emitted ++ [record] ++ [] ++ f.diagnostics.queue.items
    rw [List.append_nil]
    exact hqueue
  | checkpoint =>
    refine ⟨hl.sent, ?_, hl.dropped⟩
    rw [hstage] at hqueue
    dsimp only [TelemetryStage.inHand]
    rw [List.append_nil]
    split_ifs <;> exact hqueue
  | count | snapshot | wait | parked =>
    refine ⟨hl.sent, ?_, hl.dropped⟩
    rw [hstage] at hqueue
    dsimp only [TelemetryStage.inHand]
    rw [List.append_nil]
    first | exact hqueue | exact hstage ▸ hqueue

/-! ### Runs -/

variable [Rounding] {driver : InputDriver δ ε} {a : FirmwareAction ε}

/-- The log of a step that sends and emits nothing. -/
lemma observeFirmware_quiet (hsends : sendsOf a f = []) (hemitted : emittedOf a f = []) :
    observeFirmware driver a f l = { l with
      wanted := fun who =>
        l.wanted who ++ newReports (f.outbox who) ((firmwareStep driver a f).outbox who) } := by
  unfold observeFirmware
  rw [hsends, hemitted, List.append_nil, List.append_nil]

omit [Rounding] in
/-- Sending is nothing new to report. -/
lemma newReports_report (now : UInt32) (h : (f.outbox who).empty = false) (other : Reporter) :
    newReports (f.outbox other) ((f.report who now).outbox other) = [] := by
  by_cases hother : other = who
  · subst hother
    unfold newReports
    rw [h]
    rfl
  · have hsame : (f.report who now).outbox other = f.outbox other := by
      unfold Firmware.report
      exact Function.update_of_ne hother _ _
    rw [hsame]
    exact newReports_self _

omit [Rounding] in
/-- A task with nothing to report sends nothing. -/
lemma sendOf_empty (now : UInt32) (d : Diagnostics) {o : Outbox} (h : o.empty = true) :
    sendOf who now d o = [] := by
  obtain ⟨hreports, hfailed⟩ := Outbox.empty_iff.mp h
  unfold sendOf
  rw [hreports, hfailed]
  rfl

/-- A step of a task that may report: what it reports is sent, or it makes a quiet step. -/
lemma Delivered.reportOr (hl : Delivered f l) {now : UInt32} {next : Firmware δ → Firmware δ}
    (hstep : firmwareStep driver a f = MotionFirmware.reportOr who now next f)
    (hsends : sendsOf a f = sendOf who now f.diagnostics (f.outbox who))
    (hemitted : emittedOf a f = []) (hquiet : (f.outbox who).empty = true → Quiet f (next f)) :
    Delivered (firmwareStep driver a f) (observeFirmware driver a f l) := by
  cases hempty : (f.outbox who).empty with
  | true =>
    have hnone : sendsOf a f = [] := hsends.trans (sendOf_empty now f.diagnostics hempty)
    have hnext : firmwareStep driver a f = next f := hstep.trans (if_pos hempty)
    rw [observeFirmware_quiet hnone hemitted]
    refine hl.quiet ?_
    rw [hnext]
    exact hquiet hempty
  | false =>
    have hreport : firmwareStep driver a f = f.report who now :=
      hstep.trans (if_neg (by rw [hempty]; exact nofun))
    have hlog : observeFirmware driver a f l =
        { l with sends := l.sends ++ sendOf who now f.diagnostics (f.outbox who) } := by
      unfold observeFirmware
      rw [hreport, hsends, hemitted, List.append_nil]
      simp only [newReports_report now hempty, List.append_nil]
    rw [hlog, hreport]
    exact hl.report now hempty

/-- **Step lemma.**  Every step keeps the accounts. -/
theorem Delivered.step (hl : Delivered f l) (a : FirmwareAction ε) :
    Delivered (firmwareStep driver a f) (observeFirmware driver a f l) := by
  have hother : sendsOf a f = [] → emittedOf a f = [] → Quiet f (firmwareStep driver a f) →
      Delivered (firmwareStep driver a f) (observeFirmware driver a f l) := by
    intro hsends hemitted hquiet
    rw [observeFirmware_quiet hsends hemitted]
    exact hl.quiet hquiet
  have hrefl := Quiet.refl f
  cases a with
  | motion now => exact hl.reportOr rfl rfl rfl (enqueues_motionTaskStep f).quiet
  | safety now => exact hl.reportOr rfl rfl rfl (enqueues_safetyStep f).quiet
  | comms now => exact hl.reportOr rfl rfl rfl (enqueues_commsStep f).quiet
  | telemetry =>
    have houtbox := telemetryStep_outbox f
    have hlog : observeFirmware driver .telemetry f l =
        { l with emitted := l.emitted ++ f.telemetry.inHand } := by
      unfold observeFirmware
      simp only [firmwareStep, houtbox, newReports_self, List.append_nil, sendsOf, emittedOf]
    rw [hlog]
    exact hl.telemetry
  | timeout =>
    refine hother rfl rfl ?_
    unfold firmwareStep
    dsimp only
    split_ifs
    · exact hrefl.congr rfl rfl rfl
    · exact hrefl
  | arrive | inputReady | requestStop | setFilter => exact hother rfl rfl (hrefl.congr rfl rfl rfl)

/-- The log after a step. -/
lemma firmwareLog_append (driver : InputDriver δ ε) (env : Environment) (input : δ)
    (as : List (FirmwareAction ε)) (a : FirmwareAction ε) :
    firmwareLog driver env input (as ++ [a]) =
      observeFirmware driver a (firmware driver env input as) (firmwareLog driver env input as) :=
  Machine.watch_append

/-- **Delivery.**  In every run each task sends its reports in their order, what the queue has taken
is emitted in the order of the sends, and the counter of the lost records is the number of those
that were refused, but for the failures that a task has still to count. -/
theorem diagnostics_delivered (driver : InputDriver δ ε) (env : Environment) (input : δ)
    (as : List (FirmwareAction ε)) :
    Delivered (firmware driver env input as) (firmwareLog driver env input as) :=
  Machine.watch_invariant (P := fun _ _ => True) (I := Delivered)
    (fun a _ _ hl _ => hl.step a) ⟨fun _ => rfl, rfl, rfl⟩
    (Machine.along_of_forall fun _ _ => trivial)

end MotionFirmware
