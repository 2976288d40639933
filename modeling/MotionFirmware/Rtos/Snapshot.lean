import MotionFirmware.Rtos.Conversation
import MotionFirmware.Rtos.Counters

/-!
# The snapshot

`runtime_snapshot` copies what the tasks have written, at any point between their critical sections,
and adds the counters of the queues and the duties of the motor.  The fields of a snapshot come from
different tasks and were written at different times; what they say together is nevertheless
consistent, in every interleaving.
-/

namespace MotionFirmware

/-- `runtime_snapshot_t`, without the counters of overruns. -/
structure Snapshot extends RuntimeData where
  timestampMs : UInt32
  tasksStarted : UInt32
  tasksParked : UInt32
  queued : UInt32
  consumed : UInt32
  rejected : UInt32
  queueUsed : UInt32
  queueHighWater : UInt32
  parseErrors : UInt32
  inputNotifications : UInt32
  uartRxErrors : UInt32
  telemetryCycles : UInt32
  diagnosticDrops : UInt32

/-- `runtime_snapshot`. -/
def runtimeSnapshot {δ : Type} (f : Firmware δ) : Snapshot :=
  { f.world.rt with
    timestampMs := f.world.io.platformTimeMs
    tasksStarted := f.tasksStarted ||| f.pipeline.tasksStarted
    tasksParked := f.tasksParked ||| f.pipeline.tasksParked
    queued := f.pipeline.bus.sent
    consumed := f.pipeline.bus.received
    rejected := f.pipeline.bus.rejected
    queueUsed := UInt32.ofNat f.pipeline.bus.queue.items.length
    queueHighWater := f.pipeline.bus.highWater
    parseErrors := f.pipeline.parseErrors
    inputNotifications := f.pipeline.inputNotifications
    uartRxErrors := f.pipeline.uartRxErrors
    telemetryCycles := f.telemetryCycles
    diagnosticDrops := f.diagnostics.dropped
    safety := { f.world.rt.safety with
      requestedPwm := f.world.io.motor.requested
      appliedPwm := f.world.io.motor.output } }

/-! ### The counters of Communications -/

/-- The reports of a kind on commands. -/
def kindCount (kind : DiagnosticKind) (reports : List Report) : UInt32 :=
  UInt32.ofNat (reports.countP fun
    | .command k _ _ => decide (k = kind)
    | _ => false)

/-- The reports of a failed read. -/
def readErrors (reports : List Report) : UInt32 :=
  UInt32.ofNat (reports.countP fun
    | .text _ => true
    | _ => false)

lemma kindCount_append (kind : DiagnosticKind) (l l' : List Report) :
    kindCount kind (l ++ l') = kindCount kind l + kindCount kind l' := by
  rw [kindCount, List.countP_append, UInt32.ofNat_add]
  rfl

lemma readErrors_append (l l' : List Report) :
    readErrors (l ++ l') = readErrors l + readErrors l' := by
  rw [readErrors, List.countP_append, UInt32.ofNat_add]
  rfl

section Pipeline

variable {δ ε : Type} {driver : InputDriver δ ε} {p p' : Pipeline δ} {d : Dialogue}

/-- The counters of the pipeline are those of the dialogue. -/
structure Tallied (p : Pipeline δ) (d : Dialogue) : Prop where
  bus : p.bus.Balanced
  received : p.bus.received = UInt32.ofNat d.received.length
  sent : p.bus.sent = kindCount .queued d.verdicts
  rejected : p.bus.rejected = kindCount .queueFull d.verdicts
  parseErrors : p.parseErrors = kindCount .parseError d.verdicts
  uartRxErrors : p.uartRxErrors = readErrors d.verdicts

/-- A step counts what it reports. -/
structure Counts (p p' : Pipeline δ) (reports : List Report) : Prop where
  bus : p.bus.Balanced → p'.bus.Balanced
  received : p'.bus.received = p.bus.received
  sent : p'.bus.sent = p.bus.sent + kindCount .queued reports
  rejected : p'.bus.rejected = p.bus.rejected + kindCount .queueFull reports
  parseErrors : p'.parseErrors = p.parseErrors + kindCount .parseError reports
  uartRxErrors : p'.uartRxErrors = p.uartRxErrors + readErrors reports

/-- A step that reports nothing. -/
lemma counts_nil (hbus : p'.bus = p.bus) (hparse : p'.parseErrors = p.parseErrors)
    (huart : p'.uartRxErrors = p.uartRxErrors) : Counts p p' [] where
  bus h := hbus ▸ h
  received := by rw [hbus]
  sent := by
    rw [hbus]
    exact (UInt32.add_zero _).symm
  rejected := by
    rw [hbus]
    exact (UInt32.add_zero _).symm
  parseErrors := hparse.trans (UInt32.add_zero _).symm
  uartRxErrors := huart.trans (UInt32.add_zero _).symm

/-- The verdict on a frame is counted. -/
lemma counts_frame {i : ℕ} {line : List UInt8} (hcomms : p.comms = .frame i line) :
    Counts p (commsTask driver p) (commsReports p) := by
  obtain ⟨result, command, hparse, -⟩ := commandParse_parses line ⟨.status, 0⟩
  have hstep : commsTask driver p = { p.handleFrame line with comms := .nextRead (i + 1) } := by
    simp only [commsTask, hcomms]
  have hreports : commsReports p =
      if result = .ok then
        [.command (if (commandBusSend command p.bus).1 then .queued else .queueFull) command .ok]
      else [.command .parseError command result] := by
    unfold commsReports
    rw [hcomms]
    dsimp only
    rw [hparse]
    cases result <;> rfl
  have hframe : p.handleFrame line =
      if result = .ok then { p with bus := (commandBusSend command p.bus).2 }
      else { p with parseErrors := p.parseErrors + 1 } := by
    unfold Pipeline.handleFrame
    rw [hparse]
    cases result <;> rfl
  rw [hstep, hreports, hframe]
  by_cases hok : result = .ok
  · rw [if_pos hok, if_pos hok, commandBusSend_fst]
    by_cases hspace : p.bus.queue.items.length < commandQueueCapacity
    · obtain ⟨-, hsent, hreceived, hrejected⟩ := commandBusSend_of_space command hspace
      rw [if_pos (decide_eq_true hspace)]
      exact ⟨fun h => h.send command, hreceived, hsent,
        hrejected.trans (UInt32.add_zero _).symm, (UInt32.add_zero _).symm,
        (UInt32.add_zero _).symm⟩
    · rw [if_neg (by simpa using hspace), commandBusSend_of_full command hspace]
      exact ⟨fun h => ⟨h.sent, h.used_le_highWater, h.highWater_le⟩, rfl,
        (UInt32.add_zero _).symm, rfl, (UInt32.add_zero _).symm, (UInt32.add_zero _).symm⟩
  · rw [if_neg hok, if_neg hok]
    exact ⟨id, rfl, (UInt32.add_zero _).symm, (UInt32.add_zero _).symm, rfl,
      (UInt32.add_zero _).symm⟩

/-- **Step lemma.**  Communications counts what it reports. -/
lemma counts_comms (p : Pipeline δ) : Counts p (commsTask driver p) (commsReports p) := by
  cases hcomms : p.comms with
  | frame i line => exact counts_frame hcomms
  | failed =>
    have hreports : commsReports p = [.text (cString "ERR UART_RX")] := by
      simp only [commsReports, hcomms]
    rw [hreports]
    simp only [commsTask, hcomms]
    exact ⟨id, rfl, (UInt32.add_zero _).symm, (UInt32.add_zero _).symm, (UInt32.add_zero _).symm,
      rfl⟩
  | take =>
    have hreports : commsReports p = [] := by simp only [commsReports, hcomms]
    rw [hreports]
    simp only [commsTask, hcomms]
    split_ifs
    · exact counts_nil rfl rfl rfl
    · exact counts_nil rfl rfl rfl
  | _ =>
    have hreports : commsReports p = [] := by simp only [commsReports, hcomms]
    rw [hreports]
    simp only [commsTask, hcomms]
    exact counts_nil rfl rfl rfl

/-- What Communications has counted. -/
lemma Tallied.counts (h : Tallied p d) {reports : List Report} (hcounts : Counts p p' reports)
    (reads : List (Except UartError (List UInt8))) :
    Tallied p' { d with reads := reads, verdicts := d.verdicts ++ reports } where
  bus := hcounts.bus h.bus
  received := hcounts.received.trans h.received
  sent := by rw [hcounts.sent, h.sent, kindCount_append]
  rejected := by rw [hcounts.rejected, h.rejected, kindCount_append]
  parseErrors := by rw [hcounts.parseErrors, h.parseErrors, kindCount_append]
  uartRxErrors := by rw [hcounts.uartRxErrors, h.uartRxErrors, readErrors_append]

/-- **Step lemma.**  Motion counts what it receives. -/
lemma Tallied.motion (h : Tallied p d) :
    Tallied (motionTaskCommands p) (observeDialogue driver .motion p d) := by
  have hlog : observeDialogue driver .motion p d =
      { d with received := observeReceived (.motion : PipelineAction ε) p d.received } := by
    simp [observeDialogue, observeVerdicts, observeReads]
  rw [hlog]
  unfold motionTaskCommands observeReceived
  cases hmotion : p.motion with
  | receive i =>
    dsimp only
    split_ifs
    · cases hitems : p.bus.queue.items with
      | nil =>
        rw [commandBusReceive_nil hitems]
        dsimp only
        rw [Option.toList_none, List.append_nil]
        exact ⟨h.bus, h.received, h.sent, h.rejected, h.parseErrors, h.uartRxErrors⟩
      | cons command rest =>
        obtain ⟨hsome, -, hbus⟩ := commandBusReceive_cons hitems
        have hbalanced := h.bus.receive
        rcases hreceive : commandBusReceive p.bus with ⟨first, bus⟩
        rw [hreceive] at hsome hbus hbalanced
        obtain rfl : first = some command := hsome
        dsimp only at hbus hbalanced ⊢
        refine ⟨hbalanced, ?_, ?_, ?_, h.parseErrors, h.uartRxErrors⟩
        · rw [Option.toList_some, List.length_append, UInt32.ofNat_add, ← h.received, hbus]
          rfl
        · rw [hbus]
          exact h.sent
        · rw [hbus]
          exact h.rejected
    · exact ⟨h.bus, h.received, h.sent, h.rejected, h.parseErrors, h.uartRxErrors⟩
  | _ => exact ⟨h.bus, h.received, h.sent, h.rejected, h.parseErrors, h.uartRxErrors⟩

/-- **Step lemma.**  Every step of the pipeline keeps the counters. -/
theorem Tallied.step (h : Tallied p d) (a : PipelineAction ε) :
    Tallied (pipelineStep driver a p) (observeDialogue driver a p d) := by
  have hother : observeDialogue driver a p d = d →
      Counts p (pipelineStep driver a p) [] →
      Tallied (pipelineStep driver a p) (observeDialogue driver a p d) := by
    intro hlog hcounts
    have hnone := h.counts hcounts d.reads
    rw [List.append_nil] at hnone
    rw [hlog]
    exact hnone
  cases a with
  | comms =>
    have hreceived : observeReceived (.comms : PipelineAction ε) p d.received = d.received := by
      simp [observeReceived]
    unfold observeDialogue
    rw [hreceived]
    exact h.counts (counts_comms p) _
  | motion => exact h.motion
  | arrive e =>
    refine hother rfl ?_
    unfold pipelineStep
    dsimp only
    cases driver.signal e p.input <;> exact counts_nil rfl rfl rfl
  | inputReady | requestStop => exact hother rfl (counts_nil rfl rfl rfl)
  | timeout =>
    refine hother rfl ?_
    change Counts p (commsTimeout p) []
    unfold commsTimeout
    split <;> exact counts_nil rfl rfl rfl

/-- In every run of the pipeline the counters are those of the dialogue. -/
theorem tallied_run (driver : InputDriver δ ε) (input : δ) (as : List (PipelineAction ε)) :
    Tallied (Machine.run (pipelineStep driver) { input := input } as)
      (Machine.watch (pipelineStep driver) (observeDialogue driver) { input := input } {} as) :=
  Machine.watch_invariant (P := fun _ _ => True) (I := Tallied) (fun a _ _ h _ => h.step a)
    ⟨.start, rfl, rfl, rfl, rfl, rfl⟩ (Machine.along_of_forall fun _ _ => trivial)

end Pipeline

/-! ### The state of a latch -/

/-- The published state is that of a latch. -/
def World.Showing (w : World) : Prop := w.safety.state ≠ .idle → w.rt.state = w.safety.state

section Latch

variable {w w' : World}

/-- Changes of other fields. -/
lemma World.Showing.congr (h : w.Showing) (hstate : w'.rt.state = w.rt.state)
    (hsafety : w'.safety.state = w.safety.state) : w'.Showing := by
  intro hne
  rw [hsafety] at hne ⊢
  rw [hstate]
  exact h hne

/-- Nothing is latched. -/
lemma showing_of_idle (h : w.safety.state = .idle) : w.Showing := fun hne => absurd h hne

lemma showing_recordLatched (w : World) : (recordLatched w).Showing := by
  by_cases hidle : w.safety.state = .idle
  · refine showing_of_idle ?_
    simp only [World.safety, recordLatched_safety]
    exact hidle
  · intro _
    simp only [World.safety, recordLatched_safety]
    unfold recordLatched
    rw [if_pos hidle]
    dsimp only
    split_ifs <;> rfl

/-- An enforcement publishes the state of a latch. -/
lemma showing_runtimeSafetyEnforce (w : World) : (runtimeSafetyEnforce w).Showing :=
  showing_recordLatched _

lemma World.Showing.sync (h : w.Showing) : (runtimeSafetySync w).Showing := by
  have hstate : (runtimeSafetySync w).rt.state = w.rt.state := by
    unfold runtimeSafetySync
    dsimp only
    split_ifs <;> rfl
  exact h.congr hstate (by simp)

variable [Rounding]

lemma showing_runtimeSafetyEvaluate (w : World) : (runtimeSafetyEvaluate w).Showing :=
  showing_runtimeSafetyEnforce _

lemma showing_reevaluate (w : World) : (reevaluate w).Showing :=
  (showing_runtimeSafetyEvaluate _).sync

lemma World.Showing.commandReset (h : w.Showing) : (commandReset w).2.Showing := by
  unfold MotionFirmware.commandReset
  split_ifs with hbusy
  · exact h
  · dsimp only
    cases hreset : safetyReset (runtimeSafetyEvaluate w).safety with
    | none => exact (showing_runtimeSafetyEvaluate w).congr rfl rfl
    | some s =>
      have hidle : s.state = .idle := by
        unfold safetyReset at hreset
        split_ifs at hreset
        rw [Option.map_eq_some_iff] at hreset
        obtain ⟨faults, -, rfl⟩ := hreset
        rfl
      exact showing_of_idle hidle

/-- A command publishes the state of the latch that it raises. -/
lemma World.Showing.command (h : w.Showing) (command : MotionCommand) :
    (runtimeSafetyCommand w command).2.Showing := by
  unfold runtimeSafetyCommand
  split_ifs
  · exact (showing_runtimeSafetyEnforce _).sync
  · exact h.commandReset
  · exact h.congr rfl rfl
  · exact h
  · exact h
  · unfold commandHome
    dsimp only
    split_ifs
    · exact (showing_runtimeSafetyEvaluate _).sync
    · exact h.congr rfl rfl
  · exact h
  · unfold commandDepart
    split_ifs
    · exact h
    · exact showing_reevaluate _
  · exact h.congr rfl rfl

/-- **Step lemma.**  Every action keeps the state of a latch published. -/
lemma World.Showing.step (h : w.Showing) (a : Action) : (step a w).Showing := by
  cases a with
  | motion received =>
    change (motionStep w received).Showing
    unfold motionStep
    cases w.task.phase with
    | configure =>
      dsimp only
      unfold taskConfigure
      cases motionInit w.toAxis motionDefaultConfig with
      | none => exact h
      | some x => exact h.congr rfl rfl
    | begin =>
      dsimp only
      unfold taskBegin
      split_ifs <;> exact h.congr rfl rfl
    | reconcile =>
      dsimp only
      unfold taskReconcile
      refine World.Showing.congr (w := runtimeSafetySync _) (World.Showing.sync ?_) rfl rfl
      split_ifs
      · exact h
      · exact showing_runtimeSafetyEnforce _
    | receive i =>
      dsimp only
      unfold taskReceive
      cases received with
      | none => exact h.congr rfl rfl
      | some command =>
        dsimp only
        split_ifs <;> exact h.congr rfl rfl
    | execute i command =>
      dsimp only
      unfold taskExecute
      split_ifs
      · exact (h.command command).congr rfl rfl
      · exact h.congr rfl rfl
    | update =>
      intro hne
      have hsafety : (taskUpdate w).safety.state = (controlSection w).2.safety.state := rfl
      dsimp only at hne ⊢
      rw [hsafety] at hne ⊢
      exact if_pos hne
    | _ => exact h.congr rfl rfl
  | safety =>
    have hevaluated := showing_runtimeSafetyEvaluate w
    change (safetyTask w).Showing
    unfold safetyTask
    dsimp only
    split_ifs
    · exact hevaluated.congr rfl rfl
    · exact hevaluated
  | heartbeat id => exact h.congr rfl rfl
  | request duty => exact h.congr rfl rfl

/-- Every reachable world shows a latch. -/
lemma showing_runtime (env : Environment) (as : List Action) : (runtime env as).Showing :=
  Machine.run_invariant_of_forall (fun a _ hv => hv.step a) (showing_of_idle rfl)

end Latch

/-! ### Which commands are answered how -/

/-- The report of a result is on a command that Motion executes, and that of a receipt on one that
it only counts. -/
def Report.Proper : Report → Prop
  | .motion subject _ => subject.type ≠ .status ∧ subject.type ≠ .help
  | .command kind subject _ => kind = .received ∧ (subject.type = .status ∨ subject.type = .help)
  | .text _ => True

/-- Motion executes neither `STATUS` nor `HELP`. -/
def Phase.Proper : Phase → Prop
  | .execute _ command => command.type ≠ .status ∧ command.type ≠ .help
  | _ => True

section Answers

variable [Rounding] {w : World}

/-- **Step lemma.**  A section executes, and reports, in the proper way. -/
lemma proper_motionStep (h : w.task.phase.Proper) (r : Option MotionCommand) :
    (motionStep w r).task.phase.Proper ∧
      ∀ report ∈ motionReports w (motionStep w r) r, report.Proper := by
  have htexts : ∀ texts : List CString, ∀ report ∈ texts.map Report.text, report.Proper := by
    intro texts report hmem
    obtain ⟨text, -, rfl⟩ := List.mem_map.mp hmem
    trivial
  constructor
  · cases hphase : w.task.phase with
    | receive i =>
      simp only [motionStep, taskReceive, hphase]
      cases r with
      | none => trivial
      | some command =>
        dsimp only
        split_ifs with htype
        · rcases nextCommand_cases i with hnext | hnext <;> simp [World.goto, hnext, Phase.Proper]
        · exact not_or.mp htype
    | _ =>
      have hfollows := follows_motionStep w r
      rw [hphase] at hfollows
      generalize (motionStep w r).task.phase = next at hfollows ⊢
      cases hfollows <;> first
        | trivial
        | (rename_i hnext; rcases hnext with rfl | rfl <;> trivial)
  · intro report hmem
    generalize motionStep w r = v at hmem
    unfold motionReports at hmem
    cases hphase : w.task.phase with
    | create =>
      rw [hphase] at hmem
      exact htexts [cString "SYSTEM state=BOOT"] report hmem
    | configure =>
      rw [hphase] at hmem
      dsimp only at hmem
      split_ifs at hmem
      · exact htexts [cString "RTOS scheduler_started owner=Motion"] report hmem
      · exact absurd hmem (by simp)
    | begin | reconcile =>
      rw [hphase] at hmem
      exact htexts _ report hmem
    | receive i =>
      rw [hphase] at hmem
      cases r with
      | none => exact absurd hmem (by simp [receiveReports])
      | some command =>
        dsimp only [receiveReports] at hmem
        split_ifs at hmem with htype
        · obtain rfl := List.mem_singleton.mp hmem
          exact ⟨rfl, htype⟩
        · exact absurd hmem (by simp)
    | execute i command =>
      rw [hphase] at h hmem
      rcases List.mem_append.mp hmem with htext | hresult
      · exact htexts _ report htext
      · cases hnext : v.task.phase <;> rw [hnext] at hresult
        case report j result =>
          obtain rfl := List.mem_singleton.mp hresult
          exact h
        all_goals exact absurd hresult (by simp)
    | update =>
      rw [hphase] at hmem
      rcases List.mem_append.mp hmem with hfirst | hcomplete
      · rcases List.mem_append.mp hfirst with herror | htext
        · split_ifs at herror
          · exact absurd herror (by simp)
          · exact htexts [controlErrorText] report herror
        · exact htexts _ report htext
      · split_ifs at hcomplete
        · exact htexts [motionCompleteText] report hcomplete
        · exact absurd hcomplete (by simp)
    | anchor | clock | sample | report =>
      rw [hphase] at hmem
      exact absurd hmem (by simp)

/-- The reports of a run are proper. -/
lemma proper_motionLog (env : Environment) (as : List Action) :
    (runtime env as).task.phase.Proper ∧ ∀ report ∈ motionLog env as, report.Proper := by
  induction as using List.reverseRecOn with
  | nil => exact ⟨trivial, fun report hmem => absurd hmem (by simp [motionLog])⟩
  | append_singleton as a ih =>
    have hlog : motionLog env (as ++ [a]) = observeReports a (runtime env as) (motionLog env as) :=
      Machine.watch_append
    have hrun : runtime env (as ++ [a]) = step a (runtime env as) := Machine.run_append
    rw [hlog, hrun]
    by_cases hother : ∀ r, a ≠ .motion r
    · have htask : (step a (runtime env as)).task = (runtime env as).task := (step_other hother).1
      rw [htask]
      cases a with
      | motion r => exact absurd rfl (hother r)
      | _ => exact ih
    · push Not at hother
      obtain ⟨r, rfl⟩ := hother
      obtain ⟨hphase, hreports⟩ := proper_motionStep ih.1 r
      refine ⟨hphase, fun report hmem => ?_⟩
      rcases List.mem_append.mp hmem with hold | hnew
      · exact ih.2 report hold
      · exact hreports report hnew

omit [Rounding] in
/-- The answers are the receipts and the results. -/
lemma length_answers {log : List Report} (h : ∀ report ∈ log, report.Proper) :
    (log.filterMap answerOf).length =
      (log.filterMap answerOf).countP (fun command => decide (command.type = .status)) +
        (log.filterMap answerOf).countP (fun command => decide (command.type = .help)) +
          (log.filterMap resultOf).length := by
  induction log with
  | nil => rfl
  | cons report log ih =>
    have hrest := ih fun r hr => h r (List.mem_cons_of_mem report hr)
    have hproper := h report (List.mem_cons_self ..)
    cases report with
    | text message => exact hrest
    | command kind command result =>
      obtain ⟨rfl, htype⟩ := hproper
      simp only [List.filterMap_cons, answerOf, resultOf, List.length_cons, List.countP_cons]
      rcases htype with htype | htype <;> simp only [htype] <;> simp <;> omega
    | motion command result =>
      obtain ⟨hstatus, hhelp⟩ := hproper
      simp only [List.filterMap_cons, answerOf, resultOf, List.length_cons, List.countP_cons]
      simp [hstatus, hhelp]
      omega

end Answers

/-! ### The snapshot of the firmware -/

section Snapshots

variable [Rounding] {δ ε : Type}

omit [Rounding] in
/-- Motion has at most one command that it has not answered, or not counted. -/
lemma inProgress_le {f : Firmware δ} (hf : f.Aligned) :
    f.unanswered.length + f.world.task.phase.uncounted.length ≤ 1 := by
  have hle := unanswered_length hf
  cases hphase : f.world.task.phase with
  | report i result =>
    have hnone : f.unanswered = [] := by
      unfold Firmware.Aligned at hf
      unfold Firmware.unanswered
      rw [hphase] at hf ⊢
      cases hmotion : f.motion with
      | running =>
        rw [hmotion] at hf
        rw [hf.2]
        rfl
      | _ =>
        rw [hmotion] at hf
        exact absurd hf.1 (by simp)
    rw [hnone]
    exact le_refl 1
  | _ => exact hle

/-- The counters of the queue of commands, and those of the verdicts. -/
lemma tallied_firmware (driver : InputDriver δ ε) (env : Environment) (input : δ)
    (as : List (FirmwareAction ε)) :
    Tallied (firmware driver env input as).pipeline
      { verdicts := (firmwareLog driver env input as).wanted .comms
        received := firmwareReceived driver env input as } := by
  have htallied := tallied_run driver input (pipelineTrace driver env input as)
  have hverdicts : (Machine.watch (pipelineStep driver) (observeDialogue driver) { input := input }
      {} (pipelineTrace driver env input as)).verdicts =
        (firmwareLog driver env input as).wanted .comms :=
    (Machine.watch_map (r := Dialogue.verdicts) (fun _ _ _ => rfl) _ _).trans
      (wanted_comms driver env input as).symm
  have hreceived : (Machine.watch (pipelineStep driver) (observeDialogue driver) { input := input }
      {} (pipelineTrace driver env input as)).received = firmwareReceived driver env input as :=
    Machine.watch_map (r := Dialogue.received) (fun _ _ _ => rfl) _ _
  rw [pipeline_firmware, ← hverdicts, ← hreceived]
  exact ⟨htallied.bus, htallied.received, htallied.sent, htallied.rejected, htallied.parseErrors,
    htallied.uartRxErrors⟩

/-- What Motion has received is what it has counted, and what it works on. -/
lemma received_counted (driver : InputDriver δ ε) (env : Environment) (input : δ)
    (as : List (FirmwareAction ε)) :
    let f := firmware driver env input as
    let rt := f.world.rt
    UInt32.ofNat (firmwareReceived driver env input as).length =
      rt.receivedByType .status + rt.receivedByType .help + rt.motionAccepted + rt.motionRejected +
        UInt32.ofNat (f.unanswered.length + f.world.task.phase.uncounted.length) := by
  intro f rt
  have hworld : f.world = runtime env (worldTrace driver env input as) :=
    world_firmware driver env input as
  obtain ⟨hreceived, hresults, -⟩ := accounts_runtime env (worldTrace driver env input as)
  obtain ⟨hphase, hproper⟩ := proper_motionLog env (worldTrace driver env input as)
  have hgiven : givenCommands env (worldTrace driver env input as) =
      (motionLog env (worldTrace driver env input as)).filterMap answerOf ++
        f.world.task.phase.executing := by
    rw [hworld]
    exact motionLog_given env _
  have hanswers := length_answers hproper
  rw [← hworld] at hreceived hresults hphase
  -- the command that Motion executes is neither `STATUS` nor `HELP`
  have htype : ∀ type, type = .status ∨ type = .help → rt.receivedByType type =
      typeCount type ((motionLog env (worldTrace driver env input as)).filterMap answerOf) := by
    intro type htype
    have hnone : typeCount type f.world.task.phase.executing = 0 := by
      cases hnow : f.world.task.phase with
      | execute i command =>
        rw [hnow] at hphase
        obtain ⟨hstatus, hhelp⟩ := hphase
        rcases htype with rfl | rfl <;> simp [Phase.executing, typeCount, hstatus, hhelp]
      | _ => rfl
    have hcount : rt.receivedByType type = _ := hreceived type
    rw [hcount, hgiven, typeCount_append, hnone]
    exact UInt32.add_zero _
  have hcounted : UInt32.ofNat ((motionLog env (worldTrace driver env input as)).filterMap
      resultOf).length = rt.motionAccepted + rt.motionRejected +
        UInt32.ofNat f.world.task.phase.uncounted.length := by
    have hsplit : ∀ l : List MotionResult,
        UInt32.ofNat l.length = resultCount true l + resultCount false l := by
      intro l
      rw [resultCount, resultCount, ← UInt32.ofNat_add]
      congr 1
      have hall := List.length_eq_countP_add_countP (l := l)
        (p := fun result => decide (result = MotionResult.accepted))
      simpa using hall
    have haccepted : _ = rt.motionAccepted + _ := hresults true
    have hrejected : _ = rt.motionRejected + _ := hresults false
    rw [hsplit, hsplit, haccepted, hrejected]
    ac_rfl
  rw [firmwareReceived_answers, List.length_append, wanted_motion, hanswers, UInt32.ofNat_add,
    UInt32.ofNat_add, UInt32.ofNat_add, hcounted, UInt32.ofNat_add, htype .status (.inl rfl),
    htype .help (.inr rfl)]
  unfold typeCount
  ac_rfl

/-- **Coherence of the snapshot.**  A snapshot taken at any point of any run balances: every command
that was queued waits, or was counted by Motion as received, accepted or refused, but for at most
one that Motion works on.  The queue was never fuller than the high-water mark, the counters of
Communications are those of its verdicts, and a latch is shown with the motor off. -/
theorem snapshot_coherent (driver : InputDriver δ ε) (env : Environment) (input : δ)
    (as : List (FirmwareAction ε)) :
    let s := runtimeSnapshot (firmware driver env input as)
    let verdicts := (firmwareLog driver env input as).wanted .comms
    (∃ inProgress ≤ 1, s.queued = s.queueUsed + s.receivedByType .status +
      s.receivedByType .help + s.motionAccepted + s.motionRejected + inProgress) ∧
    s.queued = s.consumed + s.queueUsed ∧ s.queueUsed ≤ s.queueHighWater ∧ s.queueHighWater ≤ 8 ∧
    s.queued = kindCount .queued verdicts ∧ s.rejected = kindCount .queueFull verdicts ∧
    s.parseErrors = kindCount .parseError verdicts ∧ s.uartRxErrors = readErrors verdicts ∧
    (s.safety.state ≠ .idle → s.state = s.safety.state ∧ s.safety.appliedPwm = 0) := by
  intro s verdicts
  have htallied := tallied_firmware driver env input as
  have hworld := world_firmware driver env input as
  have hused := CommandBus.Balanced.toNat_used
    (firmware driver env input as).pipeline.bus.queue.bounded
  refine ⟨?_, htallied.bus.sent, ?_, ?_, htallied.sent, htallied.rejected, htallied.parseErrors,
    htallied.uartRxErrors, fun hlatched => ⟨?_, ?_⟩⟩
  · refine ⟨UInt32.ofNat ((firmware driver env input as).unanswered.length +
      (firmware driver env input as).world.task.phase.uncounted.length), ?_, ?_⟩
    · have hle := inProgress_le (aligned_firmware driver env input as)
      rw [UInt32.le_iff_toNat_le, UInt32.toNat_ofNat_of_lt' (hle.trans_lt (by decide))]
      exact hle
    · have hreceived := htallied.received.trans (received_counted driver env input as)
      have hsent : s.queued = s.consumed + s.queueUsed := htallied.bus.sent
      have hconsumed : s.consumed = _ := hreceived
      rw [hsent, hconsumed]
      change _ + s.queueUsed = _
      ac_rfl
  · rw [UInt32.le_iff_toNat_le]
    change (UInt32.ofNat _).toNat ≤ _
    rw [hused]
    exact htallied.bus.used_le_highWater
  · rw [UInt32.le_iff_toNat_le]
    exact htallied.bus.highWater_le
  · have hshowing := showing_runtime env (worldTrace driver env input as)
    rw [← hworld] at hshowing
    exact hshowing hlatched
  · have hsafe := gateSafe_runtime env (worldTrace driver env input as)
    rw [← hworld] at hsafe
    refine hsafe.motor.inhibited ?_
    by_contra hopen
    exact hlatched (hsafe.gate (by simpa using hopen)).idle

end Snapshots

end MotionFirmware
