import MotionFirmware.Rtos.Answers

/-!
# What a host is told of its commands

The reports that the tasks want to send are the records of the two halves of the firmware: those of
Motion are the log of the runtime, those of Communications the verdicts of the pipeline.  What the
runtime is given is what the pipeline has received, so the verdicts and the answers speak of the
same commands.
-/

namespace MotionFirmware

variable {δ ε : Type} [Rounding] {driver : InputDriver δ ε} {f : Firmware δ}

/-- What `uart_try_read_line` has returned in a run, apart from `UART_EMPTY`. -/
def firmwareReads (driver : InputDriver δ ε) (env : Environment) (input : δ)
    (as : List (FirmwareAction ε)) : List (Except UartError (List UInt8)) :=
  Machine.watch (pipelineStep driver) (observeReads driver) { input := input } []
    (pipelineTrace driver env input as)

/-- The commands that `command_bus_receive` has returned to Motion in a run. -/
def firmwareReceived (driver : InputDriver δ ε) (env : Environment) (input : δ)
    (as : List (FirmwareAction ε)) : List MotionCommand :=
  Machine.watch (pipelineStep driver) observeReceived { input := input } []
    (pipelineTrace driver env input as)

/-- The commands that Motion has taken and not answered. -/
def Firmware.unanswered (f : Firmware δ) : List MotionCommand :=
  f.world.task.phase.executing ++ f.pipeline.motion.holding

/-! ### What the tasks want to report -/

/-- A heartbeat is no report. -/
lemma watch_beatLabels (id : TaskHealthId) (f : Firmware δ) (w : World) (reports : List Report) :
    Machine.watch step observeReports w reports (f.beatLabels id) = reports := by
  unfold Firmware.beatLabels
  split_ifs <;> rfl

omit [Rounding] in
/-- A task that has nothing to report wants to report what it is given. -/
lemma newReports_enqueue {who : Reporter} (h : (f.outbox who).empty = true)
    (reports : List Report) :
    newReports (f.outbox who) ((f.enqueue who reports).outbox who) = reports := by
  unfold newReports Firmware.enqueue
  rw [if_pos h]
  simp

/-- A step of another task is nothing new to report. -/
lemma newReports_of_ne {a : FirmwareAction ε} {who : Reporter} (h : a.reporter ≠ some who)
    (f : Firmware δ) : newReports (f.outbox who) ((firmwareStep driver a f).outbox who) = [] := by
  rw [firmwareStep_outbox h]
  exact newReports_self _

/-- What a section of Motion wants to report. -/
lemma reports_motionSection (h : (f.outbox .motion).empty = true) (reports : List Report) :
    reports ++ newReports (f.outbox .motion) (f.motionSection.outbox .motion) =
      Machine.watch step observeReports f.world reports f.sectionLabels := by
  have hrun : ∀ received, reports ++
      newReports (f.outbox .motion) ((f.runSection received).outbox .motion) =
        Machine.watch step observeReports f.world reports [.motion received] := by
    intro received
    exact congrArg (reports ++ ·) (newReports_enqueue h _)
  unfold Firmware.motionSection Firmware.sectionLabels
  cases hphase : f.world.task.phase with
  | receive i =>
    dsimp only
    unfold Firmware.receiveSection
    cases hmotion : f.pipeline.motion with
    | taken j command => exact hrun (some command)
    | _ =>
      cases htaken : (motionTaskCommands f.pipeline).motion <;> simp only [htaken]
      all_goals first
        | exact hrun none
        | rw [newReports_self, List.append_nil]; rfl
  | _ => exact hrun none

/-- **Step lemma.**  What Motion wants to report is what the runtime logs. -/
lemma reports_step (driver : InputDriver δ ε) (a : FirmwareAction ε) (f : Firmware δ)
    (reports : List Report) :
    reports ++ newReports (f.outbox .motion) ((firmwareStep driver a f).outbox .motion) =
      Machine.watch step observeReports f.world reports (worldLabels a f) := by
  by_cases hother : a.reporter ≠ some .motion
  · rw [newReports_of_ne hother, List.append_nil]
    have hlabels : worldLabels a f = [] ∨ worldLabels a f = [.safety] ∨
        ∃ id, worldLabels a f = f.beatLabels id := by
      cases a with
      | motion now => exact absurd rfl hother
      | safety now =>
        unfold worldLabels
        dsimp only
        split_ifs
        · cases f.safety with
          | heartbeat => exact Or.inr (Or.inr ⟨.safety, rfl⟩)
          | evaluate => exact Or.inr (Or.inl rfl)
          | _ => exact Or.inl rfl
        · exact Or.inl rfl
      | comms now =>
        unfold worldLabels
        dsimp only
        split_ifs
        · cases f.pipeline.comms with
          | heartbeat => exact Or.inr (Or.inr ⟨.comms, rfl⟩)
          | _ => exact Or.inl rfl
        · exact Or.inl rfl
      | _ => exact Or.inl rfl
    rcases hlabels with hnone | hsafety | ⟨id, hbeat⟩
    · rw [hnone]
      rfl
    · rw [hsafety]
      rfl
    · rw [hbeat]
      exact (watch_beatLabels id f f.world reports).symm
  · push Not at hother
    obtain ⟨now, rfl⟩ : ∃ now, a = .motion now := by
      cases a with
      | motion now => exact ⟨now, rfl⟩
      | _ => exact absurd hother nofun
    unfold firmwareStep reportOr worldLabels
    cases hempty : (f.outbox .motion).empty with
    | true =>
      have hsame : ∀ {g : Firmware δ}, g.outbox .motion = f.outbox .motion →
          reports ++ newReports (f.outbox .motion) (g.outbox .motion) = reports := by
        intro g hg
        rw [hg, newReports_self, List.append_nil]
      simp only [if_true]
      unfold Firmware.motionTaskStep Firmware.motionLabels
      cases f.motion with
      | running => exact reports_motionSection hempty reports
      | heartbeat =>
        rw [watch_beatLabels]
        exact hsame (congrFun (beat_outbox .motion f) .motion)
      | wait | checkpoint | disable | parked => exact hsame rfl
    | false =>
      have hnone := newReports_report now hempty .motion
      simp [hnone]

/-- What an observer of the runtime sees of a run and one more step. -/
lemma watch_worldTrace {μ : Type} (observe : Action → World → μ → μ) (m : μ)
    (driver : InputDriver δ ε) (env : Environment) (input : δ) (as : List (FirmwareAction ε))
    (a : FirmwareAction ε) :
    Machine.watch step observe (runtimeInit env) m (worldTrace driver env input (as ++ [a])) =
      Machine.watch step observe (firmware driver env input as).world
        (Machine.watch step observe (runtimeInit env) m (worldTrace driver env input as))
        (worldLabels a (firmware driver env input as)) := by
  have htrace : worldTrace driver env input (as ++ [a]) =
      worldTrace driver env input as ++ worldLabels a (firmware driver env input as) := by
    unfold worldTrace firmware
    rw [Machine.trace_append, Machine.trace_cons, Machine.trace_nil, List.append_nil]
  rw [htrace, world_firmware]
  exact Machine.watch_append

/-- What an observer of the pipeline sees of a run and one more step. -/
lemma watch_pipelineTrace {μ : Type} (observe : PipelineAction ε → Pipeline δ → μ → μ) (m : μ)
    (driver : InputDriver δ ε) (env : Environment) (input : δ) (as : List (FirmwareAction ε))
    (a : FirmwareAction ε) :
    Machine.watch (pipelineStep driver) observe { input := input } m
        (pipelineTrace driver env input (as ++ [a])) =
      Machine.watch (pipelineStep driver) observe (firmware driver env input as).pipeline
        (Machine.watch (pipelineStep driver) observe { input := input } m
          (pipelineTrace driver env input as))
        (pipelineLabels a (firmware driver env input as)) := by
  have htrace : pipelineTrace driver env input (as ++ [a]) =
      pipelineTrace driver env input as ++ pipelineLabels a (firmware driver env input as) := by
    unfold pipelineTrace firmware
    rw [Machine.trace_append, Machine.trace_cons, Machine.trace_nil, List.append_nil]
  rw [htrace, pipeline_firmware]
  exact Machine.watch_append

/-- Motion wants to report what the runtime logs. -/
lemma wanted_motion (driver : InputDriver δ ε) (env : Environment) (input : δ)
    (as : List (FirmwareAction ε)) :
    (firmwareLog driver env input as).wanted .motion =
      motionLog env (worldTrace driver env input as) := by
  induction as using List.reverseRecOn with
  | nil => rfl
  | append_singleton as a ih =>
    unfold motionLog at ih ⊢
    rw [firmwareLog_append, watch_worldTrace, ← ih]
    exact reports_step driver a _ _

/-- **Step lemma.**  What Communications wants to report is its verdicts. -/
lemma verdicts_step (a : FirmwareAction ε) (f : Firmware δ) (verdicts : List Report) :
    verdicts ++ newReports (f.outbox .comms) ((firmwareStep driver a f).outbox .comms) =
      Machine.watch (pipelineStep driver) observeVerdicts f.pipeline verdicts
        (pipelineLabels a f) := by
  by_cases hother : a.reporter ≠ some .comms
  · rw [newReports_of_ne hother, List.append_nil]
    have hquiet : ∀ labels : List (PipelineAction ε), (∀ b ∈ labels, b ≠ .comms) →
        ∀ p, Machine.watch (pipelineStep driver) observeVerdicts p verdicts labels = verdicts := by
      intro labels hlabels
      induction labels with
      | nil => exact fun _ => rfl
      | cons b labels ih =>
        intro p
        have hnone : observeVerdicts b p verdicts = verdicts := by
          unfold observeVerdicts
          split
          · exact absurd rfl (hlabels _ (List.mem_cons_self ..))
          · rfl
        rw [Machine.watch_cons, hnone]
        exact ih (fun c hc => hlabels c (List.mem_cons_of_mem _ hc)) _
    refine (hquiet _ (fun b hb => ?_) _).symm
    cases a with
    | comms now => exact absurd rfl hother
    | motion now =>
      unfold pipelineLabels at hb
      dsimp only at hb
      split_ifs at hb
      · rw [mem_motionPipeline hb]
        exact nofun
      · exact absurd hb nofun
    | timeout =>
      unfold pipelineLabels at hb
      dsimp only at hb
      split_ifs at hb
      · rw [List.mem_singleton.mp hb]
        exact nofun
      · exact absurd hb nofun
    | safety | telemetry | setFilter => exact absurd hb nofun
    | arrive | inputReady | requestStop =>
      rw [List.mem_singleton.mp hb]
      exact nofun
  · push Not at hother
    obtain ⟨now, rfl⟩ : ∃ now, a = .comms now := by
      cases a with
      | comms now => exact ⟨now, rfl⟩
      | _ => exact absurd hother nofun
    unfold firmwareStep reportOr pipelineLabels
    cases hempty : (f.outbox .comms).empty with
    | true =>
      have hnew : newReports (f.outbox .comms) ((f.commsStep driver).outbox .comms) =
          commsReports f.pipeline := by
        unfold Firmware.commsStep
        cases f.pipeline.comms with
        | heartbeat =>
          have hbeat := beat_outbox .comms f
          have hempty' : ((f.beat .comms).outbox .comms).empty = true := by rw [hbeat, hempty]
          have henqueue := newReports_enqueue hempty' (commsReports f.pipeline)
          rw [hbeat] at henqueue
          exact henqueue
        | _ => exact newReports_enqueue hempty _
      exact congrArg (verdicts ++ ·) hnew
    | false =>
      have hnone := newReports_report now hempty .comms
      simp [hnone]

/-- Communications wants to report its verdicts. -/
lemma wanted_comms (driver : InputDriver δ ε) (env : Environment) (input : δ)
    (as : List (FirmwareAction ε)) :
    (firmwareLog driver env input as).wanted .comms =
      Machine.watch (pipelineStep driver) observeVerdicts { input := input } []
        (pipelineTrace driver env input as) := by
  induction as using List.reverseRecOn with
  | nil => rfl
  | append_singleton as a ih =>
    rw [firmwareLog_append, watch_pipelineTrace, ← ih]
    exact verdicts_step a _ _

/-! ### What Motion receives -/

omit [Rounding] in
/-- Only Motion receives. -/
lemma watch_received_of_ne {labels : List (PipelineAction ε)} (h : ∀ a ∈ labels, a ≠ .motion)
    (p : Pipeline δ) (received : List MotionCommand) :
    Machine.watch (pipelineStep driver) observeReceived p received labels = received := by
  induction labels generalizing p received with
  | nil => rfl
  | cons a labels ih =>
    have hnone : observeReceived a p received = received := by
      have ha := h a (List.mem_cons_self ..)
      unfold observeReceived
      split
      · exact absurd rfl ha
      · rfl
    rw [Machine.watch_cons, hnone]
    exact ih (fun b hb => h b (List.mem_cons_of_mem _ hb)) _ _

/-- A heartbeat gives the runtime no command. -/
lemma watch_given_beat (id : TaskHealthId) (f : Firmware δ) (w : World)
    (given : List MotionCommand) :
    Machine.watch step observeGiven w given (f.beatLabels id) = given := by
  unfold Firmware.beatLabels
  split_ifs <;> rfl

/-- The section that receives: the runtime is given what the pipeline has taken before. -/
lemma received_receiveSection {i : ℕ} (hphase : f.world.task.phase = .receive i)
    (h : f.world.task.phase.Meets f.pipeline.motion) (given : List MotionCommand) :
    observeReceived (.motion : PipelineAction ε) f.pipeline (given ++ f.pipeline.motion.holding) =
      Machine.watch step observeGiven f.world given f.sectionLabels ++
        (motionTaskCommands f.pipeline).motion.holding := by
  rw [hphase] at h
  obtain ⟨hi, hmotion | ⟨command, hmotion⟩⟩ := h
  · have hreceived : observeReceived (.motion : PipelineAction ε) f.pipeline
        (given ++ f.pipeline.motion.holding) =
          given ++ (commandBusReceive f.pipeline.bus).1.toList := by
      simp only [observeReceived, hmotion, if_pos hi, MotionAt.holding, List.append_nil]
    rw [hreceived]
    unfold Firmware.sectionLabels
    rw [hphase, hmotion]
    dsimp only
    rcases motionTaskCommands_receive hmotion hi with ⟨hnone, hitems⟩ | ⟨command, hsome, hhead⟩
    · rw [hnone, commandBusReceive_nil hitems]
      rfl
    · have hcommand : (commandBusReceive f.pipeline.bus).1 = some command := by
        cases hitems : f.pipeline.bus.queue.items with
        | nil =>
          rw [hitems] at hhead
          exact absurd hhead (by simp)
        | cons first rest =>
          rw [hitems] at hhead
          exact (commandBusReceive_cons hitems).1.trans hhead
      rw [hsome, hcommand]
      rfl
  · have hnext : (motionTaskCommands f.pipeline).motion = .receive (i + 1) := by
      simp only [motionTaskCommands, hmotion]
    have hreceived : observeReceived (.motion : PipelineAction ε) f.pipeline
        (given ++ f.pipeline.motion.holding) = given ++ [command] := by
      simp only [observeReceived, hmotion, MotionAt.holding]
    have hgiven : observeGiven (.motion (some command)) f.world given = given ++ [command] := by
      simp only [observeGiven, hphase]
    rw [hreceived, hnext]
    unfold Firmware.sectionLabels
    rw [hphase, hmotion]
    change _ = observeGiven (.motion (some command)) f.world given ++ []
    rw [hgiven, List.append_nil]

/-- A section of Motion keeps the commands together. -/
lemma received_motionSection (driver : InputDriver δ ε)
    (h : f.world.task.phase.Meets f.pipeline.motion)
    (hmotion : f.motion = .running) (given : List MotionCommand) :
    Machine.watch (pipelineStep driver) observeReceived f.pipeline
        (given ++ f.pipeline.motion.holding) f.motionPipeline =
      Machine.watch step observeGiven f.world given f.sectionLabels ++
        (Machine.run (pipelineStep driver) f.pipeline f.motionPipeline).motion.holding := by
  have hlabels : (∀ i, f.world.task.phase ≠ .receive i) →
      Machine.watch step observeGiven f.world given f.sectionLabels = given := by
    intro hreceive
    unfold Firmware.sectionLabels
    split
    · exact absurd ‹_› (hreceive _)
    · rfl
  unfold Firmware.motionPipeline
  rw [hmotion]
  cases hphase : f.world.task.phase with
  | receive i => exact received_receiveSection hphase h given
  | update =>
    rw [hphase] at h
    rw [hlabels fun i hi => absurd (hphase.symm.trans hi) (by simp)]
    rcases h with hplace | hplace
    · rw [hplace]
      change given ++ [] = given ++ f.pipeline.motion.holding
      rw [hplace]
      rfl
    · rw [hplace]
      have hreceived : observeReceived (.motion : PipelineAction ε) f.pipeline
          (given ++ MotionAt.holding (.receive commandLimit)) = given := by
        simp only [observeReceived, hplace, lt_irrefl, if_false, MotionAt.holding, List.append_nil]
      have hnext : (motionTaskCommands f.pipeline).motion = .checkpoint :=
        (congrArg Pipeline.motion (by simp only [Firmware.leaveLoop, hplace])).symm.trans
          (leaveLoop_motion (Or.inr hplace))
      change observeReceived (.motion : PipelineAction ε) f.pipeline _ =
        given ++ (motionTaskCommands f.pipeline).motion.holding
      rw [hreceived, hnext]
      exact (List.append_nil _).symm
  | _ =>
    rw [hlabels fun i hi => absurd (hphase.symm.trans hi) (by simp)]
    rfl

/-- **Step lemma.**  What the pipeline has received is what the runtime has been given, but for the
command that is not counted yet. -/
lemma received_step (hf : f.Aligned) (a : FirmwareAction ε) (given : List MotionCommand) :
    Machine.watch (pipelineStep driver) observeReceived f.pipeline
        (given ++ f.pipeline.motion.holding) (pipelineLabels a f) =
      Machine.watch step observeGiven f.world given (worldLabels a f) ++
        (firmwareStep driver a f).pipeline.motion.holding := by
  have hidle : ∀ {labels : List (PipelineAction ε)} {actions : List Action},
      (∀ b ∈ labels, b ≠ .motion) →
      Machine.watch step observeGiven f.world given actions = given →
      Machine.watch (pipelineStep driver) observeReceived f.pipeline
          (given ++ f.pipeline.motion.holding) labels =
        Machine.watch step observeGiven f.world given actions ++
          (Machine.run (pipelineStep driver) f.pipeline labels).motion.holding := by
    intro labels actions hlabels hactions
    have hplace : (Machine.run (pipelineStep driver) f.pipeline labels).motion =
        f.pipeline.motion :=
      Machine.run_invariant (P := fun (b : PipelineAction ε) _ => b ≠ .motion)
        (I := fun p : Pipeline δ => p.motion = f.pipeline.motion)
        (fun b p hp hb => (pipelineStep_motion hb p).1.trans hp) rfl
        (Machine.along_of_forall_mem hlabels)
    rw [watch_received_of_ne hlabels, hactions, hplace]
  have hnone : ∀ b ∈ ([] : List (PipelineAction ε)), b ≠ .motion := by simp
  rw [pipeline_step]
  cases a with
  | motion now =>
    unfold pipelineLabels worldLabels
    dsimp only
    split_ifs
    · unfold Firmware.Aligned at hf
      cases hmotion : f.motion with
      | running =>
        rw [hmotion] at hf
        have hsection := received_motionSection driver hf hmotion given
        unfold Firmware.motionLabels
        rw [hmotion]
        exact hsection
      | checkpoint =>
        rw [hmotion] at hf
        unfold Firmware.motionPipeline Firmware.motionLabels
        rw [hmotion]
        have hreceived : observeReceived (.motion : PipelineAction ε) f.pipeline
            (given ++ f.pipeline.motion.holding) = given := by
          simp only [observeReceived, hf.2, MotionAt.holding, List.append_nil]
        have hnext : (motionTaskCommands f.pipeline).motion.holding = [] := by
          simp only [motionTaskCommands, hf.2]
          split_ifs <;> rfl
        change observeReceived (.motion : PipelineAction ε) f.pipeline _ =
          given ++ (motionTaskCommands f.pipeline).motion.holding
        rw [hreceived, hnext, List.append_nil]
      | heartbeat =>
        unfold Firmware.motionPipeline Firmware.motionLabels
        rw [hmotion]
        exact hidle hnone (watch_given_beat .motion f f.world given)
      | wait | disable | parked =>
        unfold Firmware.motionPipeline Firmware.motionLabels
        rw [hmotion]
        exact hidle hnone rfl
    · exact hidle hnone rfl
  | safety now =>
    refine hidle hnone ?_
    unfold worldLabels
    dsimp only
    split_ifs
    · cases f.safety with
      | heartbeat => exact watch_given_beat .safety f f.world given
      | _ => rfl
    · rfl
  | comms now =>
    refine hidle ?_ ?_
    · unfold pipelineLabels
      dsimp only
      split_ifs
      · intro b hb
        rw [List.mem_singleton.mp hb]
        simp
      · simp
    · unfold worldLabels
      dsimp only
      split_ifs
      · cases f.pipeline.comms with
        | heartbeat => exact watch_given_beat .comms f f.world given
        | _ => rfl
      · rfl
  | telemetry | setFilter => exact hidle hnone rfl
  | timeout =>
    refine hidle ?_ rfl
    unfold pipelineLabels
    dsimp only
    split_ifs
    · intro b hb
      rw [List.mem_singleton.mp hb]
      simp
    · simp
  | arrive | inputReady | requestStop =>
    refine hidle (fun b hb => ?_) rfl
    rw [List.mem_singleton.mp hb]
    simp

/-- The commands that Motion has received are those that the runtime has been given, and the one
that Motion holds. -/
lemma firmwareReceived_eq (driver : InputDriver δ ε) (env : Environment) (input : δ)
    (as : List (FirmwareAction ε)) :
    firmwareReceived driver env input as =
      Machine.watch step observeGiven (runtimeInit env) [] (worldTrace driver env input as) ++
        (firmware driver env input as).pipeline.motion.holding := by
  unfold firmwareReceived
  induction as using List.reverseRecOn with
  | nil => rfl
  | append_singleton as a ih =>
    rw [watch_pipelineTrace, watch_worldTrace, ih, firmware_append]
    exact received_step (aligned_firmware driver env input as) a _

/-- Motion answers what it has received, but for one command. -/
lemma firmwareReceived_answers (driver : InputDriver δ ε) (env : Environment) (input : δ)
    (as : List (FirmwareAction ε)) :
    firmwareReceived driver env input as =
      ((firmwareLog driver env input as).wanted .motion).filterMap answerOf ++
        (firmware driver env input as).unanswered := by
  have hgiven := motionLog_given env (worldTrace driver env input as)
  rw [firmwareReceived_eq, wanted_motion, hgiven, List.append_assoc]
  unfold Firmware.unanswered
  rw [world_firmware]

omit [Rounding] in
/-- Motion works on at most one command. -/
lemma unanswered_length (hf : f.Aligned) : f.unanswered.length ≤ 1 := by
  have hmeets : f.world.task.phase.Meets f.pipeline.motion → f.unanswered.length ≤ 1 := by
    intro h
    unfold Firmware.unanswered
    cases hphase : f.world.task.phase with
    | execute i command =>
      rw [hphase] at h
      rw [h.2]
      exact le_refl 1
    | _ => cases f.pipeline.motion <;> simp [Phase.executing, MotionAt.holding]
  have hbegin : f.world.task.phase = .begin → f.unanswered.length ≤ 1 := by
    intro h
    unfold Firmware.unanswered
    rw [h]
    cases f.pipeline.motion <;> simp [Phase.executing, MotionAt.holding]
  unfold Firmware.Aligned at hf
  cases hmotion : f.motion <;> rw [hmotion] at hf
  · exact hmeets hf
  all_goals exact hbegin hf.1

/-- What an observer of the dialogue sees of a run. -/
lemma dialogue_firmware (driver : InputDriver δ ε) (env : Environment) (input : δ)
    (as : List (FirmwareAction ε)) :
    Judged (firmware driver env input as).pipeline
      { reads := firmwareReads driver env input as
        verdicts := (firmwareLog driver env input as).wanted .comms
        received := firmwareReceived driver env input as } := by
  have hjudged := judged_run driver input (pipelineTrace driver env input as)
  have hreads : (Machine.watch (pipelineStep driver) (observeDialogue driver) { input := input } {}
      (pipelineTrace driver env input as)).reads = firmwareReads driver env input as :=
    Machine.watch_map (r := Dialogue.reads) (fun _ _ _ => rfl) _ _
  have hverdicts : (Machine.watch (pipelineStep driver) (observeDialogue driver) { input := input }
      {} (pipelineTrace driver env input as)).verdicts =
        (firmwareLog driver env input as).wanted .comms :=
    (Machine.watch_map (r := Dialogue.verdicts) (fun _ _ _ => rfl) _ _).trans
      (wanted_comms driver env input as).symm
  have hreceived : (Machine.watch (pipelineStep driver) (observeDialogue driver) { input := input }
      {} (pipelineTrace driver env input as)).received = firmwareReceived driver env input as :=
    Machine.watch_map (r := Dialogue.received) (fun _ _ _ => rfl) _ _
  rw [pipeline_firmware, ← hreads, ← hverdicts, ← hreceived]
  exact hjudged

/-- The commands that have been admitted are those that Motion has answered, the one that it works
on, and those in the queue. -/
lemma admitted_firmware (driver : InputDriver δ ε) (env : Environment) (input : δ)
    (as : List (FirmwareAction ε)) :
    ((firmwareLog driver env input as).wanted .comms).filterMap admittedOf =
      ((firmwareLog driver env input as).wanted .motion).filterMap answerOf ++
        (firmware driver env input as).unanswered ++
        (firmware driver env input as).pipeline.bus.queue.items := by
  have hadmitted := (dialogue_firmware driver env input as).admitted
  dsimp only at hadmitted
  rw [hadmitted, firmwareReceived_answers]

/-- **Conversation.**  In every run every read has one verdict, in the order of the reads; the
commands with the verdict `QUEUED` are those that Motion has received and those in the queue; and
Motion has answered what it has received, but for the command that it works on. -/
theorem firmware_conversation (driver : InputDriver δ ε) (env : Environment) (input : δ)
    (as : List (FirmwareAction ε)) :
    let f := firmware driver env input as
    let l := firmwareLog driver env input as
    (∃ judged reading, firmwareReads driver env input as = judged ++ reading ∧
        reading.length ≤ 1 ∧ List.Forall₂ Verdict judged (l.wanted .comms)) ∧
      (l.wanted .comms).filterMap admittedOf =
        (l.wanted .motion).filterMap answerOf ++ f.unanswered ++ f.pipeline.bus.queue.items ∧
      f.unanswered.length ≤ 1 := by
  intro f l
  obtain ⟨judged, reading, hread, hreading, hforall⟩ :=
    (dialogue_firmware driver env input as).verdicts
  exact ⟨⟨judged, reading, hread, hreading.length_le, hforall⟩,
    admitted_firmware driver env input as, unanswered_length (aligned_firmware driver env input as)⟩

end MotionFirmware
