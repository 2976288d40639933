import MotionFirmware.Rtos.Outcomes

/-!
# The ledger of outcomes

Every accepted `MOVE`, `MOVE_REL` and `HOME` opens an entry, and what the three counters of outcomes
gain is booked on the entry that was opened last.  An entry ends with a count of one, or of zero
when the coast after the `STOP` of a move is over.  Three kinds of steps break this: a failed
`homing_update`, which is counted twice; a latch that interrupts the coast after the `STOP` of a
`HOME`, which has been counted already; and a `RESET` that is accepted before Motion has adopted the
latch, which leaves its motion uncounted.
-/

namespace MotionFirmware

variable [Rounding] {w v : World} {a : Action}

/-! ### What a release finds -/

/-- A sample that is accepted leaves valid feedback, and has had a time step that can be used. -/
lemma motionSample_ok {x : Axis} {dt : FloatValue} (h : (motionSample x dt).1 = true) :
    (motionSample x dt).2.motion.data.feedbackValid = true ∧ badStep dt = false := by
  rcases motionSample_cases x dt with ⟨y, -, -, heq⟩ | ⟨count, -, -, heq⟩
  · rw [heq] at h
    exact absurd h nofun
  · refine ⟨by rw [heq]; rfl, ?_⟩
    unfold motionSample at heq
    split_ifs at heq with hinput
    · exact absurd (congrArg Prod.fst heq) nofun
    · exact Bool.eq_false_iff.mpr fun hbad => hinput (by simp [hbad])

/-- What the outcomes of a release rest on: a controller that has been initialised is ready, an
accepted sample is valid, and one that has failed has left the motion and raised an internal fault,
which no `RESET` clears. -/
structure World.Accountable (start : UInt32) (w : World) : Prop where
  regular : w.Regular
  fresh : w.Fresh
  recorded : w.Recorded start
  ready : w.task.phase.early = false → w.motion.Ready
  found : w.task.phase = .sample → w.task.beforeSafety = w.motion.data.state
  valid : w.task.phase.sampled = true → w.task.sampled = true →
    w.motion.data.feedbackValid = true ∧ badStep w.task.dt = false
  failed : w.task.phase = .reconcile → w.task.sampled = false → w.motion.data.state = .idle
  lost : w.task.phase.sampled = true → w.task.phase ≠ .reconcile → w.task.sampled = false →
    ∃ now, SafetyCall.internalFault now ∈ w.calls

lemma accountable_runtimeInit (env : Environment) :
    (runtimeInit env).Accountable env.start where
  regular := regular_runtimeInit env
  fresh _ := rfl
  recorded := recorded_runtime env []
  ready := nofun
  found := nofun
  valid := nofun
  failed := nofun
  lost := nofun

variable {start : UInt32}

/-- The sample of a release. -/
lemma accountable_taskSample (hw : w.Accountable start) (hphase : w.task.phase = .sample) :
    ((taskSample w).task.sampled = true →
      (taskSample w).motion.data.feedbackValid = true ∧ badStep (taskSample w).task.dt = false) ∧
    ((taskSample w).task.sampled = false → (taskSample w).motion.data.state = .idle) := by
  refine ⟨motionSample_ok, fun hfailed => ?_⟩
  have hinit := (hw.ready (by rw [hphase]; rfl)).initialized
  rcases motionSample_cases w.toAxis w.task.dt with ⟨y, hframe, -, heq⟩ | ⟨count, -, -, heq⟩
  · have hmotion : (taskSample w).motion = (fail y).motion := by
      unfold taskSample
      rw [heq]
    rw [hmotion, fail_state, hframe.initialized, if_pos hinit]
  · have hsampled : (taskSample w).task.sampled = true := by
      unfold taskSample
      rw [heq]
    exact absurd (hsampled.symm.trans hfailed) nofun

/-- **Step lemma.**  Every step keeps a world accountable. -/
theorem World.Accountable.step (hw : w.Accountable start) (a : Action) :
    (step a w).Accountable start := by
  have hready := ready_step (a := a) hw.regular hw.ready
  have hfound := beforeSafety_step (a := a) hw.found
  have hrecorded : (MotionFirmware.step a w).Recorded start :=
    (operations_step hw.regular a).invariant (fun _ _ _ _ hop hv => hop.recorded hv) hw.recorded
  by_cases hother : ∀ r, a ≠ .motion r
  · obtain ⟨htask, hmotion⟩ := step_other (w := w) hother
    obtain ⟨new, hcalls, -⟩ := calls_step hw.regular a
    refine ⟨hw.regular.step a, fresh_step hw.fresh, hrecorded, hready, hfound, ?_, ?_, ?_⟩
    · rw [htask, hmotion]
      exact hw.valid
    · rw [htask, hmotion]
      exact hw.failed
    · rw [htask, hcalls]
      intro hphase hne hfailed
      obtain ⟨now, hmem⟩ := hw.lost hphase hne hfailed
      exact ⟨now, List.mem_append_left new hmem⟩
  push Not at hother
  obtain ⟨r, rfl⟩ := hother
  have hfollows := follows_motionStep w r
  obtain ⟨hclock, hsample⟩ := motionStep_task w r
  refine ⟨hw.regular.step _, fresh_step hw.fresh, hrecorded, hready, hfound, ?_, ?_, ?_⟩
  · intro hphase hsampled
    rcases hfollows.sampled hphase with hbefore | ⟨hbefore, hne⟩
    · simp only [MotionFirmware.step, motionStep, hbefore] at hsampled ⊢
      exact (accountable_taskSample hw hbefore).1 hsampled
    · have hphases : w.task.phase ≠ .clock ∧ w.task.phase ≠ .sample := by
        refine ⟨?_, ?_⟩ <;> intro heq <;> rw [heq] at hbefore <;> exact absurd hbefore (by decide)
      have hsampled' : w.task.sampled = true := (hsample hphases.2).symm.trans hsampled
      obtain ⟨hvalid, hdt⟩ := hw.valid hbefore hsampled'
      have hstep : (MotionFirmware.step (.motion r) w).task.dt = w.task.dt := (hclock hphases.1).2.1
      exact ⟨feedbackValid_motionStep hw.regular hbefore hne hsampled' hvalid, hstep ▸ hdt⟩
  · intro hphase hfailed
    simp only [MotionFirmware.step] at hphase
    rw [hphase] at hfollows
    have hbefore := hfollows.of_reconcile
    simp only [MotionFirmware.step, motionStep, hbefore] at hfailed ⊢
    exact (accountable_taskSample hw hbefore).2 hfailed
  · intro hphase hne hfailed
    rcases hfollows.sampled hphase with hbefore | ⟨hbefore, -⟩
    · refine absurd ?_ hne
      simp only [MotionFirmware.step, motionStep, hbefore]
      rfl
    · have hphase' : w.task.phase ≠ .sample := by
        intro heq
        rw [heq] at hbefore
        exact absurd hbefore (by decide)
      have hfailed' : w.task.sampled = false := (hsample hphase').symm.trans hfailed
      by_cases hreconcile : w.task.phase = .reconcile
      · exact internalFault_of_fails ⟨⟨r, rfl⟩, Or.inl ⟨hreconcile, hfailed'⟩⟩
      · obtain ⟨now, hmem⟩ := hw.lost hbefore hreconcile hfailed'
        obtain ⟨new, hcalls, -⟩ := calls_step hw.regular (.motion r)
        exact ⟨now, hcalls ▸ List.mem_append_left new hmem⟩

/-- An internal fault keeps the safety manager latched. -/
lemma latched_of_internalFault (hw : w.Recorded start) {now : UInt32}
    (h : SafetyCall.internalFault now ∈ w.calls) : w.safety.state ≠ .idle := by
  have hactive : ((safetyInit start).replay w.calls).internalActive = true := by
    rw [internalActive_history, Bool.or_eq_true]
    exact Or.inr (List.any_eq_true.mpr ⟨_, h, rfl⟩)
  have hstate := (sound_history start w.calls).internal hactive
  rw [← hw.core] at hstate
  exact hstate

/-- The control section of a release can be updated. -/
lemma World.Accountable.updatable (hw : w.Accountable start) (hphase : w.task.phase = .update) :
    w.Updatable where
  initialized := (hw.ready (by rw [hphase]; rfl)).initialized
  sampled hidle := by
    by_contra hfailed
    obtain ⟨now, hmem⟩ := hw.lost (by rw [hphase]; rfl) (by rw [hphase]; exact nofun)
      (by simpa using hfailed)
    exact latched_of_internalFault hw.recorded hmem hidle
  valid := hw.valid (by rw [hphase]; rfl)

/-! ### What a step does to the outcomes -/

/-- The section of the Motion task adopts a latch, or finds its sample failed. -/
def World.meetsLatch (w : World) : Bool :=
  match w.task.phase with
  | .reconcile => !w.task.sampled || w.safety.state != .idle
  | .execute _ command => w.task.app == .idle && w.latchedBy command
  | .update => w.latchedInUpdate
  | _ => false

/-- The step interrupts the coast after a `STOP`. -/
def Interrupts (a : Action) (w : World) : Prop :=
  ∃ r, a = .motion r ∧ (w.recordState = .stopping ∧ w.meetsLatch = true)

instance (a : Action) (w : World) : Decidable (Interrupts a w) :=
  inferInstanceAs (Decidable (∃ r, a = .motion r ∧ (_ ∧ _)))

/-- The control update of a running `HOME` fails, so that the attempt is counted twice. -/
def FailsSeek (a : Action) (w : World) : Prop := Updates a w ∧ w.seekFails = true

instance (a : Action) (w : World) : Decidable (FailsSeek a w) :=
  inferInstanceAs (Decidable (_ ∧ _))

/-- The step is the `STOP` of a running `HOME`. -/
def Cancels (a : Action) (w : World) : Prop :=
  w.motion.data.state = .homing ∧ (step a w).motion.data.state = .stopping

instance (a : Action) (w : World) : Decidable (Cancels a w) := inferInstanceAs (Decidable (_ ∧ _))

/-- In the control update of the step the coast after a `STOP` is over. -/
def Coasts (a : Action) (w : World) : Prop :=
  Updates a w ∧ w.motion.data.state = .stopping ∧ (step a w).motion.data.state = .idle

instance (a : Action) (w : World) : Decidable (Coasts a w) :=
  inferInstanceAs (Decidable (_ ∧ _ ∧ _))

/-- What a step that accepts no motion does to the state and to the outcomes. -/
inductive StepOutcome (a : Action) (w : World) : Prop
  | keeps (state : (step a w).recordState = w.recordState) (tally : (step a w).tally = w.tally)
  | rests (before : w.recordState.active = false) (after : (step a w).recordState.active = false)
      (tally : (step a w).tally = w.tally)
  | aborts (before : w.recordState.active = true)
      (after : (step a w).recordState = .fault ∨ (step a w).recordState = .estop)
      (tally : (step a w).tally = w.tally.abort)
      (interrupts : w.recordState = .stopping → Interrupts a w)
  | completes (before : w.recordState = .moving ∨ w.recordState = .homing)
      (after : (step a w).recordState = .idle)
      (tally : (step a w).tally = w.tally.complete w.recordState)
  | coasts (coasts : Coasts a w) (tally : (step a w).tally = w.tally)
  | cancels (cancels : Cancels a w) (tally : (step a w).tally = w.tally.abort)
  | halts (before : w.recordState = .moving) (after : (step a w).recordState = .stopping)
      (tally : (step a w).tally = w.tally)
  | resets (accepts : AcceptsReset a w) (after : (step a w).recordState = .idle)
      (tally : (step a w).tally = w.tally)
  | fails (fails : FailsSeek a w)

omit [Rounding] in
lemma goto_motion (w : World) (phase : Phase) : (w.goto phase).motion = w.motion := rfl

omit [Rounding] in
lemma goto_tally (w : World) (phase : Phase) : (w.goto phase).tally = w.tally := rfl

/-- The Safety task, a heartbeat and a foreign request keep the outcomes. -/
lemma sameOutcome_other (h : ∀ r, a ≠ .motion r) : w.SameOutcome (step a w) := by
  refine ⟨(step_other h).2, ?_⟩
  cases a with
  | motion r => exact absurd rfl (h r)
  | safety =>
    have hsame := sameOutcome_evaluate w
    simp only [step, safetyTask]
    split_ifs
    · exact hsame.aborted
    · exact hsame.aborted
  | heartbeat id => rfl
  | request duty => rfl

/-- The latch that a section adopts aborts an active motion. -/
lemma stepOutcome_of_latched {r : Option MotionCommand}
    (hstate : (step (.motion r) w).recordState = .fault ∨ (step (.motion r) w).recordState = .estop)
    (htally : (step (.motion r) w).tally = w.tally.interrupt w.recordState)
    (hlatch : w.recordState = .stopping → w.meetsLatch = true) : StepOutcome (.motion r) w := by
  cases hactive : w.recordState.active with
  | true =>
    exact .aborts hactive hstate (htally.trans (Tally.interrupt_of_active hactive))
      fun h => ⟨r, rfl, h, hlatch h⟩
  | false =>
    exact .rests hactive (active_of_latched hstate)
      (htally.trans (Tally.interrupt_of_inactive hactive))

/-- A sample keeps the state that the record belongs to, and the outcomes. -/
lemma stepOutcome_sample {r : Option MotionCommand} (hw : w.Accountable start)
    (hphase : w.task.phase = .sample) : StepOutcome (.motion r) w := by
  have hstep : step (.motion r) w = taskSample w := by simp only [step, motionStep, hphase]
  have hbefore : w.recordState = w.motion.data.state :=
    recordState_of_ne (by rw [hphase]; decide)
  have hfound := hw.found hphase
  refine .keeps ?_ ?_
  · rw [hstep, hbefore]
    rcases motionSample_cases w.toAxis w.task.dt with ⟨y, hframe, -, heq⟩ | ⟨count, -, -, heq⟩
    · simp [World.recordState, taskSample, heq, hfound]
    · simp [World.recordState, taskSample, heq, MotionController.accept]
  · rw [hstep]
    rcases motionSample_cases w.toAxis w.task.dt with ⟨y, hframe, -, heq⟩ | ⟨count, -, -, heq⟩
    · unfold taskSample
      rw [heq]
      exact Tally.ext hframe.fail.completedMoves
        (congrArg HomingSnapshot.completed hframe.fail.homing) rfl
    · unfold taskSample
      rw [heq]
      rfl

omit [Rounding] in
/-- The failure path of a sample counts the motion that the release has found. -/
lemma tally_sampleFailed (hstate : w.motion.data.state = .idle) :
    ((runtimeSafetySync (sampleFailed w)).motion.data.state = .fault ∨
      (runtimeSafetySync (sampleFailed w)).motion.data.state = .estop) ∧
    (runtimeSafetySync (sampleFailed w)).tally = w.tally.interrupt w.task.beforeSafety := by
  unfold sampleFailed
  dsimp only
  generalize hv : (if w.task.beforeSafety.active then w.countAbort else w) = v
  have hmotion : v.motion = w.motion := by
    rw [← hv]
    split_ifs <;> rfl
  have htask : v.task = w.task := by
    rw [← hv]
    split_ifs <;> rfl
  have htally : v.tally = w.tally.interrupt w.task.beforeSafety := by
    rw [← hv]
    unfold Tally.interrupt
    split_ifs <;> rfl
  generalize hu : (if v.task.beforeSafety = .homing then
    v.onAxis fun x => homingAbort x .faulted else v) = u
  have hstate' : u.motion.data.state = .idle := by
    rw [← hu, ← hstate, ← hmotion]
    split_ifs <;> rfl
  have htally' : u.tally = v.tally := by
    rw [← hu]
    split_ifs
    · exact Tally.ext rfl (HomingSnapshot.sameAttempt_abort _ .faulted).completed rfl
    · rfl
  obtain ⟨hfinal, hcount⟩ := tally_raiseInternal u u.task.nowMs
  rw [hstate', htally', htally] at hcount
  exact ⟨hfinal, hcount.trans (Tally.interrupt_of_inactive rfl)⟩

/-- The section after the sample. -/
lemma stepOutcome_reconcile {r : Option MotionCommand} (hw : w.Accountable start)
    (hphase : w.task.phase = .reconcile) : StepOutcome (.motion r) w := by
  have hafter := recordState_motionStep (w := w) (r := r) (by rw [hphase]; exact nofun)
  cases hsampled : w.task.sampled with
  | true =>
    have hbefore : w.recordState = w.motion.data.state :=
      if_neg (by rw [hsampled]; exact fun h => absurd h.2 nofun)
    have hstep : step (.motion r) w = (runtimeSafetySync w).goto (.receive 0) := by
      simp only [step, motionStep, hphase, taskReconcile, hsampled, if_true]
    by_cases hidle : w.safety.state = .idle
    · rw [runtimeSafetySync_of_idle hidle] at hstep
      refine .keeps ?_ ?_
      · rw [hafter, hbefore, hstep]
        rfl
      · rw [hstep]
        rfl
    · obtain ⟨hstate, htally⟩ := tally_runtimeSafetySync hw.regular.settled hidle
      refine stepOutcome_of_latched ?_ ?_ fun _ => ?_
      · rw [hafter, hstep, goto_motion]
        exact hstate
      · rw [hstep, hbefore, goto_tally]
        exact htally
      · unfold World.meetsLatch
        rw [hphase]
        simpa using Or.inr hidle
  | false =>
    have hbefore : w.recordState = w.task.beforeSafety := if_pos ⟨hphase, hsampled⟩
    have hstep : step (.motion r) w = (runtimeSafetySync (sampleFailed w)).goto (.receive 0) := by
      simp only [step, motionStep, hphase, taskReconcile, hsampled, Bool.false_eq_true, if_false]
    obtain ⟨hstate, htally⟩ := tally_sampleFailed (hw.failed hphase hsampled)
    refine stepOutcome_of_latched ?_ ?_ fun _ => ?_
    · rw [hafter, hstep, goto_motion]
      exact hstate
    · rw [hstep, hbefore, goto_tally]
      exact htally
    · unfold World.meetsLatch
      rw [hphase, hsampled]
      rfl

/-- The section that executes a command which starts no motion. -/
lemma stepOutcome_execute {r : Option MotionCommand} {i : ℕ} {command : MotionCommand}
    (hw : w.Accountable start) (hphase : w.task.phase = .execute i command)
    (hmotion : ¬ AcceptsMotion (.motion r) w) : StepOutcome (.motion r) w := by
  have hafter := recordState_motionStep (w := w) (r := r) (by rw [hphase]; exact nofun)
  have hbefore : w.recordState = w.motion.data.state :=
    recordState_of_ne (by rw [hphase]; exact nofun)
  by_cases happ : w.task.app = .idle
  · have hexec : Executes (.motion r) w command := ⟨r, i, rfl, hphase, happ⟩
    have hstep : step (.motion r) w = (runtimeSafetyCommand w command).2.goto
        (.report i (runtimeSafetyCommand w command).1) := by
      simp only [step, motionStep, hphase, taskExecute, happ, if_true]
    have hstate : (step (.motion r) w).recordState =
        (runtimeSafetyCommand w command).2.motion.data.state := by
      rw [hafter, hstep]
      rfl
    have htally : (step (.motion r) w).tally = (runtimeSafetyCommand w command).2.tally := by
      rw [hstep]
      rfl
    cases command_outcome hw.regular.settled command with
    | keeps hsame hcount => exact .keeps (by rw [hstate, hbefore, hsame]) (htally.trans hcount)
    | latches hlatched hcount _ _ hby =>
      refine stepOutcome_of_latched (hstate ▸ hlatched) ?_ fun _ => ?_
      · rw [htally, hbefore]
        exact hcount
      · unfold World.meetsLatch
        rw [hphase]
        simpa using ⟨happ, hby⟩
    | resets htype haccepted hidle hcount =>
      exact .resets ⟨command, hexec, by simp [htype], haccepted⟩ (hstate.trans hidle)
        (htally.trans hcount)
    | cancels hcancels hstopping hcount =>
      have hhome : w.motion.data.state = .homing := by
        unfold World.cancels at hcancels
        simp only [Bool.and_eq_true, beq_iff_eq] at hcancels
        exact hcancels.2
      exact .cancels ⟨hhome, hafter.symm.trans (hstate.trans hstopping)⟩ (htally.trans hcount)
    | halts _ hmoving hstopping hcount =>
      exact .halts (hbefore.trans hmoving) (hstate.trans hstopping) (htally.trans hcount)
    | starts haccepted htype => exact absurd ⟨command, hexec, htype, haccepted⟩ hmotion
  · have hstep : step (.motion r) w = w.goto (.report i .invalidState) := by
      simp only [step, motionStep, hphase, taskExecute, happ, if_false]
    refine .keeps ?_ ?_
    · rw [hafter, hbefore, hstep]
      rfl
    · rw [hstep]
      rfl

/-- The control section of a release. -/
lemma stepOutcome_update {r : Option MotionCommand} (hw : w.Accountable start)
    (hphase : w.task.phase = .update) : StepOutcome (.motion r) w := by
  have hafter := recordState_motionStep (w := w) (r := r) (by rw [hphase]; exact nofun)
  have hbefore : w.recordState = w.motion.data.state :=
    recordState_of_ne (by rw [hphase]; exact nofun)
  have hupdates : Updates (.motion r) w := ⟨r, rfl, hphase⟩
  have hstep : step (.motion r) w = taskUpdate w := by simp only [step, motionStep, hphase]
  have hstate : (step (.motion r) w).recordState = (controlSection w).2.motion.data.state := by
    rw [hafter, hstep]
    rfl
  have htally : (step (.motion r) w).tally = (controlSection w).2.tally := by
    rw [hstep]
    rfl
  have hmeets : w.meetsLatch = w.latchedInUpdate := by
    unfold World.meetsLatch
    rw [hphase]
  cases section_outcome hw.regular (hw.updatable hphase) with
  | keeps hsame hcount => exact .keeps (by rw [hstate, hbefore, hsame]) (htally.trans hcount)
  | rests hrest hrest' hcount =>
    exact .rests (hbefore ▸ hrest) (hstate ▸ hrest') (htally.trans hcount)
  | aborts hactive hlatched hcount hlatch =>
    exact .aborts (hbefore ▸ hactive) (hstate ▸ hlatched) (htally.trans hcount)
      fun h => ⟨r, rfl, h, hmeets.trans (hlatch (hbefore.symm.trans h))⟩
  | completes hmoving hidle hcount =>
    exact .completes (hbefore ▸ hmoving) (hstate.trans hidle)
      (htally.trans (hcount.trans (by rw [hbefore])))
  | coasts hstopping hidle hcount =>
    exact .coasts ⟨hupdates, hstopping, hafter.symm.trans (hstate.trans hidle)⟩
      (htally.trans hcount)
  | fails hfails => exact .fails ⟨hupdates, hfails⟩

/-- `motion_init` finds the controller as it was created, and starts it with no outcomes. -/
lemma stepOutcome_configure {r : Option MotionCommand} (hw : w.Accountable start)
    (hphase : w.task.phase = .configure) : StepOutcome (.motion r) w := by
  have hafter := recordState_motionStep (w := w) (r := r) (by rw [hphase]; exact nofun)
  have hbefore : w.recordState = w.motion.data.state :=
    recordState_of_ne (by rw [hphase]; exact nofun)
  have hfresh : w.motion = {} := hw.fresh (by rw [hphase]; rfl)
  have hstep : step (.motion r) w = taskConfigure w := by simp only [step, motionStep, hphase]
  cases hinit : motionInit w.toAxis motionDefaultConfig with
  | none =>
    have hrefused : step (.motion r) w = w := by
      rw [hstep]
      unfold taskConfigure
      rw [hinit]
    exact .keeps (by rw [hrefused]) (by rw [hrefused])
  | some x =>
    obtain ⟨-, pid, -, rfl⟩ := motionInit_some hinit
    have hconfigured : (step (.motion r) w).motion.data = { state := .idle } ∧
        (step (.motion r) w).safety = w.safety := by
      rw [hstep]
      unfold taskConfigure
      rw [hinit]
      exact ⟨rfl, rfl⟩
    refine .rests ?_ ?_ ?_
    · rw [hbefore, hfresh]
      rfl
    · rw [hafter, hconfigured.1]
      rfl
    · unfold World.tally
      rw [hconfigured.1, hconfigured.2, hfresh]

/-- **What a step does to the outcomes**, if it accepts no motion. -/
theorem stepOutcome (hw : w.Accountable start) (hmotion : ¬ AcceptsMotion a w) :
    StepOutcome a w := by
  by_cases hother : ∀ r, a ≠ .motion r
  · obtain ⟨htask, hsame⟩ := step_other (w := w) hother
    refine .keeps ?_ (sameOutcome_other hother).tally
    unfold World.recordState
    rw [htask, hsame]
  push Not at hother
  obtain ⟨r, rfl⟩ := hother
  have hkeeps : w.task.phase ≠ .sample → w.task.phase ≠ .reconcile →
      w.SameOutcome (step (.motion r) w) → StepOutcome (.motion r) w := by
    intro hsample hreconcile hsame
    refine .keeps ?_ hsame.tally
    rw [recordState_motionStep hsample, recordState_of_ne hreconcile, hsame.motion]
  cases hphase : w.task.phase with
  | sample => exact stepOutcome_sample hw hphase
  | reconcile => exact stepOutcome_reconcile hw hphase
  | execute i command => exact stepOutcome_execute hw hphase hmotion
  | update => exact stepOutcome_update hw hphase
  | configure => exact stepOutcome_configure hw hphase
  | _ =>
    refine hkeeps (by rw [hphase]; simp) (by rw [hphase]; simp) ?_
    simp only [step, motionStep, hphase]
    first
    | exact ⟨rfl, rfl⟩
    | unfold taskBegin
      split_ifs <;> exact ⟨rfl, rfl⟩
    | unfold taskReceive
      split
      · exact ⟨rfl, rfl⟩
      · dsimp only
        split_ifs <;> exact ⟨rfl, rfl⟩

/-! ### Entries -/

/-- An accepted `MOVE`, `MOVE_REL` or `HOME`, and what has been counted since. -/
structure Attempt where
  /-- It is a `HOME`. -/
  home : Bool
  /-- A `STOP` has ended the `HOME`. -/
  cancelled : Bool := false
  /-- The coast after a `STOP` is over. -/
  coasted : Bool := false
  /-- What the three counters of outcomes have gained. -/
  counted : ℕ := 0
  deriving DecidableEq, Repr

/-- What the counters gain in total: nothing for a move that a `STOP` ends and that coasts to rest,
one for every other motion. -/
def Attempt.due (x : Attempt) : ℕ := if x.coasted && !x.home then 0 else 1

/-- The sum of the counters. -/
def Tally.total (t : Tally) : ℕ := t.completedMoves.toNat + t.homed.toNat + t.abortedMoves.toNat

/-- What the counters have gained from `t` to `t'`. -/
def Tally.gain (t t' : Tally) : ℕ :=
  (t'.completedMoves - t.completedMoves).toNat + (t'.homed - t.homed).toNat +
    (t'.abortedMoves - t.abortedMoves).toNat

namespace Tally

omit [Rounding]

variable {t t' : Tally}

lemma gain_self (t : Tally) : t.gain t = 0 := by simp [gain]

lemma gain_abort (t : Tally) : t.gain t.abort = 1 := by
  have hone : t.abortedMoves + 1 - t.abortedMoves = 1 := by grind
  simp [gain, abort, hone]

lemma gain_complete (t : Tally) (state : AppState) : t.gain (t.complete state) = 1 := by
  have hone : ∀ n : UInt32, n + 1 - n = 1 := by grind
  unfold complete
  split_ifs <;> simp [gain, hone]

/-- A counter that wraps shows less than it has gained. -/
lemma total_le_add_gain (t t' : Tally) : t'.total ≤ t.total + t.gain t' := by
  have hcounter : ∀ n n' : UInt32, n'.toNat ≤ n.toNat + (n' - n).toNat := by
    intro n n'
    have hsum : n' = n + (n' - n) := by grind
    calc n'.toNat = (n + (n' - n)).toNat := congrArg UInt32.toNat hsum
      _ = (n.toNat + (n' - n).toNat) % 2 ^ 32 := UInt32.toNat_add _ _
      _ ≤ n.toNat + (n' - n).toNat := Nat.mod_le _ _
  have := hcounter t.completedMoves t'.completedMoves
  have := hcounter t.homed t'.homed
  have := hcounter t.abortedMoves t'.abortedMoves
  unfold total gain
  omega

end Tally

/-- The entry after a step that accepts no motion. -/
def Attempt.book (x : Attempt) (a : Action) (w : World) : Attempt :=
  { x with
    cancelled := x.cancelled || decide (Cancels a w)
    coasted := x.coasted || decide (Coasts a w)
    counted := x.counted + w.tally.gain (step a w).tally }

/-- An accepted motion opens an entry; what the counters gain is booked on the last one. -/
def bookOutcome (a : Action) (w : World) (l : List Attempt) : List Attempt :=
  if AcceptsMotion a w then
    { home := accepts (· == .home) a w, counted := w.tally.gain (step a w).tally } :: l
  else
    match l with
    | [] => []
    | x :: l => x.book a w :: l

/-- The entries of a run, the last one first. -/
def ledger (env : Environment) (as : List Action) : List Attempt :=
  Machine.watch step bookOutcome (runtimeInit env) [] as

/-- The last entry is a `HOME` that a `STOP` has ended. -/
def lastCancelled : List Attempt → Bool
  | [] => false
  | x :: _ => x.cancelled

/-- The step counts a motion twice, or leaves one uncounted: the update of a running `HOME` fails,
the coast of a cancelled `HOME` is interrupted, or a `RESET` is accepted during a motion that has
not been counted. -/
def Defective (a : Action) (w : World) (l : List Attempt) : Prop :=
  FailsSeek a w ∨ (lastCancelled l = true ∧ Interrupts a w) ∨
    (lastCancelled l = false ∧ AcceptsReset a w ∧ w.motion.data.state.active = true)

instance (a : Action) (w : World) (l : List Attempt) : Decidable (Defective a w l) :=
  inferInstanceAs (Decidable (_ ∨ (_ ∧ _) ∨ (_ ∧ _ ∧ _)))

/-! ### The balance -/

/-- What holds of an entry while its motion is in progress: a cancelled `HOME` has been counted, and
is coasting; nothing else has been counted. -/
structure Attempt.Open (x : Attempt) (state : AppState) : Prop where
  coasted : x.coasted = false
  counted : x.counted = if x.cancelled then 1 else 0
  cancelled : x.cancelled = true → x.home = true ∧ state = .stopping
  home : x.cancelled = false → (x.home = true ↔ state = .homing)

/-- The last entry fits the state of the controller. -/
def Attempt.Fits (x : Attempt) (state : AppState) : Prop :=
  if state.active then x.Open state else x.counted = x.due

/-- All entries but the last have been counted as they are due, and the last fits the state of the
controller; without an entry the controller rests. -/
structure Balanced (w : World) (l : List Attempt) : Prop where
  past : ∀ x ∈ l.tail, x.counted = x.due
  last : ∀ x ∈ l.head?, x.Fits w.recordState
  rest : l = [] → w.recordState.active = false
  total : w.tally.total ≤ (l.map Attempt.counted).sum

omit [Rounding] in
lemma balanced_runtimeInit (env : Environment) : Balanced (runtimeInit env) [] :=
  ⟨nofun, nofun, fun _ => rfl, le_rfl⟩

variable {l : List Attempt} {x : Attempt}

omit [Rounding] in
/-- In a controller at rest every entry has been counted as it is due. -/
lemma Balanced.settled (h : Balanced w l) (hrest : w.recordState.active = false) :
    ∀ x ∈ l, x.counted = x.due := by
  cases l with
  | nil => exact nofun
  | cons y l =>
    have hlast := h.last y rfl
    unfold Attempt.Fits at hlast
    rw [if_neg (by rw [hrest]; exact nofun)] at hlast
    intro x hmem
    rcases List.mem_cons.mp hmem with rfl | hpast
    · exact hlast
    · exact h.past x hpast

/-- A motion in progress is the one that the record belongs to. -/
lemma World.Accountable.recordState_of_active (hw : w.Accountable start)
    (h : w.motion.data.state.active = true) : w.recordState = w.motion.data.state := by
  refine if_neg fun hfailed => ?_
  rw [hw.failed hfailed.1 hfailed.2] at h
  exact absurd h nofun

lemma Cancels.states (hw : w.Accountable start) (h : Cancels a w) :
    w.recordState = .homing ∧ (step a w).recordState = .stopping := by
  have hbefore := hw.recordState_of_active (by rw [h.1]; rfl)
  have hafter := (hw.step a).recordState_of_active (by rw [h.2]; rfl)
  exact ⟨hbefore.trans h.1, hafter.trans h.2⟩

lemma Coasts.states (h : Coasts a w) :
    w.recordState = .stopping ∧ (step a w).recordState = .idle := by
  obtain ⟨⟨r, rfl, hphase⟩, hbefore, hafter⟩ := h
  refine ⟨(recordState_of_ne (by rw [hphase]; exact nofun)).trans hbefore, ?_⟩
  exact (recordState_motionStep (by rw [hphase]; exact nofun)).trans hafter

/-- The entry after a step that neither cancels a `HOME` nor ends a coast. -/
lemma Attempt.book_of_not (x : Attempt) (hcancels : ¬ Cancels a w) (hcoasts : ¬ Coasts a w) :
    x.book a w = { x with counted := x.counted + w.tally.gain (step a w).tally } := by
  simp [Attempt.book, hcancels, hcoasts]

omit [Rounding] in
lemma Attempt.fits_of_active {state : AppState} (h : state.active = true) :
    x.Fits state ↔ x.Open state := by
  simp [Attempt.Fits, h]

omit [Rounding] in
lemma Attempt.fits_of_rest {state : AppState} (h : state.active = false) :
    x.Fits state ↔ x.counted = x.due := by
  simp [Attempt.Fits, h]

omit [Rounding] in
/-- A running motion that was not cancelled has not been counted. -/
lemma Attempt.Open.not_cancelled {state : AppState} (h : x.Open state) (hne : state ≠ .stopping) :
    x.cancelled = false := by
  by_contra hcancelled
  exact hne (h.cancelled (by simpa using hcancelled)).2

omit [Rounding] in
/-- A motion in progress that has not been cancelled ends with its count. -/
lemma Attempt.Open.count {state : AppState} (h : x.Open state) (hcancelled : x.cancelled = false) :
    { x with counted := x.counted + 1 }.counted = { x with counted := x.counted + 1 }.due := by
  have hcounted := h.counted
  rw [hcancelled] at hcounted
  simp [Attempt.due, h.coasted, hcounted]

omit [Rounding] in
/-- A cancelled `HOME` has been counted as it is due. -/
lemma Attempt.Open.settled {state : AppState} (h : x.Open state) (hcancelled : x.cancelled = true) :
    x.counted = x.due := by
  have hcounted := h.counted
  rw [hcancelled] at hcounted
  simp [Attempt.due, h.coasted, hcounted]

omit [Rounding] in
/-- A `MOVE` that is halted coasts, and has not been counted. -/
lemma Attempt.Open.halt (h : x.Open .moving) : x.Open .stopping := by
  have hcancelled := h.not_cancelled nofun
  refine ⟨h.coasted, h.counted, fun htrue => ?_, fun _ => ?_⟩
  · exact absurd (hcancelled.symm.trans htrue) nofun
  · exact iff_of_false (fun hhome => absurd ((h.home hcancelled).mp hhome) nofun) nofun

/-- A `STOP` that cancels a running `HOME` counts it, and it coasts. -/
lemma Attempt.Open.cancel (h : x.Open .homing) (hcancels : Cancels a w) (hcoasts : ¬ Coasts a w)
    (htally : (step a w).tally = w.tally.abort) : (x.book a w).Open .stopping := by
  have hcancelled := h.not_cancelled nofun
  have hcounted := h.counted
  rw [hcancelled] at hcounted
  refine ⟨?_, ?_, fun _ => ⟨(h.home hcancelled).mpr rfl, rfl⟩, fun hnot => ?_⟩
  · simp [Attempt.book, hcoasts, h.coasted]
  · simp [Attempt.book, htally, Tally.gain_abort, hcancels, hcounted]
  · simp [Attempt.book, hcancels] at hnot

/-- The end of a coast is not counted: a cancelled `HOME` has been, and a halted `MOVE` is not
due. -/
lemma Attempt.Open.coast (h : x.Open .stopping) (hcoasts : Coasts a w)
    (htally : (step a w).tally = w.tally) : (x.book a w).counted = (x.book a w).due := by
  have hcounted := h.counted
  unfold Attempt.book Attempt.due
  rw [htally, Tally.gain_self, hcounted]
  cases hcancelled : x.cancelled with
  | true => simp [(h.cancelled hcancelled).1, hcoasts]
  | false =>
    have hhome : x.home = false := by
      rw [Bool.eq_false_iff, ne_eq, h.home hcancelled]
      exact nofun
    simp [hhome, hcoasts]

/-- **Step lemma.**  A step that is not defective and accepts no motion keeps an entry fitting. -/
lemma Attempt.Fits.book (hw : w.Accountable start) (ho : StepOutcome a w)
    (hd : ¬ Defective a w (x :: l)) (hx : x.Fits w.recordState) :
    (x.book a w).Fits (MotionFirmware.step a w).recordState := by
  have hbook : ¬ Cancels a w → ¬ Coasts a w → x.book a w =
      { x with counted := x.counted + w.tally.gain (MotionFirmware.step a w).tally } :=
    x.book_of_not
  cases ho with
  | keeps hstate htally =>
    have hcancels : ¬ Cancels a w := by
      intro h
      obtain ⟨hhome, hstopping⟩ := h.states hw
      rw [hstate, hhome] at hstopping
      exact absurd hstopping nofun
    have hcoasts : ¬ Coasts a w := by
      intro h
      obtain ⟨hstopping, hidle⟩ := h.states
      rw [hstate, hstopping] at hidle
      exact absurd hidle nofun
    rw [hbook hcancels hcoasts, htally, Tally.gain_self, hstate]
    exact hx
  | rests hbefore hafter htally =>
    have hcancels : ¬ Cancels a w := fun h => absurd ((h.states hw).1 ▸ hbefore) nofun
    have hcoasts : ¬ Coasts a w := fun h => absurd (h.states.1 ▸ hbefore) nofun
    rw [hbook hcancels hcoasts, htally, Tally.gain_self, fits_of_rest hafter]
    exact (fits_of_rest hbefore).mp hx
  | aborts hbefore hafter htally hinterrupts =>
    have hcancels : ¬ Cancels a w := fun h => absurd ((h.states hw).2 ▸ hafter) nofun
    have hcoasts : ¬ Coasts a w := fun h => absurd (h.states.2 ▸ hafter) nofun
    have hopen := (fits_of_active hbefore).mp hx
    have hcancelled : x.cancelled = false := by
      by_contra hcancelled
      have htrue : x.cancelled = true := by simpa using hcancelled
      exact hd (Or.inr (Or.inl ⟨htrue, hinterrupts (hopen.cancelled htrue).2⟩))
    rw [hbook hcancels hcoasts, htally, Tally.gain_abort, fits_of_rest (active_of_latched hafter)]
    exact hopen.count hcancelled
  | completes hbefore hafter htally =>
    have hcancels : ¬ Cancels a w := fun h => absurd ((h.states hw).2 ▸ hafter) nofun
    have hne : w.recordState ≠ .stopping := by
      rcases hbefore with h | h <;> rw [h] <;> exact nofun
    have hactive : w.recordState.active = true := by
      rcases hbefore with h | h <;> rw [h] <;> rfl
    have hopen := (fits_of_active hactive).mp hx
    rw [hbook hcancels fun h => hne h.states.1, htally, Tally.gain_complete,
      fits_of_rest (by rw [hafter]; rfl)]
    exact hopen.count (hopen.not_cancelled hne)
  | coasts hcoasts htally =>
    obtain ⟨hbefore, hafter⟩ := hcoasts.states
    have hopen := (fits_of_active (by rw [hbefore]; rfl)).mp hx
    rw [hbefore] at hopen
    rw [fits_of_rest (by rw [hafter]; rfl)]
    exact hopen.coast hcoasts htally
  | cancels hcancels htally =>
    obtain ⟨hbefore, hafter⟩ := hcancels.states hw
    have hcoasts : ¬ Coasts a w := fun h => absurd (h.states.2 ▸ hafter) nofun
    have hopen := (fits_of_active (by rw [hbefore]; rfl)).mp hx
    rw [hbefore] at hopen
    rw [fits_of_active (by rw [hafter]; rfl), hafter]
    exact hopen.cancel hcancels hcoasts htally
  | halts hbefore hafter htally =>
    have hcancels : ¬ Cancels a w := fun h => absurd ((h.states hw).1 ▸ hbefore) nofun
    have hcoasts : ¬ Coasts a w := fun h => absurd (h.states.1 ▸ hbefore) nofun
    have hopen := (fits_of_active (by rw [hbefore]; rfl)).mp hx
    rw [hbefore] at hopen
    rw [hbook hcancels hcoasts, htally, Tally.gain_self, fits_of_active (by rw [hafter]; rfl),
      hafter]
    exact hopen.halt
  | resets haccepts hafter htally =>
    have hcancels : ¬ Cancels a w := fun h => absurd ((h.states hw).2 ▸ hafter) nofun
    obtain ⟨command, ⟨r, i, rfl, hphase, happ⟩, htype, haccepted⟩ := haccepts
    have hcoasts : ¬ Coasts (.motion r) w := by
      rintro ⟨⟨r', -, hupdate⟩, -⟩
      rw [hphase] at hupdate
      exact absurd hupdate nofun
    have hbefore : w.recordState = w.motion.data.state :=
      recordState_of_ne (by rw [hphase]; exact nofun)
    rw [hbook hcancels hcoasts, htally, Tally.gain_self, fits_of_rest (by rw [hafter]; rfl)]
    cases hactive : w.recordState.active with
    | false => exact (fits_of_rest hactive).mp hx
    | true =>
      have hopen := (fits_of_active hactive).mp hx
      have hcancelled : x.cancelled = true := by
        by_contra hcancelled
        exact hd (Or.inr (Or.inr ⟨by simpa [lastCancelled] using hcancelled,
          ⟨command, ⟨r, i, rfl, hphase, happ⟩, htype, haccepted⟩, hbefore ▸ hactive⟩))
      exact hopen.settled hcancelled
  | fails hfails => exact absurd (Or.inl hfails) hd

/-- A motion is accepted at rest, and goes on or is latched at once. -/
lemma starts_of_acceptsMotion (hw : w.Accountable start) (h : AcceptsMotion a w) :
    w.recordState = .idle ∧
      ((step a w).recordState = (if accepts (· == .home) a w then .homing else .moving) ∧
          (step a w).tally = w.tally ∨
        ((step a w).recordState = .fault ∨ (step a w).recordState = .estop) ∧
          (step a w).tally = w.tally.abort) := by
  obtain ⟨command, ⟨r, i, rfl, hphase, happ⟩, hstarts, haccepted⟩ := h
  have hbefore : w.recordState = w.motion.data.state :=
    recordState_of_ne (by rw [hphase]; simp)
  have hstep : step (.motion r) w = (runtimeSafetyCommand w command).2.goto
      (.report i (runtimeSafetyCommand w command).1) := by
    simp only [step, motionStep, hphase, taskExecute, happ, if_true]
  have hstate : (step (.motion r) w).recordState =
      (runtimeSafetyCommand w command).2.motion.data.state := by
    rw [recordState_motionStep (by rw [hphase]; simp), hstep]
    rfl
  have htally : (step (.motion r) w).tally = (runtimeSafetyCommand w command).2.tally := by
    rw [hstep, goto_tally]
  have hhome : accepts (· == .home) (.motion r) w = true ↔ command.type = .home := by
    rw [← accepts_iff]
    constructor
    · rintro ⟨command', ⟨r', i', -, hphase', -⟩, htype, -⟩
      obtain ⟨-, rfl⟩ := Phase.execute.inj (hphase.symm.trans hphase')
      simpa using htype
    · exact fun htype => ⟨command, ⟨r, i, rfl, hphase, happ⟩, by simp [htype], haccepted⟩
  rw [hbefore, hstate, htally]
  simp only [hhome]
  have hnot : ∀ t : CommandType, t.startsMotion = false → command.type ≠ t := by
    rintro t ht rfl
    exact absurd (hstarts.symm.trans ht) (by decide)
  cases command_outcome hw.regular.settled command with
  | keeps _ _ hrefused => exact absurd (hstarts.symm.trans (hrefused haccepted)) (by decide)
  | latches _ _ hrefused => exact absurd (hstarts.symm.trans (hrefused haccepted)) (by decide)
  | resets htype => exact absurd htype (hnot _ rfl)
  | cancels hcancels =>
    unfold World.cancels at hcancels
    simp only [Bool.and_eq_true, beq_iff_eq] at hcancels
    exact absurd hcancels.1.1 (hnot _ rfl)
  | halts htype => exact absurd htype (hnot _ rfl)
  | starts _ _ hidle hnext => exact ⟨hidle, hnext⟩

/-- **Step lemma.**  A step that is not defective keeps the balance. -/
theorem Balanced.step (hw : w.Accountable start) (hd : ¬ Defective a w l) (hb : Balanced w l) :
    Balanced (MotionFirmware.step a w) (bookOutcome a w l) := by
  have htotal := Tally.total_le_add_gain w.tally (MotionFirmware.step a w).tally
  by_cases hmotion : AcceptsMotion a w
  · obtain ⟨hidle, hnext⟩ := starts_of_acceptsMotion hw hmotion
    have hsettled := hb.settled (by rw [hidle]; rfl)
    unfold bookOutcome
    rw [if_pos hmotion]
    refine ⟨hsettled, fun x hx => ?_, nofun, ?_⟩
    · obtain rfl := Option.some.inj hx
      rcases hnext with ⟨hstate, htally⟩ | ⟨hstate, htally⟩
      · have hactive : (MotionFirmware.step a w).recordState.active = true := by
          rw [hstate]
          split_ifs <;> rfl
        rw [Attempt.fits_of_active hactive, htally, Tally.gain_self]
        refine ⟨rfl, rfl, nofun, fun _ => ?_⟩
        rw [hstate]
        cases accepts (· == .home) a w <;> simp
      · rw [Attempt.fits_of_rest (active_of_latched hstate), htally, Tally.gain_abort]
        rfl
    · have := hb.total
      simp only [List.map_cons, List.sum_cons]
      omega
  · have ho := stepOutcome hw hmotion
    unfold bookOutcome
    rw [if_neg hmotion]
    cases l with
    | nil =>
      have hrest := hb.rest rfl
      have hkeeps : (MotionFirmware.step a w).recordState.active = false ∧
          (MotionFirmware.step a w).tally = w.tally := by
        cases ho with
        | keeps hstate htally => exact ⟨hstate ▸ hrest, htally⟩
        | rests _ hafter htally => exact ⟨hafter, htally⟩
        | resets _ hafter htally => exact ⟨by rw [hafter]; rfl, htally⟩
        | aborts hbefore => exact absurd (hrest.symm.trans hbefore) nofun
        | completes hbefore => rcases hbefore with h | h <;> exact absurd (h ▸ hrest) nofun
        | coasts hcoasts => exact absurd (hcoasts.states.1 ▸ hrest) nofun
        | cancels hcancels => exact absurd ((hcancels.states hw).1 ▸ hrest) nofun
        | halts hbefore => exact absurd (hbefore ▸ hrest) nofun
        | fails hfails => exact absurd (Or.inl hfails) hd
      exact ⟨nofun, nofun, fun _ => hkeeps.1, hkeeps.2 ▸ hb.total⟩
    | cons x l =>
      refine ⟨hb.past, fun y hy => ?_, nofun, ?_⟩
      · obtain rfl := Option.some.inj hy
        exact (hb.last x rfl).book hw ho hd
      · have := hb.total
        simp only [List.map_cons, List.sum_cons] at this ⊢
        change (MotionFirmware.step a w).tally.total ≤
          x.counted + w.tally.gain (MotionFirmware.step a w).tally + (l.map Attempt.counted).sum
        omega

/-! ### Runs -/

/-- The world and the entries of a run, performed together. -/
lemma run_watch_ledger (env : Environment) (as : List Action) :
    Machine.run (Machine.watchStep step bookOutcome) (runtimeInit env, []) as =
      (runtime env as, ledger env as) :=
  Prod.ext Machine.run_watchStep_fst rfl

/-- There is an entry for every accepted motion. -/
lemma length_ledger (env : Environment) (as : List Action) :
    (ledger env as).length =
      (Machine.outputs step (accepts CommandType.startsMotion)
        (runtimeInit env) as).count true := by
  have hlast : ∀ (a : Action) (w : World) (l : List Attempt), (bookOutcome a w l).length =
      l.length + [accepts CommandType.startsMotion a w].count true := by
    intro a w l
    unfold bookOutcome
    split_ifs with h
    · rw [(accepts_iff _ a w).mp h]
      rfl
    · have hrefused : accepts CommandType.startsMotion a w = false :=
        Bool.eq_false_iff.mpr fun ht => h ((accepts_iff _ a w).mpr ht)
      cases l <;> simp [hrefused]
  induction as using List.reverseRecOn with
  | nil => rfl
  | append_singleton as a ih =>
    have hledger : ledger env (as ++ [a]) = bookOutcome a (runtime env as) (ledger env as) :=
      Machine.watch_append
    rw [hledger, hlast, ih, Machine.outputs_append, List.count_append]
    rfl

omit [Rounding] in
/-- Nothing is counted more than once. -/
lemma Balanced.counted_le (h : Balanced w l) : ∀ x ∈ l, x.counted ≤ 1 := by
  have hdue : ∀ x : Attempt, x.due ≤ 1 := by
    intro x
    unfold Attempt.due
    split_ifs <;> decide
  cases l with
  | nil => exact nofun
  | cons y l =>
    intro x hmem
    rcases List.mem_cons.mp hmem with rfl | hpast
    · have hlast := h.last x rfl
      unfold Attempt.Fits at hlast
      split_ifs at hlast
      · rw [hlast.counted]
        split_ifs <;> decide
      · exact hlast ▸ hdue x
    · exact h.past x hpast ▸ hdue x

/-- **Outcome ledger.**  In a run without defective steps no accepted motion is counted twice; when
a release ends in `IDLE`, `FAULT` or `ESTOP` every motion has been counted once, save the moves that
a `STOP` has ended and that have coasted to rest; and the counters never exceed the number of
accepted motions. -/
theorem outcome_ledger (env : Environment) (as : List Action)
    (h : Machine.Along (Machine.watchStep step bookOutcome) (fun a v => ¬ Defective a v.1 v.2)
      (runtimeInit env, []) as) :
    (∀ x ∈ ledger env as, x.counted ≤ 1) ∧
    ((runtime env as).task.phase = .begin →
      (runtime env as).motion.data.state = .idle ∨ (runtime env as).motion.data.state = .fault ∨
        (runtime env as).motion.data.state = .estop →
      ∀ x ∈ ledger env as, x.counted = x.due) ∧
    (runtime env as).tally.total ≤ ((ledger env as).map Attempt.counted).sum ∧
    ((ledger env as).map Attempt.counted).sum ≤
      (Machine.outputs step (accepts CommandType.startsMotion)
        (runtimeInit env) as).count true := by
  have hrun := Machine.run_invariant
    (I := fun v : World × List Attempt => v.1.Accountable env.start ∧ Balanced v.1 v.2)
    (fun a v hv hd => ⟨hv.1.step a, hv.2.step hv.1 hd⟩)
    ⟨accountable_runtimeInit env, balanced_runtimeInit env⟩ h
  rw [run_watch_ledger] at hrun
  have hbalanced : Balanced (runtime env as) (ledger env as) := hrun.2
  refine ⟨hbalanced.counted_le, fun hphase hstate => ?_, hbalanced.total, ?_⟩
  · refine hbalanced.settled ?_
    rw [recordState_of_ne (by rw [hphase]; exact nofun)]
    rcases hstate with h | h | h <;> rw [h] <;> rfl
  · rw [← length_ledger]
    have hsum := List.sum_le_card_nsmul ((ledger env as).map Attempt.counted) 1 (by
      intro n hn
      obtain ⟨x, hx, rfl⟩ := List.mem_map.mp hn
      exact hbalanced.counted_le x hx)
    simpa using hsum

omit [Rounding] in
/-- A `HOME` that a `STOP` ends is counted once. -/
theorem outcome_ledger_stop :
    (@ledger Binary32.rounding contactBounce
        (startUp ++ release [⟨.home, 0⟩] ++ release [⟨.stop, 0⟩])).map Attempt.counted = [1] ∧
      ∀ x ∈ @ledger Binary32.rounding contactBounce
        (startUp ++ release [⟨.home, 0⟩] ++ release [⟨.stop, 0⟩]), x.counted ≤ 1 :=
  ⟨by decide +kernel, (@outcome_ledger Binary32.rounding contactBounce
    (startUp ++ release [⟨.home, 0⟩] ++ release [⟨.stop, 0⟩]) (by decide +kernel)).1⟩

/-- No switch is active, and time advances between releases: the three that follow `startUp` read
20, 30 and 40 ms. -/
def steadyReleases : Environment where
  gpio _ := some {}
  rawCount _ := some 1000
  clock n := if n < 8 then n else if n < 11 then 20 else if n < 13 then 30 else 40

/-- A `HOME`, a `STOP` in the next release, and an `ESTOP` in the one after it. -/
def estopAfterStop : List Action :=
  startUp ++ release [⟨.home, 0⟩] ++ release [⟨.stop, 0⟩] ++ release [⟨.estop, 0⟩]

omit [Rounding] in
/-- The seek through the bounce of the contact is counted twice, and so is a `HOME` that a `STOP`
ends and an `ESTOP` of the next release interrupts, without an internal fault; a `RESET` that
follows a trip in the same release leaves the `HOME` uncounted in `IDLE`. -/
theorem outcome_ledger_defects :
    (@ledger Binary32.rounding contactBounce seekThroughBounce).map Attempt.counted = [2] ∧
      (@ledger Binary32.rounding steadyReleases estopAfterStop).map Attempt.counted = [2] ∧
      (runtime32 steadyReleases estopAfterStop).safety.state = .estop ∧
      (runtime32 steadyReleases estopAfterStop).safety.internalActive = false ∧
      (runtime32 estopGlitch (resetAfterTrip ++ [.motion none])).task.phase = .begin ∧
      (runtime32 estopGlitch (resetAfterTrip ++ [.motion none])).motion.data.state = .idle ∧
      (@ledger Binary32.rounding estopGlitch
        (resetAfterTrip ++ [.motion none])).map Attempt.counted = [0] := by
  decide +kernel

end MotionFirmware
