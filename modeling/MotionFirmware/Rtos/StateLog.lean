import MotionFirmware.Rtos.Diagnostics
import MotionFirmware.Rtos.Ledger

/-!
# The log of the state

Motion reports every change of its state with a text.  The texts name the edges of a state diagram,
and whoever reads them in order with the diagram at hand arrives at the state of the controller.
The other texts of Motion are passed over.
-/

namespace MotionFirmware

/-- The changes of the state that `transition` may be told of. -/
def stateEdge : AppState → AppState → Bool
  | .idle, .moving | .idle, .homing | .idle, .fault | .idle, .estop => true
  | .moving, .idle | .moving, .stopping | .moving, .fault | .moving, .estop => true
  | .homing, .idle | .homing, .stopping | .homing, .fault | .homing, .estop => true
  | .stopping, .idle | .stopping, .fault | .stopping, .estop => true
  | .fault, .idle | .fault, .estop | .estop, .idle => true
  | _, _ => false

/-- The states of the diagram. -/
def diagramStates : List AppState := [.idle, .moving, .stopping, .homing, .fault, .estop]

/-- The state to which the text leads from `s`. -/
def announced (s : AppState) (message : CString) : Option AppState :=
  diagramStates.find? fun t => stateEdge s t && transition s t == [message]

/-- The text names an edge of the diagram. -/
def isStateText (message : CString) : Bool :=
  diagramStates.any fun s => (announced s message).isSome

/-- The reader of the log: the state after the report, and nothing after a text that names no edge
from the state before it. -/
def readReport (s : Option AppState) : Report → Option AppState
  | .text message => if isStateText message then s.bind (announced · message) else s
  | _ => s

/-- The state at which a reader of the reports arrives. -/
def readLog (log : List Report) : Option AppState := log.foldl readReport (some .idle)

variable [Rounding]

/-- The reports of Motion, collected over a run. -/
def observeReports (a : Action) (w : World) (log : List Report) : List Report :=
  match a with
  | .motion received => log ++ motionReports w (motionStep w received) received
  | _ => log

/-- What Motion reports in a run from `runtime_init`. -/
def motionLog (env : Environment) (as : List Action) : List Report :=
  Machine.watch step observeReports (runtimeInit env) [] as

section Reader

omit [Rounding]

variable {s t : AppState} {log : List Report} {state : Option AppState}

/-- The text of an edge leads along it. -/
lemma readReport_edge (h : stateEdge s t = true) :
    ∃ message, transition s t = [message] ∧ readReport (some s) (.text message) = some t := by
  cases s <;> cases t <;>
    first | exact absurd h (by decide) | exact ⟨_, rfl, by decide +kernel⟩

/-- A state that does not change is not reported. -/
lemma transition_self (s : AppState) : transition s s = [] := by
  cases s <;> decide

/-- The report says nothing of the state. -/
def Silent : Report → Bool
  | .text message => !isStateText message
  | _ => true

lemma readReport_silent {report : Report} (h : Silent report = true) :
    readReport state report = state := by
  cases report with
  | text message =>
    have hother : ¬ isStateText message = true := by simpa [Silent] using h
    exact if_neg hother
  | command | motion => rfl

/-- Reports that say nothing of the state are passed over. -/
lemma readLog_silent (h : log.all Silent = true) : log.foldl readReport state = state := by
  induction log with
  | nil => rfl
  | cons report log ih =>
    simp only [List.all_cons, Bool.and_eq_true] at h
    rw [List.foldl_cons, readReport_silent h.1, ih h.2]

/-- What `transition` says of a state that stays or follows an edge. -/
lemma readLog_transition (h : t = s ∨ stateEdge s t = true) :
    ((transition s t).map Report.text).foldl readReport (some s) = some t := by
  rcases h with rfl | hedge
  · rw [transition_self]
    rfl
  · obtain ⟨message, htext, hread⟩ := readReport_edge hedge
    rw [htext]
    exact hread

end Reader

/-! ### The state and the latch -/

variable {k : OperationKind} {w w' : World} {a : Action} {start : UInt32}

/-- While the safety manager is in the state `latch`, a controller may be in the state `s`. -/
structure Admits (latch s : AppState) : Prop where
  fault : s = .fault → latch ≠ .idle
  estop : s = .estop → latch = .estop

omit [Rounding] in
lemma admits_of_ne {latch s : AppState} (hfault : s ≠ .fault) (hestop : s ≠ .estop) :
    Admits latch s :=
  ⟨fun h => absurd h hfault, fun h => absurd h hestop⟩

omit [Rounding] in
/-- A controller that has adopted the latch is admitted. -/
lemma admits_self {s : AppState} : Admits s s :=
  ⟨fun h => by rw [h]; exact nofun, id⟩

omit [Rounding] in
lemma Admits.mono {latch latch' s : AppState} (h : Admits latch s)
    (hlatched : latch ≠ .idle → latch' ≠ .idle) (hestopped : latch = .estop → latch' = .estop) :
    Admits latch' s :=
  ⟨fun hs => hlatched (h.fault hs), fun hs => hestopped (h.estop hs)⟩

omit [Rounding] in
/-- After `runtime_safety_sync` the controller is admitted. -/
lemma admits_sync (hw : Admits w.safety.state w.motion.data.state) :
    Admits (runtimeSafetySync w).safety.state (runtimeSafetySync w).motion.data.state := by
  have hsafety : (runtimeSafetySync w).safety.state = w.safety.state := by simp
  by_cases hidle : w.safety.state = .idle
  · rwa [runtimeSafetySync_of_idle hidle]
  · rw [hsafety, runtimeSafetySync_state hidle]
    exact admits_self

/-- **Step lemma.**  Every operation leaves the controller in a state that the latch admits. -/
theorem Operation.admits (h : Operation k w w')
    (hw : Admits w.safety.state w.motion.data.state) :
    Admits w'.safety.state w'.motion.data.state := by
  have hfail : ∀ y : Axis, y.motion.data.state = w.motion.data.state →
      Admits w.safety.state (fail y).motion.data.state := by
    intro y hy
    rw [fail_state, hy]
    split_ifs
    · exact admits_of_ne nofun nofun
    · exact hw
  have hupdated : Admits w.safety.state w.motion.updated.data.state := by
    rcases updated_state w.motion with h | ⟨-, h⟩ <;> rw [h]
    · exact hw
    · exact admits_of_ne nofun nofun
  cases hp : k.passive with
  | true =>
    have hk : k ≠ .reset := by
      rintro rfl
      exact absurd hp nofun
    rw [h.motion_eq hp]
    exact hw.mono (h.latched hk) (h.estopped hk)
  | false =>
    cases h with
    | configure h =>
      obtain ⟨-, pid, -, rfl⟩ := motionInit_some h
      exact admits_of_ne nofun nofun
    | sample _ dt =>
      rcases motionSample_cases w.toAxis dt with ⟨y, -, hstate, heq⟩ | ⟨count, -, -, heq⟩
      · rw [heq]
        exact hfail y hstate
      · rw [heq]
        exact hw
    | sync => exact admits_sync hw
    | reset => exact admits_of_ne nofun nofun
    | stopHoming => exact admits_of_ne nofun nofun
    | home hidle h =>
      obtain ⟨-, -, -, heq⟩ := homingBegin_accepted h
      rw [heq]
      exact admits_of_ne nofun nofun
    | halt hidle =>
      have hstate := halt_state w.motion
      split_ifs at hstate
      · exact admits_of_ne (hstate ▸ nofun) (hstate ▸ nofun)
      · rw [hstate]
        exact hw
    | move => exact admits_of_ne nofun nofun
    | @drive _ dt =>
      rcases motionUpdate_cases w.toAxis dt with ⟨y, -, hstate, heq⟩ | ⟨-, heq⟩ |
        ⟨out, pid, hmoving, -, heq⟩
      · rw [heq]
        exact hfail y hstate
      · rw [heq]
        exact hupdated
      · rw [heq]
        exact hupdated
    | seek _ hsame =>
      rw [hsame.state]
      exact hw
    | @expire _ now hhome =>
      refine admits_sync ?_
      rw [raiseTimeout_motion]
      exact admits_of_ne (hhome ▸ nofun) (hhome ▸ nofun)
    | complete => exact admits_of_ne nofun nofun
    | abort => exact hw
    | _ => simp [OperationKind.passive] at hp

/-! ### Adopting a latch -/

/-- The controller shows the state of a latch. -/
def World.Adopted (w : World) : Prop :=
  w.safety.state ≠ .idle ∧ w.motion.data.state = w.safety.state

omit [Rounding] in
lemma World.Adopted.goto (h : w.Adopted) (phase : Phase) : (w.goto phase).Adopted := h

omit [Rounding] in
lemma adopted_sync (h : w.safety.state ≠ .idle) : (runtimeSafetySync w).Adopted := by
  have hsafety : (runtimeSafetySync w).safety.state = w.safety.state := by simp
  exact ⟨hsafety ▸ h, (runtimeSafetySync_state h).trans hsafety.symm⟩

omit [Rounding] in
lemma adopted_raiseInternal (w : World) (now : UInt32) :
    (runtimeSafetySync (raiseInternal w now)).Adopted := by
  refine adopted_sync ?_
  rcases raiseInternal_latched w now with h | h <;> rw [h] <;> exact nofun

lemma adopted_reevaluate (h : w.safety.state ≠ .idle) : (reevaluate w).Adopted := by
  refine adopted_sync ?_
  simpa using safetyEvaluate_state_ne_idle (c := evaluation w.publish) h

/-- The control section adopts the latch that it finds. -/
lemma adopted_controlSection (hs : w.safety.Settled) (hne : w.safety.state ≠ .idle)
    (hw : w.Updatable) : (controlSection w).2.Adopted := by
  have hsync := adopted_sync hne
  have hsettled : (runtimeSafetySync w).safety.Settled := by
    simpa [SafetyManager.Settled] using hs
  generalize hv : runtimeSafetySync w = v at hsync hsettled
  have hrest : ∀ u : World, u.Adopted → u.safety.Settled →
      u.motion.data.state ≠ .moving ∧ u.motion.data.state ≠ .stopping := by
    intro u hu hu'
    rcases hu'.resolve_left hu.1 with h | h <;> rw [hu.2, h] <;> simp
  have hshown : v.shown.Adopted ∧ v.shown.safety.Settled := by
    unfold World.shown
    split_ifs
    · refine ⟨adopted_reevaluate hsync.1, ?_⟩
      simpa [reevaluate, SafetyManager.Settled] using settled_evaluate (w := v.publish) hsettled
    · exact ⟨hsync, hsettled⟩
  have hattempt : (attemptUpdate v).1 = true → (attemptUpdate v).2.Adopted := by
    unfold attemptUpdate
    split_ifs with hsampled
    · intro _
      have hsampled' : w.task.sampled = true := by
        rw [← hv, runtimeSafetySync_task] at hsampled
        exact hsampled
      have hinit : v.motion.initialized = true := by
        rw [← hv]
        exact (runtimeSafetySync_config w).2.1.trans hw.initialized
      have hfeedback : v.motion.data.feedbackValid = true := by
        rw [← hv, (runtimeSafetySync_sampling w).1]
        exact (hw.valid hsampled').1
      have hdt : badStep v.task.dt = false := by
        rw [← hv, runtimeSafetySync_task]
        exact (hw.valid hsampled').2
      have hhome : v.motion.data.state ≠ .homing := by
        rcases hsettled.resolve_left hsync.1 with h | h <;> rw [hsync.2, h] <;> simp
      have hupdate := @motionUpdate_rests _ v.shown.toAxis v.task.dt
        ((shown_initialized v).trans hinit) ((shown_feedbackValid v).trans hfeedback) hdt
      rw [runtimeControlUpdate_of_ne hhome]
      have hne := hrest v.shown hshown.1 hshown.2
      have hstate : v.shown.motion.updated.data.state = v.shown.motion.data.state :=
        (updated_state v.shown.motion).resolve_right fun h => not_or.mpr hne h.1
      rw [hupdate (by rw [hstate]; exact hne.1)]
      exact ⟨hshown.1.1, hstate.trans hshown.1.2⟩
    · simp
  unfold controlSection
  dsimp only
  rw [hv]
  split_ifs with hok
  · exact hattempt hok
  · exact adopted_raiseInternal _ _

/-- A command that finds a latch and is not an accepted `RESET` leaves the controller as it is, or
adopts the latch. -/
lemma adopted_command {command : MotionCommand} (hne : w.safety.state ≠ .idle)
    (hreset : (runtimeSafetyCommand w command).1 = .accepted → command.type ≠ .reset) :
    (runtimeSafetyCommand w command).2.motion = w.motion ∨
      (runtimeSafetyCommand w command).2.Adopted := by
  have hparked : w.parkedHome = false := by
    unfold World.parkedHome
    simp [hne]
  by_cases hestop : command.type = .estop
  · refine Or.inr ?_
    have hraised : (raiseEstop w).safety.state ≠ .idle := by simp
    simpa [runtimeSafetyCommand, hestop, commandEstop] using adopted_sync hraised
  · refine Or.inl ?_
    by_cases htype : command.type = .reset
    · have hcommand : runtimeSafetyCommand w command = commandReset w := by
        simp [runtimeSafetyCommand, htype]
      rw [hcommand] at hreset ⊢
      unfold commandReset at hreset ⊢
      rw [if_neg fun h => hne h.1] at hreset ⊢
      dsimp only at hreset ⊢
      cases hs : safetyReset (runtimeSafetyEvaluate w).safety with
      | none => exact runtimeSafetyEvaluate_motion w
      | some s =>
        rw [hs] at hreset
        exact absurd htype (hreset rfl)
    · simp [runtimeSafetyCommand, hestop, htype, hne, hparked]

/-- A sample leaves the state that the record belongs to. -/
lemma recordState_sample {r : Option MotionCommand} (hw : w.Accountable start)
    (hphase : w.task.phase = .sample) :
    (step (.motion r) w).recordState = w.recordState ∧
      (step (.motion r) w).recordState = (step (.motion r) w).task.beforeSafety := by
  have hbefore : w.recordState = w.motion.data.state :=
    recordState_of_ne (by rw [hphase]; exact nofun)
  have hfound := hw.found hphase
  have hstep : step (.motion r) w = taskSample w := by simp only [step, motionStep, hphase]
  rw [hstep, hbefore]
  rcases motionSample_cases w.toAxis w.task.dt with ⟨y, -, -, heq⟩ | ⟨count, -, -, heq⟩
  · simp [World.recordState, taskSample, heq, hfound]
  · simp [World.recordState, taskSample, heq, hfound, MotionController.accept]

/-- The sections without a call of the controller leave it as it is. -/
lemma motion_of_quiet {r : Option MotionCommand} (hearly : w.task.phase.early = false)
    (hsample : w.task.phase ≠ .sample) (hreconcile : w.task.phase ≠ .reconcile)
    (hexecute : ∀ i command, w.task.phase ≠ .execute i command) (hupdate : w.task.phase ≠ .update) :
    (step (.motion r) w).motion = w.motion := by
  cases hphase : w.task.phase with
  | create => exact absurd hearly (by rw [hphase]; decide)
  | configure => exact absurd hearly (by rw [hphase]; decide)
  | sample => exact absurd hphase hsample
  | reconcile => exact absurd hphase hreconcile
  | execute i command => exact absurd hphase (hexecute i command)
  | update => exact absurd hphase hupdate
  | begin =>
    have hstep : step (.motion r) w = taskBegin w := by simp only [step, motionStep, hphase]
    rw [hstep]
    unfold taskBegin
    split_ifs <;> rfl
  | receive i =>
    have hstep : step (.motion r) w = taskReceive w i r := by
      simp only [step, motionStep, hphase]
    rw [hstep]
    unfold taskReceive
    split
    · rfl
    · dsimp only
      split_ifs <;> rfl
  | anchor =>
    have hstep : step (.motion r) w = taskAnchor w := by simp only [step, motionStep, hphase]
    rw [hstep]
    rfl
  | clock =>
    have hstep : step (.motion r) w = taskClock w := by simp only [step, motionStep, hphase]
    rw [hstep]
    rfl
  | report i result =>
    have hstep : step (.motion r) w = taskReport w i result := by
      simp only [step, motionStep, hphase]
    rw [hstep]
    rfl

/-- **Step lemma.**  A step that finds a latch and accepts no `RESET` leaves the state as it is, or
adopts the latch. -/
lemma recordState_of_latched (hw : w.Accountable start) (hearly : w.task.phase.early = false)
    (hne : w.safety.state ≠ .idle) (hreset : ¬ AcceptsReset a w) :
    (step a w).recordState = w.recordState ∨
      (step a w).recordState = (step a w).safety.state := by
  by_cases hother : ∀ r, a ≠ .motion r
  · obtain ⟨htask, hmotion⟩ := step_other (w := w) hother
    refine Or.inl ?_
    unfold World.recordState
    rw [htask, hmotion]
  push Not at hother
  obtain ⟨r, rfl⟩ := hother
  by_cases hsample : w.task.phase = .sample
  · exact Or.inl (recordState_sample hw hsample).1
  have hafter := recordState_motionStep (r := r) hsample
  rw [hafter]
  by_cases hreconcile : w.task.phase = .reconcile
  · have hadopted : (taskReconcile w).Adopted := by
      unfold taskReconcile
      split_ifs
      · exact (adopted_sync hne).goto _
      · exact World.Adopted.goto (adopted_raiseInternal _ _) _
    have hstep : step (.motion r) w = taskReconcile w := by
      simp only [step, motionStep, hreconcile]
    rw [hstep]
    exact Or.inr hadopted.2
  rw [recordState_of_ne hreconcile]
  by_cases hupdate : w.task.phase = .update
  · have hstep : step (.motion r) w = taskUpdate w := by simp only [step, motionStep, hupdate]
    have hadopted := adopted_controlSection hw.regular.settled hne (hw.updatable hupdate)
    rw [hstep]
    exact Or.inr hadopted.2
  by_cases hexecute : ∃ i command, w.task.phase = .execute i command
  · obtain ⟨i, command, hphase⟩ := hexecute
    by_cases happ : w.task.app = .idle
    · have hstep : step (.motion r) w = (runtimeSafetyCommand w command).2.goto
          (.report i (runtimeSafetyCommand w command).1) := by
        simp only [step, motionStep, hphase, taskExecute, happ, if_true]
      have hrefused : (runtimeSafetyCommand w command).1 = .accepted → command.type ≠ .reset :=
        fun haccepted htype =>
          hreset ⟨command, ⟨r, i, rfl, hphase, happ⟩, by simp [htype], haccepted⟩
      rw [hstep]
      rcases adopted_command hne hrefused with hsame | hadopted
      · exact Or.inl (congrArg (fun m => m.data.state) hsame)
      · exact Or.inr hadopted.2
    · have hstep : step (.motion r) w = w.goto (.report i .invalidState) := by
        simp only [step, motionStep, hphase, taskExecute, happ, if_false]
      rw [hstep]
      exact Or.inl rfl
  push Not at hexecute
  exact Or.inl (by rw [motion_of_quiet hearly hsample hreconcile hexecute hupdate])

/-- The failing update of a seek ends in a latch. -/
lemma latched_of_failsSeek (h : FailsSeek a w) :
    w.recordState = .homing ∧
      ((step a w).recordState = .fault ∨ (step a w).recordState = .estop) := by
  obtain ⟨⟨r, rfl, hphase⟩, hfails⟩ := h
  unfold World.seekFails at hfails
  simp only [Bool.and_eq_true, beq_iff_eq, Bool.not_eq_true'] at hfails
  obtain ⟨⟨hidle, hhome⟩, hfailed⟩ := hfails
  have hsection : (controlSection w).1 = false := by
    rw [controlSection_result, runtimeSafetySync_of_idle hidle]
    exact hfailed
  have hstep : step (.motion r) w = taskUpdate w := by simp only [step, motionStep, hphase]
  refine ⟨(recordState_of_ne (by rw [hphase]; simp)).trans hhome, ?_⟩
  rw [recordState_motionStep (by rw [hphase]; simp), hstep]
  have hlatched := (tally_updateFailed (attemptUpdate (runtimeSafetySync w)).2
    (runtimeSafetySync w).motion.data.state.active).1
  rw [← controlSection_of_false hsection] at hlatched
  exact hlatched

/-! ### Steps of the diagram -/

/-- The state of the controller is one of the diagram, and the latch admits it; after a failed
sample this is so of the state that the release has found. -/
structure World.Legible (start : UInt32) (w : World) : Prop where
  accountable : w.Accountable start
  controller : Admits w.safety.state w.motion.data.state
  record : Admits w.safety.state w.recordState
  shown : w.task.phase.early = false → w.motion.data.state ∈ diagramStates
  diagram : w.task.phase.early = false → w.recordState ∈ diagramStates
  found : w.task.phase = .reconcile → w.recordState = w.task.beforeSafety

lemma legible_runtimeInit (env : Environment) : (runtimeInit env).Legible env.start where
  accountable := accountable_runtimeInit env
  controller := admits_of_ne nofun nofun
  record := admits_of_ne nofun nofun
  shown := nofun
  diagram := nofun
  found := nofun

/-- Every operation leads to a state of the diagram from one. -/
lemma Operation.diagram (h : Operation k w w') (hs : w.safety.Settled)
    (hw : w.motion.data.state ∈ diagramStates) : w'.motion.data.state ∈ diagramStates := by
  rcases h.state hs with h | ⟨-, h⟩ | ⟨-, h⟩ | h | h | h | h <;> rw [h]
  · exact hw
  all_goals decide

/-- The record belongs to the state of the controller, or has stayed. -/
lemma recordState_step (hw : w.Accountable start) :
    (step a w).recordState = (step a w).motion.data.state ∨
      (step a w).recordState = w.recordState ∧ ¬ AcceptsReset a w := by
  by_cases hother : ∀ r, a ≠ .motion r
  · obtain ⟨htask, hmotion⟩ := step_other (w := w) hother
    refine Or.inr ⟨?_, ?_⟩
    · unfold World.recordState
      rw [htask, hmotion]
    · rintro ⟨command, ⟨r, i, ha, -⟩, -⟩
      exact hother r ha
  push Not at hother
  obtain ⟨r, rfl⟩ := hother
  by_cases hsample : w.task.phase = .sample
  · refine Or.inr ⟨(recordState_sample hw hsample).1, ?_⟩
    rintro ⟨command, ⟨r', i, -, hphase, -⟩, -⟩
    rw [hsample] at hphase
    exact absurd hphase nofun
  · exact Or.inl (recordState_motionStep hsample)

/-- **Step lemma.**  Every step keeps the state, or follows an edge of the diagram. -/
theorem edge_step (hw : w.Legible start) (hearly : w.task.phase.early = false)
    (hafter : (step a w).recordState ∈ diagramStates) :
    (step a w).recordState = w.recordState ∨
      stateEdge w.recordState (step a w).recordState = true := by
  have hbefore := hw.diagram hearly
  have hregular := hw.accountable.regular
  by_cases hreset : AcceptsReset a w
  · have hidle : (step a w).recordState = .idle := by
      rcases recordState_step hw.accountable with h | ⟨-, h⟩
      · exact h.trans (idle_of_acceptsReset hreset).2
      · exact absurd hreset h
    rw [hidle]
    generalize w.recordState = s at hbefore ⊢
    revert s
    decide
  by_cases hmotion : AcceptsMotion a w
  · obtain ⟨hidle, hnext⟩ := starts_of_acceptsMotion hw.accountable hmotion
    refine Or.inr ?_
    rw [hidle]
    rcases hnext with ⟨hstate, -⟩ | ⟨hstate | hstate, -⟩ <;> rw [hstate]
    · split_ifs <;> rfl
    · rfl
    · rfl
  cases stepOutcome hw.accountable hmotion with
  | keeps hstate => exact Or.inl hstate
  | rests hrest hrest' =>
    by_cases hidle : w.recordState = .idle
    · rw [hidle]
      generalize (step a w).recordState = t at hafter hrest' ⊢
      revert t
      decide
    · have hlatched : w.recordState = .fault ∨ w.recordState = .estop := by
        generalize w.recordState = s at hbefore hrest hidle ⊢
        revert s
        decide
      have hne : w.safety.state ≠ .idle := by
        rcases hlatched with h | h
        · exact hw.record.fault h
        · rw [hw.record.estop h]
          exact nofun
      obtain ⟨hlatch, hestop⟩ := latched_step hregular hreset
      rcases recordState_of_latched hw.accountable hearly hne hreset with hsame | hadopted
      · exact Or.inl hsame
      · rw [hadopted]
        rcases hlatched with h | h
        · have hsettled := (hregular.step a).settled.resolve_left (hlatch hne)
          rcases hsettled with h' | h' <;> rw [h, h']
          · exact Or.inl rfl
          · exact Or.inr rfl
        · rw [h, hestop (hw.record.estop h)]
          exact Or.inl rfl
  | aborts hactive hlatched =>
    refine Or.inr ?_
    generalize w.recordState = s at hactive hbefore ⊢
    rcases hlatched with h | h <;> rw [h] <;> revert hactive <;> revert s <;> decide
  | completes hstate hidle =>
    refine Or.inr ?_
    rcases hstate with h | h <;> rw [h, hidle] <;> rfl
  | coasts hcoasts =>
    obtain ⟨hstopping, hidle⟩ := hcoasts.states
    rw [hstopping, hidle]
    exact Or.inr rfl
  | cancels hcancels =>
    obtain ⟨hhome, hstopping⟩ := hcancels.states hw.accountable
    rw [hhome, hstopping]
    exact Or.inr rfl
  | halts hmoving hstopping =>
    rw [hmoving, hstopping]
    exact Or.inr rfl
  | resets haccepts => exact absurd haccepts hreset
  | fails hfails =>
    obtain ⟨hhome, hlatched⟩ := latched_of_failsSeek hfails
    refine Or.inr ?_
    rcases hlatched with h | h <;> rw [hhome, h] <;> rfl

/-- `motion_init` leads to `IDLE`. -/
lemma idle_of_configured {r : Option MotionCommand} (hearly : w.task.phase.early = true)
    (hlate : (step (.motion r) w).task.phase.early = false) :
    (step (.motion r) w).motion.data.state = .idle := by
  cases hphase : w.task.phase with
  | create => simp [step, motionStep, hphase, taskCreate, Phase.early] at hlate
  | configure =>
    have hstep : step (.motion r) w = taskConfigure w := by simp only [step, motionStep, hphase]
    rw [hstep] at hlate ⊢
    unfold taskConfigure at hlate ⊢
    split at hlate
    · exact absurd (hphase ▸ hlate) (by decide)
    · next x hx =>
      obtain ⟨-, pid, -, rfl⟩ := motionInit_some hx
      rfl
  | _ =>
    rw [hphase] at hearly
    exact absurd hearly (by simp [Phase.early])

/-- Only the Motion task leaves its early sections. -/
lemma motion_of_early (hearly : w.task.phase.early = true)
    (hlate : (step a w).task.phase.early = false) : ∃ r, a = .motion r := by
  by_contra hother
  push Not at hother
  rw [(step_other hother).1, hearly] at hlate
  exact absurd hlate nofun

/-- **Step lemma.**  Every step keeps a world legible. -/
theorem World.Legible.step (hw : w.Legible start) (a : Action) :
    (step a w).Legible start := by
  have hregular := hw.accountable.regular
  have hcontroller := (operations_step hregular a).invariant
    (I := fun v => Admits v.safety.state v.motion.data.state) (fun _ _ _ _ hop => hop.admits)
    hw.controller
  have hshown : (MotionFirmware.step a w).task.phase.early = false →
      (MotionFirmware.step a w).motion.data.state ∈ diagramStates := by
    intro hlate
    cases hearly : w.task.phase.early with
    | true =>
      obtain ⟨r, rfl⟩ := motion_of_early hearly hlate
      rw [idle_of_configured hearly hlate]
      decide
    | false =>
      exact ((operations_step hregular a).invariant
        (I := fun v => v.safety.Settled ∧ v.motion.data.state ∈ diagramStates)
        (fun _ _ _ _ hop hv => ⟨hop.settled hv.1, hop.diagram hv.1 hv.2⟩)
        ⟨hregular.settled, hw.shown hearly⟩).2
  have hrecord := recordState_step (a := a) hw.accountable
  refine ⟨hw.accountable.step a, hcontroller, ?_, hshown, fun hlate => ?_, fun hphase => ?_⟩
  · rcases hrecord with h | ⟨h, hreset⟩
    · rw [h]
      exact hcontroller
    · obtain ⟨hlatch, hestop⟩ := latched_step hregular hreset
      rw [h]
      exact hw.record.mono hlatch hestop
  · rcases hrecord with h | ⟨h, -⟩
    · rw [h]
      exact hshown hlate
    · cases hearly : w.task.phase.early with
      | true =>
        obtain ⟨r, rfl⟩ := motion_of_early hearly hlate
        have hsample : w.task.phase ≠ .sample := by
          intro hsample
          rw [hsample] at hearly
          exact absurd hearly nofun
        rw [recordState_motionStep hsample]
        exact hshown hlate
      | false =>
        rw [h]
        exact hw.diagram hearly
  · by_cases hother : ∀ r, a ≠ .motion r
    · obtain ⟨htask, hmotion⟩ := step_other (w := w) hother
      have hbefore := hw.found (htask ▸ hphase)
      unfold World.recordState at hbefore ⊢
      rw [htask, hmotion]
      exact hbefore
    · push Not at hother
      obtain ⟨r, rfl⟩ := hother
      have hfollows := follows_motionStep w r
      simp only [MotionFirmware.step] at hphase
      rw [hphase] at hfollows
      exact (recordState_sample hw.accountable hfollows.of_reconcile).2

/-- Every world of a run is legible. -/
theorem legible_runtime (env : Environment) (as : List Action) :
    (runtime env as).Legible env.start :=
  Machine.run_invariant_of_forall (fun a _ hv => hv.step a) (legible_runtimeInit env)

/-! ### The reports of a step -/

/-- The announcements of a section stand among reports that say nothing of the state. -/
lemma motionReports_split (w v : World) (r : Option MotionCommand) :
    ∃ pre post, motionReports w v r = pre ++ (stateReports w v).map .text ++ post ∧
      pre.all Silent = true ∧ post.all Silent = true := by
  have hsilent : ∀ l : List Report, l.all Silent = true →
      ∃ pre post, l = pre ++ ([] : List CString).map .text ++ post ∧
        pre.all Silent = true ∧ post.all Silent = true := by
    intro l hl
    exact ⟨l, [], by simp, hl, rfl⟩
  unfold motionReports stateReports
  cases hphase : w.task.phase with
  | create =>
    dsimp only
    exact hsilent _ (by decide +kernel)
  | configure =>
    dsimp only
    refine hsilent _ ?_
    split_ifs <;> decide +kernel
  | begin =>
    dsimp only
    refine hsilent _ ?_
    cases w.task.app <;> decide +kernel
  | receive i =>
    refine hsilent _ ?_
    cases r with
    | none => rfl
    | some command =>
      dsimp only [receiveReports]
      split_ifs <;> rfl
  | reconcile => exact ⟨[], [], by simp, rfl, rfl⟩
  | execute i command =>
    refine ⟨[], _, by rw [List.nil_append], rfl, ?_⟩
    split <;> rfl
  | update =>
    refine ⟨_, _, rfl, ?_, ?_⟩ <;> split_ifs <;> decide +kernel
  | anchor | clock | sample | report => exact hsilent _ rfl

/-- The sections that may change the state of the controller, apart from a failing sample. -/
def Phase.transits : Phase → Bool
  | .reconcile | .execute _ _ | .update => true
  | _ => false

/-- The other sections keep the state of the record. -/
lemma recordState_of_quiet {r : Option MotionCommand} (hw : w.Accountable start)
    (hearly : w.task.phase.early = false) (h : w.task.phase.transits = false) :
    (step (.motion r) w).recordState = w.recordState := by
  by_cases hsample : w.task.phase = .sample
  · exact (recordState_sample hw hsample).1
  have hreconcile : w.task.phase ≠ .reconcile := by
    intro hphase
    rw [hphase] at h
    exact absurd h nofun
  have hexecute : ∀ i command, w.task.phase ≠ .execute i command := by
    intro i command hphase
    rw [hphase] at h
    exact absurd h nofun
  have hupdate : w.task.phase ≠ .update := by
    intro hphase
    rw [hphase] at h
    exact absurd h nofun
  rw [recordState_motionStep hsample, recordState_of_ne hreconcile,
    motion_of_quiet hearly hsample hreconcile hexecute hupdate]

/-- **Step lemma.**  `transition` is told of the state before a section and of the one after it. -/
lemma stateReports_eq {r : Option MotionCommand} (hw : w.Legible start)
    (hearly : w.task.phase.early = false) :
    stateReports w (motionStep w r) =
      transition w.recordState (step (.motion r) w).recordState := by
  have hafter := recordState_motionStep (w := w) (r := r)
  cases hphase : w.task.phase with
  | create | configure => exact absurd hearly (by rw [hphase]; decide)
  | reconcile =>
    rw [hafter (by rw [hphase]; simp), hw.found hphase]
    simp only [stateReports, hphase, step]
  | execute | update =>
    rw [hafter (by rw [hphase]; simp),
      recordState_of_ne (by rw [hphase]; simp)]
    simp only [stateReports, hphase, step]
  | _ =>
    rw [recordState_of_quiet hw.accountable hearly (by rw [hphase]; rfl), transition_self]
    simp only [stateReports, hphase]

/-- **Step lemma.**  A reader who knows the state arrives, with the reports of a section, at the
state after it. -/
theorem readLog_motionReports {r : Option MotionCommand} (hw : w.Legible start)
    (hearly : w.task.phase.early = false) :
    (motionReports w (motionStep w r) r).foldl readReport (some w.recordState) =
      some (step (.motion r) w).recordState := by
  have hlate : (step (.motion r) w).task.phase.early = false :=
    (follows_motionStep w r).early hearly
  have hedge := edge_step hw hearly ((hw.step (.motion r)).diagram hlate)
  obtain ⟨pre, post, hreports, hpre, hpost⟩ := motionReports_split w (motionStep w r) r
  rw [hreports, List.foldl_append, List.foldl_append, readLog_silent hpre,
    stateReports_eq hw hearly, readLog_transition hedge, readLog_silent hpost]

/-- Before `motion_init` no section reports the state. -/
lemma silent_motionReports {v : World} {r : Option MotionCommand}
    (h : w.task.phase.early = true) : (motionReports w v r).all Silent = true := by
  obtain ⟨pre, post, hreports, hpre, hpost⟩ := motionReports_split w v r
  have hnone : stateReports w v = [] := by
    unfold stateReports
    cases hphase : w.task.phase <;> first | rfl | exact absurd h (by rw [hphase]; exact nofun)
  rw [hreports, hnone]
  simp [hpre, hpost]

/-! ### Runs -/

/-- Before `motion_init` the log says nothing of the state. -/
def readState (w : World) : AppState := if w.task.phase.early then .idle else w.recordState

/-- **Step lemma.**  The reports of every action lead a reader from the state to the state. -/
lemma readLog_step {log : List Report} (hw : w.Legible start)
    (hread : readLog log = some (readState w)) :
    readLog (observeReports a w log) = some (readState (step a w)) := by
  unfold readState at hread ⊢
  by_cases hother : ∀ r, a ≠ .motion r
  · obtain ⟨htask, hmotion⟩ := step_other (w := w) hother
    have hlog : observeReports a w log = log := by
      cases a with
      | motion r => exact absurd rfl (hother r)
      | _ => rfl
    rw [hlog, hread]
    unfold World.recordState
    rw [htask, hmotion]
  push Not at hother
  obtain ⟨r, rfl⟩ := hother
  have happend : readLog (observeReports (.motion r) w log) =
      (motionReports w (motionStep w r) r).foldl readReport (readLog log) :=
    List.foldl_append
  rw [happend, hread]
  cases hearly : w.task.phase.early with
  | false =>
    have hlate : (step (.motion r) w).task.phase.early = false :=
      (follows_motionStep w r).early hearly
    rw [hlate]
    exact readLog_motionReports hw hearly
  | true =>
    rw [readLog_silent (silent_motionReports hearly)]
    cases hlate : (step (.motion r) w).task.phase.early with
    | true => rfl
    | false =>
      have hsample : w.task.phase ≠ .sample := by
        intro hphase
        rw [hphase] at hearly
        exact absurd hearly nofun
      have hidle := (recordState_motionStep hsample).trans (idle_of_configured hearly hlate)
      rw [if_pos rfl, if_neg nofun, hidle]

/-- **The log of the state.**  In every run the texts that Motion reports name edges of the diagram
that follow one another from `IDLE`, and a reader of them arrives at the state of the controller: no
change goes unreported, and nothing is reported that has not happened. -/
theorem motionLog_state (env : Environment) (as : List Action) :
    readLog (motionLog env as) =
      some (if (runtime env as).task.phase.early then .idle else (runtime env as).recordState) := by
  have hrun := @Machine.run_invariant_of_forall _ _ (Machine.watchStep step observeReports)
    (runtimeInit env, []) as
    (fun v : World × List Report => v.1.Legible env.start ∧ readLog v.2 = some (readState v.1))
    (fun a v hv => ⟨hv.1.step a, readLog_step hv.1 hv.2⟩)
    ⟨legible_runtimeInit env, rfl⟩
  have hfst : (Machine.run (Machine.watchStep step observeReports) (runtimeInit env, []) as).1 =
      runtime env as := Machine.run_watchStep_fst
  rw [hfst] at hrun
  exact hrun.2

end MotionFirmware
