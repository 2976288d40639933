import MotionFirmware.Rtos.Regular

/-!
# The order of the critical sections

The Motion task runs through its critical sections in a fixed order; only commands make a release
longer or shorter.  The local variables of a release are written by the sections that take the time
and the sample, so the later sections of the release find what these left.
-/

namespace MotionFirmware

variable [Rounding] {w : World} {a : Action} {r : Option MotionCommand}

/-- The second section may follow the first. -/
inductive Phase.Follows : Phase → Phase → Prop
  | create : Follows .create .configure
  | configure : Follows .configure .anchor
  /-- A refused configuration ends the program. -/
  | refused : Follows .configure .configure
  | anchor : Follows .anchor .begin
  | begin : Follows .begin .clock
  | clock : Follows .clock .sample
  | sample : Follows .sample .reconcile
  | reconcile : Follows .reconcile (.receive 0)
  | receive (i : ℕ) (command : MotionCommand) : Follows (.receive i) (.execute i command)
  /-- There is no command, or one that the Motion task only counts. -/
  | skip {i : ℕ} {next : Phase} (h : next = .receive (i + 1) ∨ next = .update) :
      Follows (.receive i) next
  | execute (i : ℕ) (command : MotionCommand) (result : MotionResult) :
      Follows (.execute i command) (.report i result)
  | report {i : ℕ} {result : MotionResult} {next : Phase}
      (h : next = .receive (i + 1) ∨ next = .update) : Follows (.report i result) next
  | update : Follows .update .begin

omit [Rounding] in
/-- A release executes a further command or goes on to the control update. -/
lemma nextCommand_cases (i : ℕ) :
    nextCommand i = .receive (i + 1) ∨ nextCommand i = .update := by
  unfold nextCommand
  split_ifs
  · exact Or.inl rfl
  · exact Or.inr rfl

/-- **Order of the sections.** -/
theorem follows_motionStep (w : World) (r : Option MotionCommand) :
    w.task.phase.Follows (motionStep w r).task.phase := by
  unfold motionStep
  split
  next hp => rw [hp]; exact .create
  next hp =>
    unfold taskConfigure
    split
    · rw [hp]
      exact .refused
    · rw [hp]
      exact .configure
  next hp => rw [hp]; exact .anchor
  next hp =>
    rw [hp]
    unfold taskBegin
    split_ifs <;> exact .begin
  next hp => rw [hp]; exact .clock
  next hp => rw [hp]; exact .sample
  next hp => rw [hp]; exact .reconcile
  next i hp =>
    rw [hp]
    unfold taskReceive
    split
    · exact .skip (Or.inr rfl)
    · dsimp only
      split_ifs
      · exact .skip (nextCommand_cases i)
      · exact .receive i _
  next i command hp => rw [hp]; exact .execute i command _
  next i result hp => rw [hp]; exact .report (nextCommand_cases i)
  next hp => rw [hp]; exact .update

omit [Rounding] in
/-- The sample precedes the section that looks at its result. -/
lemma Phase.Follows.of_reconcile {p : Phase} (h : p.Follows .reconcile) : p = .sample := by
  cases h with
  | sample => rfl
  | skip h => simp at h
  | report h => simp at h

omit [Rounding] in
/-- The reading of the clock precedes the sample. -/
lemma Phase.Follows.of_sample {p : Phase} (h : p.Follows .sample) : p = .clock := by
  cases h with
  | clock => rfl
  | skip h => simp at h
  | report h => simp at h

/-- The Motion task has not initialised its controller yet. -/
def Phase.early : Phase → Bool
  | .create | .configure => true
  | _ => false

omit [Rounding] in
/-- A section that starts after `motion_init` ends after it. -/
lemma Phase.Follows.early {p q : Phase} (h : p.Follows q) (hp : p.early = false) :
    q.early = false := by
  cases h with
  | create => exact hp
  | configure => exact absurd hp nofun
  | refused => exact hp
  | skip h => rcases h with rfl | rfl <;> rfl
  | report h => rcases h with rfl | rfl <;> rfl
  | _ => rfl

/-! ### Sections that keep the local variables -/

lemma reevaluate_task (w : World) : (reevaluate w).task = w.task := by simp [reevaluate]

omit [Rounding] in
lemma raiseInternal_task (w : World) (now : UInt32) : (raiseInternal w now).task = w.task := by
  simp [raiseInternal]

/-- A command does not touch the local variables. -/
@[simp] lemma runtimeSafetyCommand_task (w : World) (command : MotionCommand) :
    (runtimeSafetyCommand w command).2.task = w.task := by
  unfold runtimeSafetyCommand
  split_ifs
  · simp [commandEstop, raiseEstop, World.afterTime]
  · unfold commandReset
    split_ifs
    · rfl
    · dsimp only
      split
      · simp
      · simp [acceptReset]
  · rfl
  · rfl
  · rfl
  · unfold commandHome
    dsimp only
    split_ifs <;> simp [World.afterTime]
  · rfl
  · unfold commandDepart
    split_ifs
    · rfl
    · exact reevaluate_task _
  · rfl

/-- The update in `HOMING` does not touch the local variables. -/
@[simp] lemma seekUpdate_task (w : World) (inputs : GpioInputs) (now : UInt32) :
    (seekUpdate w inputs now).2.task = w.task := by
  unfold seekUpdate finishHoming
  dsimp only
  split_ifs <;> simp [raiseTimeout, grantContact]

/-- The control update does not touch the local variables. -/
@[simp] lemma runtimeControlUpdate_task (w : World) (dt : FloatValue) (now : UInt32) :
    (runtimeControlUpdate w dt now).2.task = w.task := by
  unfold runtimeControlUpdate
  by_cases hhome : w.motion.data.state ≠ .homing
  · rw [if_pos hhome]
    by_cases hcontact : w.safety.homeContact = true
    · rw [if_pos hcontact]
      exact reevaluate_task w
    · rw [if_neg hcontact]
  · rw [if_neg hhome]
    unfold homingControl
    dsimp only
    split_ifs <;> simp [reevaluate_task]

@[simp] lemma attemptUpdate_task (w : World) : (attemptUpdate w).2.task = w.task := by
  unfold attemptUpdate
  split_ifs
  · exact runtimeControlUpdate_task w _ _
  · rfl

@[simp] lemma controlSection_task (w : World) : (controlSection w).2.task = w.task := by
  have hattempt : (attemptUpdate (runtimeSafetySync w)).2.task = w.task := by simp
  unfold controlSection
  dsimp only
  split_ifs
  · exact hattempt
  · unfold updateFailed
    rw [runtimeSafetySync_task, raiseInternal_task]
    split_ifs <;> exact hattempt

omit [Rounding] in
@[simp] lemma sampleFailed_task (w : World) : (sampleFailed w).task = w.task := by
  unfold sampleFailed
  dsimp only
  rw [raiseInternal_task]
  split_ifs <;> rfl

/-- The values of a release: its time, its time step and the state that it found are written by the
section that reads the clock, the success of its sample by the section that takes it. -/
lemma motionStep_task (w : World) (r : Option MotionCommand) :
    (w.task.phase ≠ .clock → (motionStep w r).task.nowMs = w.task.nowMs ∧
      (motionStep w r).task.dt = w.task.dt ∧
      (motionStep w r).task.beforeSafety = w.task.beforeSafety) ∧
    (w.task.phase ≠ .sample → (motionStep w r).task.sampled = w.task.sampled) := by
  unfold motionStep
  split
  next => exact ⟨fun _ => ⟨rfl, rfl, rfl⟩, fun _ => rfl⟩
  next =>
    unfold taskConfigure
    split <;> exact ⟨fun _ => ⟨rfl, rfl, rfl⟩, fun _ => rfl⟩
  next => exact ⟨fun _ => ⟨rfl, rfl, rfl⟩, fun _ => rfl⟩
  next =>
    unfold taskBegin
    split_ifs <;> exact ⟨fun _ => ⟨rfl, rfl, rfl⟩, fun _ => rfl⟩
  next hp => exact ⟨fun h => absurd hp h, fun _ => rfl⟩
  next hp => exact ⟨fun _ => ⟨rfl, rfl, rfl⟩, fun h => absurd hp h⟩
  next =>
    have htask : (if w.task.sampled then w else sampleFailed w).task = w.task := by
      split_ifs <;> simp
    refine ⟨fun _ => ⟨?_, ?_, ?_⟩, fun _ => ?_⟩ <;> simp [taskReconcile, World.goto, htask]
  next =>
    unfold taskReceive
    split
    · exact ⟨fun _ => ⟨rfl, rfl, rfl⟩, fun _ => rfl⟩
    · dsimp only
      split_ifs <;> exact ⟨fun _ => ⟨rfl, rfl, rfl⟩, fun _ => rfl⟩
  next i command _ =>
    have htask : (if w.task.app = .idle then runtimeSafetyCommand w command
        else (.invalidState, w)).2.task = w.task := by
      split_ifs <;> simp
    refine ⟨fun _ => ⟨?_, ?_, ?_⟩, fun _ => ?_⟩ <;> simp [taskExecute, World.goto, htask]
  next => exact ⟨fun _ => ⟨rfl, rfl, rfl⟩, fun _ => rfl⟩
  next =>
    refine ⟨fun _ => ⟨?_, ?_, ?_⟩, fun _ => ?_⟩ <;> simp [taskUpdate, publishRelease]

/-! ### The actions of the others -/

/-- The Safety task, a heartbeat and a foreign request leave the Motion task where it is, and its
controller as it is. -/
lemma step_other (h : ∀ r, a ≠ .motion r) :
    (step a w).task = w.task ∧ (step a w).motion = w.motion := by
  cases a with
  | motion r => exact absurd rfl (h r)
  | safety =>
    simp only [step, safetyTask]
    split_ifs <;> simp [World.setSafety]
  | heartbeat id => exact ⟨rfl, rfl⟩
  | request duty => exact ⟨rfl, rfl⟩

end MotionFirmware
