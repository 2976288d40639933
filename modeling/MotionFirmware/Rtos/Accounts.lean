import MotionFirmware.Rtos.SafetyRuntimeFrames

/-!
# The accounts of the tasks

The heartbeats, the counters of commands and results, the counter of control errors and the counter
of watchdog refreshes.  Each of them has one writer, which is a section of one task: the adapter
between Motion and the safety manager never touches them, however a release goes.
-/

namespace MotionFirmware

/-- The fields of `runtime_data` that are written by the tasks themselves. -/
structure Accounts where
  health : TaskHealthId → TaskHealth
  receivedByType : CommandType → UInt32
  motionAccepted : UInt32
  motionRejected : UInt32
  controlErrors : UInt32
  watchdogRefreshes : UInt32

/-- The accounts of a world. -/
def World.accounts (w : World) : Accounts where
  health := w.rt.health
  receivedByType := w.rt.receivedByType
  motionAccepted := w.rt.motionAccepted
  motionRejected := w.rt.motionRejected
  controlErrors := w.rt.controlErrors
  watchdogRefreshes := w.rt.safety.watchdogRefreshes

variable {w : World}

/-- An operation of the safety manager that counts no refresh. -/
lemma accounts_callSafety {s : SafetyManager} (call : SafetyCall)
    (h : s.watchdogRefreshes = w.safety.watchdogRefreshes) :
    (w.callSafety call s).accounts = w.accounts := by
  simp only [World.accounts, World.callSafety, h, World.safety]

@[simp] lemma accounts_publish (w : World) : w.publish.accounts = w.accounts := rfl

@[simp] lemma accounts_countAbort (w : World) : w.countAbort.accounts = w.accounts := rfl

@[simp] lemma accounts_onAxis (w : World) (f : Axis → Axis) :
    (w.onAxis f).accounts = w.accounts := rfl

@[simp] lemma accounts_afterTime (w : World) : w.afterTime.accounts = w.accounts := rfl

@[simp] lemma accounts_goto (w : World) (phase : Phase) :
    (w.goto phase).accounts = w.accounts := rfl

@[simp] lemma accounts_disable (w : World) : w.disable.accounts = w.accounts := rfl

/-! ### The safety manager -/

@[simp] lemma trip_watchdogRefreshes (s : SafetyManager) (code : FaultCode) (now source : UInt32) :
    (trip s code now source).watchdogRefreshes = s.watchdogRefreshes :=
  (sameRecord_trip (.refl s)).watchdogRefreshes

@[simp] lemma safetyEstop_watchdogRefreshes (s : SafetyManager) (now : UInt32) :
    (safetyEstop s now).watchdogRefreshes = s.watchdogRefreshes := by
  unfold safetyEstop
  split_ifs <;> rfl

lemma safetyReset_watchdogRefreshes {s r : SafetyManager} (h : safetyReset s = some r) :
    r.watchdogRefreshes = s.watchdogRefreshes := by
  unfold safetyReset at h
  split_ifs at h
  rw [Option.map_eq_some_iff] at h
  obtain ⟨faults, -, rfl⟩ := h
  rfl

/-! ### The adapter -/

@[simp] lemma accounts_recordLatched (w : World) : (recordLatched w).accounts = w.accounts := by
  unfold recordLatched
  split_ifs <;> rfl

@[simp] lemma accounts_runtimeSafetyEnforce (w : World) :
    (runtimeSafetyEnforce w).accounts = w.accounts := by
  rw [runtimeSafetyEnforce, accounts_recordLatched]
  rfl

@[simp] lemma accounts_abortHoming (w : World) (result : HomingResult) :
    (abortHoming w result).accounts = w.accounts := rfl

@[simp] lemma accounts_runtimeSafetySync (w : World) :
    (runtimeSafetySync w).accounts = w.accounts := by
  unfold runtimeSafetySync
  dsimp only
  split_ifs <;> rfl

@[simp] lemma accounts_commandStopHoming (w : World) :
    (commandStopHoming w).accounts = w.accounts := rfl

@[simp] lemma accounts_acceptReset (w : World) (s : SafetyManager)
    (h : s.watchdogRefreshes = w.safety.watchdogRefreshes) :
    (acceptReset w s).accounts = w.accounts :=
  accounts_callSafety .reset h

@[simp] lemma accounts_raiseEstop (w : World) : (raiseEstop w).accounts = w.accounts := by
  unfold raiseEstop
  rw [accounts_runtimeSafetyEnforce]
  exact accounts_callSafety _ (by simp)

@[simp] lemma accounts_raiseTimeout (w : World) (now : UInt32) :
    (raiseTimeout w now).accounts = w.accounts := by
  unfold raiseTimeout
  rw [accounts_runtimeSafetyEnforce]
  exact accounts_callSafety _ (by simp [safetyHomingTimeout])

@[simp] lemma accounts_raiseInternal (w : World) (now : UInt32) :
    (raiseInternal w now).accounts = w.accounts := by
  unfold raiseInternal
  rw [accounts_runtimeSafetyEnforce]
  exact accounts_callSafety _ (by simp [safetyInternalFault])

@[simp] lemma accounts_grantContact (w : World) : (grantContact w).accounts = w.accounts := rfl

variable [Rounding]

@[simp] lemma safetyEvaluate_watchdogRefreshes (s : SafetyManager) (c : Evaluation) :
    (safetyEvaluate s c).watchdogRefreshes = s.watchdogRefreshes :=
  sameRecord_safetyEvaluate.watchdogRefreshes

@[simp] lemma accounts_runtimeSafetyEvaluate (w : World) :
    (runtimeSafetyEvaluate w).accounts = w.accounts := by
  rw [runtimeSafetyEvaluate, accounts_runtimeSafetyEnforce]
  simp [World.accounts, applyEvaluation]

@[simp] lemma accounts_reevaluate (w : World) : (reevaluate w).accounts = w.accounts := by
  simp [reevaluate]

lemma accounts_commandReset (w : World) : (commandReset w).2.accounts = w.accounts := by
  unfold commandReset
  split_ifs with hbusy
  · rfl
  · dsimp only
    cases h : safetyReset (runtimeSafetyEvaluate w).safety with
    | none =>
      refine Eq.trans ?_ (accounts_runtimeSafetyEvaluate w)
      exact accounts_callSafety _ rfl
    | some s =>
      refine Eq.trans ?_ (accounts_runtimeSafetyEvaluate w)
      exact accounts_acceptReset _ s (safetyReset_watchdogRefreshes h)

lemma accounts_commandHome (w : World) : (commandHome w).2.accounts = w.accounts := by
  unfold commandHome
  dsimp only
  split_ifs with haccepted
  · rw [accounts_runtimeSafetySync, accounts_runtimeSafetyEvaluate]
    rfl
  · rfl

lemma accounts_commandDepart (w : World) (command : MotionCommand) :
    (commandDepart w command).2.accounts = w.accounts := by
  unfold commandDepart
  split_ifs with htarget
  · rfl
  · exact accounts_reevaluate _

/-- A command changes no account. -/
theorem accounts_runtimeSafetyCommand (w : World) (command : MotionCommand) :
    (runtimeSafetyCommand w command).2.accounts = w.accounts := by
  unfold runtimeSafetyCommand
  split_ifs
  · exact (accounts_runtimeSafetySync _).trans (accounts_raiseEstop w)
  · exact accounts_commandReset w
  · exact accounts_commandStopHoming w
  · rfl
  · rfl
  · exact accounts_commandHome w
  · rfl
  · exact accounts_commandDepart w command
  · rfl

lemma accounts_finishHoming (w : World) (now : UInt32) :
    (finishHoming w now).accounts = w.accounts := by
  unfold finishHoming
  split_ifs <;> simp

lemma accounts_seekUpdate (w : World) (inputs : GpioInputs) (now : UInt32) :
    (seekUpdate w inputs now).2.accounts = w.accounts := by
  unfold seekUpdate
  dsimp only
  split_ifs
  · rfl
  · exact accounts_finishHoming _ now

lemma accounts_homingControl (w : World) (now : UInt32) :
    (homingControl w now).2.accounts = w.accounts := by
  unfold homingControl
  dsimp only
  split_ifs
  · exact accounts_reevaluate _
  · exact (accounts_seekUpdate _ _ now).trans (accounts_reevaluate _)
  · exact accounts_seekUpdate _ _ now

/-- A control update changes no account. -/
theorem accounts_runtimeControlUpdate (w : World) (dt : FloatValue) (now : UInt32) :
    (runtimeControlUpdate w dt now).2.accounts = w.accounts := by
  unfold runtimeControlUpdate
  split_ifs
  · exact accounts_reevaluate w
  · rfl
  · exact accounts_homingControl w now

/-! ### The steps -/

/-- The control section of a release changes no account. -/
lemma accounts_controlSection (w : World) : (controlSection w).2.accounts = w.accounts := by
  have hattempt : (attemptUpdate (runtimeSafetySync w)).2.accounts = w.accounts := by
    unfold attemptUpdate
    split_ifs
    · exact (accounts_runtimeControlUpdate _ _ _).trans (accounts_runtimeSafetySync w)
    · exact accounts_runtimeSafetySync w
  unfold controlSection
  dsimp only
  split_ifs
  · exact hattempt
  · unfold updateFailed
    rw [accounts_runtimeSafetySync, accounts_raiseInternal]
    split_ifs
    · exact hattempt
    · exact hattempt

omit [Rounding] in
lemma accounts_sampleFailed (w : World) : (sampleFailed w).accounts = w.accounts := by
  unfold sampleFailed
  rw [accounts_raiseInternal]
  split_ifs <;> rfl

/-- What a section of Motion writes into the accounts. -/
def motionAccounts (w : World) (received : Option MotionCommand) (a : Accounts) : Accounts :=
  match w.task.phase with
  | .receive _ =>
    match received with
    | none => a
    | some command =>
      { a with receivedByType :=
        Function.update a.receivedByType command.type (a.receivedByType command.type + 1) }
  | .report _ result =>
    { a with
      motionAccepted := if result = .accepted then a.motionAccepted + 1 else a.motionAccepted
      motionRejected := if result = .accepted then a.motionRejected else a.motionRejected + 1 }
  | .update =>
    { a with controlErrors :=
      if (controlSection w).1 then a.controlErrors else a.controlErrors + 1 }
  | _ => a

/-- **Step lemma.**  A section of Motion writes its own accounts and no others. -/
theorem accounts_motionStep (w : World) (received : Option MotionCommand) :
    (motionStep w received).accounts = motionAccounts w received w.accounts := by
  unfold motionStep motionAccounts
  cases hphase : w.task.phase with
  | create => rfl
  | configure =>
    dsimp only
    unfold taskConfigure
    cases motionInit w.toAxis motionDefaultConfig <;> rfl
  | anchor => rfl
  | begin =>
    dsimp only
    unfold taskBegin
    split_ifs <;> rfl
  | clock => rfl
  | sample => rfl
  | reconcile =>
    dsimp only
    unfold taskReconcile
    rw [accounts_goto, accounts_runtimeSafetySync]
    split_ifs
    · rfl
    · exact accounts_sampleFailed w
  | receive i =>
    dsimp only
    unfold taskReceive
    cases received with
    | none => rfl
    | some command =>
      dsimp only
      split_ifs <;> rfl
  | execute i command =>
    dsimp only
    unfold taskExecute
    rw [accounts_goto]
    split_ifs
    · exact accounts_runtimeSafetyCommand w command
    · rfl
  | report i result => rfl
  | update =>
    have hsection := accounts_controlSection w
    dsimp only
    rw [← hsection]
    rfl

/-- The Safety task refreshes the watchdog when every heartbeat is fresh. -/
lemma accounts_safetyTask (w : World) :
    (safetyTask w).accounts =
      { w.accounts with
        watchdogRefreshes :=
          if w.rt.unhealthyMask w.io.platformTimeMs = 0 then w.accounts.watchdogRefreshes + 1
          else w.accounts.watchdogRefreshes } := by
  have heval := accounts_runtimeSafetyEvaluate w
  have hhealthy : (runtimeSafetyEvaluate w).rt.safety.healthy =
      (w.rt.unhealthyMask w.io.platformTimeMs == 0) := by
    rw [runtimeSafetyEvaluate_safety]
    exact safetyEvaluate_healthy
  unfold safetyTask
  dsimp only [World.safety]
  rw [hhealthy]
  by_cases hmask : w.rt.unhealthyMask w.io.platformTimeMs = 0
  · rw [if_pos (by simpa using hmask), if_pos hmask, ← heval]
    rfl
  · rw [if_neg (by simpa using hmask), if_neg hmask, heval]

omit [Rounding] in
/-- The mask is empty when every heartbeat is fresh. -/
lemma unhealthyMask_eq_zero_iff (rt : RuntimeData) (now : UInt32) :
    rt.unhealthyMask now = 0 ↔ ∀ id, rt.fresh id now = true := by
  constructor
  · intro hmask id
    unfold RuntimeData.unhealthyMask at hmask
    revert hmask
    cases id <;> cases rt.fresh .motion now <;> cases rt.fresh .safety now <;>
      cases rt.fresh .comms now <;> simp
  · intro hfresh
    simp [RuntimeData.unhealthyMask, hfresh]

end MotionFirmware
