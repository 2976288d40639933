import MotionFirmware.Rtos.ClockReadings
import MotionFirmware.Rtos.ClockShift
import MotionFirmware.Rtos.Seek

/-!
# The phase of the clock

Two runs of the same actions in environments that agree up to the clock, such that every reading of
the second run is the one of the first run plus a constant.  They go through the same states: every
time that is stored is shifted by the constant once it has been set, except the time of zero output,
and everything else is equal.  So no rollover of the 32-bit clock changes the behaviour.

Whether the start of a candidate and the time of a latch have been set is not recorded; it is
followed through the calls of the safety manager.
-/

namespace MotionFirmware

variable [Rounding] {c start : UInt32} {P Q : Prop} {w w' v v' : World} {k : OperationKind}

/-! ### The history of the manager -/

/-- A candidate has been started. -/
def World.HadCandidate (start : UInt32) (w : World) : Prop :=
  ∃ past, past <+: w.calls ∧ ((safetyInit start).replay past).candidate = true

/-- A latch has been raised. -/
def World.HadLatch (start : UInt32) (w : World) : Prop :=
  ∃ past, past <+: w.calls ∧ ((safetyInit start).replay past).state ≠ .idle

/-- **The relation of the two runs.**  Every time that has been set is shifted by the constant, the
time of zero output excepted, and everything else but the clock is equal. -/
structure World.Rephased (c start : UInt32) (w w' : World) : Prop where
  core : w.safety.core = (safetyInit start).replay w.calls
  shifted : w.Shifted c (w.HadCandidate start) (w.HadLatch start) w'

/-- A step that makes no call of the safety manager. -/
lemma World.Rephased.of_same (h : w.Rephased c start w') (hcalls : v.calls = w.calls)
    (hcore : v.safety.core = w.safety.core)
    (hs : v.Shifted c (w.HadCandidate start) (w.HadLatch start) v') : v.Rephased c start v' := by
  have hcandidate : v.HadCandidate start ↔ w.HadCandidate start := by
    unfold World.HadCandidate
    rw [hcalls]
  have hlatch : v.HadLatch start ↔ w.HadLatch start := by
    unfold World.HadLatch
    rw [hcalls]
  refine ⟨by rw [hcore, hcalls, h.core], hs.axis, hs.rt, ?_, hs.task⟩
  exact hs.safety.weaken (fun hc => Or.inl (hcandidate.mp hc)) fun hl => Or.inl (hlatch.mp hl)

/-- A step that makes one call of the safety manager. -/
lemma World.Rephased.of_call (h : w.Rephased c start w') (call : SafetyCall)
    (hcalls : v.calls = w.calls ++ [call])
    (hcore : v.safety.core = (SafetyManager.apply call w.safety).core)
    (hs : v.Shifted c (w.HadCandidate start) (w.HadLatch start) v') : v.Rephased c start v' := by
  have hreplay : v.safety.core = (safetyInit start).replay v.calls := by
    rw [hcore, hcalls, core_apply, h.core]
    simp
  have hpast : ∀ past, past <+: v.calls → past <+: w.calls ∨
      (safetyInit start).replay past = v.safety.core := by
    intro past hprefix
    rw [hcalls, List.prefix_concat_iff] at hprefix
    rcases hprefix with hall | hold
    · exact Or.inr (by rw [hreplay, hall, hcalls])
    · exact Or.inl hold
  refine ⟨hreplay, hs.axis, hs.rt, hs.safety.weaken ?_ ?_, hs.task⟩
  · rintro ⟨past, hprefix, hcandidate⟩
    rcases hpast past hprefix with hold | heq
    · exact Or.inl ⟨past, hold, hcandidate⟩
    · rw [heq] at hcandidate
      exact Or.inr hcandidate
  · rintro ⟨past, hprefix, hlatch⟩
    rcases hpast past hprefix with hold | heq
    · exact Or.inl ⟨past, hold, hlatch⟩
    · rw [heq] at hlatch
      exact Or.inr hlatch

omit [Rounding] in
/-- Readings that start with one of the current world. -/
lemma readsShifted_of_cons {l l' : List UInt32}
    (hr : w'.io.platformTimeMs :: l' = (w.io.platformTimeMs :: l).map (· + c)) :
    w.ReadsShifted c w' ∧ l' = l.map (· + c) :=
  List.cons.inj hr

/-- An evaluation in both runs. -/
lemma World.Rephased.evaluate (h : w.Rephased c start w') (ht : w.ReadsShifted c w') :
    (runtimeSafetyEvaluate w).Rephased c start (runtimeSafetyEvaluate w') :=
  h.of_call (.evaluate (evaluation w) w.io.trueTime) (by simp)
    (core_runtimeSafetyEnforce (applyEvaluation w)) (h.shifted.evaluate ht)

lemma World.Rephased.raiseInternal (h : w.Rephased c start w') {now : UInt32} :
    (raiseInternal w now).Rephased c start (raiseInternal w' (now + c)) :=
  h.of_call (.internalFault now) (by simp [MotionFirmware.raiseInternal])
    (core_runtimeSafetyEnforce _) h.shifted.raiseInternal

lemma World.Rephased.raiseTimeout (h : w.Rephased c start w') {now : UInt32} :
    (raiseTimeout w now).Rephased c start (raiseTimeout w' (now + c)) :=
  h.of_call (.homingTimeout now) (by simp [MotionFirmware.raiseTimeout])
    (core_runtimeSafetyEnforce _) h.shifted.raiseTimeout

lemma World.Rephased.raiseEstop (h : w.Rephased c start w') (ht : w.ReadsShifted c w') :
    (raiseEstop w).Rephased c start (raiseEstop w') :=
  h.of_call (.estop w.io.platformTimeMs) (by simp [MotionFirmware.raiseEstop])
    (core_runtimeSafetyEnforce _) (h.shifted.raiseEstop ht)

lemma World.Rephased.publish (h : w.Rephased c start w') :
    w.publish.Rephased c start w'.publish :=
  h.of_same rfl rfl h.shifted.publish

lemma World.Rephased.countAbort (h : w.Rephased c start w') :
    w.countAbort.Rephased c start w'.countAbort :=
  h.of_same rfl rfl h.shifted.countAbort

/-- An operation of the controller in both runs. -/
lemma World.Rephased.onAxis (h : w.Rephased c start w') {x x' : Axis} (clock : ℕ → ℕ) (reads : ℕ)
    (hx : x' = x.shift c clock reads) :
    { w with toAxis := x }.Rephased c start { w' with toAxis := x' } :=
  h.of_same rfl rfl (h.shifted.onAxis clock reads hx)

/-- The adoption of a latch in both runs. -/
lemma World.Rephased.sync (h : w.Rephased c start w') (hw : w.Begun) {l l' : List UInt32}
    (hr : syncReadings w' ++ l' = (syncReadings w ++ l).map (· + c)) :
    (runtimeSafetySync w).Rephased c start (runtimeSafetySync w') ∧ l' = l.map (· + c) := by
  obtain ⟨ht, hl⟩ := h.shifted.syncReadings_append hr
  exact ⟨h.of_same (by simp) (core_runtimeSafetySync w) (h.shifted.sync hw ht), hl⟩

/-- Showing the state to the safety manager in both runs. -/
lemma World.Rephased.reevaluate (h : w.Rephased c start w') (hw : w.Begun) {l l' : List UInt32}
    (hr : reevaluateReadings w' ++ l' = (reevaluateReadings w ++ l).map (· + c)) :
    (reevaluate w).Rephased c start (reevaluate w') ∧ l' = l.map (· + c) := by
  unfold reevaluateReadings at hr
  obtain ⟨ht, hr⟩ := readsShifted_of_cons hr
  have hbegun : (runtimeSafetyEvaluate w.publish).Begun := by
    unfold World.Begun
    rw [runtimeSafetyEvaluate_motion]
    exact hw
  exact (h.publish.evaluate ht).sync hbegun hr

/-- The adoption of a latch whose reading is the last one. -/
lemma World.Rephased.sync_last (h : w.Rephased c start w') (hw : w.Begun)
    (hr : syncReadings w' = (syncReadings w).map (· + c)) :
    (runtimeSafetySync w).Rephased c start (runtimeSafetySync w') := by
  have hr' : syncReadings w' ++ [] = (syncReadings w ++ []).map (· + c) := by
    rwa [List.append_nil, List.append_nil]
  exact (h.sync hw hr').1

/-- Showing the state to the safety manager, with the last readings. -/
lemma World.Rephased.reevaluate_last (h : w.Rephased c start w') (hw : w.Begun)
    (hr : reevaluateReadings w' = (reevaluateReadings w).map (· + c)) :
    (MotionFirmware.reevaluate w).Rephased c start (MotionFirmware.reevaluate w') := by
  have hr' : reevaluateReadings w' ++ [] = (reevaluateReadings w ++ []).map (· + c) := by
    rwa [List.append_nil, List.append_nil]
  exact (h.reevaluate hw hr').1

/-! ### Attempts -/

/-- Every operation keeps the record of the attempt of a seeking controller. -/
lemma Operation.begun (h : Operation k w w') (hs : w.safety.Settled) (hw : w.Begun) : w'.Begun := by
  intro hhome
  rcases h.state hs with hsame | ⟨⟨now, rfl⟩, -⟩ | ⟨-, h'⟩ | h' | h' | h' | h'
  · refine h.result_ne (Or.inl ⟨rfl, ?_⟩) (hw (hsame.symm.trans hhome))
    rintro rfl
    cases h with
    | configure h =>
      obtain ⟨-, pid, -, rfl⟩ := motionInit_some h
      exact absurd hhome nofun
  · cases h with
    | home hidle h =>
      obtain ⟨-, -, -, heq⟩ := homingBegin_accepted h
      rw [heq]
      exact nofun
  all_goals exact absurd (h'.symm.trans hhome) nofun

/-- A sequence of operations keeps the record of the attempt of a seeking controller. -/
lemma World.Begun.of_operations {K : OperationKind → World → Prop} (h : Operations K w v)
    (hreg : w.Regular) (hw : w.Begun) : v.Begun := by
  have hboth : v.Regular ∧ v.Begun :=
    h.invariant (I := fun u => u.Regular ∧ u.Begun)
      (fun _ _ _ _ hop hu => ⟨hop.regular hu.1, hop.begun hu.1.settled hu.2⟩) ⟨hreg, hw⟩
  exact hboth.2

/-- A command of `motion_command` starts no attempt. -/
lemma motionCommand_state_ne_homing {x : Axis} {command : MotionCommand}
    (h : x.motion.data.state ≠ .homing) :
    (motionCommand x command).2.motion.data.state ≠ .homing := by
  rcases motionCommand_cases x command with ⟨-, heq⟩ | ⟨-, heq⟩ | ⟨-, -, -, -, heq⟩
  · rwa [heq]
  · rw [heq, halt_state]
    split_ifs
    · exact nofun
    · exact h
  · rw [heq]
    exact nofun

/-! ### Commands -/

/-- The `ESTOP` branch in both runs. -/
lemma World.Rephased.commandEstop (h : w.Rephased c start w') (hw : w.Begun)
    (hr : estopReadings w' = (estopReadings w).map (· + c)) :
    (commandEstop w).Rephased c start (commandEstop w') := by
  unfold estopReadings at hr
  obtain ⟨ht, hr⟩ := readsShifted_of_cons hr
  have hbegun : (MotionFirmware.raiseEstop w).Begun := by
    unfold World.Begun
    rw [raiseEstop_motion]
    exact hw
  exact (h.raiseEstop ht).sync_last hbegun hr

omit [Rounding] in
lemma World.Shifted.acceptReset (h : w.Shifted c P Q w') {s s' : SafetyManager}
    (hs : s.Shifted c P Q s') : (acceptReset w s).Shifted c P Q (acceptReset w' s') := by
  obtain ⟨clock, reads, start, detection, zero, calls, rfl, -, -⟩ := h.exists_eq
  exact ⟨rfl, rfl, hs, rfl⟩

/-- The `RESET` branch in both runs. -/
lemma World.Rephased.commandReset (h : w.Rephased c start w')
    (ht : ¬ (w.safety.state = .idle ∧ w.motion.data.state ≠ .idle) → w.ReadsShifted c w') :
    (commandReset w').1 = (commandReset w).1 ∧
      (commandReset w).2.Rephased c start (commandReset w').2 := by
  unfold MotionFirmware.commandReset
  rw [h.shifted.safety_state, h.shifted.motion_state]
  split_ifs with hbusy
  · exact ⟨rfl, h⟩
  · have heval := h.evaluate (ht hbusy)
    dsimp only
    generalize runtimeSafetyEvaluate w = v at heval ⊢
    generalize runtimeSafetyEvaluate w' = v' at heval ⊢
    rcases heval.shifted.safety.reset with ⟨hnone, hnone'⟩ | ⟨t, t', hsome, hsome', hshift⟩
    · rw [show safetyReset v.safety = none from hnone,
        show safetyReset v'.safety = none from hnone']
      refine ⟨rfl, heval.of_call .reset rfl ?_ ?_⟩
      · simp [SafetyManager.apply, hnone, World.callSafety]
      · have hs := heval.shifted
        exact ⟨hs.axis, hs.rt, hs.safety, hs.task⟩
    · rw [show safetyReset v.safety = some t from hsome,
        show safetyReset v'.safety = some t' from hsome']
      refine ⟨rfl, heval.of_call .reset rfl ?_ (heval.shifted.acceptReset hshift)⟩
      simp [SafetyManager.apply, hsome, MotionFirmware.acceptReset, World.callSafety]

/-- The `STOP` of a seek in both runs. -/
lemma World.Rephased.commandStopHoming (h : w.Rephased c start w') (hw : w.Begun)
    (hhome : w.motion.data.state = .homing) (ht : w.ReadsShifted c w') :
    (commandStopHoming w).Rephased c start (commandStopHoming w') := by
  have habort := h.shifted.abortHoming ht (hw hhome) (r := .stopped) nofun
  have hstop : World.Shifted c (w.HadCandidate start) (w.HadLatch start)
      (MotionFirmware.commandStopHoming w) (MotionFirmware.commandStopHoming w') := by
    have hcount := habort.countAbort
    unfold MotionFirmware.commandStopHoming
    obtain ⟨clock, reads, a, d, z, calls, heq, hstart, hdetection⟩ := hcount.exists_eq
    dsimp only
    rw [heq]
    exact ⟨rfl, rfl, ⟨rfl, hstart, hdetection⟩, rfl⟩
  exact h.of_same rfl rfl hstop

lemma World.Rephased.afterTime (h : w.Rephased c start w') :
    w.afterTime.Rephased c start w'.afterTime :=
  h.of_same rfl rfl h.shifted.afterTime

/-- The `HOME` branch in both runs. -/
lemma World.Rephased.commandHome (h : w.Rephased c start w')
    (hr : homeReadings w' = (homeReadings w).map (· + c)) :
    (commandHome w').1 = (commandHome w).1 ∧
      (commandHome w).2.Rephased c start (commandHome w').2 := by
  unfold homeReadings at hr
  obtain ⟨ht, hr⟩ := readsShifted_of_cons hr
  have hbegin : homingBegin w'.afterTime.toAxis w'.io.platformTimeMs =
      Axis.shiftResult c w'.io.env.clock (w'.io.clockReads + 1)
        (homingBegin w.afterTime.toAxis w.io.platformTimeMs) := by
    rw [show w'.io.platformTimeMs = w.io.platformTimeMs + c from ht,
      show w'.afterTime.toAxis = _ from h.afterTime.shifted.axis]
    exact homingBegin_shift
  have hrecord : (homingBegin w.afterTime.toAxis w.io.platformTimeMs).1 = .accepted →
      (homingBegin w.afterTime.toAxis w.io.platformTimeMs).2.motion.data.homing.result ≠ .none := by
    intro haccepted
    obtain ⟨-, -, -, heq⟩ := homingBegin_accepted haccepted
    rw [heq]
    exact nofun
  unfold MotionFirmware.commandHome
  dsimp only
  rw [hbegin] at hr ⊢
  generalize homingBegin w.afterTime.toAxis w.io.platformTimeMs = begun at hr hrecord ⊢
  have hbegun := h.afterTime.onAxis (x := begun.2) w'.io.env.clock (w'.io.clockReads + 1) rfl
  refine ⟨rfl, ?_⟩
  change World.Rephased c start (if begun.1 = .accepted then _ else _)
    (if begun.1 = .accepted then _ else _)
  change (if begun.1 = .accepted then _ else _) = List.map _ _ at hr
  by_cases haccepted : begun.1 = .accepted
  · rw [if_pos haccepted, if_pos haccepted]
    rw [if_pos haccepted, if_pos haccepted] at hr
    have hrest : ({ w.afterTime with toAxis := begun.2 } : World).Begun :=
      fun _ => hrecord haccepted
    exact hbegun.reevaluate_last hrest hr
  · rw [if_neg haccepted, if_neg haccepted]
    exact hbegun.publish

/-- A command of `motion_command` in both runs. -/
lemma World.Rephased.motionCommand (h : w.Rephased c start w') (command : MotionCommand) :
    (motionCommand w'.toAxis command).1 = (motionCommand w.toAxis command).1 ∧
      { w with toAxis := (motionCommand w.toAxis command).2 }.Rephased c start
        { w' with toAxis := (motionCommand w'.toAxis command).2 } := by
  have hcommand : MotionFirmware.motionCommand w'.toAxis command =
      Axis.shiftResult c w'.io.env.clock w'.io.clockReads
        (MotionFirmware.motionCommand w.toAxis command) := by
    rw [show w'.toAxis = _ from h.shifted.axis]
    exact motionCommand_shift
  rw [hcommand]
  exact ⟨rfl, h.onAxis _ _ rfl⟩

/-- The departure branch in both runs. -/
lemma World.Rephased.commandDepart (h : w.Rephased c start w') {command : MotionCommand}
    (hhome : w.motion.data.state ≠ .homing)
    (hr : departReadings w' command = (departReadings w command).map (· + c)) :
    (commandDepart w' command).1 = (commandDepart w command).1 ∧
      (commandDepart w command).2.Rephased c start (commandDepart w' command).2 := by
  have hmotion := h.shifted.motion_eq
  have htarget : motionTarget w'.motion command = motionTarget w.motion command := by
    rw [hmotion]
    rfl
  have hposition : w'.motion.data.position = w.motion.data.position := by
    rw [hmotion]
    rfl
  obtain ⟨hresult, hcommanded⟩ := h.motionCommand command
  unfold departReadings at hr
  unfold MotionFirmware.commandDepart
  rw [htarget, hposition] at hr ⊢
  split_ifs at hr ⊢
  · exact ⟨rfl, h⟩
  · have hrest : ({ w with toAxis := (MotionFirmware.motionCommand w.toAxis command).2 } :
        World).Begun := fun hhome' => absurd hhome' (motionCommand_state_ne_homing hhome)
    exact ⟨hresult, hcommanded.reevaluate_last hrest hr⟩

omit [Rounding] in
lemma World.Shifted.parkedHome (h : w.Shifted c P Q w') : w'.parkedHome = w.parkedHome := by
  obtain ⟨clock, reads, start, detection, zero, calls, rfl, -, -⟩ := h.exists_eq
  rfl

omit [Rounding] in
lemma World.Shifted.closed (h : w.Shifted c P Q w') :
    w'.io.motor = w.io.motor ∧ w'.safety.homeContact = w.safety.homeContact := by
  obtain ⟨clock, reads, start, detection, zero, calls, rfl, -, -⟩ := h.exists_eq
  exact ⟨rfl, rfl⟩

/-- **A command in both runs** has the same result. -/
theorem World.Rephased.command (h : w.Rephased c start w') (hw : w.Begun) {command : MotionCommand}
    (hr : commandReadings w' command = (commandReadings w command).map (· + c)) :
    (runtimeSafetyCommand w' command).1 = (runtimeSafetyCommand w command).1 ∧
      (runtimeSafetyCommand w command).2.Rephased c start
        (runtimeSafetyCommand w' command).2 := by
  obtain ⟨hmotor, hcontact⟩ := h.shifted.closed
  unfold commandReadings at hr
  unfold runtimeSafetyCommand
  rw [h.shifted.safety_state, h.shifted.motion_state, hmotor, h.shifted.parkedHome, hcontact]
    at hr ⊢
  split_ifs at hr ⊢ with hestop hreset hbusy hstop hclosed hhalt hhome hseek hdepart
  · exact ⟨rfl, h.commandEstop hw hr⟩
  · exact h.commandReset fun hopen => absurd hbusy hopen
  · exact h.commandReset fun _ => (List.cons.inj hr).1
  · exact ⟨rfl, h.commandStopHoming hw hstop.2.1 (List.cons.inj hr).1⟩
  · exact ⟨rfl, h⟩
  · exact ⟨rfl, h⟩
  · exact h.commandHome hr
  · exact ⟨rfl, h⟩
  · exact h.commandDepart hseek hr
  · exact h.motionCommand command

/-! ### The control update -/

/-- An update keeps the record of the attempt of a seeking controller. -/
lemma begun_homingUpdate (hw : w.Begun) (inputs : GpioInputs) (now : UInt32) :
    ({ w with toAxis := (homingUpdate w.toAxis inputs now).2 } : World).Begun := by
  intro hhome
  change (homingUpdate w.toAxis inputs now).2.motion.data.state = .homing at hhome
  change (homingUpdate w.toAxis inputs now).2.motion.data.homing.result ≠ .none
  rcases homingUpdate_cases w.toAxis inputs now with ⟨heq, -⟩ | ⟨io, -, heq, -⟩ | hsame
  · rw [heq] at hhome ⊢
    exact HomingSnapshot.abort_ne nofun (hw hhome)
  · rw [heq]
    exact nofun
  · rw [hsame.result]
    exact hw (hsame.state.symm.trans hhome)

/-- The departure allowance in both runs. -/
lemma World.Rephased.grantContact (h : w.Rephased c start w') :
    (grantContact w).Rephased c start (grantContact w') := by
  refine h.of_call .grantContact rfl rfl ?_
  obtain ⟨clock, reads, a, d, z, calls, rfl, hstart, hdetection⟩ := h.shifted.exists_eq
  exact ⟨rfl, rfl, ⟨rfl, hstart, hdetection⟩, rfl⟩

/-- The end of a seek in both runs. -/
lemma World.Rephased.finishHoming (h : w.Rephased c start w') (hw : w.Begun) {now : UInt32}
    {l l' : List UInt32}
    (hr : finishReadings w' (now + c) ++ l' = (finishReadings w now ++ l).map (· + c)) :
    (finishHoming w now).Rephased c start (finishHoming w' (now + c)) ∧ l' = l.map (· + c) := by
  have hresult : w'.motion.data.homing.result = w.motion.data.homing.result := by
    rw [h.shifted.motion_eq]
    rfl
  unfold finishReadings at hr
  unfold MotionFirmware.finishHoming
  rw [hresult] at hr ⊢
  split_ifs at hr ⊢
  · have hbegun : (MotionFirmware.raiseTimeout w now).Begun := by
      unfold World.Begun
      rw [raiseTimeout_motion]
      exact hw
    exact h.raiseTimeout.sync hbegun hr
  · obtain ⟨ht, hl⟩ := readsShifted_of_cons hr
    exact ⟨h.grantContact.evaluate ht, hl⟩
  · exact ⟨h, hr⟩

/-- The update of a seek in both runs. -/
lemma World.Rephased.seekUpdate (h : w.Rephased c start w') (hw : w.Begun) {inputs : GpioInputs}
    {now : UInt32} {l l' : List UInt32}
    (hr : seekReadings w' inputs (now + c) ++ l' = (seekReadings w inputs now ++ l).map (· + c)) :
    (seekUpdate w' inputs (now + c)).1 = (seekUpdate w inputs now).1 ∧
      (seekUpdate w inputs now).2.Rephased c start (seekUpdate w' inputs (now + c)).2 ∧
      l' = l.map (· + c) := by
  have hupdate : homingUpdate w'.toAxis inputs (now + c) =
      Axis.shiftResult c w'.io.env.clock w'.io.clockReads (homingUpdate w.toAxis inputs now) := by
    rw [show w'.toAxis = _ from h.shifted.axis]
    exact homingUpdate_shift hw
  have hbegun := begun_homingUpdate hw inputs now
  unfold seekReadings at hr
  unfold MotionFirmware.seekUpdate
  dsimp only at hr ⊢
  rw [hupdate] at hr ⊢
  generalize homingUpdate w.toAxis inputs now = updated at hr hbegun ⊢
  obtain ⟨ok, x⟩ := updated
  have hnext := h.onAxis (x := x) w'.io.env.clock w'.io.clockReads rfl
  cases ok with
  | false => exact ⟨rfl, hnext, hr⟩
  | true => exact ⟨rfl, hnext.finishHoming hbegun hr⟩

lemma World.Rephased.afterGpio (h : w.Rephased c start w') :
    { w with io := w.io.afterGpio }.Rephased c start { w' with io := w'.io.afterGpio } := by
  refine h.of_same rfl rfl ?_
  obtain ⟨clock, reads, a, d, z, calls, rfl, hstart, hdetection⟩ := h.shifted.exists_eq
  exact ⟨rfl, rfl, ⟨rfl, hstart, hdetection⟩, rfl⟩

omit [Rounding] in
/-- Every kind of operation is admitted. -/
lemma common_any : Common fun _ _ => True :=
  ⟨fun _ => trivial, fun _ => trivial, fun _ => trivial, fun _ => trivial, fun _ => trivial,
    fun _ => trivial, fun _ => trivial, fun _ => trivial, fun _ => trivial, fun _ => trivial⟩

/-- The `HOMING` branch of the control update in both runs. -/
lemma World.Rephased.homingControl (h : w.Rephased c start w') (hreg : w.Regular) (hw : w.Begun)
    {now : UInt32} {l l' : List UInt32}
    (hr : homingReadings w' (now + c) ++ l' = (homingReadings w now ++ l).map (· + c)) :
    (homingControl w' (now + c)).1 = (homingControl w now).1 ∧
      (homingControl w now).2.Rephased c start (homingControl w' (now + c)).2 ∧
      l' = l.map (· + c) := by
  have hread := h.afterGpio
  have hgpio : w'.io.gpioReadInputs = w.io.gpioReadInputs := by
    obtain ⟨clock, reads, a, d, z, calls, rfl, -, -⟩ := h.shifted.exists_eq
    rfl
  have hregular : ({ w with io := w.io.afterGpio } : World).Regular := ⟨hreg.homing, hreg.settled⟩
  have hbegun : ({ w with io := w.io.afterGpio } : World).Begun := hw
  unfold homingReadings at hr
  unfold MotionFirmware.homingControl
  dsimp only at hr ⊢
  rw [hgpio] at hr ⊢
  generalize w.io.gpioReadInputs = gpio at hr ⊢
  generalize ({ w with io := w.io.afterGpio } : World) = u at hr hread hregular hbegun ⊢
  generalize ({ w' with io := w'.io.afterGpio } : World) = u' at hr hread ⊢
  by_cases hhazard : hazardRead gpio = true
  · rw [if_pos hhazard, if_pos hhazard, List.append_assoc, List.append_assoc] at hr
    rw [if_pos hhazard, if_pos hhazard]
    obtain ⟨heval, hrest⟩ := hread.reevaluate hbegun hr
    have hbegun' := hbegun.of_operations (operations_reevaluate common_any u) hregular
    rw [heval.shifted.safety_state] at hrest ⊢
    by_cases hlatched : (MotionFirmware.reevaluate u).safety.state ≠ .idle
    · rw [if_pos hlatched, if_pos hlatched] at hrest ⊢
      exact ⟨rfl, heval, hrest⟩
    · rw [if_neg hlatched, if_neg hlatched] at hrest ⊢
      exact heval.seekUpdate hbegun' hrest
  · rw [if_neg hhazard, if_neg hhazard] at hr ⊢
    exact hread.seekUpdate hbegun hr

/-- An update of `motion_update` in both runs. -/
lemma World.Rephased.motionUpdate (h : w.Rephased c start w') (dt : FloatValue) :
    (motionUpdate w'.toAxis dt).1 = (motionUpdate w.toAxis dt).1 ∧
      { w with toAxis := (motionUpdate w.toAxis dt).2 }.Rephased c start
        { w' with toAxis := (motionUpdate w'.toAxis dt).2 } := by
  have hupdate : MotionFirmware.motionUpdate w'.toAxis dt =
      Axis.shiftResult c w'.io.env.clock w'.io.clockReads
        (MotionFirmware.motionUpdate w.toAxis dt) := by
    rw [show w'.toAxis = _ from h.shifted.axis]
    exact motionUpdate_shift
  rw [hupdate]
  exact ⟨rfl, h.onAxis _ _ rfl⟩

/-- **The control update in both runs.** -/
theorem World.Rephased.controlUpdate (h : w.Rephased c start w') (hreg : w.Regular) (hw : w.Begun)
    {dt : FloatValue} {now : UInt32} {l l' : List UInt32}
    (hr : updateReadings w' (now + c) ++ l' = (updateReadings w now ++ l).map (· + c)) :
    (runtimeControlUpdate w' dt (now + c)).1 = (runtimeControlUpdate w dt now).1 ∧
      (runtimeControlUpdate w dt now).2.Rephased c start
        (runtimeControlUpdate w' dt (now + c)).2 ∧ l' = l.map (· + c) := by
  obtain ⟨-, hcontact⟩ := h.shifted.closed
  unfold updateReadings at hr
  unfold runtimeControlUpdate
  rw [h.shifted.motion_state, hcontact] at hr ⊢
  by_cases hhome : w.motion.data.state ≠ .homing
  · rw [if_pos hhome, if_pos hhome] at hr ⊢
    have hfinish : ∀ u u' : World, u.Rephased c start u' → l' = l.map (· + c) →
        (MotionFirmware.motionUpdate u'.toAxis dt).1 = (MotionFirmware.motionUpdate u.toAxis dt).1 ∧
          { u with toAxis := (MotionFirmware.motionUpdate u.toAxis dt).2 }.Rephased c start
            { u' with toAxis := (MotionFirmware.motionUpdate u'.toAxis dt).2 } ∧
          l' = l.map (· + c) := by
      intro u u' hu hl
      exact ⟨(hu.motionUpdate dt).1, (hu.motionUpdate dt).2, hl⟩
    by_cases hallowed : w.safety.homeContact = true
    · rw [if_pos hallowed, if_pos hallowed] at hr ⊢
      obtain ⟨heval, hl⟩ := h.reevaluate hw hr
      exact hfinish _ _ heval hl
    · rw [if_neg hallowed, if_neg hallowed] at hr ⊢
      exact hfinish _ _ h hr
  · rw [if_neg hhome, if_neg hhome] at hr ⊢
    exact h.homingControl hreg hw hr

/-! ### The sections of the Motion task -/

omit [Rounding] in
/-- The time of a release is shifted once it has been taken. -/
lemma World.Shifted.nowMs (h : w.Shifted c P Q w') (ht : w.task.timed = true) :
    w'.task.nowMs = w.task.nowMs + c := by
  rw [h.task]
  exact if_pos ht

omit [Rounding] in
/-- A section after the sample has a time. -/
lemma timed_of_sampled {t : MotionTask} (h : t.phase.sampled = true) : t.timed = true := by
  unfold MotionTask.timed
  rw [h, Bool.or_true]

/-- The update of a release in both runs. -/
lemma World.Rephased.attemptUpdate (h : w.Rephased c start w') (hreg : w.Regular) (hw : w.Begun)
    (ht : w.task.timed = true) {l l' : List UInt32}
    (hr : (if w'.task.sampled then updateReadings w' w'.task.nowMs else []) ++ l' =
      ((if w.task.sampled then updateReadings w w.task.nowMs else []) ++ l).map (· + c)) :
    (attemptUpdate w').1 = (attemptUpdate w).1 ∧
      (attemptUpdate w).2.Rephased c start (attemptUpdate w').2 ∧ l' = l.map (· + c) := by
  have hsampled : w'.task.sampled = w.task.sampled := by
    rw [h.shifted.task]
    rfl
  have hdt : w'.task.dt = w.task.dt := by
    rw [h.shifted.task]
    rfl
  unfold MotionFirmware.attemptUpdate
  rw [hsampled, h.shifted.nowMs ht] at hr
  rw [hsampled, hdt, h.shifted.nowMs ht]
  by_cases hs : w.task.sampled = true
  · rw [if_pos hs, if_pos hs] at hr ⊢
    exact h.controlUpdate hreg hw hr
  · rw [if_neg hs, if_neg hs] at hr ⊢
    exact ⟨rfl, h, hr⟩

/-- The treatment of a failed update in both runs. -/
lemma World.Rephased.updateFailed (h : w.Rephased c start w') (hw : w.Begun)
    (ht : w.task.timed = true) (active : Bool)
    (hr : syncReadings (MotionFirmware.raiseInternal (if active then w'.countAbort else w')
        w'.task.nowMs) =
      (syncReadings (MotionFirmware.raiseInternal (if active then w.countAbort else w)
        w.task.nowMs)).map (· + c)) :
    (updateFailed w active).Rephased c start (updateFailed w' active) := by
  have hraise : ∀ u u' : World, u.Rephased c start u' → u.Begun →
      syncReadings (MotionFirmware.raiseInternal u' (w.task.nowMs + c)) =
        (syncReadings (MotionFirmware.raiseInternal u w.task.nowMs)).map (· + c) →
      (runtimeSafetySync (MotionFirmware.raiseInternal u w.task.nowMs)).Rephased c start
        (runtimeSafetySync (MotionFirmware.raiseInternal u' (w.task.nowMs + c))) := by
    intro u u' hu hbegun hread
    have hbegun' : (MotionFirmware.raiseInternal u w.task.nowMs).Begun := by
      unfold World.Begun
      rw [raiseInternal_motion]
      exact hbegun
    exact hu.raiseInternal.sync_last hbegun' hread
  unfold MotionFirmware.updateFailed
  rw [h.shifted.nowMs ht] at hr ⊢
  cases active with
  | true => exact hraise _ _ h.countAbort hw hr
  | false => exact hraise _ _ h hw hr

/-- **The control section in both runs.** -/
theorem World.Rephased.controlSection (h : w.Rephased c start w') (hreg : w.Regular) (hw : w.Begun)
    (ht : w.task.timed = true) (hr : controlReadings w' = (controlReadings w).map (· + c)) :
    (controlSection w').1 = (controlSection w).1 ∧
      (controlSection w).2.Rephased c start (controlSection w').2 := by
  unfold controlReadings at hr
  unfold MotionFirmware.controlSection
  dsimp only at hr ⊢
  rw [List.append_assoc, List.append_assoc] at hr
  obtain ⟨hsync, hr⟩ := h.sync hw hr
  have hreg' := hreg.runtimeSafetySync
  have hbegun := hw.of_operations
    (Operations.single (K := fun _ _ => True) trivial (.sync w)) hreg
  have hidle : (runtimeSafetySync w).motion.data.state = .homing →
      (runtimeSafetySync w).safety.state = .idle := by
    intro hhome
    simpa using idle_of_runtimeSafetySync_homing hreg hhome
  have htimed : (runtimeSafetySync w).task.timed = true := by rwa [runtimeSafetySync_task]
  generalize runtimeSafetySync w = v at hr hsync hreg' hbegun hidle htimed ⊢
  generalize runtimeSafetySync w' = v' at hr hsync ⊢
  obtain ⟨hresult, hattempt, hr⟩ := hsync.attemptUpdate hreg' hbegun htimed hr
  have hbegun' : (MotionFirmware.attemptUpdate v).2.Begun := by
    refine hbegun.of_operations (K := fun _ _ => True) ?_ hreg'
    unfold MotionFirmware.attemptUpdate
    split_ifs
    · exact operations_controlUpdate common_any hidle hreg' (fun _ _ _ _ => trivial)
        (fun _ _ _ _ _ _ => trivial) fun _ _ => ⟨trivial, trivial⟩
    · exact Operations.refl v
  have htimed' : (MotionFirmware.attemptUpdate v).2.task.timed = true := by
    rwa [attemptUpdate_task]
  rw [hresult, hsync.shifted.motion_state] at hr ⊢
  by_cases hok : (MotionFirmware.attemptUpdate v).1 = true
  · rw [if_pos hok, if_pos hok]
    exact ⟨hresult, hattempt⟩
  · rw [if_neg hok, if_neg hok] at hr ⊢
    generalize v.motion.data.state.active = active at hr ⊢
    refine ⟨rfl, hattempt.updateFailed hbegun' htimed' active ?_⟩
    cases active with
    | true => exact hr
    | false => exact hr

/-- A section that only changes the local variables of the Motion task. -/
lemma World.Rephased.withTask (h : w.Rephased c start w') {t t' : MotionTask}
    (ht : t' = t.shift c) :
    { w with task := t }.Rephased c start { w' with task := t' } :=
  have hs := h.shifted
  h.of_same rfl rfl ⟨hs.axis, hs.rt, hs.safety, ht⟩

/-- The Motion task goes on to another section, at which the same times have been taken. -/
lemma World.Rephased.goto (h : w.Rephased c start w') {phase : Phase}
    (hanchored : phase.anchored = w.task.phase.anchored)
    (htimed : (w.goto phase).task.timed = w.task.timed) :
    (w.goto phase).Rephased c start (w'.goto phase) := by
  refine h.withTask ?_
  have htimed' : ({ w.task with phase := phase } : MotionTask).timed = w.task.timed := htimed
  rw [h.shifted.task]
  simp only [MotionTask.shift, hanchored, htimed']

omit [Rounding] in
lemma Phase.anchored_of_sampled {p : Phase} (h : p.sampled = true) : p.anchored = true := by
  cases p <;> first | rfl | exact absurd h nofun

/-- The Motion task goes on from one section after the sample to another. -/
lemma World.Rephased.gotoLater (h : w.Rephased c start w') {phase : Phase}
    (hw : w.task.phase.sampled = true) (hphase : phase.sampled = true) :
    (w.goto phase).Rephased c start (w'.goto phase) := by
  refine h.goto ?_ ?_
  · rw [Phase.anchored_of_sampled hw, Phase.anchored_of_sampled hphase]
  · rw [timed_of_sampled hw, timed_of_sampled hphase]

omit [Rounding] in
lemma sampled_nextCommand (i : ℕ) : (nextCommand i).sampled = true := by
  rcases nextCommand_cases i with h | h <;> rw [h] <;> rfl

/-- The publication of a release in both runs. -/
lemma World.Rephased.publishRelease (h : w.Rephased c start w') (ht : w.task.timed = true)
    (updated : Bool) :
    (publishRelease w updated).Rephased c start (publishRelease w' updated) := by
  have hnow : (w.task.shift c).nowMs = w.task.nowMs + c := if_pos ht
  refine h.of_same rfl rfl ?_
  obtain ⟨clock, reads, a, d, z, calls, rfl, hstart, hdetection⟩ := h.shifted.exists_eq
  refine ⟨rfl, rfl, ⟨rfl, hstart, hdetection⟩, ?_⟩
  have hleft : (MotionFirmware.publishRelease (w.shift c clock reads (w.safety.shift c a d z) calls)
      updated).task = { w.task with
        first := false, nowMs := w.task.nowMs + c, previousMs := w.task.nowMs + c,
        phase := .begin } := by
    rw [← hnow]
    rfl
  rw [hleft]
  rfl

/-- The internal fault at the time of the release in both runs. -/
lemma World.Rephased.raiseInternalNow (h : w.Rephased c start w') (ht : w.task.timed = true) :
    (MotionFirmware.raiseInternal w w.task.nowMs).Rephased c start
      (MotionFirmware.raiseInternal w' w'.task.nowMs) := by
  rw [h.shifted.nowMs ht]
  exact h.raiseInternal

/-- The record that a failed sample closes, in both runs. -/
lemma World.Rephased.abortFaulted (h : w.Rephased c start w') :
    World.Rephased c start (w.onAxis fun x => homingAbort x .faulted)
      (w'.onAxis fun x => homingAbort x .faulted) := by
  have habort : homingAbort w'.toAxis .faulted =
      (homingAbort w.toAxis .faulted).shift c w'.io.env.clock w'.io.clockReads := by
    rw [show w'.toAxis = _ from h.shifted.axis]
    exact homingAbort_shift nofun
  exact h.onAxis _ _ habort

omit [Rounding] in
lemma World.Shifted.beforeSafety (h : w.Shifted c P Q w') :
    w'.task.beforeSafety = w.task.beforeSafety := by
  rw [h.task]
  rfl

/-- The treatment of a failed sample in both runs. -/
lemma World.Rephased.sampleFailed (h : w.Rephased c start w') (ht : w.task.timed = true) :
    (sampleFailed w).Rephased c start (sampleFailed w') := by
  have hfinish : ∀ u u' : World, u.Rephased c start u' → u.task = w.task →
      (MotionFirmware.raiseInternal
        (if u.task.beforeSafety = .homing then u.onAxis fun x => homingAbort x .faulted else u)
        (if u.task.beforeSafety = .homing then u.onAxis fun x => homingAbort x .faulted
          else u).task.nowMs).Rephased c start
      (MotionFirmware.raiseInternal
        (if u'.task.beforeSafety = .homing then u'.onAxis fun x => homingAbort x .faulted else u')
        (if u'.task.beforeSafety = .homing then u'.onAxis fun x => homingAbort x .faulted
          else u').task.nowMs) := by
    intro u u' hu htask
    have htimed : u.task.timed = true := by rwa [htask]
    rw [hu.shifted.beforeSafety]
    split_ifs
    · exact hu.abortFaulted.raiseInternalNow htimed
    · exact hu.raiseInternalNow htimed
  unfold MotionFirmware.sampleFailed
  dsimp only
  rw [h.shifted.beforeSafety]
  cases w.task.beforeSafety.active with
  | true => exact hfinish _ _ h.countAbort rfl
  | false => exact hfinish _ _ h rfl

omit [Rounding] in
/-- A failed sample keeps the record of the attempt of a seeking controller. -/
lemma begun_sampleFailed (hw : w.Begun) : (sampleFailed w).Begun := by
  have habort : ∀ u : World, u.Begun → World.Begun
      (if u.task.beforeSafety = .homing then u.onAxis fun x => homingAbort x .faulted else u) := by
    intro u hu
    split_ifs
    · exact fun hhome => HomingSnapshot.abort_ne nofun (hu hhome)
    · exact hu
  unfold sampleFailed World.Begun
  rw [raiseInternal_motion]
  cases w.task.beforeSafety.active with
  | true => exact habort _ hw
  | false => exact habort _ hw

/-- The section after the sample in both runs. -/
lemma World.Rephased.taskReconcile (h : w.Rephased c start w') (hw : w.Begun)
    (hphase : w.task.phase = .reconcile)
    (hr : syncReadings (if w'.task.sampled then w' else MotionFirmware.sampleFailed w') =
      (syncReadings (if w.task.sampled then w else MotionFirmware.sampleFailed w)).map (· + c)) :
    (taskReconcile w).Rephased c start (taskReconcile w') := by
  have hsampled : w'.task.sampled = w.task.sampled := by
    rw [h.shifted.task]
    rfl
  have ht : w.task.timed = true := timed_of_sampled (by rw [hphase]; rfl)
  have hfinish : ∀ u u' : World, u.Rephased c start u' → u.Begun → u.task = w.task →
      syncReadings u' = (syncReadings u).map (· + c) →
      ((runtimeSafetySync u).goto (.receive 0)).Rephased c start
        ((runtimeSafetySync u').goto (.receive 0)) := by
    intro u u' hu hbegun htask hread
    refine (hu.sync_last hbegun hread).gotoLater ?_ rfl
    rw [runtimeSafetySync_task, htask, hphase]
    rfl
  unfold MotionFirmware.taskReconcile
  rw [hsampled] at hr ⊢
  cases hs : w.task.sampled with
  | true =>
    rw [hs] at hr
    exact hfinish _ _ h hw rfl hr
  | false =>
    rw [hs] at hr
    exact hfinish _ _ (h.sampleFailed ht) (begun_sampleFailed hw) (sampleFailed_task w) hr

lemma World.Rephased.disable (h : w.Rephased c start w') :
    w.disable.Rephased c start w'.disable := by
  refine h.of_same rfl rfl ?_
  obtain ⟨clock, reads, a, d, z, calls, rfl, hstart, hdetection⟩ := h.shifted.exists_eq
  exact ⟨rfl, rfl, ⟨rfl, hstart, hdetection⟩, rfl⟩

lemma World.Rephased.taskCreate (h : w.Rephased c start w') (hphase : w.task.phase = .create) :
    (taskCreate w).Rephased c start (taskCreate w') := by
  refine h.disable.withTask ?_
  rw [h.shifted.task]
  simp [MotionTask.shift, MotionTask.timed, Phase.anchored, Phase.sampled, hphase]

lemma World.Rephased.taskConfigure (h : w.Rephased c start w')
    (hphase : w.task.phase = .configure) :
    (taskConfigure w).Rephased c start (taskConfigure w') := by
  have hinit : motionInit w'.toAxis motionDefaultConfig =
      (motionInit w.toAxis motionDefaultConfig).map
        (Axis.shift c w'.io.env.clock w'.io.clockReads) := by
    rw [show w'.toAxis = _ from h.shifted.axis]
    exact motionInit_shift
  unfold MotionFirmware.taskConfigure
  rw [hinit]
  cases motionInit w.toAxis motionDefaultConfig with
  | none => exact h
  | some x =>
    refine (h.onAxis (x := x) _ _ rfl).withTask ?_
    rw [h.shifted.task]
    simp [MotionTask.shift, MotionTask.timed, Phase.anchored, Phase.sampled, hphase]

lemma World.Rephased.taskAnchor (h : w.Rephased c start w') (hphase : w.task.phase = .anchor)
    (ht : w.ReadsShifted c w') : (taskAnchor w).Rephased c start (taskAnchor w') := by
  have ht' : w'.io.platformTimeMs = w.io.platformTimeMs + c := ht
  refine h.afterTime.withTask ?_
  rw [h.shifted.task, ht']
  simp [MotionTask.shift, MotionTask.timed, Phase.anchored, Phase.sampled, hphase]

lemma World.Rephased.taskBegin (h : w.Rephased c start w') (hphase : w.task.phase = .begin) :
    (taskBegin w).Rephased c start (taskBegin w') := by
  have happ : w'.task.app = w.task.app := by
    rw [h.shifted.task]
    rfl
  unfold MotionFirmware.taskBegin
  rw [happ]
  split_ifs
  · refine h.disable.withTask ?_
    rw [h.shifted.task]
    simp [MotionTask.shift, MotionTask.timed, Phase.anchored, Phase.sampled, hphase]
  · refine h.goto ?_ ?_
    · rw [hphase]
      rfl
    · unfold MotionTask.timed World.goto
      rw [hphase]
      rfl

/-- The gap between two releases is a difference. -/
lemma World.Rephased.taskClock (h : w.Rephased c start w') (hphase : w.task.phase = .clock)
    (ht : w.ReadsShifted c w') : (taskClock w).Rephased c start (taskClock w') := by
  have ht' : w'.io.platformTimeMs = w.io.platformTimeMs + c := ht
  have hprevious : w'.task.previousMs = w.task.previousMs + c := by
    rw [h.shifted.task]
    simp [MotionTask.shift, Phase.anchored, hphase]
  have hgap := WrappingClock.add_sub_add_right w.io.platformTimeMs w.task.previousMs c
  refine h.afterTime.withTask ?_
  rw [h.shifted.motion_state, hprevious, ht', hgap, h.shifted.task]
  simp [MotionTask.shift, MotionTask.timed, Phase.anchored, hphase]

lemma World.Rephased.taskSample (h : w.Rephased c start w') (hphase : w.task.phase = .sample) :
    (taskSample w).Rephased c start (taskSample w') := by
  have hdt : w'.task.dt = w.task.dt := by
    rw [h.shifted.task]
    rfl
  have hsample : motionSample w'.toAxis w.task.dt =
      Axis.shiftResult c w'.io.env.clock w'.io.clockReads (motionSample w.toAxis w.task.dt) := by
    rw [show w'.toAxis = _ from h.shifted.axis]
    exact motionSample_shift
  unfold MotionFirmware.taskSample
  rw [hdt, hsample]
  refine (h.onAxis (x := (motionSample w.toAxis w.task.dt).2) _ _ rfl).withTask ?_
  rw [h.shifted.task]
  simp [MotionTask.shift, MotionTask.timed, Phase.anchored, Phase.sampled, hphase,
    Axis.shiftResult]

lemma World.Rephased.taskReceive (h : w.Rephased c start w') {i : ℕ}
    (hphase : w.task.phase = .receive i) (r : Option MotionCommand) :
    (taskReceive w i r).Rephased c start (taskReceive w' i r) := by
  have hsampled : w.task.phase.sampled = true := by rw [hphase]; rfl
  unfold MotionFirmware.taskReceive
  cases r with
  | none => exact h.gotoLater hsampled rfl
  | some command =>
    have hcount : World.Rephased c start
        { w with rt := { w.rt with
          receivedByType := Function.update w.rt.receivedByType command.type
            (w.rt.receivedByType command.type + 1)
          lastCommand := command } }
        { w' with rt := { w'.rt with
          receivedByType := Function.update w'.rt.receivedByType command.type
            (w'.rt.receivedByType command.type + 1)
          lastCommand := command } } := by
      refine h.of_same rfl rfl ?_
      obtain ⟨clock, reads, a, d, z, calls, rfl, hstart, hdetection⟩ := h.shifted.exists_eq
      exact ⟨rfl, rfl, ⟨rfl, hstart, hdetection⟩, rfl⟩
    dsimp only
    split_ifs
    · exact hcount.gotoLater hsampled (sampled_nextCommand i)
    · exact hcount.gotoLater hsampled rfl

lemma World.Rephased.taskExecute (h : w.Rephased c start w') (hw : w.Begun) {i : ℕ}
    {command : MotionCommand} (hphase : w.task.phase = .execute i command)
    (hr : w.task.app = .idle →
      commandReadings w' command = (commandReadings w command).map (· + c)) :
    (taskExecute w i command).Rephased c start (taskExecute w' i command) := by
  have happ : w'.task.app = w.task.app := by
    rw [h.shifted.task]
    rfl
  have hsampled : w.task.phase.sampled = true := by rw [hphase]; rfl
  unfold MotionFirmware.taskExecute
  rw [happ]
  dsimp only
  by_cases hidle : w.task.app = .idle
  · rw [if_pos hidle, if_pos hidle]
    obtain ⟨hresult, hcommand⟩ := h.command hw (hr hidle)
    rw [hresult]
    exact hcommand.gotoLater (by rwa [runtimeSafetyCommand_task]) rfl
  · rw [if_neg hidle, if_neg hidle]
    exact h.gotoLater hsampled rfl

lemma World.Rephased.taskReport (h : w.Rephased c start w') {i : ℕ} {result : MotionResult}
    (hphase : w.task.phase = .report i result) :
    (taskReport w i result).Rephased c start (taskReport w' i result) := by
  have hcount : World.Rephased c start
      { MotionFirmware.taskReport w i result with task := w.task }
      { MotionFirmware.taskReport w' i result with task := w'.task } := by
    refine h.of_same rfl rfl ?_
    obtain ⟨clock, reads, a, d, z, calls, rfl, hstart, hdetection⟩ := h.shifted.exists_eq
    exact ⟨rfl, rfl, ⟨rfl, hstart, hdetection⟩, rfl⟩
  have hsampled : w.task.phase.sampled = true := by rw [hphase]; rfl
  exact hcount.gotoLater hsampled (sampled_nextCommand i)

lemma World.Rephased.taskUpdate (h : w.Rephased c start w') (hreg : w.Regular) (hw : w.Begun)
    (hphase : w.task.phase = .update)
    (hr : controlReadings w' = (controlReadings w).map (· + c)) :
    (taskUpdate w).Rephased c start (taskUpdate w') := by
  have ht : w.task.timed = true := timed_of_sampled (by rw [hphase]; rfl)
  obtain ⟨hresult, hsection⟩ := h.controlSection hreg hw ht hr
  unfold MotionFirmware.taskUpdate
  rw [hresult]
  exact hsection.publishRelease (by rwa [controlSection_task]) _

/-- **The Motion task in both runs.** -/
theorem World.Rephased.motionStep (h : w.Rephased c start w') (hreg : w.Regular) (hw : w.Begun)
    {r : Option MotionCommand} (hr : motionReadings w' = (motionReadings w).map (· + c)) :
    (motionStep w r).Rephased c start (motionStep w' r) := by
  have hsame : w'.task.phase = w.task.phase := by
    rw [h.shifted.task]
    rfl
  have happ : w'.task.app = w.task.app := by
    rw [h.shifted.task]
    rfl
  unfold motionReadings at hr
  unfold MotionFirmware.motionStep
  rw [hsame] at hr ⊢
  cases hphase : w.task.phase with
  | create => exact h.taskCreate hphase
  | configure => exact h.taskConfigure hphase
  | anchor =>
    rw [hphase] at hr
    exact h.taskAnchor hphase (List.cons.inj hr).1
  | begin => exact h.taskBegin hphase
  | clock =>
    rw [hphase] at hr
    exact h.taskClock hphase (List.cons.inj hr).1
  | sample => exact h.taskSample hphase
  | reconcile =>
    rw [hphase] at hr
    exact h.taskReconcile hw hphase hr
  | receive i => exact h.taskReceive hphase r
  | execute i command =>
    rw [hphase] at hr
    refine h.taskExecute hw hphase fun hidle => ?_
    dsimp only at hr
    rwa [happ, if_pos hidle, if_pos hidle] at hr
  | report i result => exact h.taskReport hphase
  | update =>
    rw [hphase] at hr
    exact h.taskUpdate hreg hw hphase hr

/-! ### The other actions -/

lemma World.Rephased.safetyTask (h : w.Rephased c start w') (ht : w.ReadsShifted c w') :
    (safetyTask w).Rephased c start (safetyTask w') := by
  have heval := h.evaluate ht
  unfold MotionFirmware.safetyTask
  dsimp only
  generalize runtimeSafetyEvaluate w = v at heval ⊢
  generalize runtimeSafetyEvaluate w' = v' at heval ⊢
  obtain ⟨clock, reads, a, d, z, calls, rfl, hstart, hdetection⟩ := heval.shifted.exists_eq
  change World.Rephased c start (if v.safety.healthy then _ else _)
    (if v.safety.healthy then _ else _)
  split_ifs
  · exact heval.of_same rfl rfl ⟨rfl, rfl, ⟨rfl, hstart, hdetection⟩, rfl⟩
  · exact heval

lemma World.Rephased.heartbeat (h : w.Rephased c start w') (id : TaskHealthId)
    (ht : w.ReadsShifted c w') :
    (runtimeHeartbeat w id).Rephased c start (runtimeHeartbeat w' id) := by
  have ht' : w'.io.platformTimeMs = w.io.platformTimeMs + c := ht
  have hhealth : Function.update (fun i => (w.rt.health i).shift c) id
      (taskHealthBeat ((w.rt.health id).shift c) (w.io.platformTimeMs + c)) =
      fun i => (Function.update w.rt.health id
        (taskHealthBeat (w.rt.health id) w.io.platformTimeMs) i).shift c := by
    funext i
    by_cases hi : i = id
    · subst hi
      rw [Function.update_self, Function.update_self]
      rfl
    · rw [Function.update_of_ne hi, Function.update_of_ne hi]
  refine h.of_same rfl rfl ?_
  obtain ⟨clock, reads, a, d, z, calls, rfl, hstart, hdetection⟩ := h.shifted.exists_eq
  refine ⟨rfl, ?_, ⟨rfl, hstart, hdetection⟩, rfl⟩
  unfold runtimeHeartbeat
  dsimp only
  rw [ht']
  exact congrArg (fun f => { w.rt.shift c (w.safety.shift c a d z) with health := f }) hhealth

lemma World.Rephased.request (h : w.Rephased c start w') (duty : FloatValue) :
    (foreignRequest w duty).Rephased c start (foreignRequest w' duty) := by
  refine h.of_same rfl rfl ?_
  obtain ⟨clock, reads, a, d, z, calls, rfl, hstart, hdetection⟩ := h.shifted.exists_eq
  exact ⟨rfl, rfl, ⟨rfl, hstart, hdetection⟩, rfl⟩

/-- **Step lemma.**  Related worlds stay related when both perform the same action and read shifted
times. -/
theorem World.Rephased.step (h : w.Rephased c start w') (hreg : w.Regular) (hw : w.Begun)
    {a : Action} (hr : readings a w' = (readings a w).map (· + c)) :
    (step a w).Rephased c start (step a w') := by
  cases a with
  | motion r => exact h.motionStep hreg hw hr
  | safety => exact h.safetyTask (List.cons.inj hr).1
  | heartbeat id => exact h.heartbeat id (List.cons.inj hr).1
  | request duty => exact h.request duty

/-! ### The two runs -/

/-- The two runs start with the reading of the start-up time. -/
lemma rephased_runtimeInit {env env' : Environment} (hgpio : env'.gpio = env.gpio)
    (hraw : env'.rawCount = env.rawCount) (hstart : env'.start = env.start + c) :
    (runtimeInit env).Rephased c env.start (runtimeInit env') := by
  have hsafety : (runtimeInit env).safety.Shifted c ((runtimeInit env).HadCandidate env.start)
      ((runtimeInit env).HadLatch env.start) (runtimeInit env').safety := by
    have hinit : (safetyInit env.start).Shifted c False False (safetyInit env'.start) := by
      rw [hstart]
      exact shifted_safetyInit
    refine SafetyManager.Shifted.weaken hinit ?_ ?_
    · rintro ⟨past, hprefix, hcandidate⟩
      rw [List.prefix_nil.mp hprefix] at hcandidate
      exact absurd hcandidate nofun
    · rintro ⟨past, hprefix, hlatch⟩
      rw [List.prefix_nil.mp hprefix] at hlatch
      exact absurd rfl hlatch
  obtain ⟨gpio, raw, clock⟩ := env'
  obtain rfl := hgpio
  obtain rfl := hraw
  exact ⟨rfl, rfl, rfl, hsafety, rfl⟩

/-- A run from related worlds with shifted readings ends in related worlds. -/
lemma rephased_run {as : List Action} (h : w.Rephased c start w') (hreg : w.Regular)
    (hw : w.Begun)
    (hr : Machine.outputs step readings w' as =
      (Machine.outputs step readings w as).map (List.map (· + c))) :
    (Machine.run step w as).Rephased c start (Machine.run step w' as) := by
  induction as generalizing w w' with
  | nil => exact h
  | cons a as ih =>
    obtain ⟨hhead, htail⟩ := List.cons.inj hr
    have hbegun := hw.of_operations (operations_step hreg a) hreg
    exact ih (h.step hreg hw hhead) (hreg.step a) hbegun htail

/-- **Clock-phase invariance.**  Two environments agree up to the clock, and every reading of the
second run, the one of the start-up included, is the one of the first run plus a constant.  At every
moment of the runs the second world is the first one with every time shifted that has been set: the
states, the results, the faults, the duties, the masks, the durations and the counters are the same,
and the time of zero output is the only one that is not compared. -/
theorem clock_phase_invariant (env env' : Environment) (c : UInt32) (as : List Action)
    (hgpio : env'.gpio = env.gpio) (hraw : env'.rawCount = env.rawCount)
    (hstart : env'.start = env.start + c)
    (hclock : Machine.outputs step readings (runtimeInit env') as =
      (Machine.outputs step readings (runtimeInit env) as).map (List.map (· + c))) :
    ∀ bs, bs <+: as → (runtime env bs).Shifted c ((runtime env bs).HadCandidate env.start)
      ((runtime env bs).HadLatch env.start) (runtime env' bs) := by
  rintro bs ⟨cs, rfl⟩
  rw [Machine.outputs_append, Machine.outputs_append, List.map_append] at hclock
  have hlength : (Machine.outputs step readings (runtimeInit env') bs).length =
      ((Machine.outputs step readings (runtimeInit env) bs).map (List.map (· + c))).length := by
    simp
  have hprefix := (List.append_inj hclock hlength).1
  have hbegun : (runtimeInit env).Begun := by
    intro h
    exact absurd h nofun
  exact (rephased_run (rephased_runtimeInit hgpio hraw hstart) (regular_runtimeInit env) hbegun
    hprefix).shifted

/-- The clock of the second run rolls over during the start-up. -/
def earlyRollover : Environment := { standstill with clock := fun n => n + 4294967290 }

/-- A `HOME`, and an `ESTOP` in the next release. -/
def estoppedHome : List Action := startUp ++ release [⟨.home, 0⟩] ++ release [⟨.estop, 0⟩]

omit [Rounding] in
/-- A run whose clock rolls over during the start-up is the shift of one whose clock does not. -/
theorem clock_phase_invariant_rollover :
    (runtime32 standstill estoppedHome).Shifted 4294967290
      (@World.HadCandidate Binary32.rounding standstill.start (runtime32 standstill estoppedHome))
      (@World.HadLatch Binary32.rounding standstill.start (runtime32 standstill estoppedHome))
      (runtime32 earlyRollover estoppedHome) :=
  @clock_phase_invariant Binary32.rounding standstill earlyRollover 4294967290 estoppedHome
    rfl rfl rfl
    (by decide +kernel) _ (List.prefix_refl _)

end MotionFirmware
