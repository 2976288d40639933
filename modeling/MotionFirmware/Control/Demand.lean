import MotionFirmware.Control.MotionRuns

/-!
# What drives the motor

On a controller that alone drives the motor, a duty is applied only in `MOVING` and with valid
feedback, and the target of a `MOVING` controller is the integer that was demanded, inside the
travel.  A failing sample or update drops everything, and the motor can be driven again only after
a successful sample and a newly accepted motion.
-/

namespace MotionFirmware

variable [Rounding]

/-- What an observer of the calls has seen: the last sampled position, and the exact integer that
the last accepted `MOVE` or `MOVE_REL` demanded. -/
structure Seen where
  position : Int32 := 0
  target : ℤ := 0

namespace MotionCall

/-- The observer of the samples and of the accepted motions. -/
def observeDemand (call : MotionCall) (x : Axis) (seen : Seen) : Seen :=
  match call with
  | .sample dt =>
    if (motionSample x dt).1 then { seen with position := x.io.encoderGetCount.getD 0 } else seen
  | .command c =>
    if (motionCommand x c).1 = .accepted then
      match c.type with
      | .moveAbs => { seen with target := c.value.toInt }
      | .moveRel => { seen with target := seen.position.toInt + c.value.toInt }
      | _ => seen
    else seen
  | .update _ => seen

end MotionCall

/-- What the observer has seen after a run from `x`. -/
def demandSeen (x : Axis) (calls : List MotionCall) : Seen :=
  Machine.watch MotionCall.step MotionCall.observeDemand x {} calls

/-- The motor is driven only in `MOVING`, which needs valid feedback, towards the demanded integer
inside the travel. -/
structure Demanded (c : MotionConfig) (x : Axis) (seen : Seen) : Prop where
  config : x.motion.config = c
  initialized : x.motion.initialized = true
  still : x.motion.data.state ≠ .moving → x.io.motor.output = 0
  valid : x.motion.data.state = .moving → x.motion.data.feedbackValid = true
  position : x.motion.data.feedbackValid = true → x.motion.data.position = seen.position
  target : x.motion.data.state = .moving → x.motion.data.target.toInt = seen.target
  range : x.motion.data.state = .moving →
    c.minimum.toInt ≤ x.motion.data.target.toInt ∧ x.motion.data.target.toInt ≤ c.maximum.toInt

/-- Motion and feedback are dropped and the history is cleared. -/
structure Axis.Dropped (x : Axis) : Prop where
  output : x.io.motor.output = 0
  requested : x.io.motor.requested = 0
  idle : x.motion.data.state = .idle
  feedback : x.motion.data.feedbackValid = false
  dwell : x.motion.data.stableCycles = 0
  integral : x.motion.pid.integral = 0
  measurement : x.motion.pid.previousMeasurement = 0
  sampled : x.motion.pid.sampled = false

variable {c : MotionConfig} {x : Axis} {seen : Seen} {call : MotionCall}

/-- The dwell part of an update keeps the target. -/
lemma updated_target (m : MotionController) : m.updated.data.target = m.data.target := by
  unfold MotionController.updated MotionController.dwell
  split_ifs <;> rfl

omit [Rounding] in
/-- A failure drops everything on an initialised controller. -/
lemma dropped_fail {y : Axis} (h : y.motion.initialized = true) : (fail y).Dropped := by
  have hmotion : (fail y).motion = { y.motion with
      data := { y.motion.data with
        state := .idle, feedbackValid := false, pwm := 0, pidOutput := 0, stableCycles := 0 }
      sampled := false
      pid := pidReset y.motion.pid } := if_pos h
  constructor <;> first | rfl | rw [hmotion] <;> rfl

omit [Rounding] in
/-- A dropped controller agrees with everything that has been seen. -/
lemma demanded_of_dropped (hconfig : x.motion.config = c) (hinit : x.motion.initialized = true)
    (h : x.Dropped) : Demanded c x seen := by
  have hnot : x.motion.data.state ≠ .moving := by simp [h.idle]
  refine ⟨hconfig, hinit, fun _ => h.output, fun hm => absurd hm hnot, fun hv => ?_,
    fun hm => absurd hm hnot, fun hm => absurd hm hnot⟩
  exact absurd hv (by simp [h.feedback])

omit [Rounding] in
/-- A target inside the travel is a 32-bit number: it is stored without wrapping. -/
lemma toInt_ofInt_of_range {m : MotionController} {target : ℤ} (h : m.outOfRange target = false) :
    (Int32.ofInt target).toInt = target ∧ m.config.minimum.toInt ≤ target ∧
      target ≤ m.config.maximum.toInt := by
  simp only [MotionController.outOfRange, Bool.or_eq_false_iff, decide_eq_false_iff_not,
    not_lt] at h
  refine ⟨Int32.toInt_ofInt_of_le ?_ ?_, h.1, h.2⟩
  · exact (Int32.le_toInt m.config.minimum).trans h.1
  · exact lt_of_le_of_lt h.2 (Int32.toInt_lt m.config.maximum)

/-- **Step lemma.**  Every call keeps the controller in agreement with what has been seen. -/
theorem demanded_step (hw : Demanded c x seen) :
    Demanded c (call.step x) (call.observeDemand x seen) := by
  have heffect := call.effect x
  generalize hresult : call.result x = r at heffect
  generalize call.step x = y at heffect ⊢
  cases heffect with
  | failed frame =>
    have hframe := Axis.Frame.fail frame
    exact demanded_of_dropped (hframe.config.trans hw.config)
      (hframe.initialized.trans hw.initialized)
      (dropped_fail (frame.initialized.trans hw.initialized))
  | @sampled dt count hread =>
    have hok : (motionSample x dt).1 = true := CallResult.returned.inj hresult
    simp only [MotionCall.observeDemand, hok, if_true, hread]
    exact ⟨hw.config, hw.initialized, hw.still, fun _ => rfl, fun _ => rfl, hw.target, hw.range⟩
  | @refused command r hrefused =>
    have hr : (motionCommand x command).1 = r := CallResult.commanded.inj hresult
    simp only [MotionCall.observeDemand, hr, if_neg hrefused]
    exact hw
  | @halted command htype =>
    have hr : (motionCommand x command).1 = .accepted := CallResult.commanded.inj hresult
    have hkeeps := halt_keeps x.motion
    have hnot : x.motion.halt.data.state ≠ .moving := by
      rw [halt_state]
      split_ifs with hmoving
      · exact nofun
      · exact hmoving
    simp only [MotionCall.observeDemand, hr, if_true, htype]
    refine ⟨hkeeps.config.trans hw.config, hkeeps.initialized.trans hw.initialized, fun _ => rfl,
      fun hm => absurd hm hnot, fun hv => ?_, fun hm => absurd hm hnot, fun hm => absurd hm hnot⟩
    exact hkeeps.position.trans (hw.position (hkeeps.feedbackValid ▸ hv))
  | @started command htype hidle hvalid hrange =>
    have hr : (motionCommand x command).1 = .accepted := CallResult.commanded.inj hresult
    obtain ⟨htarget, hlow, hhigh⟩ := toInt_ofInt_of_range hrange
    rw [hw.config] at hlow hhigh
    have hseen : (MotionCall.command command).observeDemand x seen =
        { seen with target := motionTarget x.motion command } := by
      rcases htype with htype | htype <;>
        simp [MotionCall.observeDemand, motionTarget, hr, htype, hw.position hvalid]
    have hstill : x.io.motor.output = 0 := hw.still (by simp [hidle])
    rw [hseen]
    exact ⟨hw.config, hw.initialized, fun _ => hstill, fun _ => hvalid,
      fun _ => hw.position hvalid, fun _ => htarget, fun _ => htarget.symm ▸ ⟨hlow, hhigh⟩⟩
  | rested hchecked hnot =>
    have hkeeps := updated_keeps x.motion
    refine ⟨hkeeps.config.trans hw.config, hkeeps.initialized.trans hw.initialized, fun _ => rfl,
      fun hm => absurd hm hnot, fun hv => ?_, fun hm => absurd hm hnot, fun hm => absurd hm hnot⟩
    exact hkeeps.position.trans (hw.position (hkeeps.feedbackValid ▸ hv))
  | drove hchecked hmoving =>
    have hkeeps := updated_keeps x.motion
    have htarget := updated_target x.motion
    have hbefore : x.motion.data.state = .moving := by
      rcases updated_state x.motion with h | ⟨-, h⟩
      · rw [← h, hmoving]
      · exact absurd (hmoving.symm.trans h) nofun
    have hvalid : x.motion.updated.data.feedbackValid = true :=
      hkeeps.feedbackValid.trans (hw.valid hbefore)
    refine ⟨hkeeps.config.trans hw.config, hkeeps.initialized.trans hw.initialized,
      fun hnot => absurd hmoving hnot, fun _ => hvalid, fun _ => ?_, fun _ => ?_, fun _ => ?_⟩
    · exact hkeeps.position.trans (hw.position (hw.valid hbefore))
    · change x.motion.updated.data.target.toInt = _
      rw [htarget]
      exact hw.target hbefore
    · change _ ≤ x.motion.updated.data.target.toInt ∧ x.motion.updated.data.target.toInt ≤ _
      rw [htarget]
      exact hw.range hbefore

/-- The controller agrees with what has been seen after every run from `motion_init`. -/
lemma demanded_run {x₀ : Axis} (h : motionInit x c = some x₀) (calls : List MotionCall) :
    Demanded c (Machine.run MotionCall.step x₀ calls) (demandSeen x₀ calls) := by
  obtain ⟨-, pid, -, rfl⟩ := motionInit_some h
  refine Machine.watch_invariant (P := fun _ _ => True) (fun _ _ _ hv _ => demanded_step hv) ?_
    (Machine.along_of_forall fun _ _ => trivial)
  exact ⟨rfl, rfl, fun _ => rfl, nofun, nofun, nofun, nofun⟩

/-! ### After a failure -/

/-- A failing call drops everything. -/
lemma dropped_of_fails (hw : Demanded c x seen) (h : call.Fails x) : (call.step x).Dropped := by
  have heffect := call.effect x
  unfold MotionCall.Fails at h
  generalize call.result x = r at heffect h
  generalize call.step x = y at heffect ⊢
  cases heffect with
  | failed frame => exact dropped_fail (frame.initialized.trans hw.initialized)
  | _ => exact absurd h nofun

/-- Only an accepted `MOVE` or `MOVE_REL` leads into `MOVING`, and it needs valid feedback. -/
lemma starts_of_moving (hinit : x.motion.initialized = true)
    (hbefore : x.motion.data.state ≠ .moving)
    (hafter : (call.step x).motion.data.state = .moving) : call.Starts x := by
  have heffect := call.effect x
  generalize hresult : call.result x = r at heffect
  generalize call.step x = y at heffect hafter
  cases heffect with
  | failed frame =>
    rw [fail_state, if_pos (frame.initialized.trans hinit)] at hafter
    exact absurd hafter nofun
  | sampled => exact absurd hafter hbefore
  | refused => exact absurd hafter hbefore
  | halted =>
    have hstate := halt_state x.motion
    rw [if_neg hbefore, show x.motion.halt.data.state = .moving from hafter] at hstate
    exact absurd hstate.symm hbefore
  | started htype => exact ⟨_, rfl, htype, CallResult.commanded.inj hresult⟩
  | rested _ hnot => exact absurd hafter hnot
  | drove _ hmoving =>
    rcases updated_state x.motion with h | ⟨-, h⟩
    · exact absurd (h ▸ hmoving) hbefore
    · exact absurd (hmoving.symm.trans h) nofun

/-- Only a successful sample makes the feedback valid. -/
lemma samples_of_valid (hbefore : x.motion.data.feedbackValid = false)
    (hafter : (call.step x).motion.data.feedbackValid = true)
    (hinit : x.motion.initialized = true) :
    call.Samples x := by
  have hnot : ¬ x.motion.data.feedbackValid = true := by simp [hbefore]
  have heffect := call.effect x
  generalize hresult : call.result x = r at heffect
  generalize call.step x = y at heffect hafter
  cases heffect with
  | failed frame =>
    have hdropped := dropped_fail (frame.initialized.trans hinit)
    exact absurd hafter (by simp [hdropped.feedback])
  | sampled => exact ⟨_, rfl, CallResult.returned.inj hresult⟩
  | refused => exact absurd hafter hnot
  | halted => exact absurd ((halt_keeps x.motion).feedbackValid ▸ hafter) hnot
  | started => exact absurd hafter hnot
  | rested => exact absurd ((updated_keeps x.motion).feedbackValid ▸ hafter) hnot
  | drove => exact absurd ((updated_keeps x.motion).feedbackValid ▸ hafter) hnot

/-- An accepted motion needs valid feedback. -/
lemma valid_of_starts (h : call.Starts x) : x.motion.data.feedbackValid = true := by
  obtain ⟨command, rfl, htype, hacc⟩ := h
  rcases motionCommand_cases x command with ⟨hrefused, -⟩ | ⟨hstop, -⟩ | ⟨-, -, hvalid, -⟩
  · exact absurd hacc hrefused
  · rcases htype with h | h <;> exact absurd (h.symm.trans hstop) nofun
  · exact hvalid

/-- A run into `MOVING` has accepted a motion. -/
lemma exists_starts {later : List MotionCall} (hw : Demanded c x seen)
    (hbefore : x.motion.data.state ≠ .moving)
    (hafter : (Machine.run MotionCall.step x later).motion.data.state = .moving) :
    ∃ front move back, later = front ++ move :: back ∧
      move.Starts (Machine.run MotionCall.step x front) := by
  rcases Machine.along_not_or_exists_split MotionCall.step MotionCall.Starts x later with
    hnever | hcut
  · have hrun := Machine.run_invariant (I := fun v => (∃ s, Demanded c v s) ∧
      v.motion.data.state ≠ .moving) (fun call v hv hnot => ?_) ⟨⟨seen, hw⟩, hbefore⟩ hnever
    · exact absurd hafter hrun.2
    · obtain ⟨⟨s, hs⟩, hidle⟩ := hv
      exact ⟨⟨_, demanded_step hs⟩, fun hm => hnot (starts_of_moving hs.initialized hidle hm)⟩
  · exact hcut

/-- A run into valid feedback has taken a sample. -/
lemma exists_samples {later : List MotionCall} (hw : Demanded c x seen)
    (hbefore : x.motion.data.feedbackValid = false)
    (hafter : (Machine.run MotionCall.step x later).motion.data.feedbackValid = true) :
    ∃ front sample back, later = front ++ sample :: back ∧
      sample.Samples (Machine.run MotionCall.step x front) := by
  rcases Machine.along_not_or_exists_split MotionCall.step MotionCall.Samples x later with
    hnever | hcut
  · have hrun := Machine.run_invariant (I := fun v => (∃ s, Demanded c v s) ∧
      v.motion.data.feedbackValid = false) (fun call v hv hnot => ?_) ⟨⟨seen, hw⟩, hbefore⟩ hnever
    · exact absurd hafter (by simp [hrun.2])
    · obtain ⟨⟨s, hs⟩, hinvalid⟩ := hv
      refine ⟨⟨_, demanded_step hs⟩, ?_⟩
      by_contra hvalid
      exact hnot (samples_of_valid hinvalid (by simpa using hvalid) hs.initialized)
  · exact hcut

/-- A dropped controller drives the motor again only after a successful sample and, after that, an
accepted motion. -/
lemma resumes_of_dropped {later : List MotionCall} (hw : Demanded c x seen) (hx : x.Dropped)
    (hout : (Machine.run MotionCall.step x later).io.motor.output ≠ 0) :
    ∃ front sample middle move back, later = front ++ sample :: (middle ++ move :: back) ∧
      sample.Samples (Machine.run MotionCall.step x front) ∧
      move.Starts (Machine.run MotionCall.step x (front ++ sample :: middle)) := by
  obtain ⟨s, hs⟩ : ∃ s, Demanded c (Machine.run MotionCall.step x later) s :=
    Machine.run_invariant_of_forall (I := fun v => ∃ s, Demanded c v s)
      (fun _ _ ⟨_, hs⟩ => ⟨_, demanded_step hs⟩) ⟨seen, hw⟩
  have hmoving : (Machine.run MotionCall.step x later).motion.data.state = .moving := by
    by_contra hnot
    exact hout (hs.still hnot)
  obtain ⟨front, move, back, rfl, hstarts⟩ :=
    exists_starts hw (by simp [hx.idle]) hmoving
  obtain ⟨first, sample, middle, rfl, hsamples⟩ :=
    exists_samples hw hx.feedback (valid_of_starts hstarts)
  exact ⟨first, sample, middle, move, back, by simp, hsamples, hstarts⟩

/-- **Run invariant of the controller.**  After every run from `motion_init` a duty is applied only
in `MOVING` with valid feedback, and the target of a `MOVING` controller is the demanded integer,
inside the travel.  A failing call drops everything, and whatever is called later, the motor is
driven only after a successful sample and a motion accepted after it. -/
theorem motion_run_invariant {x₀ : Axis} (h : motionInit x c = some x₀)
    (calls : List MotionCall) :
    ((Machine.run MotionCall.step x₀ calls).io.motor.output ≠ 0 →
      (Machine.run MotionCall.step x₀ calls).motion.data.state = .moving ∧
        (Machine.run MotionCall.step x₀ calls).motion.data.feedbackValid = true) ∧
    ((Machine.run MotionCall.step x₀ calls).motion.data.state = .moving →
      (Machine.run MotionCall.step x₀ calls).motion.data.target.toInt =
          (demandSeen x₀ calls).target ∧
        c.minimum.toInt ≤ (demandSeen x₀ calls).target ∧
        (demandSeen x₀ calls).target ≤ c.maximum.toInt) ∧
    ∀ call : MotionCall, call.Fails (Machine.run MotionCall.step x₀ calls) →
      (call.step (Machine.run MotionCall.step x₀ calls)).Dropped ∧
        ∀ later : List MotionCall,
          (Machine.run MotionCall.step x₀ (calls ++ call :: later)).io.motor.output ≠ 0 →
          ∃ front sample middle move back,
            later = front ++ sample :: (middle ++ move :: back) ∧
              sample.Samples (Machine.run MotionCall.step x₀ (calls ++ call :: front)) ∧
              move.Starts
                (Machine.run MotionCall.step x₀
                  (calls ++ call :: (front ++ sample :: middle))) := by
  have hw := demanded_run h calls
  have happend : ∀ call later, Machine.run MotionCall.step x₀ (calls ++ call :: later) =
      Machine.run MotionCall.step (call.step (Machine.run MotionCall.step x₀ calls)) later :=
    fun call later => by rw [Machine.run_append, Machine.run_cons]
  refine ⟨fun hout => ?_, fun hmoving => ?_, fun call hfails => ⟨?_, fun later hout => ?_⟩⟩
  · have hmoving : (Machine.run MotionCall.step x₀ calls).motion.data.state = .moving := by
      by_contra hnot
      exact hout (hw.still hnot)
    exact ⟨hmoving, hw.valid hmoving⟩
  · rw [← hw.target hmoving]
    exact ⟨rfl, hw.range hmoving⟩
  · exact dropped_of_fails hw hfails
  · simp only [happend] at hout ⊢
    exact resumes_of_dropped (demanded_step hw) (dropped_of_fails hw hfails) hout

omit [Rounding] in
/-- A move on the bench drives the motor. -/
theorem motion_run_invariant_bench :
    let x := Machine.run (@MotionCall.step Binary32.rounding) (startedBench fun _ => 1000)
      [.sample (.finite (1 / 100)), .command ⟨.moveAbs, 2000⟩, .update (.finite (1 / 100))]
    x.motion.data.state = .moving ∧ x.motion.data.feedbackValid = true :=
  (@motion_run_invariant Binary32.rounding defaultConfig32 (bench fun _ => 1000)
    (startedBench fun _ => 1000) (motionInit_bench _) _).1 (by decide +kernel)

end MotionFirmware
