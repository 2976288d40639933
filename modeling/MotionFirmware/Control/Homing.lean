import MotionFirmware.Control.MotionController

/-!
# Homing

`homing.c`: a fixed-duty seek of the negative switch with a deadline, and the reference it
establishes.
-/

namespace MotionFirmware

/-- `HOMING_TIMEOUT_MS`. -/
def homingTimeoutMs : UInt32 := 40000

/-- `clear_control`. -/
def clearControl (x : Axis) : Axis :=
  { io := x.io.motorDisable
    motion := { x.motion with
      data := { x.motion.data with
        pwm := 0, pidOutput := 0, error := 0, target := x.motion.data.position, stableCycles := 0 }
      pid := pidReset x.motion.pid } }

/-- `homing_begin`. -/
def homingBegin (x : Axis) (now : UInt32) : MotionResult × Axis :=
  if !x.motion.initialized || !x.motion.data.feedbackValid then (.inputError, x)
  else if x.motion.data.state ≠ .idle then (.invalidState, x)
  else
    let x := clearControl x
    (.accepted,
      { x with
        motion := { x.motion with
          data := { x.motion.data with
            homing := { x.motion.data.homing with
              result := .running, startedMs := now, elapsedMs := 0, referenced := false }
            state := .homing } } })

/-- The record of an attempt that ends with `result`: only a running attempt takes it. -/
def HomingSnapshot.abort (h : HomingSnapshot) (result : HomingResult) : HomingSnapshot :=
  if h.result = .running then { h with result := result } else h

/-- `homing_abort`. -/
def homingAbort (x : Axis) (result : HomingResult) : Axis :=
  let x := clearControl x
  { x with
    motion := { x.motion with
      data := { x.motion.data with homing := x.motion.data.homing.abort result } } }

/-- The controller once the reference has been set. -/
def MotionController.reference (m : MotionController) : MotionController :=
  { m with
    data := { m.data with
      position := 0
      target := 0
      velocity := 0
      homing := { m.data.homing with
        result := .complete, referenced := true, completed := m.data.homing.completed + 1 }
      state := .idle }
    previousCount := 0
    -- the first sample after the reference change has zero velocity
    sampled := false }

/-- The controller with the elapsed time of the attempt, as `homing_update` records it first. -/
def MotionController.withElapsed (m : MotionController) (now : UInt32) : MotionController :=
  { m with data := { m.data with
      homing := { m.data.homing with elapsedMs := now - m.data.homing.startedMs } } }

/-- The two records are of the same attempt: only the outcome and the elapsed time may differ. -/
structure HomingSnapshot.SameAttempt (h h' : HomingSnapshot) : Prop where
  startedMs : h'.startedMs = h.startedMs
  completed : h'.completed = h.completed
  referenced : h'.referenced = h.referenced

lemma HomingSnapshot.SameAttempt.refl (h : HomingSnapshot) : h.SameAttempt h := ⟨rfl, rfl, rfl⟩

lemma HomingSnapshot.SameAttempt.trans {h h' h'' : HomingSnapshot} (hab : h.SameAttempt h')
    (hbc : h'.SameAttempt h'') : h.SameAttempt h'' :=
  ⟨hbc.startedMs.trans hab.startedMs, hbc.completed.trans hab.completed,
    hbc.referenced.trans hab.referenced⟩

/-- Closing a record keeps its attempt. -/
lemma HomingSnapshot.sameAttempt_abort (h : HomingSnapshot) (r : HomingResult) :
    h.SameAttempt (h.abort r) := by
  unfold HomingSnapshot.abort
  split_ifs <;> exact ⟨rfl, rfl, rfl⟩

variable [Rounding]

/-- `HOMING_PWM`. -/
def homingPwm : FloatValue := -.ofRat (3 / 10)

/-- The seek part of `homing_update`: the fixed duty. -/
def homingSeek (x : Axis) : Bool × Axis :=
  let driven := motorSetOutput x.io.motor homingPwm
  (driven.1 == .ok,
    { io := { x.io with motor := driven.2 }
      motion := { x.motion with data := { x.motion.data with pwm := homingPwm } } })

/-- The contact part of `homing_update`: zero output, then the reference. -/
def homingContact (x : Axis) : Bool × Axis :=
  let x := clearControl x
  let set := x.io.encoderSetReference 0
  if !set.1 then (false, { x with io := set.2 })
  else (true, { io := set.2, motion := x.motion.reference })

/-- `homing_update`. -/
def homingUpdate (x : Axis) (inputs : GpioInputs) (now : UInt32) : Bool × Axis :=
  if !x.motion.initialized || !x.motion.data.feedbackValid || x.motion.data.state ≠ .homing then
    (false, x)
  else
    let x := { x with motion := x.motion.withElapsed now }
    if inputs.estop || inputs.positiveLimit then (false, clearControl x)
    else if homingTimeoutMs ≤ x.motion.data.homing.elapsedMs then (true, homingAbort x .timeout)
    else if inputs.negativeLimit then homingContact x
    else homingSeek x

/-- `y` is in the same attempt as `x`: only the duty, the control terms and the elapsed time may
differ. -/
structure Axis.Continues (x y : Axis) : Prop where
  referenceOffset : y.io.referenceOffset = x.io.referenceOffset
  env : y.io.env = x.io.env
  clockReads : y.io.clockReads = x.io.clockReads
  config : y.motion.config = x.motion.config
  initialized : y.motion.initialized = x.motion.initialized
  pidConfig : y.motion.pid.config = x.motion.pid.config
  pidInitialized : y.motion.pid.initialized = x.motion.pid.initialized
  previousCount : y.motion.previousCount = x.motion.previousCount
  sampled : y.motion.sampled = x.motion.sampled
  state : y.motion.data.state = x.motion.data.state
  position : y.motion.data.position = x.motion.data.position
  velocity : y.motion.data.velocity = x.motion.data.velocity
  feedbackValid : y.motion.data.feedbackValid = x.motion.data.feedbackValid
  completedMoves : y.motion.data.completedMoves = x.motion.data.completedMoves
  result : y.motion.data.homing.result = x.motion.data.homing.result
  startedMs : y.motion.data.homing.startedMs = x.motion.data.homing.startedMs
  completed : y.motion.data.homing.completed = x.motion.data.homing.completed
  referenced : y.motion.data.homing.referenced = x.motion.data.homing.referenced

omit [Rounding] in
lemma Axis.Continues.refl (x : Axis) : x.Continues x :=
  ⟨rfl, rfl, rfl, rfl, rfl, rfl, rfl, rfl, rfl, rfl, rfl, rfl, rfl, rfl, rfl, rfl, rfl, rfl⟩

/-- The outcomes of an update in `HOMING`: the deadline closes the record, the contact sets the
reference, or the attempt goes on or fails without an outcome. -/
lemma homingUpdate_cases (x : Axis) (inputs : GpioInputs) (now : UInt32) :
    (homingUpdate x inputs now =
        (true, homingAbort { x with motion := x.motion.withElapsed now } .timeout) ∧
      homingTimeoutMs ≤ now - x.motion.data.homing.startedMs) ∨
    (∃ io, x.io.motorDisable.encoderSetReference 0 = (true, io) ∧
      homingUpdate x inputs now = (true,
        { io := io
          motion := (clearControl { x with
            motion := x.motion.withElapsed now }).motion.reference }) ∧
      inputs.negativeLimit = true ∧ inputs.estop = false ∧ inputs.positiveLimit = false ∧
      now - x.motion.data.homing.startedMs < homingTimeoutMs ∧ x.motion.initialized = true ∧
      x.motion.data.feedbackValid = true) ∨
    x.Continues (homingUpdate x inputs now).2 := by
  have hsame := Axis.Continues.refl x
  unfold homingUpdate
  dsimp only
  split_ifs with hinput hhazard hlate hcontact
  · exact Or.inr (Or.inr hsame)
  · exact Or.inr (Or.inr { hsame with })
  · exact Or.inl ⟨rfl, hlate⟩
  · have hclear : inputs.estop = false ∧ inputs.positiveLimit = false := by
      simpa using hhazard
    unfold homingContact
    dsimp only
    split_ifs with hset
    · have hfailed := Peripherals.encoderSetReference_of_false
        (p := x.io.motorDisable) (c := 0) (by simpa [clearControl] using hset)
      refine Or.inr (Or.inr { hsame with referenceOffset := ?_, env := ?_, clockReads := ?_ })
      all_goals simp [clearControl, hfailed]
    · have hset' : (x.io.motorDisable.encoderSetReference 0).1 = true := by
        simpa [clearControl] using hset
      have hready : x.motion.initialized = true ∧ x.motion.data.feedbackValid = true := by
        simp only [Bool.or_eq_true, Bool.not_eq_true', not_or, Bool.not_eq_false] at hinput
        exact hinput.1
      exact Or.inr (Or.inl ⟨_, Prod.ext hset' rfl, rfl, hcontact, hclear.1, hclear.2,
        UInt32.not_le.mp hlate, hready.1, hready.2⟩)
  · exact Or.inr (Or.inr { hsame with })

omit [Rounding] in
/-- A record that no attempt runs in is not closed by the deadline. -/
lemma continues_homingAbort {x : Axis} {now : UInt32} {r : HomingResult}
    (h : x.motion.data.homing.result ≠ .running) :
    x.Continues (homingAbort { x with motion := x.motion.withElapsed now } r) := by
  have hrecord : (homingAbort { x with motion := x.motion.withElapsed now } r).motion.data.homing =
      (x.motion.withElapsed now).data.homing := if_neg h
  exact { Axis.Continues.refl x with
    result := (congrArg HomingSnapshot.result hrecord :)
    startedMs := (congrArg HomingSnapshot.startedMs hrecord :)
    completed := (congrArg HomingSnapshot.completed hrecord :)
    referenced := (congrArg HomingSnapshot.referenced hrecord :) }

omit [Rounding] in
/-- An accepted `homing_begin` starts an attempt from `IDLE`. -/
lemma homingBegin_accepted {x : Axis} {now : UInt32} (h : (homingBegin x now).1 = .accepted) :
    x.motion.data.state = .idle ∧ x.motion.initialized = true ∧
      x.motion.data.feedbackValid = true ∧
      (homingBegin x now).2 = { clearControl x with
        motion := { (clearControl x).motion with
          data := { (clearControl x).motion.data with
            homing := { x.motion.data.homing with
              result := .running, startedMs := now, elapsedMs := 0, referenced := false }
            state := .homing } } } := by
  unfold homingBegin at h ⊢
  split_ifs at h ⊢ with hinput hstate
  · simp at hinput
    exact ⟨not_not.mp hstate, hinput.1, hinput.2, rfl⟩

/-- What an update of `HOMING` does to the motor: nothing, a disable, or the request of the seek
duty. -/
lemma homingUpdate_motor (x : Axis) (inputs : GpioInputs) (now : UInt32) :
    (homingUpdate x inputs now).2.io.motor = x.io.motor ∨
      (homingUpdate x inputs now).2.io.motor = motorDisable x.io.motor ∨
      (homingUpdate x inputs now).2.io.motor = (motorSetOutput x.io.motor homingPwm).2 := by
  unfold homingUpdate homingContact
  dsimp only
  split_ifs
  · exact Or.inl rfl
  · exact Or.inr (Or.inl rfl)
  · exact Or.inr (Or.inl rfl)
  · exact Or.inr (Or.inl (by simp [clearControl]))
  · exact Or.inr (Or.inl (by simp [clearControl]))
  · exact Or.inr (Or.inr rfl)

end MotionFirmware
