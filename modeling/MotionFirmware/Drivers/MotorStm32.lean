import Mathlib.Data.Rat.Floor
import MotionFirmware.Drivers.Motor
import MotionFirmware.Foundation.Machine

/-!
# The target motor driver

`platform/stm32/motor.c`: the same driver contract as the one of the host, kept by a driver that
was written independently and that drives channel 1 of TIM3 and the direction pin PC0.  The
registers are memory, except that a write to `BSRR` sets and clears bits of the output register.

The two drivers start differently: on the target the gate is inhibited from the beginning.  Once the
gate has been inhibited on both they cannot be told apart, and the registers follow the applied
duty although some calls do not write them.
-/

namespace MotionFirmware

/-! ### The registers -/

/-- The registers of a port that the driver writes. -/
structure GpioPort where
  moder : UInt32 := 0
  otyper : UInt32 := 0
  ospeedr : UInt32 := 0
  /-- The output register, behind `BSRR`. -/
  odr : UInt32 := 0
  afr : Fin 2 → UInt32 := fun _ => 0

/-- A write to `BSRR`: the upper half clears bits of the output, the lower half sets them. -/
def GpioPort.writeBsrr (p : GpioPort) (value : UInt32) : GpioPort :=
  { p with odr := (p.odr &&& ~~~(value >>> 16)) ||| (value &&& 0xFFFF) }

/-- The registers of TIM3 that the driver writes. -/
structure Timer where
  cr1 : UInt32 := 0
  ccer : UInt32 := 0
  ccr1 : UInt32 := 0
  psc : UInt32 := 0
  arr : UInt32 := 0
  ccmr1 : UInt32 := 0
  egr : UInt32 := 0

/-- The registers that the driver writes. -/
structure Registers where
  ahb1enr : UInt32 := 0
  apb1enr : UInt32 := 0
  tim3 : Timer := {}
  gpioa : GpioPort := {}
  gpioc : GpioPort := {}

/-- `TIM_CCER_CC1E`. -/
def timCcerCc1e : UInt32 := 1

/-- The bit of the direction pin PC0. -/
def directionPin : UInt32 := 1

/-- `board_af`. -/
def boardAf (port : GpioPort) (pin af : UInt32) : GpioPort :=
  let index : Fin 2 := Fin.ofNat 2 (pin / 8).toNat
  { port with
    afr := Function.update port.afr index
      ((port.afr index &&& ~~~((15 : UInt32) <<< (pin % 8 * 4))) ||| (af <<< (pin % 8 * 4)))
    moder := (port.moder &&& ~~~((3 : UInt32) <<< (pin * 2))) ||| ((2 : UInt32) <<< (pin * 2))
    otyper := port.otyper &&& ~~~((1 : UInt32) <<< pin)
    ospeedr := port.ospeedr ||| ((2 : UInt32) <<< (pin * 2)) }

/-- The conversion of a float to `uint32_t`: the fraction is discarded.  It is defined for the
values from zero to below `2 ^ 32` only. -/
def truncateFloat : FloatValue → UInt32
  | .finite q => UInt32.ofNat ⌊q⌋.toNat
  | _ => 0

/-! ### The driver -/

/-- The static state of `motor.c`, with the registers. -/
structure MotorStm32 where
  initialized : Bool := false
  inhibited : Bool := false
  negativeBlocked : Bool := false
  requested : FloatValue := 0
  output : FloatValue := 0
  regs : Registers := {}

namespace MotorStm32

/-- `motor_init`. -/
def init (d : MotorStm32) : MotorStm32 :=
  let regs := d.regs
  let port := regs.gpioc.writeBsrr (directionPin <<< 16)
  { regs :=
      { ahb1enr := regs.ahb1enr ||| (1 ||| 4)
        apb1enr := regs.apb1enr ||| 2
        tim3 :=
          { cr1 := 1, ccer := 0, ccr1 := 0, psc := 0, arr := 799, ccmr1 := (6 : UInt32) <<< 4,
            egr := 1 }
        gpioa := boardAf regs.gpioa 6 2
        gpioc :=
          { port with moder := (port.moder &&& ~~~3) ||| 1, otyper := port.otyper &&& ~~~1 } }
    requested := 0
    output := 0
    inhibited := true
    negativeBlocked := false
    initialized := true }

variable [Rounding]

/-- `apply_output`: the channel is disabled before the direction changes. -/
def applyOutput (d : MotorStm32) : MotorStm32 :=
  let regs := { d.regs with
    tim3 := { d.regs.tim3 with ccer := 0, ccr1 := 0 }
    gpioc := d.regs.gpioc.writeBsrr (if d.output < 0 then directionPin <<< 16 else directionPin) }
  { d with regs :=
      if d.output ≠ 0 then
        { regs with tim3 := { regs.tim3 with
          ccr1 := truncateFloat (d.output.abs * .ofInt 800), ccer := timCcerCc1e } }
      else regs }

/-- The duty of a finite request, with the result so far. -/
def clampDuty (duty : FloatValue) : FloatValue × MotorResult :=
  let c := if 1 < duty then ((1 : FloatValue), MotorResult.clamped) else (duty, .ok)
  if c.1 < -1 then (-1, .clamped) else c

/-- `motor_set_output`. -/
def setOutput (d : MotorStm32) (duty : FloatValue) : MotorResult × MotorStm32 :=
  if !d.initialized then (.notInitialized, d)
  else if !duty.isFinite then (.invalid, applyOutput { d with requested := 0, output := 0 })
  else
    let c := clampDuty duty
    let blocked := d.inhibited || (d.negativeBlocked && decide (c.1 < 0))
    (if blocked then .inhibited else c.2,
      applyOutput { d with requested := c.1, output := if blocked then 0 else c.1 })

/-- `motor_disable`. -/
def disable (d : MotorStm32) : MotorStm32 :=
  let d := { d with requested := 0, output := 0 }
  if d.initialized then applyOutput d else d

/-- `motor_safety_inhibit`. -/
def safetyInhibit (d : MotorStm32) (inhibit : Bool) : MotorStm32 :=
  let d := { d with inhibited := inhibit, output := 0 }
  if d.initialized then applyOutput d else d

/-- `motor_safety_block_negative`. -/
def safetyBlockNegative (d : MotorStm32) (block : Bool) : MotorStm32 :=
  let d := { d with negativeBlocked := block }
  if block ∧ d.output < 0 then
    let d := { d with output := 0 }
    if d.initialized then applyOutput d else d
  else d

end MotorStm32

/-! ### Calls -/

/-- A call of the driver by the tasks. -/
inductive MotorCall where
  | setOutput (duty : FloatValue)
  | disable
  | safetyInhibit (inhibit : Bool)
  | safetyBlockNegative (block : Bool)
  deriving DecidableEq

/-- A new request of a duty. -/
def MotorCall.requests : MotorCall → Bool
  | .setOutput _ => true
  | _ => false

/-- The host driver after a call. -/
def Motor.call (c : MotorCall) (m : Motor) : Motor :=
  match c with
  | .setOutput duty => (motorSetOutput m duty).2
  | .disable => motorDisable m
  | .safetyInhibit inhibit => motorSafetyInhibit m inhibit
  | .safetyBlockNegative block => motorSafetyBlockNegative m block

/-- What a call of the host driver returns. -/
def Motor.result (c : MotorCall) (m : Motor) : Option MotorResult :=
  match c with
  | .setOutput duty => some (motorSetOutput m duty).1
  | _ => none

/-- The host driver with the gate inhibited, after initialisation and some calls. -/
def Motor.gated (before : List MotorCall) : Motor :=
  motorSafetyInhibit (Machine.run Motor.call motorInit before) true

section Target

variable [Rounding]

/-- The target driver after a call. -/
def MotorStm32.call (c : MotorCall) (d : MotorStm32) : MotorStm32 :=
  match c with
  | .setOutput duty => (d.setOutput duty).2
  | .disable => d.disable
  | .safetyInhibit inhibit => d.safetyInhibit inhibit
  | .safetyBlockNegative block => d.safetyBlockNegative block

/-- What a call of the target driver returns. -/
def MotorStm32.result (c : MotorCall) (d : MotorStm32) : Option MotorResult :=
  match c with
  | .setOutput duty => some (d.setOutput duty).1
  | _ => none

/-- The target driver with the gate inhibited, after initialisation and some calls. -/
def MotorStm32.gated (d : MotorStm32) (before : List MotorCall) : MotorStm32 :=
  (Machine.run MotorStm32.call d.init before).safetyInhibit true

end Target

/-! ### The two drivers in lockstep -/

/-- What the tasks can see of the target driver, as a state of the host driver. -/
def MotorStm32.toMotor (d : MotorStm32) : Motor :=
  ⟨d.initialized, d.output, d.requested, d.inhibited, d.negativeBlocked⟩

/-- Two drivers with the same request and the same directional guard. -/
structure Motor.SameRequest (m m' : Motor) : Prop where
  initialized : m'.initialized = m.initialized
  requested : m'.requested = m.requested
  negativeBlocked : m'.negativeBlocked = m.negativeBlocked

variable {m m' : Motor}

/-- Every call keeps the requests together, whatever the gates are. -/
lemma Motor.SameRequest.call (h : m.SameRequest m') (c : MotorCall) :
    (m.call c).SameRequest (m'.call c) := by
  cases c with
  | setOutput duty =>
    refine ⟨?_, ?_, ?_⟩
    · simpa [Motor.call] using h.initialized
    · simp only [Motor.call, motorSetOutput, h.initialized]
      by_cases hinit : (!m.initialized) = true
      · rw [if_pos hinit, if_pos hinit]
        exact h.requested
      · rw [if_neg hinit, if_neg hinit]
        split_ifs <;> rfl
    · simpa [Motor.call] using h.negativeBlocked
  | disable => exact ⟨h.initialized, rfl, h.negativeBlocked⟩
  | safetyInhibit inhibit => exact ⟨h.initialized, h.requested, h.negativeBlocked⟩
  | safetyBlockNegative block => exact ⟨h.initialized, h.requested, rfl⟩

/-- An inhibited gate hides every other difference. -/
lemma Motor.SameRequest.inhibit (h : m.SameRequest m') :
    motorSafetyInhibit m' true = motorSafetyInhibit m true := by
  obtain ⟨hinit, hrequested, hblocked⟩ := h
  unfold motorSafetyInhibit
  rw [Motor.mk.injEq]
  exact ⟨hinit, rfl, hrequested, rfl, hblocked⟩

/-- The two ways of writing the saturation agree. -/
lemma clampDuty_eq (duty : FloatValue) : MotorStm32.clampDuty duty = saturateDuty duty := by
  have hone : ¬ (1 : FloatValue) < -1 := by decide
  unfold MotorStm32.clampDuty saturateDuty
  dsimp only
  by_cases h : 1 < duty
  · rw [if_pos h, if_pos h, if_neg hone]
  · rw [if_neg h, if_neg h]

section Lockstep

variable [Rounding] (c : MotorCall) (d : MotorStm32)

/-- A request on the target is the request on the host. -/
lemma toMotor_setOutput (duty : FloatValue) :
    (d.setOutput duty).1 = (motorSetOutput d.toMotor duty).1 ∧
      (d.setOutput duty).2.toMotor = (motorSetOutput d.toMotor duty).2 := by
  obtain ⟨initialized, inhibited, negativeBlocked, requested, output, regs⟩ := d
  dsimp only [MotorStm32.setOutput, motorSetOutput, MotorStm32.toMotor]
  rw [clampDuty_eq]
  split_ifs <;> exact ⟨rfl, rfl⟩

/-- **Refinement.**  A call of the target driver is the call of the host driver. -/
theorem toMotor_call : (d.call c).toMotor = d.toMotor.call c := by
  cases c with
  | setOutput duty => exact (toMotor_setOutput d duty).2
  | disable =>
    unfold MotorStm32.call MotorStm32.disable
    dsimp only
    split_ifs <;> rfl
  | safetyInhibit inhibit =>
    unfold MotorStm32.call MotorStm32.safetyInhibit
    dsimp only
    split_ifs <;> rfl
  | safetyBlockNegative block =>
    obtain ⟨initialized, inhibited, negativeBlocked, requested, output, regs⟩ := d
    dsimp only [MotorStm32.call, MotorStm32.safetyBlockNegative, Motor.call,
      motorSafetyBlockNegative, MotorStm32.toMotor]
    simp only [Bool.and_eq_true, decide_eq_true_eq]
    split_ifs <;> rfl

/-- **Refinement, results.**  The two drivers return the same. -/
theorem result_eq : d.result c = d.toMotor.result c := by
  cases c with
  | setOutput duty => exact congrArg some (toMotor_setOutput d duty).1
  | _ => rfl

end Lockstep

/-! ### The contract of the driver -/

/-- What the applied duty of a driver may be, given the request and the gates. -/
structure Motor.Contract (m : Motor) : Prop where
  inhibited : m.inhibited = true → m.output = 0
  blocked : m.negativeBlocked = true → 0 ≤ m.output
  range : m.output.abs ≤ 1
  source : m.output = 0 ∨ m.output = m.requested

/-- Every call keeps the invariant of the driver. -/
lemma Motor.GateInv.call (h : m.GateInv) (c : MotorCall) : (m.call c).GateInv := by
  cases c with
  | setOutput duty => exact h.motorSetOutput duty
  | disable => exact h.motorDisable
  | safetyInhibit inhibit => exact h.motorSafetyInhibit inhibit
  | safetyBlockNegative block => exact h.motorSafetyBlockNegative block

/-- After every call the applied duty is zero or the requested one. -/
lemma source_call (h : m.output = 0 ∨ m.output = m.requested) (c : MotorCall) :
    (m.call c).output = 0 ∨ (m.call c).output = (m.call c).requested := by
  cases c with
  | setOutput duty =>
    unfold Motor.call motorSetOutput
    dsimp only
    split_ifs
    · exact h
    all_goals simp
  | disable => exact Or.inl rfl
  | safetyInhibit inhibit => exact Or.inl rfl
  | safetyBlockNegative block =>
    unfold Motor.call motorSafetyBlockNegative
    dsimp only
    split_ifs
    · exact Or.inl rfl
    · exact h

/-- The invariant of the driver and the source of its duty are its contract. -/
lemma Motor.GateInv.contract (h : m.GateInv) (hsource : m.output = 0 ∨ m.output = m.requested) :
    m.Contract := by
  refine ⟨h.inhibited, h.blocked, ?_, hsource⟩
  obtain ⟨q, hq, hq1⟩ := h.finite
  rw [hq, FloatValue.abs_finite, FloatValue.finite_le_one]
  exact hq1

/-- The gated host driver meets its contract after every sequence of calls. -/
theorem contract_hostDriver (before calls : List MotorCall) :
    (Machine.run Motor.call (Motor.gated before) calls).Contract := by
  have hbefore : (Machine.run Motor.call motorInit before).GateInv :=
    Machine.run_invariant_of_forall (fun c _ h => h.call c) gateInv_motorInit
  have hrun : (Machine.run Motor.call (Motor.gated before) calls).GateInv :=
    Machine.run_invariant_of_forall (fun c _ h => h.call c) (hbefore.motorSafetyInhibit true)
  refine hrun.contract ?_
  exact Machine.run_invariant_of_forall
    (I := fun m : Motor => m.output = 0 ∨ m.output = m.requested)
    (fun c _ h => source_call h c) (Or.inl rfl)

/-- Without a new request a driver that applies nothing goes on applying nothing. -/
lemma output_call_of_not_requests {c : MotorCall} (hc : c.requests = false) (h : m.output = 0) :
    (m.call c).output = 0 := by
  cases c with
  | setOutput duty => exact absurd hc nofun
  | disable => rfl
  | safetyInhibit inhibit => rfl
  | safetyBlockNegative block =>
    unfold Motor.call motorSafetyBlockNegative
    dsimp only
    split_ifs
    · rfl
    · exact h

/-! ### The registers -/

section Registers

variable [Rounding] {d : MotorStm32}

/-- Channel 1 is enabled exactly for a duty that is not zero, its compare value is the truncated
fraction of the period, and the direction pin is low exactly for a negative duty. -/
structure MotorStm32.Driven (d : MotorStm32) : Prop where
  enabled : d.regs.tim3.ccer &&& timCcerCc1e ≠ 0 ↔ d.output ≠ 0
  compare : d.regs.tim3.ccr1 =
    if d.output ≠ 0 then truncateFloat (d.output.abs * .ofInt 800) else 0
  direction : d.output ≠ 0 → (d.regs.gpioc.odr &&& directionPin = 0 ↔ d.output < 0)

omit [Rounding] in
/-- Writing the reset bit of the direction pin makes it low. -/
lemma writeBsrr_reset (p : GpioPort) :
    (p.writeBsrr (directionPin <<< 16)).odr &&& directionPin = 0 := by
  have hclear : directionPin <<< 16 >>> 16 = directionPin := by decide
  have hset : directionPin <<< 16 &&& 0xFFFF = 0 := by decide
  have hcut : ~~~directionPin &&& directionPin = 0 := by decide
  unfold GpioPort.writeBsrr
  dsimp only
  rw [hclear, hset, UInt32.or_zero, UInt32.and_assoc, hcut, UInt32.and_zero]

omit [Rounding] in
/-- A bit mask that has been set is there. -/
lemma or_and_self (value mask : UInt32) : (value ||| mask) &&& mask = mask := by
  apply UInt32.toBitVec_inj.mp
  rw [UInt32.toBitVec_and, UInt32.toBitVec_or]
  ext i hi
  rw [BitVec.getElem_and, BitVec.getElem_or]
  cases mask.toBitVec[i] <;> simp

omit [Rounding] in
/-- Writing the set bit of the direction pin makes it high. -/
lemma writeBsrr_set (p : GpioPort) : (p.writeBsrr directionPin).odr &&& directionPin ≠ 0 := by
  have hset : directionPin &&& 0xFFFF = directionPin := by decide
  unfold GpioPort.writeBsrr
  dsimp only
  rw [hset, or_and_self]
  decide

/-- Writing the registers makes them follow the duty. -/
lemma driven_applyOutput (d : MotorStm32) : d.applyOutput.Driven := by
  by_cases hzero : d.output = 0
  · have hregs : d.applyOutput.regs.tim3.ccer = 0 ∧ d.applyOutput.regs.tim3.ccr1 = 0 := by
      simp [MotorStm32.applyOutput, hzero]
    have hout : d.applyOutput.output = 0 := hzero
    refine ⟨?_, ?_, fun h => absurd hout h⟩
    · simp [hregs.1, hout]
    · simp [hregs.2, hout]
  · have hregs : d.applyOutput.regs.tim3.ccer = timCcerCc1e ∧
        d.applyOutput.regs.tim3.ccr1 = truncateFloat (d.output.abs * .ofInt 800) ∧
        d.applyOutput.regs.gpioc =
          d.regs.gpioc.writeBsrr (if d.output < 0 then directionPin <<< 16 else directionPin) := by
      simp [MotorStm32.applyOutput, hzero]
    obtain ⟨hccer, hccr, hport⟩ := hregs
    have hout : d.applyOutput.output ≠ 0 := hzero
    refine ⟨?_, ?_, fun _ => ?_⟩
    · rw [hccer]
      exact ⟨fun _ => hout, fun _ => by decide⟩
    · rw [hccr, if_pos hout]
      rfl
    · rw [hport]
      change _ ↔ d.output < 0
      split_ifs with hneg
      · exact ⟨fun _ => hneg, fun _ => writeBsrr_reset _⟩
      · exact ⟨fun h => absurd h (writeBsrr_set _), fun h => absurd h hneg⟩

/-- **The registers follow the gate.**  Every call of an initialised driver leaves the registers
following the duty, although not every call writes them. -/
theorem MotorStm32.Driven.call (h : d.Driven) (hinit : d.initialized = true) (c : MotorCall) :
    (d.call c).Driven := by
  cases c with
  | setOutput duty =>
    unfold MotorStm32.call MotorStm32.setOutput
    dsimp only
    split_ifs with hnot
    · exact h
    all_goals exact driven_applyOutput _
  | disable =>
    have hcall : d.call .disable = applyOutput { d with requested := 0, output := 0 } :=
      if_pos hinit
    rw [hcall]
    exact driven_applyOutput _
  | safetyInhibit inhibit =>
    have hcall : d.call (.safetyInhibit inhibit) =
        applyOutput { d with inhibited := inhibit, output := 0 } := if_pos hinit
    rw [hcall]
    exact driven_applyOutput _
  | safetyBlockNegative block =>
    unfold MotorStm32.call MotorStm32.safetyBlockNegative
    dsimp only
    split_ifs
    · exact driven_applyOutput _
    · -- a positive duty stays, and so do the registers
      exact ⟨h.enabled, h.compare, h.direction⟩

/-- No call undoes the initialisation. -/
lemma initialized_call (hinit : d.initialized = true) (c : MotorCall) :
    (d.call c).initialized = true := by
  have hcall : (d.call c).toMotor.initialized = d.toMotor.initialized := by
    rw [toMotor_call]
    cases c with
    | setOutput duty => exact motorSetOutput_initialized _ _
    | _ => rfl
  exact hcall.trans hinit

/-! ### The two drivers -/

/-- After the inhibition of the gate the drivers have the same state. -/
lemma toMotor_gated (d : MotorStm32) (before : List MotorCall) :
    (d.gated before).toMotor = Motor.gated before := by
  have hinit : motorInit.SameRequest d.init.toMotor := ⟨rfl, rfl, rfl⟩
  have hrun : (Machine.run MotorStm32.call d.init before).toMotor =
      Machine.run Motor.call d.init.toMotor before :=
    (Machine.run_related (R := fun (v : MotorStm32) (v' : Motor) => v.toMotor = v')
      (fun c v v' h => by rw [toMotor_call, h]) rfl)
  have hsame : (Machine.run Motor.call motorInit before).SameRequest
      (Machine.run Motor.call d.init.toMotor before) :=
    Machine.run_related (fun c _ _ h => h.call c) hinit
  have hgate := toMotor_call (.safetyInhibit true) (Machine.run MotorStm32.call d.init before)
  rw [hrun] at hgate
  exact hgate.trans hsame.inhibit

/-- **Equivalence of the motor drivers.**  Whatever the registers held before and whatever was
called between the initialisation and the inhibition of the gate: from then on both drivers return
the same and hold the same duties and gates, which meet the contract; a release applies nothing
until the next request; and on the target the registers follow the applied duty. -/
theorem motor_drivers_equivalent (d : MotorStm32) (before calls : List MotorCall) :
    Machine.outputs Motor.call Motor.result (Motor.gated before) calls =
        Machine.outputs MotorStm32.call MotorStm32.result (d.gated before) calls ∧
      (Machine.run MotorStm32.call (d.gated before) calls).toMotor =
        Machine.run Motor.call (Motor.gated before) calls ∧
      (Machine.run Motor.call (Motor.gated before) calls).Contract ∧
      (∀ later : List MotorCall, (∀ c ∈ later, c.requests = false) →
        (Machine.run Motor.call (Motor.gated before)
          (calls ++ .safetyInhibit false :: later)).output = 0) ∧
      (Machine.run MotorStm32.call (d.gated before) calls).Driven := by
  have hgated := toMotor_gated d before
  refine ⟨?_, ?_, contract_hostDriver before calls, fun later hlater => ?_, ?_⟩
  · exact Machine.outputs_eq (R := fun (v : Motor) (v' : MotorStm32) => v'.toMotor = v)
      (fun c v v' h => by rw [toMotor_call, h]) (fun c v v' h => by rw [result_eq, h]) hgated
  · exact Machine.run_related (R := fun (v : MotorStm32) (v' : Motor) => v.toMotor = v')
      (fun c v v' h => by rw [toMotor_call, h]) hgated
  · rw [Machine.run_append, Machine.run_cons]
    have hstep : ∀ c (v : Motor), v.output = 0 → MotorCall.requests c = false →
        (v.call c).output = 0 := by
      intro c v hv hc
      exact output_call_of_not_requests hc hv
    exact Machine.run_invariant hstep rfl (Machine.along_of_forall_mem hlater)
  · have hbefore : (Machine.run MotorStm32.call d.init before).initialized = true :=
      Machine.run_invariant_of_forall (I := fun v : MotorStm32 => v.initialized = true)
        (fun c _ h => initialized_call h c) rfl
    have hstart : (d.gated before).Driven ∧ (d.gated before).initialized = true := by
      have hcall : d.gated before = MotorStm32.applyOutput
          { Machine.run MotorStm32.call d.init before with inhibited := true, output := 0 } :=
        if_pos hbefore
      rw [hcall]
      exact ⟨driven_applyOutput _, hbefore⟩
    exact (Machine.run_invariant_of_forall
      (I := fun v : MotorStm32 => v.Driven ∧ v.initialized = true)
      (fun c _ h => ⟨h.1.call h.2 c, initialized_call h.2 c⟩) hstart).1

end Registers

end MotionFirmware
