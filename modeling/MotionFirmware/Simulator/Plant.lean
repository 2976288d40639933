import MotionFirmware.Drivers.Encoder
import MotionFirmware.Foundation.Binary64
import MotionFirmware.Simulator.Travel

/-!
# The plant of the simulator

`plant_model.c`: an axis with its motor, encoder and limit switches.  A step samples the applied
duty, integrates velocity and position, and publishes the raw count and both switches through the
drivers of the host.  Arithmetic is that of `double` in any rounding.  The pointers of the source
are not `NULL` here.
-/

namespace MotionFirmware

/-- `plant_config_t`. -/
structure PlantConfig where
  motorGain : FloatValue
  damping : FloatValue
  maxVelocity : FloatValue
  minPosition : FloatValue
  maxPosition : FloatValue
  encoderCountsPerUnit : FloatValue
  stepMs : UInt32

/-- `plant_state_t`. -/
structure PlantState where
  position : FloatValue
  velocity : FloatValue := 0
  acceleration : FloatValue := 0
  appliedPwm : FloatValue := 0
  rawEncoderCount : Int32 := 0
  negativeLimit : Bool := false
  positiveLimit : Bool := false
  steps : UInt64 := 0

/-- `plant_model_t`. -/
structure PlantModel where
  config : PlantConfig
  state : PlantState
  initialized : Bool := false
  stalled : Bool := false
  encoderFrozen : Bool := false

/-- The static state of `gpio_host.c`. -/
structure GpioHost where
  initialized : Bool := false
  state : GpioInputs := {}

namespace GpioHost

/-- `gpio_read_inputs`; `none` when it returns `false`. -/
def gpioReadInputs (g : GpioHost) : Option GpioInputs :=
  if g.initialized then some g.state else none

/-- `gpio_host_set_negative_limit`. -/
def gpioHostSetNegativeLimit (g : GpioHost) (active : Bool) : Bool × GpioHost :=
  if g.initialized then (true, { g with state := { g.state with negativeLimit := active } })
  else (false, g)

/-- `gpio_host_set_positive_limit`. -/
def gpioHostSetPositiveLimit (g : GpioHost) (active : Bool) : Bool × GpioHost :=
  if g.initialized then (true, { g with state := { g.state with positiveLimit := active } })
  else (false, g)

end GpioHost

/-- The plant and the drivers of the host. -/
structure Simulation where
  plant : PlantModel
  motor : Motor
  encoder : EncoderHost
  gpio : GpioHost

/-- `plant_default_config`. -/
def plantDefaultConfig : PlantConfig where
  motorGain := .finite 2000
  damping := .finite 4
  maxVelocity := .finite 600
  minPosition := .finite 0
  maxPosition := .finite 5000
  encoderCountsPerUnit := .finite 1
  stepMs := 1

/-- `round`: the nearest integer, with halves away from zero. -/
def cRound : FloatValue → FloatValue
  | .finite q => .finite (Travel.nearest q)
  | x => x

/-- The conversion `(int32_t)`, which drops the fraction; undefined outside of the range. -/
def castInt32 : FloatValue → Int32
  | .finite q => Int32.ofInt (if 0 ≤ q then ⌊q⌋ else ⌈q⌉)
  | _ => 0

section Plant

variable [DoubleRounding]

/-- `(double)c->step_ms / 1000.0`. -/
def PlantConfig.dt (c : PlantConfig) : FloatValue := .ofInt c.stepMs.toNat / .finite 1000

/-- `valid_config`. -/
def validConfig (c : PlantConfig) : Bool :=
  if !c.motorGain.isFinite || decide (c.motorGain ≤ 0) ||
      !c.damping.isFinite || decide (c.damping < 0) ||
      !c.maxVelocity.isFinite || decide (c.maxVelocity ≤ 0) ||
      !c.minPosition.isFinite || !c.maxPosition.isFinite ||
      decide (c.maxPosition ≤ c.minPosition) ||
      !c.encoderCountsPerUnit.isFinite || decide (c.encoderCountsPerUnit ≤ 0) ||
      c.stepMs == 0 || decide (1000 < c.stepMs) then false
  else
    let dt := c.dt
    let accelerationBound := c.motorGain + c.damping * c.maxVelocity
    let lowCount := c.minPosition * c.encoderCountsPerUnit
    let highCount := c.maxPosition * c.encoderCountsPerUnit
    decide (c.damping * dt ≤ 1) && accelerationBound.isFinite &&
      (c.maxVelocity + accelerationBound * dt).isFinite &&
      (c.minPosition - c.maxVelocity * dt).isFinite &&
      (c.maxPosition + c.maxVelocity * dt).isFinite &&
      lowCount.isFinite && highCount.isFinite &&
      decide (.finite (-2147483648) ≤ lowCount) && decide (highCount ≤ .finite 2147483647)

/-- `derive_peripherals`. -/
def derivePeripherals (c : PlantConfig) (state : PlantState) : PlantState :=
  { state with
    rawEncoderCount := castInt32 (cRound (state.position * c.encoderCountsPerUnit))
    negativeLimit := decide (state.position ≤ c.minPosition)
    positiveLimit := decide (c.maxPosition ≤ state.position) }

/-- `publish`. -/
def publish (state : PlantState) (frozen : Bool) (w : Simulation) : Bool × Simulation :=
  if w.encoder.encoderGetCount.isSome && w.gpio.gpioReadInputs.isSome then
    let counted :=
      if frozen then (true, w.encoder) else w.encoder.encoderHostSetCount state.rawEncoderCount
    if !counted.1 then (false, { w with encoder := counted.2 })
    else
      let negative := w.gpio.gpioHostSetNegativeLimit state.negativeLimit
      if !negative.1 then (false, { w with encoder := counted.2, gpio := negative.2 })
      else
        let positive := negative.2.gpioHostSetPositiveLimit state.positiveLimit
        (positive.1, { w with encoder := counted.2, gpio := positive.2 })
  else (false, w)

/-- `plant_init`. -/
def plantInit (config : PlantConfig) (position : FloatValue) (w : Simulation) :
    Bool × Simulation :=
  if !validConfig config || !position.isFinite || decide (position < config.minPosition) ||
      decide (config.maxPosition < position) then (false, w)
  else
    let state := derivePeripherals config { position := position }
    let published := publish state false w
    if !published.1 then published
    else
      (true, { published.2 with
        motor := motorDisable published.2.motor
        plant := { config := config, state := state, initialized := true } })

/-- `plant_reset`. -/
def plantReset (position : FloatValue) (w : Simulation) : Bool × Simulation :=
  if !w.plant.initialized then (false, w) else plantInit w.plant.config position w

/-- The first part of `plant_step`: drive, damping, the speed limit, and the position. -/
def PlantState.integrate (c : PlantConfig) (appliedPwm : FloatValue) (state : PlantState) :
    PlantState :=
  let acceleration := c.motorGain * appliedPwm - c.damping * state.velocity
  let velocity := state.velocity + acceleration * c.dt
  let velocity := if c.maxVelocity < velocity then c.maxVelocity else velocity
  let velocity := if velocity < -c.maxVelocity then -c.maxVelocity else velocity
  { state with
    appliedPwm := appliedPwm
    acceleration := acceleration
    velocity := velocity
    position := state.position + velocity * c.dt }

/-- A stalled axis stays where it was. -/
def PlantState.stall (stalled : Bool) (position : FloatValue) (next : PlantState) : PlantState :=
  if stalled then { next with position := position, velocity := 0, acceleration := 0 } else next

/-- The two ends of the travel, in the order of the source. -/
def PlantState.bound (c : PlantConfig) (next : PlantState) : PlantState :=
  let next :=
    if next.position ≤ c.minPosition then
      { next with
        position := c.minPosition
        velocity := if next.velocity < 0 then 0 else next.velocity }
    else next
  if c.maxPosition ≤ next.position then
    { next with
      position := c.maxPosition
      velocity := if 0 < next.velocity then 0 else next.velocity }
  else next

/-- `plant_step`. -/
def plantStep (w : Simulation) : Bool × Simulation :=
  if !w.plant.initialized || w.plant.state.steps == 18446744073709551615 then (false, w)
  else
    let c := w.plant.config
    let next := w.plant.state.integrate c w.motor.output
    let next := next.stall w.plant.stalled w.plant.state.position
    let next := next.bound c
    let next := derivePeripherals c { next with steps := next.steps + 1 }
    let published := publish next w.plant.encoderFrozen w
    if !published.1 then published
    else (true, { published.2 with plant := { published.2.plant with state := next } })

/-- What happens to a plant: the applied duty and the settings of the scenario change, the encoder
gets a new reference, the plant is reset or takes a step. -/
inductive PlantAction where
  | duty (q : ℚ) (hq : -1 ≤ q ∧ q ≤ 1)
  | stalled (value : Bool)
  | encoderFrozen (value : Bool)
  | reference (count : Int32)
  | reset (position : FloatValue)
  | step

/-- The effect of an action. -/
def Simulation.act (a : PlantAction) (w : Simulation) : Simulation :=
  match a with
  | .duty q _ => { w with motor := { w.motor with output := .finite q } }
  | .stalled value => { w with plant := { w.plant with stalled := value } }
  | .encoderFrozen value => { w with plant := { w.plant with encoderFrozen := value } }
  | .reference count => { w with encoder := (w.encoder.encoderSetReference count).2 }
  | .reset position => (plantReset position w).2
  | .step => (plantStep w).2

end Plant

end MotionFirmware
