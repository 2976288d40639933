import MotionFirmware.Drivers.Motor
import MotionFirmware.Foundation.WrappingClock

/-!
# Drivers and the environment they read

The drivers below the firmware: the motor, the encoder reference offset, and the readings of the
GPIO, of the raw encoder counter and of the millisecond clock.  What the outside world supplies is
an `Environment`: for each device, the value of its first, second, third ... reading.  Two readings
of the same device are unrelated, so contacts may bounce and the clock may advance between any two
of them.  A reading that fails is `none`.
-/

namespace MotionFirmware

/-- `gpio_inputs_t`. -/
structure GpioInputs where
  estop : Bool := false
  negativeLimit : Bool := false
  positiveLimit : Bool := false
  deriving DecidableEq, Repr, Inhabited

/-- What the successive readings of the devices return. -/
structure Environment where
  /-- `gpio_read_inputs`. -/
  gpio : ℕ → Option GpioInputs
  /-- The raw counter behind `encoder_get_count` and `encoder_set_reference`. -/
  rawCount : ℕ → Option UInt32
  /-- The true time in milliseconds behind `platform_time_ms`. -/
  clock : ℕ → ℕ

/-- The drivers: their own state, and how many readings of each device have been made. -/
structure Peripherals where
  motor : Motor := {}
  /-- `reference_offset` of `encoder_host.c`. -/
  referenceOffset : UInt32 := 0
  env : Environment
  gpioReads : ℕ := 0
  rawReads : ℕ := 0
  clockReads : ℕ := 0

/-- `signed_bits`: the 32-bit pattern read as a two's complement number. -/
def signedBits (bits : UInt32) : Int32 :=
  if bits ≤ 2147483647 then bits.toInt32
  else Int32.minValue + (bits - 2147483648).toInt32

/-- Reading a bit pattern as a signed number keeps the pattern. -/
lemma toUInt32_signedBits (bits : UInt32) : (signedBits bits).toUInt32 = bits := by
  unfold signedBits
  split_ifs
  · exact UInt32.toUInt32_toInt32 bits
  · have hmin : Int32.minValue.toUInt32 = 2147483648 := rfl
    rw [Int32.toUInt32_add, hmin, UInt32.toUInt32_toInt32]
    grind

namespace Peripherals

/-- The value the next `gpio_read_inputs` returns. -/
def gpioReadInputs (p : Peripherals) : Option GpioInputs := p.env.gpio p.gpioReads

/-- The drivers after one `gpio_read_inputs`. -/
def afterGpio (p : Peripherals) : Peripherals := { p with gpioReads := p.gpioReads + 1 }

/-- The true time of the next `platform_time_ms`. -/
def trueTime (p : Peripherals) : ℕ := p.env.clock p.clockReads

/-- The value the next `platform_time_ms` returns. -/
def platformTimeMs (p : Peripherals) : UInt32 := WrappingClock.reading p.trueTime

/-- The drivers after one `platform_time_ms`. -/
def afterTime (p : Peripherals) : Peripherals := { p with clockReads := p.clockReads + 1 }

/-- The raw counter at the next encoder access. -/
def rawCount (p : Peripherals) : Option UInt32 := p.env.rawCount p.rawReads

/-- The value the next `encoder_get_count` returns: the raw counter plus the reference offset. -/
def encoderGetCount (p : Peripherals) : Option Int32 :=
  p.rawCount.map fun raw => signedBits (raw + p.referenceOffset)

/-- The drivers after one encoder access. -/
def afterEncoder (p : Peripherals) : Peripherals := { p with rawReads := p.rawReads + 1 }

/-- `encoder_set_reference`. -/
def encoderSetReference (p : Peripherals) (count : Int32) : Bool × Peripherals :=
  match p.rawCount with
  | none => (false, p.afterEncoder)
  | some raw => (true, { p.afterEncoder with referenceOffset := count.toUInt32 - raw })

/-- `motor_disable` on the drivers. -/
def motorDisable (p : Peripherals) : Peripherals :=
  { p with motor := MotionFirmware.motorDisable p.motor }

/-! ### Frames of the driver operations -/

@[simp] lemma afterGpio_motor (p : Peripherals) : p.afterGpio.motor = p.motor := rfl

@[simp] lemma afterTime_motor (p : Peripherals) : p.afterTime.motor = p.motor := rfl

@[simp] lemma afterEncoder_motor (p : Peripherals) : p.afterEncoder.motor = p.motor := rfl

@[simp] lemma motorDisable_motor (p : Peripherals) :
    p.motorDisable.motor = MotionFirmware.motorDisable p.motor := rfl

@[simp] lemma afterGpio_env (p : Peripherals) : p.afterGpio.env = p.env := rfl

@[simp] lemma afterTime_env (p : Peripherals) : p.afterTime.env = p.env := rfl

@[simp] lemma afterEncoder_env (p : Peripherals) : p.afterEncoder.env = p.env := rfl

@[simp] lemma motorDisable_env (p : Peripherals) : p.motorDisable.env = p.env := rfl

@[simp] lemma afterGpio_referenceOffset (p : Peripherals) :
    p.afterGpio.referenceOffset = p.referenceOffset := rfl

@[simp] lemma afterTime_referenceOffset (p : Peripherals) :
    p.afterTime.referenceOffset = p.referenceOffset := rfl

@[simp] lemma afterEncoder_referenceOffset (p : Peripherals) :
    p.afterEncoder.referenceOffset = p.referenceOffset := rfl

@[simp] lemma motorDisable_referenceOffset (p : Peripherals) :
    p.motorDisable.referenceOffset = p.referenceOffset := rfl

@[simp] lemma afterGpio_clockReads (p : Peripherals) :
    p.afterGpio.clockReads = p.clockReads := rfl

@[simp] lemma afterTime_clockReads (p : Peripherals) :
    p.afterTime.clockReads = p.clockReads + 1 := rfl

@[simp] lemma afterEncoder_clockReads (p : Peripherals) :
    p.afterEncoder.clockReads = p.clockReads := rfl

@[simp] lemma motorDisable_clockReads (p : Peripherals) :
    p.motorDisable.clockReads = p.clockReads := rfl

/-- Setting the reference touches the offset only. -/
@[simp] lemma encoderSetReference_motor (p : Peripherals) (c : Int32) :
    (p.encoderSetReference c).2.motor = p.motor := by
  unfold encoderSetReference
  cases p.rawCount <;> rfl

@[simp] lemma encoderSetReference_env (p : Peripherals) (c : Int32) :
    (p.encoderSetReference c).2.env = p.env := by
  unfold encoderSetReference
  cases p.rawCount <;> rfl

@[simp] lemma encoderSetReference_clockReads (p : Peripherals) (c : Int32) :
    (p.encoderSetReference c).2.clockReads = p.clockReads := by
  unfold encoderSetReference
  cases p.rawCount <;> rfl

/-- A failed access leaves the offset alone. -/
lemma encoderSetReference_of_false {p : Peripherals} {c : Int32}
    (h : (p.encoderSetReference c).1 = false) : (p.encoderSetReference c).2 = p.afterEncoder := by
  unfold encoderSetReference at h ⊢
  cases hraw : p.rawCount with
  | none => rfl
  | some raw => simp [hraw] at h

/-- A successful access sets the offset to the count minus the raw counter. -/
lemma encoderSetReference_of_true {p : Peripherals} {c : Int32}
    (h : (p.encoderSetReference c).1 = true) :
    ∃ raw, p.rawCount = some raw ∧
      (p.encoderSetReference c).2 =
        { p.afterEncoder with referenceOffset := c.toUInt32 - raw } := by
  unfold encoderSetReference at h ⊢
  cases hraw : p.rawCount with
  | none => simp [hraw] at h
  | some raw => exact ⟨raw, rfl, rfl⟩

end Peripherals

end MotionFirmware
