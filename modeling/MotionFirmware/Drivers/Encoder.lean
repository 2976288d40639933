import Mathlib.Data.Int.ModEq
import MotionFirmware.Drivers.Peripherals

/-!
# The encoder drivers

`encoder_host.c` and `encoder.c` of the STM32.  Both report the raw 32-bit counter plus a reference
offset, read as a signed number; they differ in where the counter lives.  A successful reading of
either driver is the reading of `Peripherals` at the same counter and offset.

The second part is the arithmetic of the counter: the raw counter is a true integer modulo `2 ^ 32`,
and a difference of two counters, read as a signed number, is the true displacement if that is
shorter than half the range.
-/

namespace MotionFirmware

/-- The static state of `encoder_host.c`. -/
structure EncoderHost where
  initialized : Bool := false
  rawCount : UInt32 := 0
  referenceOffset : UInt32 := 0

/-- The static state of `encoder.c`, and the counter register `TIM2->CNT`. -/
structure EncoderStm32 where
  initialized : Bool := false
  referenceOffset : UInt32 := 0
  counter : UInt32 := 0

namespace EncoderHost

/-- `encoder_init`. -/
def encoderInit : EncoderHost := { initialized := true }

/-- `encoder_get_count`; `none` when it returns `false` and leaves the caller's count alone. -/
def encoderGetCount (e : EncoderHost) : Option Int32 :=
  if e.initialized then some (signedBits (e.rawCount + e.referenceOffset)) else none

/-- `encoder_set_reference`. -/
def encoderSetReference (e : EncoderHost) (count : Int32) : Bool × EncoderHost :=
  if e.initialized then (true, { e with referenceOffset := count.toUInt32 - e.rawCount })
  else (false, e)

/-- `encoder_host_set_count`. -/
def encoderHostSetCount (e : EncoderHost) (count : Int32) : Bool × EncoderHost :=
  if e.initialized then (true, { e with rawCount := count.toUInt32 }) else (false, e)

end EncoderHost

namespace EncoderStm32

/-- `encoder_init`. -/
def encoderInit : EncoderStm32 := { initialized := true }

/-- `encoder_get_count`, with its own conversion to a signed number. -/
def encoderGetCount (e : EncoderStm32) : Option Int32 :=
  if e.initialized then
    let bits := e.counter + e.referenceOffset
    some (if bits ≤ 2147483647 then bits.toInt32
      else Int32.minValue + (bits - 2147483648).toInt32)
  else none

/-- `encoder_set_reference`. -/
def encoderSetReference (e : EncoderStm32) (count : Int32) : Bool × EncoderStm32 :=
  if e.initialized then (true, { e with referenceOffset := count.toUInt32 - e.counter })
  else (false, e)

end EncoderStm32

/-- The drivers of the model see what a driver with this state sees at the next access. -/
structure Peripherals.Shows (p : Peripherals) (initialized : Bool) (raw offset : UInt32) :
    Prop where
  rawCount : p.rawCount = if initialized then some raw else none
  referenceOffset : p.referenceOffset = offset

namespace Peripherals.Shows

variable {p : Peripherals}

/-- The host driver reads what the model reads. -/
lemma host_get {e : EncoderHost} (h : p.Shows e.initialized e.rawCount e.referenceOffset) :
    e.encoderGetCount = p.encoderGetCount := by
  unfold EncoderHost.encoderGetCount Peripherals.encoderGetCount
  rw [h.rawCount, h.referenceOffset]
  cases e.initialized <;> rfl

/-- The STM32 driver reads what the model reads. -/
lemma stm32_get {e : EncoderStm32} (h : p.Shows e.initialized e.counter e.referenceOffset) :
    e.encoderGetCount = p.encoderGetCount := by
  unfold EncoderStm32.encoderGetCount Peripherals.encoderGetCount
  rw [h.rawCount, h.referenceOffset]
  cases e.initialized <;> rfl

/-- The host driver sets the reference that the model sets. -/
lemma host_set {e : EncoderHost} (h : p.Shows e.initialized e.rawCount e.referenceOffset)
    (count : Int32) :
    (e.encoderSetReference count).1 = (p.encoderSetReference count).1 ∧
      (e.encoderSetReference count).2.referenceOffset =
        (p.encoderSetReference count).2.referenceOffset := by
  unfold EncoderHost.encoderSetReference Peripherals.encoderSetReference
  rw [h.rawCount]
  cases e.initialized with
  | false => exact ⟨rfl, h.referenceOffset.symm⟩
  | true => exact ⟨rfl, rfl⟩

/-- The STM32 driver sets the reference that the model sets. -/
lemma stm32_set {e : EncoderStm32} (h : p.Shows e.initialized e.counter e.referenceOffset)
    (count : Int32) :
    (e.encoderSetReference count).1 = (p.encoderSetReference count).1 ∧
      (e.encoderSetReference count).2.referenceOffset =
        (p.encoderSetReference count).2.referenceOffset := by
  unfold EncoderStm32.encoderSetReference Peripherals.encoderSetReference
  rw [h.rawCount]
  cases e.initialized with
  | false => exact ⟨rfl, h.referenceOffset.symm⟩
  | true => exact ⟨rfl, rfl⟩

end Peripherals.Shows

/-! ### Counters modulo `2 ^ 32` -/

/-- A true integer shorter than half the range is read back from its counter. -/
lemma toInt_signedBits_ofInt {d : ℤ} (hlow : -2 ^ 31 ≤ d) (hhigh : d < 2 ^ 31) :
    (signedBits (UInt32.ofInt d)).toInt = d := by
  have hsigned : signedBits (UInt32.ofInt d) = (UInt32.ofInt d).toInt32 := by
    have := congrArg UInt32.toInt32 (toUInt32_signedBits (UInt32.ofInt d))
    simpa using this
  have hcounter : (UInt32.ofInt d).toInt32 = Int32.ofInt d := by
    apply Int32.toBitVec_inj.mp
    apply BitVec.eq_of_toNat_eq
    have hnonneg := Int.emod_nonneg d (show (4294967296 : ℤ) ≠ 0 by norm_num)
    have hlt := Int.emod_lt_of_pos d (show (0 : ℤ) < 4294967296 by norm_num)
    simp [UInt32.ofInt, BitVec.toNat_ofInt]
    omega
  rw [hsigned, hcounter, Int32.toInt_ofInt_of_le hlow hhigh]

/-- The counter of an integer is `2 ^ 31` exactly for the half-range displacements. -/
lemma ofInt_eq_half_iff {d : ℤ} : UInt32.ofInt d = 2147483648 ↔ d ≡ 2 ^ 31 [ZMOD 2 ^ 32] := by
  have hnonneg := Int.emod_nonneg d (show (2 : ℤ) ^ 32 ≠ 0 by norm_num)
  have hlt := Int.emod_lt_of_pos d (show (0 : ℤ) < 2 ^ 32 by norm_num)
  have hhalf : (2147483648 : UInt32).toNat = 2147483648 := rfl
  rw [← UInt32.toNat_inj, UInt32.ofInt, UInt32.toNat_ofNat', hhalf, Int.ModEq]
  omega

/-- The difference of two counters is the counter of the displacement. -/
lemma ofInt_sub_ofInt (s t : ℤ) : UInt32.ofInt t - UInt32.ofInt s = UInt32.ofInt (t - s) := by
  rw [Int.sub_eq_add_neg, UInt32.ofInt_add, UInt32.ofInt_neg, UInt32.sub_eq_add_neg]

end MotionFirmware
