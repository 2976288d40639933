import Mathlib.Algebra.Ring.Nat
import Mathlib.Tactic.IntervalCases
import Mathlib.Tactic.Ring
import MotionFirmware.Foundation.CString

/-!
# Decimal numerals

`decimalText` writes a natural number in decimal digits, without leading zeros, and `decimal` reads
digits.  What is written is read back, also behind leading zeros.
-/

namespace MotionFirmware

/-- A decimal digit. -/
def digit (c : UInt8) : Bool := decide (ascii '0' ≤ c) && decide (c ≤ ascii '9')

/-- The value of digits that are read after the value `v`. -/
def decimalFrom (v : ℕ) (digits : List UInt8) : ℕ :=
  digits.foldl (fun v d => v * 10 + (d.toNat - (ascii '0').toNat)) v

/-- The decimal value of a list of digits. -/
def decimal (digits : List UInt8) : ℕ := decimalFrom 0 digits

/-- The decimal digits of a number. -/
def decimalText (value : ℕ) : List UInt8 := (Nat.toDigits 10 value).map ascii

variable {v value width k : ℕ} {c : UInt8} {ds es : List UInt8}

/-! ### Reading -/

@[simp] lemma decimalFrom_nil : decimalFrom v [] = v := rfl

@[simp] lemma decimalFrom_cons :
    decimalFrom v (c :: ds) = decimalFrom (v * 10 + (c.toNat - (ascii '0').toNat)) ds :=
  List.foldl_cons ..

lemma decimalFrom_append : decimalFrom v (ds ++ es) = decimalFrom (decimalFrom v ds) es :=
  List.foldl_append

/-- Reading digits never makes the value smaller. -/
lemma le_decimalFrom (v : ℕ) (ds : List UInt8) : v ≤ decimalFrom v ds := by
  induction ds generalizing v with
  | nil => exact le_rfl
  | cons c ds ih =>
    rw [decimalFrom_cons]
    have hstep : v ≤ v * 10 + (c.toNat - (ascii '0').toNat) := by omega
    exact hstep.trans (ih _)

/-- The code of a digit. -/
lemma digit_iff : digit c = true ↔ 48 ≤ c.toNat ∧ c.toNat ≤ 57 := by
  have hzero : (ascii '0').toNat = 48 := by decide
  have hnine : (ascii '9').toNat = 57 := by decide
  rw [digit, Bool.and_eq_true, decide_eq_true_iff, decide_eq_true_iff, UInt8.le_iff_toNat_le,
    UInt8.le_iff_toNat_le, hzero, hnine]

/-- The digits after a value follow it. -/
lemma decimalFrom_eq (v : ℕ) (ds : List UInt8) :
    decimalFrom v ds = v * 10 ^ ds.length + decimal ds := by
  induction ds generalizing v with
  | nil => simp [decimal]
  | cons c ds ih =>
    rw [decimal, decimalFrom_cons, decimalFrom_cons, ih, ih (0 * 10 + _), List.length_cons,
      pow_succ]
    ring

/-- Leading zeros do not count. -/
lemma decimal_zeros (n : ℕ) (ds : List UInt8) :
    decimal (List.replicate n (ascii '0') ++ ds) = decimal ds := by
  induction n with
  | zero => rfl
  | succ n ih =>
    rw [List.replicate_succ, List.cons_append, decimal, decimalFrom_cons, Nat.sub_self]
    exact ih

/-! ### Writing -/

/-- The code of a digit. -/
lemma ascii_digitChar {d : ℕ} (hd : d < 10) : ascii d.digitChar = ascii '0' + UInt8.ofNat d := by
  interval_cases d <;> rfl

/-- A number of one digit. -/
lemma decimalText_of_lt (h : value < 10) : decimalText value = [ascii value.digitChar] := by
  rw [decimalText, Nat.toDigits_of_lt_base h]
  rfl

/-- The last digit of a longer number. -/
lemma decimalText_of_le (h : 10 ≤ value) :
    decimalText value = decimalText (value / 10) ++ [ascii (value % 10).digitChar] := by
  rw [decimalText, decimalText, Nat.toDigits_of_base_le (by omega) h, List.map_append]
  rfl

/-- The value of the digit that is written. -/
lemma decimalFrom_digitChar {d : ℕ} (hd : d < 10) :
    decimalFrom v [ascii d.digitChar] = v * 10 + d := by
  interval_cases d <;> rfl

lemma digit_digitChar {d : ℕ} (hd : d < 10) : digit (ascii d.digitChar) = true := by
  interval_cases d <;> rfl

/-- A number is read as it is written. -/
theorem decimal_decimalText (value : ℕ) : decimal (decimalText value) = value := by
  induction value using Nat.strong_induction_on with
  | _ value ih =>
    rcases Nat.lt_or_ge value 10 with hlt | hge
    · rw [decimalText_of_lt hlt, decimal, decimalFrom_digitChar hlt]
      omega
    · have hlast : value % 10 < 10 := Nat.mod_lt _ (by omega)
      have hrest := ih (value / 10) (by omega)
      rw [decimal] at hrest
      rw [decimalText_of_le hge, decimal, decimalFrom_append, hrest, decimalFrom_digitChar hlast]
      omega

/-- Only digits are written. -/
lemma digit_of_mem_decimalText (h : c ∈ decimalText value) : digit c = true := by
  induction value using Nat.strong_induction_on with
  | _ value ih =>
    rcases Nat.lt_or_ge value 10 with hlt | hge
    · rw [decimalText_of_lt hlt] at h
      obtain rfl := List.mem_singleton.mp h
      exact digit_digitChar hlt
    · rw [decimalText_of_le hge] at h
      rcases List.mem_append.mp h with hrest | hlast
      · exact ih (value / 10) (by omega) hrest
      · obtain rfl := List.mem_singleton.mp hlast
        exact digit_digitChar (Nat.mod_lt _ (by omega))

lemma decimalText_ne_nil (value : ℕ) : decimalText value ≠ [] := by
  rw [decimalText, ne_eq, List.map_eq_nil_iff]
  exact Nat.toDigits_ne_nil

/-- The number of digits. -/
lemma length_decimalText_le_iff (hk : 0 < k) :
    (decimalText value).length ≤ k ↔ value < 10 ^ k := by
  rw [decimalText, List.length_map, Nat.length_toDigits_le_iff (by omega) hk]

/-! ### Padding -/

/-- A padded number has the width, or as many digits as it needs. -/
lemma length_leftpad_decimalText_le (hk : 0 < k) (hwidth : width ≤ k) (hvalue : value < 10 ^ k) :
    ((decimalText value).leftpad width (ascii '0')).length ≤ k := by
  rw [List.length_leftpad]
  exact max_le hwidth ((length_decimalText_le_iff hk).mpr hvalue)

/-- Padding does not change the value. -/
lemma decimal_leftpad (width value : ℕ) :
    decimal ((decimalText value).leftpad width (ascii '0')) = value :=
  (decimal_zeros _ _).trans (decimal_decimalText value)

lemma digit_of_mem_leftpad (h : c ∈ (decimalText value).leftpad width (ascii '0')) :
    digit c = true := by
  rcases List.mem_append.mp h with hpad | hdigit
  · rw [List.eq_of_mem_replicate hpad]
    rfl
  · exact digit_of_mem_decimalText hdigit

end MotionFirmware
