import MotionFirmware.Drivers.FormatText
import MotionFirmware.Foundation.ExactArithmetic
import MotionFirmware.Foundation.Scientific

/-!
# The decimals of reals

`real` in exact arithmetic.  Its two loops divide or multiply by ten until the value is a
significand, so they compute the decimal exponent; what follows rounds the significand to five
places.  The printed text has the form of a number in scientific notation, and denotes the rounded
number.
-/

namespace MotionFirmware

attribute [local instance] ExactArithmetic.rounding

open ExactArithmetic

/-- The text is an optional minus sign, a nonzero digit, a point, five digits, an `e`, a sign and at
least two digits of the exponent, and denotes the value. -/
def IsScientific (text : List UInt8) (value : ℚ) : Prop :=
  ∃ sign lead fraction exponentSign exponent,
    text = sign ++ lead :: ascii '.' :: (fraction ++ ascii 'e' :: exponentSign :: exponent) ∧
    (sign = [] ∨ sign = [ascii '-']) ∧ digit lead = true ∧ lead ≠ ascii '0' ∧
    fraction.length = 5 ∧ (∀ c ∈ fraction, digit c = true) ∧
    (exponentSign = ascii '+' ∨ exponentSign = ascii '-') ∧
    2 ≤ exponent.length ∧ (∀ c ∈ exponent, digit c = true) ∧
    value = (if sign = [ascii '-'] then -1 else 1) * (decimal (lead :: fraction) : ℚ) *
      10 ^ ((if exponentSign = ascii '-' then -(decimal exponent : ℤ) else decimal exponent) - 5)

/-- The value and the exponent after both loops of `real`. -/
def normalised (value : FloatValue) : FloatValue × ℤ :=
  scaleUp scalings (scaleDown scalings value 0).1 (scaleDown scalings value 0).2

variable {q : ℚ} {value : FloatValue} {exponent : ℤ} {n : ℕ}

/-! ### The loops -/

/-- A loop that has ended takes no further iterations. -/
lemma scaleDown_add (h : ¬ .finite 10 ≤ (scaleDown n value exponent).1) (m : ℕ) :
    scaleDown (n + m) value exponent = scaleDown n value exponent := by
  induction n generalizing value exponent with
  | zero =>
    rw [scaleDown] at h
    cases m with
    | zero => rfl
    | succ m => rw [Nat.zero_add, scaleDown, scaleDown, if_neg h]
  | succ n ih =>
    rw [Nat.succ_add, scaleDown, scaleDown]
    rw [scaleDown] at h
    split_ifs at h ⊢ with hten
    · exact ih h
    · rfl

lemma scaleUp_add (h : ¬ (scaleUp n value exponent).1 < .finite 1) (m : ℕ) :
    scaleUp (n + m) value exponent = scaleUp n value exponent := by
  induction n generalizing value exponent with
  | zero =>
    rw [scaleUp] at h
    cases m with
    | zero => rfl
    | succ m => rw [Nat.zero_add, scaleUp, scaleUp, if_neg h]
  | succ n ih =>
    rw [Nat.succ_add, scaleUp, scaleUp]
    rw [scaleUp] at h
    split_ifs at h ⊢ with hone
    · exact ih h
    · rfl

/-- The first loop divides by a power of ten. -/
lemma scaleDown_eq (n : ℕ) (q : ℚ) (exponent : ℤ) :
    ∃ i : ℕ, scaleDown n (.finite q) exponent = (.finite (q / 10 ^ i), exponent + i) := by
  induction n generalizing q exponent with
  | zero => exact ⟨0, by simp [scaleDown]⟩
  | succ n ih =>
    unfold scaleDown
    split_ifs with hten
    · obtain ⟨i, hi⟩ := ih (q / 10) (exponent + 1)
      refine ⟨i + 1, ?_⟩
      rw [finite_div_finite (by norm_num), hi, div_div, ← pow_succ']
      push_cast
      rw [add_assoc, add_comm (1 : ℤ)]
    · exact ⟨0, by simp⟩

/-- The second loop multiplies by a power of ten, and keeps a value below ten. -/
lemma scaleUp_eq (n : ℕ) (hq : q < 10) (exponent : ℤ) :
    ∃ i : ℕ, scaleUp n (.finite q) exponent = (.finite (q * 10 ^ i), exponent - i) ∧
      q * 10 ^ i < 10 := by
  induction n generalizing q exponent with
  | zero => exact ⟨0, by simp [scaleUp], by simpa using hq⟩
  | succ n ih =>
    unfold scaleUp
    split_ifs with hone
    · rw [FloatValue.finite_lt_finite] at hone
      obtain ⟨i, hi, hlt⟩ := ih (q := q * 10) (by linarith) (exponent - 1)
      have hpow : q * 10 * 10 ^ i = q * 10 ^ (i + 1) := by rw [mul_assoc, ← pow_succ']
      refine ⟨i + 1, ?_, hpow ▸ hlt⟩
      rw [finite_mul_finite, hi, hpow]
      push_cast
      rw [sub_sub, add_comm (1 : ℤ)]
    · exact ⟨0, by simp, by simpa using hq⟩

/-- **The loops end**, with the significand and the exponent of the value. -/
theorem normalised_eq (hmin : 2 ^ (-1074 : ℤ) ≤ q) (hmax : q < 2 ^ (1024 : ℤ)) :
    ¬ .finite 10 ≤ (scaleDown scalings (.finite q) 0).1 ∧
      ¬ (normalised (.finite q)).1 < .finite 1 ∧
      normalised (.finite q) = (.finite (Scientific.significand 10 q), Int.log 10 q) := by
  obtain ⟨d, u, hd, hdlt, hu, hone, -⟩ := loops_end hmin hmax
  obtain ⟨i, hi⟩ := scaleDown_eq scalings q 0
  obtain ⟨j, hj, hjlt⟩ := scaleUp_eq scalings hdlt (0 + i)
  have hvalue : d = q / 10 ^ i := by
    rw [hi] at hd
    exact (FloatValue.finite.inj hd).symm
  have hsignificand : u = d * 10 ^ j := by
    rw [hi, hj] at hu
    exact (FloatValue.finite.inj hu).symm
  have hscale : q / 10 ^ ((0 : ℤ) + i - j) = u := by
    rw [hsignificand, hvalue, zero_add, zpow_sub₀ (by norm_num), zpow_natCast, zpow_natCast,
      div_div_eq_mul_div, div_mul_eq_mul_div]
  have hpower : (0 : ℚ) < 10 ^ ((0 : ℤ) + i - j) := zpow_pos (by norm_num) _
  have hlog : Int.log 10 q = 0 + i - j := by
    refine Scientific.log_eq (by norm_num) ?_ ?_
    · rw [← hscale, one_le_div hpower] at hone
      exact_mod_cast hone
    · rw [← hsignificand, ← hscale, div_lt_iff₀ hpower] at hjlt
      push_cast
      rwa [zpow_add_one₀ (by norm_num), mul_comm]
  have hnormalised : normalised (.finite q) =
      (.finite (Scientific.significand 10 q), Int.log 10 q) := by
    rw [normalised, hi, ← hvalue, hj, ← hsignificand, Scientific.significand, hlog]
    push_cast
    rw [hscale]
  refine ⟨?_, ?_, hnormalised⟩
  · rw [hd, FloatValue.finite_le_finite, not_le]
    exact hdlt
  · rw [hi] at hu
    rw [normalised, hi, ← hvalue, hu, FloatValue.finite_lt_finite, not_lt]
    exact hone

/-! ### The digits -/

/-- The conversion to an integer is in range, and its digits are those of the rounded
significand. -/
lemma scaledValue_eq (hmin : 2 ^ (-1074 : ℤ) ≤ q) (hmax : q < 2 ^ (1024 : ℤ)) :
    (∃ s, (normalised (.finite q)).1 * .finite 100000 + .finite (1 / 2) = .finite s ∧ 0 ≤ s ∧
      s < 2 ^ 32) ∧
    (scaledValue (.finite q)).1.toNat = (Scientific.rounded 10 5 q).1 ∧
    (scaledValue (.finite q)).2 = (Scientific.rounded 10 5 q).2 := by
  have hpos : 0 < q := (zpow_pos (by norm_num : (0 : ℚ) < 2) _).trans_le hmin
  obtain ⟨-, -, hnormalised⟩ := normalised_eq hmin hmax
  have hone := Scientific.one_le_significand (b := 10) (by norm_num) hpos
  have hten : Scientific.significand 10 q < 10 := by
    exact_mod_cast Scientific.significand_lt (b := 10) (by norm_num) q
  have hsum : (normalised (.finite q)).1 * .finite 100000 + .finite (1 / 2) =
      .finite (Scientific.significand 10 q * 100000 + 1 / 2) := by
    rw [hnormalised, finite_mul_finite, finite_add_finite]
  refine ⟨⟨_, hsum, by linarith, by linarith⟩, ?_⟩
  have hdigits : truncated ((normalised (.finite q)).1 * .finite 100000 + .finite (1 / 2)) =
      UInt32.ofNat (Scientific.digits 10 5 q) := by
    rw [hsum, truncated, Scientific.digits]
    norm_num
  have hle : Scientific.digits 10 5 q ≤ 10 ^ 6 := Scientific.digits_le (by norm_num) hpos
  have hnat : (UInt32.ofNat (Scientific.digits 10 5 q)).toNat = Scientific.digits 10 5 q :=
    UInt32.toNat_ofNat_of_lt' (hle.trans_lt (by decide))
  have hscaled : scaledValue (.finite q) =
      if 1000000 ≤ UInt32.ofNat (Scientific.digits 10 5 q) then (100000, Int.log 10 q + 1)
      else (UInt32.ofNat (Scientific.digits 10 5 q), Int.log 10 q) := by
    change (if 1000000 ≤ truncated ((normalised (.finite q)).1 * .finite 100000 + .finite (1 / 2))
      then ((100000 : UInt32), (normalised (.finite q)).2 + 1)
      else (truncated ((normalised (.finite q)).1 * .finite 100000 + .finite (1 / 2)),
        (normalised (.finite q)).2)) = _
    rw [hdigits, hnormalised]
  have hlarge : 1000000 ≤ UInt32.ofNat (Scientific.digits 10 5 q) ↔
      10 ^ (5 + 1) ≤ Scientific.digits 10 5 q := by
    rw [UInt32.le_iff_toNat_le, hnat]
    rfl
  rw [hscaled, Scientific.rounded]
  simp only [hlarge]
  split_ifs
  · exact ⟨rfl, rfl⟩
  · exact ⟨hnat, rfl⟩

/-! ### The text -/

/-- The leading digit. -/
lemma exists_lead {N : ℕ} (hlow : 100000 ≤ N) (hhigh : N < 1000000) :
    ∃ lead, decimalText (N / 100000) = [lead] ∧ digit lead = true ∧ lead ≠ ascii '0' ∧
      decimal [lead] = N / 100000 := by
  have hlt : N / 100000 < 10 := by omega
  have hone : decimal [ascii (N / 100000).digitChar] = N / 100000 := by
    rw [decimal, decimalFrom_digitChar hlt]
    omega
  refine ⟨_, decimalText_of_lt hlt, digit_digitChar hlt, ?_, hone⟩
  intro hzero
  have hvalue : decimal [ascii '0'] = 0 := rfl
  rw [hzero, hvalue] at hone
  omega

/-- Six digits and an exponent are printed as a number in scientific notation. -/
lemma isScientific_text (negative : Prop) [Decidable negative] {N : ℕ} (hlow : 100000 ≤ N)
    (hhigh : N < 1000000) (e : ℤ) :
    IsScientific ((if negative then [ascii '-'] else []) ++ decimalText (N / 100000) ++
      [ascii '.'] ++ (decimalText (N % 100000)).leftpad 5 (ascii '0') ++ [ascii 'e'] ++
      [if e < 0 then ascii '-' else ascii '+'] ++ (decimalText e.natAbs).leftpad 2 (ascii '0'))
      ((if negative then -1 else 1) * N * 10 ^ (e - 5)) := by
  obtain ⟨lead, hlead, hdigit, hnonzero, hvalue⟩ := exists_lead hlow hhigh
  have hfraction : ((decimalText (N % 100000)).leftpad 5 (ascii '0')).length = 5 := by
    rw [List.length_leftpad]
    exact max_eq_left ((length_decimalText_le_iff (by norm_num)).mpr (by omega))
  refine ⟨if negative then [ascii '-'] else [], lead,
    (decimalText (N % 100000)).leftpad 5 (ascii '0'), if e < 0 then ascii '-' else ascii '+',
    (decimalText e.natAbs).leftpad 2 (ascii '0'), by simp [hlead], ?_, hdigit, hnonzero, hfraction,
    fun c hc => digit_of_mem_leftpad hc, ?_, ?_, fun c hc => digit_of_mem_leftpad hc, ?_⟩
  · split_ifs
    · exact Or.inr rfl
    · exact Or.inl rfl
  · split_ifs
    · exact Or.inr rfl
    · exact Or.inl rfl
  · rw [List.length_leftpad]
    exact le_max_left _ _
  · have hdigits : decimal (lead :: (decimalText (N % 100000)).leftpad 5 (ascii '0')) = N := by
      rw [← List.singleton_append, decimal, decimalFrom_append, decimalFrom_eq, decimal_leftpad,
        hfraction]
      change decimal [lead] * 10 ^ 5 + _ = N
      omega
    have hsign : (if (if negative then [ascii '-'] else []) = [ascii '-'] then (-1 : ℚ) else 1) =
        if negative then -1 else 1 := by
      by_cases hnegative : negative <;> simp [hnegative]
    have hexponent : (if (if e < 0 then ascii '-' else ascii '+') = ascii '-' then
        -((e.natAbs : ℕ) : ℤ) else e.natAbs) = e := by
      by_cases hneg : e < 0
      · rw [if_pos hneg, if_pos rfl]
        omega
      · rw [if_neg hneg, if_neg (by decide)]
        omega
    rw [hdigits, hsign, decimal_leftpad, hexponent]

/-- The text of a nonzero finite value. -/
lemma isScientific_realText (hmin : 2 ^ (-1074 : ℤ) ≤ |q|) (hmax : |q| < 2 ^ (1024 : ℤ)) :
    IsScientific (realText (.finite q))
      ((if q < 0 then -1 else 1) * (Scientific.rounded 10 5 |q|).1 *
        10 ^ ((Scientific.rounded 10 5 |q|).2 - 5)) := by
  have hpos : 0 < |q| := (zpow_pos (by norm_num : (0 : ℚ) < 2) _).trans_le hmin
  have hzero : ¬ FloatValue.finite q = 0 := by
    rw [FloatValue.finite_eq_zero]
    exact abs_pos.mp hpos
  obtain ⟨-, hdigits, hexponent⟩ := scaledValue_eq hmin hmax
  obtain ⟨hlow, hhigh⟩ := Scientific.rounded_range (b := 10) (k := 5) (by norm_num) hpos
  have hbound := scaledValue_exponent (.finite |q|)
  have hquot : ((scaledValue (.finite |q|)).1 / 100000).toNat =
      (Scientific.rounded 10 5 |q|).1 / 100000 := by
    rw [UInt32.toNat_div, hdigits]
    rfl
  have hrest : ((scaledValue (.finite |q|)).1 % 100000).toNat =
      (Scientific.rounded 10 5 |q|).1 % 100000 := by
    rw [UInt32.toNat_mod, hdigits]
    rfl
  have hnat : (UInt32.ofNat (scaledValue (.finite |q|)).2.natAbs).toNat =
      (scaledValue (.finite |q|)).2.natAbs := UInt32.toNat_ofNat_of_lt' (hbound.trans (by decide))
  have htext := isScientific_text (q < 0) hlow hhigh (Scientific.rounded 10 5 |q|).2
  rw [realText, if_neg (by simp), if_neg hzero]
  dsimp only
  rw [magnitude_eq, hquot, hrest, hnat, hexponent]
  simpa only [FloatValue.finite_lt_zero] using htext

/-- The error of a number is the error of its magnitude. -/
lemma abs_signed_sub (q m : ℚ) : |(if q < 0 then -1 else 1) * m - q| = abs (m - |q|) := by
  split_ifs with hneg
  · have hflip : -1 * m - q = -(m - |q|) := by
      rw [abs_of_neg hneg]
      ring
    rw [hflip, abs_neg]
  · rw [one_mul, abs_of_nonneg (not_lt.mp hneg)]

/-- Six significant digits of a real, in exact arithmetic.  Both loops of `real` end within the
bound of the model, the converted value is in the range of `uint32_t`, and what `real` appends has
the form of a number in scientific notation and denotes a number that is off by at most half a unit
of the sixth significant digit, at the exponent of the value itself. -/
theorem real_six_digits (x : Double) {q : ℚ} (hx : x.value = .finite q) (hq : q ≠ 0) :
    (¬ .finite 10 ≤ (scaleDown scalings (.finite |q|) 0).1 ∧
      ¬ (normalised (.finite |q|)).1 < .finite 1 ∧
      ∀ n, scaleDown (scalings + n) (.finite |q|) 0 = scaleDown scalings (.finite |q|) 0 ∧
        scaleUp (scalings + n) (scaleDown scalings (.finite |q|) 0).1
          (scaleDown scalings (.finite |q|) 0).2 = normalised (.finite |q|)) ∧
    (∃ s, (normalised (.finite |q|)).1 * .finite 100000 + .finite (1 / 2) = .finite s ∧ 0 ≤ s ∧
      s < 2 ^ 32) ∧
    ∃ (text : List UInt8) (y : ℚ) (e : ℤ), IsScientific text y ∧ 10 ^ e ≤ |q| ∧
      |q| < 10 ^ (e + 1) ∧ |y - q| ≤ 10 ^ (e - 5) / 2 ∧
      ∀ (w : Writer) (out : ℕ → UInt8) (capacity : ℕ) (given : List UInt8), 0 < capacity →
        w.Holds out capacity given true →
        (w.real x.value).Holds out capacity (given ++ text) true := by
  obtain ⟨hmin, hmax⟩ := x.range q hx hq
  have hpos : 0 < |q| := abs_pos.mpr hq
  obtain ⟨hdown, hup, -⟩ := normalised_eq hmin hmax
  refine ⟨⟨hdown, hup, fun n => ⟨scaleDown_add hdown n, scaleUp_add hup n⟩⟩,
    (scaledValue_eq hmin hmax).1, realText x.value, _, Int.log 10 |q|,
    hx ▸ isScientific_realText hmin hmax, ?_, ?_, ?_, ?_⟩
  · exact_mod_cast Int.zpow_log_le_self (b := 10) (by norm_num) hpos
  · exact_mod_cast Int.lt_zpow_succ_log_self (b := 10) (by norm_num) |q|
  · have herror := Scientific.abs_rounded_sub_le (b := 10) (k := 5) (by norm_num) hpos
    push_cast at herror
    rw [mul_assoc, abs_signed_sub]
    exact herror
  · intro w out capacity given hcapacity hw
    exact hw.real hcapacity x.value

/-- A value that is rounded up to ten in magnitude. -/
def nearTen : Double where
  value := .finite (1 / 2 ^ 30 - 10)
  range q hq _ := by
    obtain rfl := FloatValue.finite.inj hq
    have habs : |(1 / 2 ^ 30 - 10 : ℚ)| = 10 - 1 / 2 ^ 30 := by norm_num
    rw [habs]
    exact ⟨subnormal_le (by norm_num), (le_overflow (by norm_num)).trans_lt
      (zpow_lt_zpow_right₀ (by norm_num) (by norm_num))⟩

/-- The carry: the text is that of minus ten. -/
theorem real_six_digits_carry :
    realText nearTen.value = literal "-1.00000e+01" ∧
    ∃ (text : List UInt8) (y : ℚ) (e : ℤ), IsScientific text y ∧
      |y - (1 / 2 ^ 30 - 10)| ≤ 10 ^ (e - 5) / 2 ∧ (10 : ℚ) ^ e ≤ 10 - 1 / 2 ^ 30 := by
  obtain ⟨-, -, text, y, e, htext, hlow, -, herror, -⟩ :=
    real_six_digits nearTen (q := 1 / 2 ^ 30 - 10) rfl (by norm_num)
  refine ⟨by decide +kernel, text, y, e, htext, herror, ?_⟩
  norm_num at hlow ⊢
  exact hlow

end MotionFirmware
