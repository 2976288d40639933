import MotionFirmware.Drivers.TinyFormat
import MotionFirmware.Foundation.Decimal

/-!
# The text of the conversions

Each conversion appends a text to the writer.  A writer that has been given a text holds as much of
it as fits before the terminator, and has failed exactly when this is not all of it; so what a
conversion does in a full buffer need not be looked at.
-/

namespace MotionFirmware

/-! ### What a writer holds -/

/-- The memory with a text at its start. -/
def overlay (out : ℕ → UInt8) (text : List UInt8) : ℕ → UInt8 := fun i => text[i]?.getD (out i)

/-- The writer has been given the text; `ok` says that nothing but the capacity has stopped it. -/
structure Writer.Holds (w : Writer) (out : ℕ → UInt8) (capacity : ℕ) (text : List UInt8)
    (ok : Bool) : Prop where
  capacity_eq : w.capacity = capacity
  used : w.used = (text.take (capacity - 1)).length
  data : w.data = overlay out (text.take (capacity - 1))
  failed : w.failed = (!ok || decide (capacity ≤ text.length))

variable {w : Writer} {out : ℕ → UInt8} {capacity : ℕ} {text more : List UInt8} {ok : Bool}

/-- One more byte after a text. -/
lemma update_overlay (out : ℕ → UInt8) (text : List UInt8) (c : UInt8) :
    Function.update (overlay out text) text.length c = overlay out (text ++ [c]) := by
  funext i
  rcases lt_trichotomy i text.length with hlt | rfl | hgt
  · rw [Function.update_of_ne hlt.ne, overlay, overlay, List.getElem?_append_left hlt]
  · simp [overlay]
  · have hbeyond : (text ++ [c])[i]? = none := by
      rw [List.getElem?_eq_none_iff, List.length_append, List.length_singleton]
      exact hgt
    rw [Function.update_of_ne hgt.ne', overlay, overlay, hbeyond,
      List.getElem?_eq_none hgt.le]

namespace Writer.Holds

/-- A full buffer stays full: it holds any longer text as well. -/
lemma append_of_full (h : w.Holds out capacity text true) (hfull : capacity ≤ text.length)
    (more : List UInt8) (ok : Bool) : w.Holds out capacity (text ++ more) ok := by
  have htake : (text ++ more).take (capacity - 1) = text.take (capacity - 1) :=
    List.take_append_of_le_length (by omega)
  refine ⟨h.capacity_eq, by rw [htake, h.used], by rw [htake, h.data], ?_⟩
  have hlong : capacity ≤ (text ++ more).length := by
    rw [List.length_append]
    omega
  rw [h.failed, decide_eq_true hfull, decide_eq_true hlong, Bool.or_true, Bool.or_true]

/-- A failure other than for the capacity. -/
lemma fail (h : w.Holds out capacity text ok) : w.fail.Holds out capacity text false :=
  ⟨h.capacity_eq, h.used, h.data, rfl⟩

/-- `character` appends its byte. -/
lemma character (h : w.Holds out capacity text true) (hcapacity : 0 < capacity) (c : UInt8) :
    (w.character c).Holds out capacity (text ++ [c]) true := by
  have hlength : (text ++ [c]).length = text.length + 1 := by simp
  have hused := h.used
  rw [List.length_take] at hused
  unfold Writer.character
  split_ifs with hfull
  · rw [h.capacity_eq] at hfull
    have htake : (text ++ [c]).take (capacity - 1) = text.take (capacity - 1) :=
      List.take_append_of_le_length (by omega)
    refine ⟨h.capacity_eq, by rw [htake]; exact h.used, by rw [htake]; exact h.data, ?_⟩
    rw [hlength]
    simp only [Writer.fail, Bool.not_true, Bool.false_or, true_eq_decide_iff]
    omega
  · rw [h.capacity_eq] at hfull
    have hold : text.take (capacity - 1) = text := List.take_of_length_le (by omega)
    have hnew : (text ++ [c]).take (capacity - 1) = text ++ [c] :=
      List.take_of_length_le (by omega)
    have hall : w.used = text.length := by omega
    refine ⟨h.capacity_eq, by rw [hnew, hlength, hall], ?_, ?_⟩
    · rw [hnew, hall, h.data, hold]
      exact update_overlay out text c
    · rw [h.failed, hlength]
      simp only [Bool.not_true, Bool.false_or, decide_eq_decide]
      omega

/-- Characters append their bytes. -/
lemma characters (h : w.Holds out capacity text true) (hcapacity : 0 < capacity)
    (more : List UInt8) :
    (w.characters more).Holds out capacity (text ++ more) true := by
  induction more generalizing w text with
  | nil => simpa [Writer.characters] using h
  | cons c more ih =>
    have hnext := ih (h.character hcapacity c)
    rwa [List.append_assoc] at hnext

/-- The loop of `string` appends the string, also where it stops in a full buffer. -/
lemma stringLoop (h : w.Holds out capacity text true) (hcapacity : 0 < capacity) :
    (Writer.stringLoop more w).Holds out capacity (text ++ more) true := by
  induction more generalizing w text with
  | nil => simpa [Writer.stringLoop] using h
  | cons c more ih =>
    unfold Writer.stringLoop
    split_ifs with hfailed
    · rw [h.failed] at hfailed
      exact h.append_of_full (by simpa using hfailed) _ _
    · have hnext := ih (h.character hcapacity c)
      rwa [List.append_assoc] at hnext

end Writer.Holds

/-! ### Decimal numbers -/

/-- The loop of `integer` stores the digits of its value, if they fit. -/
lemma reverse_integerDigits {n : ℕ} {value : UInt32} (hn : 0 < n) (hvalue : value.toNat < 10 ^ n) :
    (integerDigits n value).reverse = decimalText value.toNat := by
  induction n generalizing value with
  | zero => exact absurd hn (Nat.lt_irrefl 0)
  | succ n ih =>
    have hten : (10 : UInt32).toNat = 10 := rfl
    have hquot : (value / 10).toNat = value.toNat / 10 := by rw [UInt32.toNat_div, hten]
    have hlast : (value % 10).toUInt8 = UInt8.ofNat (value.toNat % 10) := by
      rw [← UInt8.toNat_inj, UInt32.toNat_toUInt8, UInt32.toNat_mod, hten, UInt8.toNat_ofNat']
    have hdigit := ascii_digitChar (Nat.mod_lt value.toNat (by norm_num : 0 < 10))
    rw [integerDigits, List.reverse_cons, hlast, ← hdigit]
    split_ifs with hzero
    · have hsmall : value.toNat < 10 := by
        rw [hzero] at hquot
        have : (0 : UInt32).toNat = 0 := rfl
        omega
      rw [decimalText, Nat.toDigits_of_lt_base hsmall, Nat.mod_eq_of_lt hsmall]
      rfl
    · have hlarge : 10 ≤ value.toNat := by
        by_contra hlt
        exact hzero (UInt32.toNat_inj.mp (hquot.trans (Nat.div_eq_of_lt (not_le.mp hlt))))
      have hn' : 0 < n := by
        rcases Nat.eq_zero_or_pos n with rfl | hpos
        · omega
        · exact hpos
      have hnext : (value / 10).toNat < 10 ^ n := by
        rw [hquot]
        exact Nat.div_lt_of_lt_mul (by rwa [← Nat.pow_succ'])
      rw [ih hn' hnext, hquot, decimalText, decimalText,
        Nat.toDigits_of_base_le (by norm_num) hlarge,
        List.map_append]
      rfl

/-- The array of `integer` has room for every value. -/
lemma reverse_integerDigits_ten (value : UInt32) :
    (integerDigits 10 value).reverse = decimalText value.toNat :=
  reverse_integerDigits (by norm_num) (value.toNat_lt.trans (by norm_num))

/-- `integer` appends the digits of its value, with zeros up to its width. -/
lemma Writer.Holds.integer (h : w.Holds out capacity text true) (hcapacity : 0 < capacity)
    (value : UInt32) (width : ℕ) :
    (w.integer value width).Holds out capacity
      (text ++ (decimalText value.toNat).leftpad width (ascii '0')) true := by
  have hlength : (integerDigits 10 value).length = (decimalText value.toNat).length := by
    rw [← reverse_integerDigits_ten, List.length_reverse]
  unfold Writer.integer
  dsimp only
  rw [reverse_integerDigits_ten, hlength, List.leftpad, ← List.append_assoc]
  exact (h.characters hcapacity _).characters hcapacity _

/-! ### Floating-point numbers -/

section Real

variable [DoubleRounding]

/-- The text of `real`. -/
def realText (value : FloatValue) : List UInt8 :=
  if !value.isFinite then literal "invalid"
  else if value = 0 then [ascii '0']
  else
    let scaled := scaledValue (if value < 0 then -value else value)
    (if value < 0 then [ascii '-'] else []) ++
      decimalText (scaled.1 / 100000).toNat ++ [ascii '.'] ++
      (decimalText (scaled.1 % 100000).toNat).leftpad 5 (ascii '0') ++ [ascii 'e'] ++
      [if scaled.2 < 0 then ascii '-' else ascii '+'] ++
      (decimalText (UInt32.ofNat scaled.2.natAbs).toNat).leftpad 2 (ascii '0')

omit [DoubleRounding] in
/-- A number has at least one digit. -/
lemma leftpad_one_decimalText (value : ℕ) :
    (decimalText value).leftpad 1 (ascii '0') = decimalText value := by
  have hlength : 0 < (decimalText value).length :=
    List.length_pos_iff.mpr (decimalText_ne_nil value)
  have hpad : 1 - (decimalText value).length = 0 := by omega
  rw [List.leftpad, hpad]
  rfl

omit [DoubleRounding] in
/-- An optional sign. -/
lemma Writer.Holds.sign (h : w.Holds out capacity text true) (hcapacity : 0 < capacity)
    (p : Prop) [Decidable p] (c : UInt8) :
    (if p then w.character c else w).Holds out capacity (text ++ if p then [c] else []) true := by
  split_ifs
  · exact h.character hcapacity c
  · simpa using h

/-- `real` appends its text. -/
lemma Writer.Holds.real (h : w.Holds out capacity text true) (hcapacity : 0 < capacity)
    (value : FloatValue) : (w.real value).Holds out capacity (text ++ realText value) true := by
  by_cases hfinite : (!value.isFinite) = true
  · rw [Writer.real, realText, if_pos hfinite, if_pos hfinite]
    exact h.stringLoop hcapacity
  rw [Writer.real, realText, if_neg hfinite, if_neg hfinite]
  by_cases hzero : value = 0
  · rw [if_pos hzero, if_pos hzero]
    exact h.character hcapacity _
  rw [if_neg hzero, if_neg hzero]
  dsimp only
  generalize scaledValue (if value < 0 then -value else value) = scaled
  have hsign := h.sign hcapacity (value < 0) (ascii '-')
  have hlead := (hsign.integer hcapacity (scaled.1 / 100000) 1).character hcapacity (ascii '.')
  have hfraction :=
    (hlead.integer hcapacity (scaled.1 % 100000) 5).character hcapacity (ascii 'e')
  have hexponent :=
    (hfraction.character hcapacity (if scaled.2 < 0 then ascii '-' else ascii '+')).integer
      hcapacity (UInt32.ofNat scaled.2.natAbs) 2
  rw [leftpad_one_decimalText] at hexponent
  simpa only [List.append_assoc] using hexponent

omit [DoubleRounding] in
/-- The magnitude that `real` scales. -/
lemma magnitude_eq (q : ℚ) :
    (if FloatValue.finite q < 0 then -FloatValue.finite q else .finite q) = .finite |q| := by
  simp only [FloatValue.finite_lt_zero, FloatValue.neg_finite]
  split_ifs with hneg
  · rw [abs_of_neg hneg]
  · rw [abs_of_nonneg (not_lt.mp hneg)]

/-! ### The loops of `real` end -/

/-- A result lies within any bound on its error. -/
lemma exists_round {q e : ℚ} (hq : 0 ≤ q) (hmax : q ≤ 2 ^ (1023 : ℤ)) (hrel : q / 2 ^ 52 ≤ e)
    (habs : 2 ^ (-1074 : ℤ) ≤ e) :
    ∃ r, Rounding.round q = .finite r ∧ q - e ≤ r ∧ r ≤ q + e := by
  obtain ⟨r, hr, herr⟩ := DoubleRounding.round_double q ((abs_of_nonneg hq).le.trans hmax)
  rw [abs_of_nonneg hq] at herr
  obtain ⟨hlow, hhigh⟩ := abs_le.mp (herr.trans (max_le hrel habs))
  exact ⟨r, hr, by linarith only [hlow], by linarith only [hhigh]⟩

omit [DoubleRounding] in
/-- The smallest subnormal is small. -/
lemma subnormal_le {q : ℚ} (hq : 1 / 2 ^ 3 ≤ q) : (2 : ℚ) ^ (-1074 : ℤ) ≤ q :=
  calc (2 : ℚ) ^ (-1074 : ℤ) ≤ 2 ^ (-3 : ℤ) := zpow_le_zpow_right₀ (by norm_num) (by norm_num)
    _ = 1 / 2 ^ 3 := by norm_num
    _ ≤ q := hq

omit [DoubleRounding] in
/-- The overflow threshold is large. -/
lemma le_overflow {q : ℚ} (hq : q ≤ 2 ^ 32) : q ≤ 2 ^ (1023 : ℤ) :=
  calc q ≤ 2 ^ 32 := hq
    _ = (2 : ℚ) ^ (32 : ℤ) := by norm_num
    _ ≤ 2 ^ (1023 : ℤ) := zpow_le_zpow_right₀ (by norm_num) (by norm_num)

/-- A division of a number that is not below ten at least halves it, and leaves it above one
half. -/
lemma div_ten {q : ℚ} (hq : 10 ≤ q) (hmax : q < 2 ^ (1024 : ℤ)) :
    ∃ r, FloatValue.finite q / .finite 10 = .finite r ∧ r ≤ q / 2 ∧ 1 / 2 ≤ r := by
  have htop : q / 10 ≤ 2 ^ (1023 : ℤ) := by
    have hhalf : (2 : ℚ) ^ (1024 : ℤ) = 2 * 2 ^ (1023 : ℤ) := by
      rw [← zpow_one_add₀ (by norm_num)]
      norm_num only
    rw [hhalf] at hmax
    generalize (2 : ℚ) ^ (1023 : ℤ) = top at hmax ⊢
    linarith
  rw [FloatValue.finite_div_finite (by norm_num)]
  obtain ⟨r, hr, hlow, hhigh⟩ := exists_round (q := q / 10) (e := q / 20) (by linarith) htop
    (by linarith) (subnormal_le (by linarith))
  exact ⟨r, hr, by linarith, by linarith⟩

/-- A multiplication of a number below one at least doubles it, and leaves it below eleven. -/
lemma mul_ten {q : ℚ} (hq : q < 1) (hmin : 2 ^ (-1074 : ℤ) ≤ q) :
    ∃ r, FloatValue.finite q * .finite 10 = .finite r ∧ 2 * q ≤ r ∧ r < 11 := by
  have hpos : 0 < q := (zpow_pos (by norm_num : (0 : ℚ) < 2) _).trans_le hmin
  obtain ⟨r, hr, hlow, hhigh⟩ := exists_round (q := q * 10) (e := q) (by linarith)
    (le_overflow (by linarith)) (by linarith) hmin
  exact ⟨r, hr, by linarith, by linarith⟩

/-- The first loop of `real` ends below ten. -/
lemma scaleDown_ends {n : ℕ} {q : ℚ} (exponent : ℤ) (hq : 0 < q) (hmax : q < 2 ^ (1024 : ℤ))
    (hn : q < 10 * 2 ^ n) :
    ∃ r, (scaleDown n (.finite q) exponent).1 = .finite r ∧ r < 10 ∧ min q (1 / 2) ≤ r := by
  induction n generalizing q exponent with
  | zero => exact ⟨q, rfl, by simpa using hn, min_le_left _ _⟩
  | succ n ih =>
    unfold scaleDown
    split_ifs with hten
    · rw [FloatValue.finite_le_finite] at hten
      obtain ⟨r, hr, hhalf, hlow⟩ := div_ten hten hmax
      have hpow : (2 : ℚ) ^ (n + 1) = 2 * 2 ^ n := pow_succ' 2 n
      obtain ⟨s, hs, hlt, hle⟩ := ih (q := r) (exponent + 1) (by linarith)
        ((hhalf.trans (half_le_self hq.le)).trans_lt hmax) (by rw [hpow] at hn; linarith)
      rw [hr]
      refine ⟨s, hs, hlt, (min_le_right _ _).trans ?_⟩
      rwa [min_eq_right hlow] at hle
    · rw [FloatValue.finite_le_finite, not_le] at hten
      exact ⟨q, rfl, hten, min_le_left _ _⟩

/-- The second loop of `real` ends not below one. -/
lemma scaleUp_ends {n : ℕ} {q : ℚ} (exponent : ℤ) (hmin : 2 ^ (-1074 : ℤ) ≤ q) (hmax : q < 11)
    (hn : 1 ≤ q * 2 ^ n) :
    ∃ r, (scaleUp n (.finite q) exponent).1 = .finite r ∧ 1 ≤ r ∧ r < 11 := by
  induction n generalizing q exponent with
  | zero => exact ⟨q, rfl, by simpa using hn, hmax⟩
  | succ n ih =>
    unfold scaleUp
    split_ifs with hone
    · rw [FloatValue.finite_lt_finite] at hone
      obtain ⟨r, hr, hdouble, hlt⟩ := mul_ten hone hmin
      have hpos : (0 : ℚ) < 2 ^ (-1074 : ℤ) := zpow_pos (by norm_num) _
      have hgrow : q * 2 ^ (n + 1) ≤ r * 2 ^ n := by
        rw [pow_succ', ← mul_assoc, mul_comm q 2]
        exact mul_le_mul_of_nonneg_right hdouble (by positivity)
      have hstep : q ≤ r := by
        have := hpos.trans_le hmin
        linarith only [this, hdouble]
      rw [hr]
      exact ih (exponent - 1) (hmin.trans hstep) hlt (hn.trans hgrow)
    · rw [FloatValue.finite_lt_finite, not_lt] at hone
      exact ⟨q, rfl, hone, hmax⟩

/-- Both loops of `real` end, the first one below ten and the second one not below one. -/
lemma loops_end {q : ℚ} (hmin : 2 ^ (-1074 : ℤ) ≤ q) (hmax : q < 2 ^ (1024 : ℤ)) :
    ∃ d u, (scaleDown scalings (.finite q) 0).1 = .finite d ∧ d < 10 ∧
      (scaleUp scalings (.finite d) (scaleDown scalings (.finite q) 0).2).1 = .finite u ∧
      1 ≤ u ∧ u < 11 := by
  have hpos : 0 < q := (zpow_pos (by norm_num : (0 : ℚ) < 2) _).trans_le hmin
  have hfuel : (2 : ℚ) ^ (1024 : ℤ) ≤ 2 ^ scalings := by
    rw [← zpow_natCast]
    exact zpow_le_zpow_right₀ (by norm_num) (by norm_num [scalings])
  have hpow : (0 : ℚ) < 2 ^ scalings := pow_pos (by norm_num) _
  obtain ⟨d, hd, hdlt, hdle⟩ := scaleDown_ends (n := scalings) 0 hpos hmax
    ((hmax.trans_le hfuel).trans_le (le_mul_of_one_le_left hpow.le (by norm_num)))
  have hdmin : (2 : ℚ) ^ (-1074 : ℤ) ≤ d :=
    (le_min hmin (subnormal_le (by norm_num))).trans hdle
  have hgrow : (1 : ℚ) ≤ d * 2 ^ scalings :=
    calc (1 : ℚ) ≤ 2 ^ (126 : ℤ) := by norm_num
      _ = 2 ^ (-1074 : ℤ) * 2 ^ (scalings : ℤ) := by
        rw [← zpow_add₀ (by norm_num)]
        norm_num only [scalings]
      _ = 2 ^ (-1074 : ℤ) * 2 ^ scalings := by rw [zpow_natCast]
      _ ≤ d * 2 ^ scalings := mul_le_mul_of_nonneg_right hdmin hpow.le
  obtain ⟨u, hu, hone, heleven⟩ := scaleUp_ends (n := scalings)
    (scaleDown scalings (.finite q) 0).2 hdmin (by linarith) hgrow
  exact ⟨d, u, hd, hdlt, hu, hone, heleven⟩

/-- The six significant digits of a positive value: what is converted to an integer is in its
range. -/
lemma scaledValue_range {q : ℚ} (hmin : 2 ^ (-1074 : ℤ) ≤ q) (hmax : q < 2 ^ (1024 : ℤ)) :
    100000 ≤ (scaledValue (.finite q)).1.toNat ∧ (scaledValue (.finite q)).1.toNat < 1000000 := by
  obtain ⟨d, u, hd, hdlt, hu, hone, heleven⟩ := loops_end hmin hmax
  obtain ⟨m, hm, hmlow, hmhigh⟩ := exists_round (q := u * 100000) (e := 1 / 8) (by linarith)
    (le_overflow (by linarith)) (by linarith) (subnormal_le (by norm_num))
  obtain ⟨s, hs, hslow, hshigh⟩ := exists_round (q := m + 1 / 2) (e := 1 / 8) (by linarith)
    (le_overflow (by linarith)) (by linarith) (subnormal_le (by norm_num))
  have htext : (scaledValue (.finite q)).1 =
      if 1000000 ≤ UInt32.ofNat ⌊s⌋₊ then 100000 else UInt32.ofNat ⌊s⌋₊ := by
    have hproduct : FloatValue.finite u * .finite 100000 = .finite m := hm
    have hsum : FloatValue.finite m + .finite (1 / 2) = .finite s := hs
    unfold scaledValue
    dsimp only
    rw [hd, hu, hproduct, hsum, truncated]
    split_ifs <;> rfl
  have hfloor : 100000 ≤ ⌊s⌋₊ := Nat.le_floor (by norm_num; linarith)
  have htop : ⌊s⌋₊ < 2 ^ 32 := (Nat.floor_lt (by linarith)).mpr (by norm_num; linarith)
  have hnat : (UInt32.ofNat ⌊s⌋₊).toNat = ⌊s⌋₊ := UInt32.toNat_ofNat_of_lt' htop
  rw [htext]
  split_ifs with hlarge
  · exact ⟨by decide, by decide⟩
  · rw [UInt32.le_iff_toNat_le, hnat, not_le] at hlarge
    rw [hnat]
    exact ⟨hfloor, hlarge⟩

/-- The digits of every argument that `real` scales. -/
theorem Double.scaledValue_range (x : Double) {q : ℚ} (hx : x.value = .finite q) (hq : q ≠ 0) :
    100000 ≤ (scaledValue (.finite |q|)).1.toNat ∧
      (scaledValue (.finite |q|)).1.toNat < 1000000 :=
  MotionFirmware.scaledValue_range (x.range q hx hq).1 (x.range q hx hq).2

/-- The first loop of `real` counts its iterations up. -/
lemma scaleDown_exponent (n : ℕ) (value : FloatValue) (exponent : ℤ) :
    exponent ≤ (scaleDown n value exponent).2 ∧
      (scaleDown n value exponent).2 ≤ exponent + n := by
  induction n generalizing value exponent with
  | zero => simp [scaleDown]
  | succ n ih =>
    unfold scaleDown
    split_ifs
    · have hrest := ih (value / .finite 10) (exponent + 1)
      push_cast
      omega
    · push_cast
      omega

/-- The second loop of `real` counts its iterations down. -/
lemma scaleUp_exponent (n : ℕ) (value : FloatValue) (exponent : ℤ) :
    exponent - n ≤ (scaleUp n value exponent).2 ∧ (scaleUp n value exponent).2 ≤ exponent := by
  induction n generalizing value exponent with
  | zero => simp [scaleUp]
  | succ n ih =>
    unfold scaleUp
    split_ifs
    · have hrest := ih (value * .finite 10) (exponent - 1)
      push_cast
      omega
    · push_cast
      omega

/-- The exponent has at most four digits. -/
lemma scaledValue_exponent (value : FloatValue) : (scaledValue value).2.natAbs < 10000 := by
  obtain ⟨hdlow, hdhigh⟩ := scaleDown_exponent scalings value 0
  obtain ⟨hulow, huhigh⟩ := scaleUp_exponent scalings (scaleDown scalings value 0).1
    (scaleDown scalings value 0).2
  have hscalings : scalings = 1200 := rfl
  unfold scaledValue
  dsimp only
  split_ifs <;> dsimp only <;> omega

end Real

end MotionFirmware
