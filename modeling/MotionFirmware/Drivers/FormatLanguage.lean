import Mathlib.Data.Fintype.Sigma
import Mathlib.Data.Fintype.Sum
import Mathlib.Tactic.DeriveFintype
import MotionFirmware.Drivers.FormatText

/-!
# The language of formats

A format denotes a rendering: ordinary characters stand for themselves and a directive for the text
of its argument, up to the first position where a `NULL` string is to be written or where no
directive begins.  `tiny_vformat` writes as much of the rendering as fits, and succeeds exactly when
the whole format has been rendered and its text fits together with the terminator.

The code has eleven directives.  Eight of them are documented; `%06d`, `%06ld` and `%06.6g` are
accepted as well, because the width is read before the code knows the conversion.
-/

namespace MotionFirmware

/-- The directives of the code; `zero` stands for `06` and `long` for `l`. -/
inductive Directive where
  | string
  | unsigned (long zero : Bool)
  | signed (long zero : Bool)
  | real (zero : Bool)
  deriving DecidableEq, Fintype

/-- An optional part of a directive. -/
def optional (present : Bool) (text : List UInt8) : List UInt8 := if present then text else []

namespace Directive

/-- The characters of a directive after the `%`. -/
def tail : Directive → List UInt8
  | .string => literal "s"
  | .unsigned long zero =>
    optional zero (literal "06") ++ optional long (literal "l") ++ literal "u"
  | .signed long zero => optional zero (literal "06") ++ optional long (literal "l") ++ literal "d"
  | .real zero => optional zero (literal "06") ++ literal ".6g"

/-- The characters of a directive. -/
def spell (d : Directive) : List UInt8 := ascii '%' :: d.tail

/-- The directives of the header: `%s`, `%u`, `%d`, `%lu`, `%ld`, `%06u`, `%06lu` and `%.6g`. -/
def documented : Directive → Bool
  | .string => true
  | .unsigned _ _ => true
  | .signed _ zero => !zero
  | .real zero => !zero

end Directive

/-- A decimal number, padded to six digits if the directive says so. -/
def padded (zero : Bool) (value : ℕ) : List UInt8 :=
  if zero then (decimalText value).leftpad 6 (ascii '0') else decimalText value

section Rendering

variable [DoubleRounding]

/-- The text of a directive for its argument; a `NULL` string has none. -/
def Directive.text (d : Directive) (arg : VaArg) : Option (List UInt8) :=
  match d with
  | .string => arg.text.map CString.bytes
  | .unsigned long zero =>
    some (padded zero (if long then arg.unsignedLong else arg.unsignedInt).toNat)
  | .signed long zero =>
    let value := (if long then arg.long else arg.int).toInt
    some ((if value < 0 then [ascii '-'] else []) ++ padded zero value.natAbs)
  | .real _ => some (realText arg.double.value)

/-- The rendering of a format up to the point where it fails, if it does. -/
inductive Renders : List UInt8 → Stream' VaArg → List UInt8 → Bool → Prop
  | done (args : Stream' VaArg) : Renders [] args [] true
  | ordinary {c : UInt8} {format : List UInt8} {args : Stream' VaArg} {text : List UInt8}
      {ok : Bool} (hc : c ≠ ascii '%') (h : Renders format args text ok) :
      Renders (c :: format) args (c :: text) ok
  | directive (d : Directive) {format : List UInt8} {args : Stream' VaArg}
      {first text : List UInt8} {ok : Bool} (hfirst : d.text args.head = some first)
      (h : Renders format args.tail text ok) : Renders (d.spell ++ format) args (first ++ text) ok
  /-- A `NULL` string. -/
  | null (d : Directive) {format : List UInt8} {args : Stream' VaArg}
      (hnull : d.text args.head = none) : Renders (d.spell ++ format) args [] false
  /-- No directive begins here. -/
  | unsupported {format : List UInt8} {args : Stream' VaArg}
      (h : ∀ d : Directive, ¬ d.tail <+: format) : Renders (ascii '%' :: format) args [] false

end Rendering

variable {format rest : List UInt8} {args : Stream' VaArg} {w : Writer} {out : ℕ → UInt8}
  {capacity : ℕ} {given : List UInt8}

/-! ### Reading a directive -/

/-- No directive is the beginning of another one. -/
lemma directive_of_beginning {d e : Directive} (h : d.tail <+: e.tail) : d = e := by
  revert d e
  decide

/-- A format begins with at most one directive. -/
lemma directive_unique {d e : Directive} (hd : d.tail <+: format) (he : e.tail <+: format) :
    d = e := by
  rcases List.prefix_or_prefix_of_prefix hd he with h | h
  · exact directive_of_beginning h
  · exact (directive_of_beginning h).symm

/-- The width was read from an optional `06`. -/
lemma of_zeroWidth {width : ℕ} (h : zeroWidth format = some (width, rest)) :
    ∃ zero : Bool,
      format = optional zero (literal "06") ++ rest ∧ width = if zero then 6 else 0 := by
  unfold zeroWidth at h
  split_ifs at h with hzero hsix
  · obtain ⟨rfl, rfl⟩ := Prod.mk.inj (Option.some.inj h)
    obtain ⟨tail, rfl⟩ := List.head?_eq_some_iff.mp hzero
    obtain ⟨tail, rfl⟩ := List.head?_eq_some_iff.mp hsix
    exact ⟨true, rfl, rfl⟩
  · obtain ⟨rfl, rfl⟩ := Prod.mk.inj (Option.some.inj h)
    exact ⟨false, rfl, rfl⟩

lemma padded_eq_leftpad (zero : Bool) (value : ℕ) :
    padded zero value = (decimalText value).leftpad (if zero then 6 else 0) (ascii '0') := by
  cases zero with
  | false => simp [padded, List.leftpad]
  | true => rfl

/-- The sign of a number. -/
lemma int32_neg_iff (value : Int32) : value.toInt < 0 ↔ value < 0 := by
  rw [Int32.lt_iff_toInt_lt]
  rfl

/-- The magnitude that `%d` passes on, also of the smallest number. -/
lemma toNat_magnitude (value : Int32) :
    (if value < 0 then 0 - value.toUInt32 else value.toUInt32).toNat = value.toInt.natAbs := by
  have hint : value.toInt = if 2 * value.toUInt32.toNat < 2 ^ 32 then (value.toUInt32.toNat : ℤ)
      else value.toUInt32.toNat - 2 ^ 32 := BitVec.toInt_eq_toNat_cond value.toBitVec
  have htop := value.toUInt32.toNat_lt
  have hzero : (0 : UInt32).toNat = 0 := rfl
  split_ifs with h
  · rw [← int32_neg_iff, hint] at h
    rw [UInt32.toNat_sub, hzero, hint]
    split_ifs at h ⊢ <;> omega
  · rw [← int32_neg_iff, hint] at h
    rw [hint]
    split_ifs at h ⊢ <;> omega

section Conversion

variable [DoubleRounding]

/-- `%s`. -/
lemma directive_string :
    directive w (Directive.string.tail ++ format) args =
      (w.string args.head.text, format, args.tail) := rfl

/-- `%u`. -/
lemma directive_unsigned (long zero : Bool) :
    directive w ((Directive.unsigned long zero).tail ++ format) args =
      (w.integer (if long then args.head.unsignedLong else args.head.unsignedInt)
        (if zero then 6 else 0), format, args.tail) := by
  cases long <;> cases zero <;> rfl

/-- `%d`. -/
lemma directive_signed (long zero : Bool) :
    directive w ((Directive.signed long zero).tail ++ format) args =
      (let value := if long then args.head.long else args.head.int
       (if value < 0 then w.character (ascii '-') else w).integer
        (if value < 0 then 0 - value.toUInt32 else value.toUInt32) (if zero then 6 else 0),
        format, args.tail) := by
  cases long <;> cases zero <;> rfl

/-- `%.6g`. -/
lemma directive_real (zero : Bool) :
    directive w ((Directive.real zero).tail ++ format) args =
      (w.real args.head.double.value, format, args.tail) := by
  cases zero <;> rfl

/-- A directive takes its characters and one argument, and appends the text of the argument. -/
lemma holds_directive (hw : w.Holds out capacity given true) (hcapacity : 0 < capacity)
    (d : Directive) (format : List UInt8) {first : List UInt8}
    (hfirst : d.text args.head = some first) :
    (directive w (d.tail ++ format) args).2 = (format, args.tail) ∧
      (directive w (d.tail ++ format) args).1.Holds out capacity (given ++ first) true := by
  cases d with
  | string =>
    obtain ⟨s, hs, rfl⟩ := Option.map_eq_some_iff.mp hfirst
    rw [directive_string, hs]
    exact ⟨rfl, hw.stringLoop hcapacity⟩
  | unsigned long zero =>
    obtain rfl := Option.some.inj hfirst
    rw [directive_unsigned, padded_eq_leftpad]
    exact ⟨rfl, hw.integer hcapacity _ _⟩
  | signed long zero =>
    obtain rfl := Option.some.inj hfirst
    rw [directive_signed, padded_eq_leftpad, ← toNat_magnitude, ← List.append_assoc]
    refine ⟨rfl, Writer.Holds.integer ?_ hcapacity _ _⟩
    simp only [int32_neg_iff]
    exact hw.sign hcapacity _ _
  | real zero =>
    obtain rfl := Option.some.inj hfirst
    rw [directive_real]
    exact ⟨rfl, hw.real hcapacity _⟩

/-- A `NULL` string fails. -/
lemma directive_null (d : Directive) (hnull : d.text args.head = none) :
    (directive w (d.tail ++ format) args).1 = w.fail := by
  cases d with
  | string =>
    rw [directive_string, Option.map_eq_none_iff.mp hnull]
    rfl
  | _ => exact absurd hnull nofun

omit [DoubleRounding] in
/-- The optional `l`. -/
lemma of_long (rest : List UInt8) :
    ∃ (long : Bool) (tail : List UInt8), rest = optional long (literal "l") ++ tail ∧
      decide (rest.head? = some (ascii 'l')) = long ∧
      (if decide (rest.head? = some (ascii 'l')) then rest.tail else rest) = tail := by
  by_cases hlong : rest.head? = some (ascii 'l')
  · obtain ⟨tail, rfl⟩ := List.head?_eq_some_iff.mp hlong
    exact ⟨true, tail, rfl, rfl, rfl⟩
  · exact ⟨false, rest, rfl, by simp [hlong], by simp [hlong]⟩

omit [DoubleRounding] in
/-- A conversion that does not complete a directive fails. -/
lemma conversion_unsupported (long zero : Bool)
    (h : ∀ d : Directive, ¬ d.tail <+: optional zero (literal "06") ++
      (optional long (literal "l") ++ rest)) :
    (conversion w long (if zero then 6 else 0) rest.head? args).1 = w.fail := by
  unfold conversion
  by_cases hs : rest.head? = some (ascii 's')
  · obtain ⟨tail, rfl⟩ := List.head?_eq_some_iff.mp hs
    rw [if_pos hs]
    cases long with
    | true => rfl
    | false =>
      cases zero with
      | true => rfl
      | false => exact absurd ⟨tail, rfl⟩ (h .string)
  rw [if_neg hs]
  by_cases hu : rest.head? = some (ascii 'u')
  · obtain ⟨tail, rfl⟩ := List.head?_eq_some_iff.mp hu
    exact absurd ⟨tail, by simp [Directive.tail, literal]⟩ (h (.unsigned long zero))
  rw [if_neg hu]
  by_cases hd : rest.head? = some (ascii 'd')
  · obtain ⟨tail, rfl⟩ := List.head?_eq_some_iff.mp hd
    exact absurd ⟨tail, by simp [Directive.tail, literal]⟩ (h (.signed long zero))
  rw [if_neg hd]

/-- What begins with no directive fails. -/
lemma directive_unsupported (h : ∀ d : Directive, ¬ d.tail <+: format) :
    (directive w format args).1 = w.fail := by
  unfold directive
  split
  next => rfl
  next width rest hwidth =>
    obtain ⟨zero, rfl, rfl⟩ := of_zeroWidth hwidth
    by_cases hreal : (literal ".6g").isPrefixOf rest = true
    · exact absurd ((List.prefix_append_right_inj _).mpr (List.isPrefixOf_iff_prefix.mp hreal))
        (h (.real zero))
    · obtain ⟨long, tail, hrest, hlong, htail⟩ := of_long rest
      rw [if_neg hreal]
      dsimp only
      rw [htail, hlong]
      exact conversion_unsupported long zero (hrest ▸ h)

/-! ### The loop -/

/-- A failed writer is not written to. -/
lemma formatLoop_failed (n : ℕ) (hw : w.failed = true) : formatLoop n w format args = w := by
  cases n with
  | zero => rfl
  | succ n =>
    cases format with
    | nil => rfl
    | cons c format => rw [formatLoop, if_pos hw]

/-- A writer that has failed for its capacity holds whatever the format renders to. -/
lemma holds_of_failed (n : ℕ) (hw : w.Holds out capacity given true) (hfailed : w.failed = true)
    (text : List UInt8) (ok : Bool) :
    (formatLoop n w format args).Holds out capacity (given ++ text) ok := by
  rw [formatLoop_failed n hfailed]
  rw [hw.failed] at hfailed
  exact hw.append_of_full (by simpa using hfailed) text ok

/-- A failed directive ends the loop. -/
lemma holds_of_fail (n : ℕ) (hw : w.Holds out capacity given true) (hfailed : w.failed ≠ true)
    (hfail : (directive w format args).1 = w.fail) :
    (formatLoop (n + 1) w (ascii '%' :: format) args).Holds out capacity (given ++ []) false := by
  rw [formatLoop, if_neg hfailed, if_neg (by simp)]
  dsimp only
  rw [formatLoop_failed n (by rw [hfail]; rfl), hfail, List.append_nil]
  exact hw.fail

/-- **The loop writes the rendering.**  By induction on the rendering; every iteration takes at
least one character of the format. -/
lemma holds_formatLoop (hcapacity : 0 < capacity) {text : List UInt8} {ok : Bool}
    (h : Renders format args text ok) {n : ℕ} (hn : format.length ≤ n)
    (hw : w.Holds out capacity given true) :
    (formatLoop n w format args).Holds out capacity (given ++ text) ok := by
  induction h generalizing n w given with
  | done args =>
    rw [List.append_nil]
    cases n <;> exact hw
  | @ordinary c format args text ok hc h ih =>
    obtain ⟨n, rfl⟩ := Nat.exists_eq_succ_of_ne_zero (Nat.ne_of_gt (Nat.zero_lt_of_lt hn))
    by_cases hfailed : w.failed = true
    · exact holds_of_failed _ hw hfailed _ _
    rw [formatLoop, if_neg hfailed, if_pos hc, ← List.singleton_append, ← List.append_assoc]
    exact ih (Nat.le_of_succ_le_succ hn) (hw.character hcapacity c)
  | @directive d format args first text ok hfirst h ih =>
    obtain ⟨n, rfl⟩ := Nat.exists_eq_succ_of_ne_zero (Nat.ne_of_gt (Nat.zero_lt_of_lt hn))
    by_cases hfailed : w.failed = true
    · exact holds_of_failed _ hw hfailed _ _
    obtain ⟨hrest, hdone⟩ := holds_directive hw hcapacity d format hfirst
    rw [Directive.spell, List.cons_append, formatLoop, if_neg hfailed, if_neg (by simp)]
    dsimp only
    rw [hrest, ← List.append_assoc]
    refine ih ?_ hdone
    have hlength : (d.tail ++ format).length ≤ n := Nat.le_of_succ_le_succ hn
    rw [List.length_append] at hlength
    exact le_of_add_le_right hlength
  | @null d format args hnull =>
    obtain ⟨n, rfl⟩ := Nat.exists_eq_succ_of_ne_zero (Nat.ne_of_gt (Nat.zero_lt_of_lt hn))
    by_cases hfailed : w.failed = true
    · exact holds_of_failed _ hw hfailed _ _
    exact holds_of_fail n hw hfailed (directive_null d hnull)
  | @unsupported format args hnone =>
    obtain ⟨n, rfl⟩ := Nat.exists_eq_succ_of_ne_zero (Nat.ne_of_gt (Nat.zero_lt_of_lt hn))
    by_cases hfailed : w.failed = true
    · exact holds_of_failed _ hw hfailed _ _
    exact holds_of_fail n hw hfailed (directive_unsupported hnone)

/-- What `tiny_vformat` returns and leaves in the buffer, in terms of the rendering. -/
theorem tinyVformat_eq (format : CString) {text : List UInt8} {ok : Bool} (out : ℕ → UInt8)
    (hcapacity : 0 < capacity) (h : Renders format.bytes args text ok) :
    tinyVformat (some out) capacity (some format) args =
      (if ok = true ∧ text.length < capacity then Int32.ofNat text.length else -1,
        some (overlay out (text.take (capacity - 1) ++ [0]))) := by
  have hstart : Writer.Holds ⟨out, 0, capacity, false⟩ out capacity [] true :=
    ⟨rfl, by simp, by funext i; simp [overlay], by simp [hcapacity.ne']⟩
  have hdone := holds_formatLoop hcapacity h le_rfl hstart
  rw [List.nil_append] at hdone
  simp only [tinyVformat, hcapacity.ne', if_false]
  refine Prod.ext ?_ ?_
  · dsimp only
    rw [hdone.failed, hdone.used]
    by_cases hsuccess : ok = true ∧ text.length < capacity
    · obtain ⟨rfl, hlt⟩ := hsuccess
      have hall : text.take (capacity - 1) = text := List.take_of_length_le (by omega)
      simp [hlt, hall]
    · have hfailed : (!ok || decide (capacity ≤ text.length)) = true := by
        cases ok <;> simp_all
      rw [if_pos hfailed, if_neg hsuccess]
  · dsimp only
    rw [hdone.used, hdone.data, update_overlay]

/-- Every format renders. -/
lemma exists_renders (format : List UInt8) (args : Stream' VaArg) :
    ∃ text ok, Renders format args text ok := by
  obtain ⟨n, hn⟩ : ∃ n, format.length ≤ n := ⟨_, le_rfl⟩
  induction n generalizing format args with
  | zero =>
    obtain rfl := List.eq_nil_of_length_eq_zero (Nat.le_zero.mp hn)
    exact ⟨[], true, .done args⟩
  | succ n ih =>
    cases format with
    | nil => exact ⟨[], true, .done args⟩
    | cons c format =>
      have hlength : format.length ≤ n := Nat.le_of_succ_le_succ hn
      by_cases hc : c = ascii '%'
      · subst hc
        by_cases hsome : ∃ d : Directive, d.tail <+: format
        · obtain ⟨d, rest, rfl⟩ := hsome
          rw [List.length_append] at hlength
          obtain ⟨text, ok, h⟩ := ih rest args.tail (le_of_add_le_right hlength)
          cases hfirst : d.text args.head with
          | none => exact ⟨[], false, .null d hfirst⟩
          | some first => exact ⟨first ++ text, ok, .directive d hfirst h⟩
        · exact ⟨[], false, .unsupported fun d hd => hsome ⟨d, hd⟩⟩
      · obtain ⟨text, ok, h⟩ := ih format args hlength
        exact ⟨c :: text, ok, .ordinary hc h⟩

end Conversion

end MotionFirmware
