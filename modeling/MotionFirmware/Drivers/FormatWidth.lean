import MotionFirmware.Drivers.Formats

/-!
# The width of a call

A static check of a call of the formatter: the format is cut into ordinary characters and
directives, every directive gets an argument of its type, and the widths of the arguments add up to
a bound of the rendering.  A call that passes the check is rendered as a whole.
-/

namespace MotionFirmware

/-- A variable argument with its type. -/
inductive PrintArg where
  | text (s : CString)
  | unsignedInt (value : UInt32)
  | int (value : Int32)
  | unsignedLong (value : UInt32)
  | long (value : Int32)
  | double (x : Double)

/-- The slot of an argument; at other types it holds whatever was there. -/
def PrintArg.slot (rest : VaArg) : PrintArg → VaArg
  | .text s => { rest with text := some s }
  | .unsignedInt value => { rest with unsignedInt := value }
  | .int value => { rest with int := value }
  | .unsignedLong value => { rest with unsignedLong := value }
  | .long value => { rest with long := value }
  | .double x => { rest with double := x }

/-- The bytes that an argument brings along. -/
def PrintArg.bytes : PrintArg → List UInt8
  | .text s => s.bytes
  | _ => []

/-- The slots of the arguments, before those of the memory behind them. -/
def slots (rest : Stream' VaArg) : List PrintArg → Stream' VaArg
  | [] => rest
  | arg :: args => Stream'.cons (arg.slot rest.head) (slots rest.tail args)

/-- A call with a format and its arguments. -/
structure Print where
  format : CString
  args : List PrintArg

/-- A bound for the text of an argument, if it has the type that the directive reads. -/
def Directive.width : Directive → PrintArg → Option ℕ
  | .string, .text s => some s.bytes.length
  | .unsigned false _, .unsignedInt _ => some 10
  | .unsigned true _, .unsignedLong _ => some 10
  | .signed false _, .int _ => some 11
  | .signed true _, .long _ => some 11
  | .real _, .double _ => some 14
  | _, _ => none

/-- The sum of the widths. -/
def widths : List Directive → List PrintArg → Option ℕ
  | [], _ => some 0
  | _ :: _, [] => none
  | d :: ds, arg :: args => do
    let first ← d.width arg
    let rest ← widths ds args
    some (first + rest)

/-- The directives; none is the beginning of another one. -/
def directives : List Directive :=
  [.string, .unsigned false false, .unsigned true false, .unsigned false true, .unsigned true true,
    .signed false false, .signed true false, .signed false true, .signed true true, .real false,
    .real true]

/-- The number of ordinary characters of a format and its directives, in at most `n` items. -/
def skeletonFrom : ℕ → List UInt8 → Option (ℕ × List Directive)
  | _, [] => some (0, [])
  | 0, _ => none
  | n + 1, c :: format =>
    if c ≠ ascii '%' then (skeletonFrom n format).map fun s => (s.1 + 1, s.2)
    else
      match directives.find? fun d => d.tail.isPrefixOf format with
      | none => none
      | some d => (skeletonFrom n (format.drop d.tail.length)).map fun s => (s.1, d :: s.2)

/-- The number of ordinary characters of a format, and its directives. -/
def CString.skeleton (format : CString) : Option (ℕ × List Directive) :=
  skeletonFrom format.bytes.length format.bytes

/-- A bound for the rendering of a call, if the call passes the check. -/
def Print.width (p : Print) : Option ℕ := do
  let s ← p.format.skeleton
  let m ← widths s.2 p.args
  some (s.1 + m)

section Width

variable [DoubleRounding] {d : Directive} {arg : PrintArg} {args : List PrintArg} {m n : ℕ}
  {ds : List Directive} {format : List UInt8}

/-! ### Texts -/

omit [DoubleRounding] in
/-- The digits of a 32-bit number, padded or not. -/
lemma length_padded_le (zero : Bool) {value : ℕ} (hvalue : value < 2 ^ 32) :
    (padded zero value).length ≤ 10 := by
  have hdigits : value < 10 ^ 10 := hvalue.trans (by norm_num)
  unfold padded
  split_ifs
  · exact length_leftpad_decimalText_le (by norm_num) (by norm_num) hdigits
  · exact (length_decimalText_le_iff (by norm_num)).mpr hdigits

/-- The text of a real. -/
lemma length_realText_le (x : Double) : (realText x.value).length ≤ 14 := by
  by_cases hfinite : (!x.value.isFinite) = true
  · rw [realText, if_pos hfinite]
    decide
  by_cases hzero : x.value = 0
  · rw [realText, if_neg hfinite, if_pos hzero]
    decide
  rw [realText, if_neg hfinite, if_neg hzero]
  dsimp only
  obtain ⟨q, hx⟩ := FloatValue.isFinite_iff.mp (by simpa using hfinite)
  have hq : q ≠ 0 := by
    rintro rfl
    exact hzero hx
  obtain ⟨-, hdigits⟩ := Double.scaledValue_range x hx hq
  have hexponent := scaledValue_exponent (.finite |q|)
  rw [hx, magnitude_eq]
  generalize scaledValue (.finite |q|) = scaled at hdigits hexponent
  have hten : (100000 : UInt32).toNat = 100000 := rfl
  have hlead : (decimalText (scaled.1 / 100000).toNat).length ≤ 1 := by
    rw [length_decimalText_le_iff (by norm_num), UInt32.toNat_div, hten]
    omega
  have hfraction : ((decimalText (scaled.1 % 100000).toNat).leftpad 5 (ascii '0')).length ≤ 5 := by
    refine length_leftpad_decimalText_le (by norm_num) le_rfl ?_
    rw [UInt32.toNat_mod, hten]
    omega
  have hpower : ((decimalText (UInt32.ofNat scaled.2.natAbs).toNat).leftpad 2 (ascii '0')).length ≤
      4 := by
    refine length_leftpad_decimalText_le (by norm_num) (by norm_num) ?_
    rw [UInt32.toNat_ofNat_of_lt' (hexponent.trans (by decide))]
    omega
  have hsign : (if FloatValue.finite q < 0 then [ascii '-'] else []).length ≤ 1 := by
    split_ifs <;> simp
  simp only [List.length_append, List.length_singleton]
  omega

/-- The text of an argument of the right type is within its width. -/
lemma exists_text (h : d.width arg = some m) (rest : VaArg) :
    ∃ text, d.text (arg.slot rest) = some text ∧ text.length ≤ m := by
  cases d with
  | string =>
    cases arg with
    | text s => exact ⟨s.bytes, rfl, (Option.some.inj h).le⟩
    | _ => exact absurd h (by simp [Directive.width])
  | unsigned long zero =>
    have hwidth : m = 10 := by
      cases long <;> cases arg <;> simp_all [Directive.width]
    refine ⟨_, rfl, ?_⟩
    rw [hwidth]
    exact length_padded_le zero (UInt32.toNat_lt _)
  | signed long zero =>
    have hwidth : m = 11 := by
      cases long <;> cases arg <;> simp_all [Directive.width]
    refine ⟨_, rfl, ?_⟩
    rw [hwidth, List.length_append]
    generalize (if long then (arg.slot rest).long else (arg.slot rest).int) = value
    have hlow := value.le_toInt
    have hhigh := value.toInt_lt
    have hmagnitude : value.toInt.natAbs < 2 ^ 32 := by omega
    have hdigits := length_padded_le zero hmagnitude
    have hsign : (if value.toInt < 0 then [ascii '-'] else []).length ≤ 1 := by
      split_ifs <;> simp
    omega
  | real zero =>
    have hwidth : m = 14 := by
      cases arg <;> simp_all [Directive.width]
    refine ⟨_, rfl, ?_⟩
    rw [hwidth]
    exact length_realText_le _

/-- The text of an argument of the right type has other bytes than those of numbers from the
argument only. -/
lemma notMem_slot (h : d.width arg = some m) {c : UInt8} (hc : Foreign c) (harg : c ∉ arg.bytes)
    {rest : VaArg} {text : List UInt8} (htext : d.text (arg.slot rest) = some text) : c ∉ text := by
  refine hc.notMem_text htext ?_
  rintro rfl s hs
  cases arg with
  | text s' =>
    obtain rfl := Option.some.inj hs
    exact harg
  | _ => exact absurd h (by simp [Directive.width])

omit [DoubleRounding] in
/-- No directive contains such a byte, but for a percent sign or a letter. -/
lemma Directive.notMem_spell (d : Directive) {c : UInt8} (hc : c ∉ literal "%sudl06.g") :
    c ∉ d.spell := by
  have hspell : ∀ b ∈ d.spell, b ∈ literal "%sudl06.g" := by
    revert d
    decide +kernel
  exact fun hmem => hc (hspell c hmem)

/-! ### Renderings -/

/-- **Check.**  A format with arguments of the right types is rendered as a whole, within the sum of
the widths, and no other bytes come in than those of numbers and of the arguments.  By induction on
the items of the format. -/
lemma renders_of_skeleton {k : ℕ} (hs : skeletonFrom k format = some (n, ds))
    (hw : widths ds args = some m) (rest : Stream' VaArg) :
    ∃ text, Renders format (slots rest args) text true ∧ text.length ≤ n + m ∧
      ∀ c, Foreign c → c ∉ literal "%sudl06.g" → (∀ arg ∈ args, c ∉ arg.bytes) →
        text.count c = format.count c := by
  induction k generalizing format n ds args m rest with
  | zero =>
    cases format with
    | nil =>
      obtain ⟨rfl, rfl⟩ := Prod.mk.inj (Option.some.inj hs)
      exact ⟨[], .done _, Nat.zero_le _, fun _ _ _ _ => rfl⟩
    | cons c format => exact absurd hs nofun
  | succ k ih =>
    cases format with
    | nil =>
      obtain ⟨rfl, rfl⟩ := Prod.mk.inj (Option.some.inj hs)
      exact ⟨[], .done _, Nat.zero_le _, fun _ _ _ _ => rfl⟩
    | cons c format =>
      rw [skeletonFrom] at hs
      split_ifs at hs with hc
      · obtain ⟨⟨n', ds'⟩, hrest, heq⟩ := Option.map_eq_some_iff.mp hs
        obtain ⟨rfl, rfl⟩ := Prod.mk.inj heq
        obtain ⟨text, htext, hle, hcount⟩ := ih hrest hw rest
        refine ⟨c :: text, .ordinary hc htext, ?_, fun b hforeign hb hargs => ?_⟩
        · rw [List.length_cons]
          omega
        · rw [List.count_cons, List.count_cons, hcount b hforeign hb hargs]
      · obtain rfl := not_not.mp hc
        cases hfind : directives.find? fun d => d.tail.isPrefixOf format with
        | none => simp [hfind] at hs
        | some d =>
          simp only [hfind] at hs
          obtain ⟨⟨n', ds'⟩, hrest, heq⟩ := Option.map_eq_some_iff.mp hs
          obtain ⟨rfl, rfl⟩ := Prod.mk.inj heq
          have hbegins : d.tail.isPrefixOf format = true := by
            simpa using List.find?_some hfind
          obtain ⟨tail, rfl⟩ := List.isPrefixOf_iff_prefix.mp hbegins
          rw [List.drop_left] at hrest
          cases args with
          | nil => exact absurd hw nofun
          | cons arg args =>
            simp only [widths, Option.bind_eq_bind, Option.bind_eq_some_iff,
              Option.some.injEq] at hw
            obtain ⟨first, hfirst, others, hothers, rfl⟩ := hw
            obtain ⟨head, hhead, hheadle⟩ := exists_text hfirst rest.head
            obtain ⟨text, htext, hle, hcount⟩ := ih hrest hothers rest.tail
            refine ⟨head ++ text, .directive d hhead htext, ?_, fun b hforeign hb hargs => ?_⟩
            · rw [List.length_append]
              omega
            · obtain ⟨harg, hargs⟩ := List.forall_mem_cons.mp hargs
              have hnone : head.count b = 0 :=
                List.count_eq_zero.mpr (notMem_slot hfirst hforeign harg hhead)
              have hspell : d.spell.count b = 0 := List.count_eq_zero.mpr (d.notMem_spell hb)
              change _ = (d.spell ++ tail).count b
              rw [List.count_append, List.count_append, hnone, hspell, hcount b hforeign hb hargs]

/-- A call that passes the check is rendered as a whole, within its width, and with other bytes than
those of numbers from its format and its arguments only. -/
theorem Print.renders {p : Print} (h : p.width = some n) (rest : Stream' VaArg) :
    ∃ text, Renders p.format.bytes (slots rest p.args) text true ∧ text.length ≤ n ∧
      ∀ c, Foreign c → c ∉ literal "%sudl06.g" → (∀ arg ∈ p.args, c ∉ arg.bytes) →
        text.count c = p.format.bytes.count c := by
  simp only [Print.width, Option.bind_eq_bind, Option.bind_eq_some_iff, Option.some.injEq] at h
  obtain ⟨s, hs, m, hm, rfl⟩ := h
  exact renders_of_skeleton hs hm rest

end Width

end MotionFirmware
