import MotionFirmware.Drivers.FormatLanguage

/-!
# Formats by their items

A format that is accepted is a sequence of ordinary characters and directives, and of one sequence
only.  For such a format the rendering is the concatenation of the texts of its items.
-/

namespace MotionFirmware

/-- An ordinary character of a format. -/
abbrev Ordinary : Type := {c : UInt8 // c ≠ ascii '%' ∧ c ≠ 0}

/-- An item of a format. -/
inductive FormatItem where
  | ordinary (c : Ordinary)
  | directive (d : Directive)
  deriving DecidableEq

namespace FormatItem

/-- The characters of an item. -/
def spell : FormatItem → List UInt8
  | .ordinary c => [c.val]
  | .directive d => d.spell

/-- The item is an ordinary character or a documented directive. -/
def documented : FormatItem → Bool
  | .ordinary _ => true
  | .directive d => d.documented

/-- The characters of a sequence of items. -/
def spellAll (items : List FormatItem) : List UInt8 := items.flatMap spell

/-- No item contains the terminator. -/
lemma zero_notMem_spell (item : FormatItem) : 0 ∉ item.spell := by
  cases item with
  | ordinary c => exact fun h => c.property.2 (List.mem_singleton.mp h).symm
  | directive d =>
    revert d
    decide

/-- The format with the given items. -/
def toFormat (items : List FormatItem) : CString where
  bytes := spellAll items
  noNul := by
    intro h
    obtain ⟨item, -, hitem⟩ := List.mem_flatMap.mp h
    exact zero_notMem_spell item hitem

/-- What follows two items of the same beginning is the same, and so are the items. -/
lemma spell_append_inj {item other : FormatItem} {rest rest' : List UInt8}
    (h : item.spell ++ rest = other.spell ++ rest') : item = other ∧ rest = rest' := by
  cases item with
  | ordinary c =>
    cases other with
    | ordinary c' =>
      obtain ⟨hc, rfl⟩ := List.cons.inj h
      exact ⟨congrArg _ (Subtype.ext hc), rfl⟩
    | directive d => exact absurd (List.cons.inj h).1 c.property.1
  | directive d =>
    cases other with
    | ordinary c => exact absurd (List.cons.inj h).1.symm c.property.1
    | directive d' =>
      have htail : d.tail ++ rest = d'.tail ++ rest' := (List.cons.inj h).2
      obtain rfl := directive_unique ⟨rest, rfl⟩ ⟨rest', htail.symm⟩
      exact ⟨rfl, List.append_cancel_left htail⟩

/-- A format has one sequence of items. -/
lemma spellAll_injective {items others : List FormatItem} (h : spellAll items = spellAll others) :
    items = others := by
  have hne (item : FormatItem) (rest : List UInt8) : item.spell ++ rest ≠ [] := by
    cases item <;> exact nofun
  induction items generalizing others with
  | nil =>
    cases others with
    | nil => rfl
    | cons other others => exact absurd h.symm (hne other _)
  | cons item items ih =>
    cases others with
    | nil => exact absurd h (hne item _)
    | cons other others =>
      obtain ⟨rfl, hrest⟩ := spell_append_inj h
      rw [ih hrest]

variable [DoubleRounding]

/-- The concatenation of the texts of the items, unless a `NULL` string is among the arguments. -/
def render : List FormatItem → Stream' VaArg → Option (List UInt8)
  | [], _ => some []
  | .ordinary c :: items, args => (render items args).map (c.val :: ·)
  | .directive d :: items, args =>
    match d.text args.head with
    | none => none
    | some first => (render items args.tail).map (first ++ ·)

variable {items : List FormatItem} {args : Stream' VaArg} {text : List UInt8}

/-- The rendering of the format with the given items. -/
lemma renders_spellAll (h : render items args = some text) :
    Renders (spellAll items) args text true := by
  induction items generalizing args text with
  | nil =>
    obtain rfl := Option.some.inj h
    exact .done args
  | cons item items ih =>
    cases item with
    | ordinary c =>
      obtain ⟨rest, hrest, rfl⟩ := Option.map_eq_some_iff.mp h
      exact .ordinary c.property.1 (ih hrest)
    | directive d =>
      cases hfirst : d.text args.head with
      | none => simp [render, hfirst] at h
      | some first =>
        simp only [render, hfirst] at h
        obtain ⟨rest, hrest, rfl⟩ := Option.map_eq_some_iff.mp h
        exact .directive d hfirst (ih hrest)

/-- A format that is rendered as a whole is the format of some items. -/
lemma exists_items {format : List UInt8} (h : Renders format args text true)
    (hformat : 0 ∉ format) :
    ∃ items, format = spellAll items ∧ render items args = some text := by
  generalize hok : true = ok at h
  induction h with
  | done args => exact ⟨[], rfl, rfl⟩
  | @ordinary c format args text ok hc h ih =>
    have hzero : c ≠ 0 := by
      rintro rfl
      exact hformat List.mem_cons_self
    obtain ⟨items, rfl, hitems⟩ := ih (fun hmem => hformat (List.mem_cons_of_mem _ hmem)) hok
    exact ⟨.ordinary ⟨c, hc, hzero⟩ :: items, rfl, by simp [render, hitems]⟩
  | @directive d format args first text ok hfirst h ih =>
    obtain ⟨items, rfl, hitems⟩ := ih (fun hmem => hformat (List.mem_append_right _ hmem)) hok
    exact ⟨.directive d :: items, rfl, by simp [render, hfirst, hitems]⟩
  | null d hnull => exact absurd hok nofun
  | unsupported hnone => exact absurd hok nofun

end FormatItem

open FormatItem

/-! ### The buffer -/

/-- The memory starts with the text and its terminator. -/
structure Stored (data : ℕ → UInt8) (text : List UInt8) : Prop where
  byte : ∀ i (h : i < text.length), data i = text[i]
  terminator : data text.length = 0

variable {out : ℕ → UInt8} {capacity : ℕ} {text : List UInt8}

lemma stored_overlay (out : ℕ → UInt8) (text : List UInt8) :
    Stored (overlay out (text ++ [0])) text where
  byte i h := by
    rw [overlay, List.getElem?_append_left h, List.getElem?_eq_getElem h, Option.getD_some]
  terminator := by simp [overlay]

/-- Memory beyond the text is not changed. -/
lemma overlay_of_le {i : ℕ} (h : text.length ≤ i) : overlay out text i = out i := by
  rw [overlay, List.getElem?_eq_none h, Option.getD_none]

/-! ### Renderings contain no other bytes -/

/-- The byte occurs in no text of a number. -/
def Foreign (c : UInt8) : Prop :=
  digit c = false ∧ c ∉ literal "invalid" ∧ c ∉ literal "-+.e"

instance (c : UInt8) : Decidable (Foreign c) := inferInstanceAs (Decidable (_ ∧ _ ∧ _))

/-- The terminator occurs in no text of a number. -/
lemma foreign_zero : Foreign 0 := by decide

namespace Foreign

variable {c : UInt8}

lemma notMem_decimalText (hc : Foreign c) (value : ℕ) : c ∉ decimalText value := by
  intro h
  exact absurd (digit_of_mem_decimalText h) (by simp [hc.1])

lemma notMem_leftpad (hc : Foreign c) (width value : ℕ) :
    c ∉ (decimalText value).leftpad width (ascii '0') := by
  intro h
  exact absurd (digit_of_mem_leftpad h) (by simp [hc.1])

/-- A sign, a point or the letter of an exponent. -/
lemma notMem_mark (hc : Foreign c) {mark : UInt8} (hmark : mark ∈ literal "-+.e") : c ∉ [mark] := by
  rw [List.mem_singleton]
  rintro rfl
  exact hc.2.2 hmark

lemma notMem_sign (hc : Foreign c) (p : Prop) [Decidable p] :
    c ∉ if p then [ascii '-'] else [] := by
  split_ifs
  · exact hc.notMem_mark (by decide)
  · exact List.not_mem_nil

lemma notMem_realText [DoubleRounding] (hc : Foreign c) (value : FloatValue) :
    c ∉ realText value := by
  unfold realText
  split
  · exact hc.2.1
  · split
    · intro hzero
      obtain rfl := List.mem_singleton.mp hzero
      exact absurd hc.1 (by decide)
    · generalize scaledValue (if value < 0 then -value else value) = scaled
      have hsign : c ∉ [if scaled.2 < 0 then ascii '-' else ascii '+'] :=
        hc.notMem_mark (by split_ifs <;> decide)
      dsimp only
      simp only [List.mem_append, not_or]
      exact ⟨⟨⟨⟨⟨⟨hc.notMem_sign _, hc.notMem_decimalText _⟩, hc.notMem_mark (by decide)⟩,
        hc.notMem_leftpad _ _⟩, hc.notMem_mark (by decide)⟩, hsign⟩, hc.notMem_leftpad _ _⟩

/-- A text has such a byte from a string only. -/
lemma notMem_text [DoubleRounding] (hc : Foreign c) {d : Directive} {arg : VaArg}
    {first : List UInt8} (h : d.text arg = some first)
    (hstring : d = .string → ∀ s, arg.text = some s → c ∉ s.bytes) : c ∉ first := by
  cases d with
  | string =>
    obtain ⟨s, hs, rfl⟩ := Option.map_eq_some_iff.mp h
    exact hstring rfl s hs
  | unsigned long zero =>
    obtain rfl := Option.some.inj h
    rw [padded_eq_leftpad]
    exact hc.notMem_leftpad _ _
  | signed long zero =>
    obtain rfl := Option.some.inj h
    rw [padded_eq_leftpad]
    intro hmem
    rcases List.mem_append.mp hmem with hsign | hdigit
    · exact hc.notMem_sign _ hsign
    · exact hc.notMem_leftpad _ _ hdigit
  | real zero =>
    obtain rfl := Option.some.inj h
    exact hc.notMem_realText _

end Foreign

/-- The rendering of a string is a string. -/
lemma Renders.zero_notMem [DoubleRounding] {format : List UInt8} {args : Stream' VaArg} {ok : Bool}
    (h : Renders format args text ok) (hformat : 0 ∉ format) : 0 ∉ text := by
  induction h with
  | done args => exact hformat
  | @ordinary c format args text ok hc h ih =>
    intro hmem
    rcases List.mem_cons.mp hmem with hzero | hrest
    · exact hformat (hzero ▸ List.mem_cons_self)
    · exact ih (fun hmem => hformat (List.mem_cons_of_mem _ hmem)) hrest
  | @directive d format args first text ok hfirst h ih =>
    intro hmem
    rcases List.mem_append.mp hmem with hzero | hrest
    · exact foreign_zero.notMem_text hfirst (fun _ s _ => s.noNul) hzero
    · exact ih (fun hmem => hformat (List.mem_append_right _ hmem)) hrest
  | null d hnull => exact List.not_mem_nil
  | unsupported hnone => exact List.not_mem_nil

/-! ### The result -/

section Result

variable [DoubleRounding]

/-- The result for a rendering that fits. -/
lemma tinyVformat_items {items : List FormatItem} {args : Stream' VaArg} {R : List UInt8}
    (out : ℕ → UInt8) (hR : render items args = some R) (hlt : R.length < capacity) :
    tinyVformat (some out) capacity (some (toFormat items)) args =
      (Int32.ofNat R.length, some (overlay out (R ++ [0]))) := by
  have hall : R.take (capacity - 1) = R := List.take_of_length_le (by omega)
  rw [tinyVformat_eq (toFormat items) out (Nat.zero_lt_of_lt hlt) (renders_spellAll hR),
    if_pos ⟨rfl, hlt⟩, hall]

/-- The text that a call of `tiny_vformat` reports in the buffer, if it succeeds. -/
def formatted (out : ℕ → UInt8) (capacity : ℕ) (format : CString) (args : Stream' VaArg) :
    Option (List UInt8) :=
  let result := tinyVformat (some out) capacity (some format) args
  if 0 ≤ result.1 then result.2.map fun data => (List.range result.1.toNatClampNeg).map data
  else none

/-- A rendering that fits is reported as a whole. -/
lemma formatted_of_renders {format : CString} {args : Stream' VaArg} {R : List UInt8}
    (out : ℕ → UInt8) (hR : Renders format.bytes args R true) (hint : R.length < 2 ^ 31) :
    formatted out capacity format args = if R.length < capacity then some R else none := by
  unfold formatted
  split_ifs with hlt
  · have hall : R.take (capacity - 1) = R := List.take_of_length_le (by omega)
    have hresult : tinyVformat (some out) capacity (some format) args =
        (Int32.ofNat R.length, some (overlay out (R ++ [0]))) := by
      rw [tinyVformat_eq format out (Nat.zero_lt_of_lt hlt) hR, if_pos (And.intro rfl hlt), hall]
    have htoInt : (Int32.ofNat R.length).toInt = R.length := Int32.toInt_ofNat_of_lt hint
    have hnonneg : 0 ≤ Int32.ofNat R.length := by
      rw [Int32.le_iff_toInt_le, htoInt]
      exact Int.natCast_nonneg _
    have hlength : (Int32.ofNat R.length).toNatClampNeg = R.length := by
      rw [Int32.toNatClampNeg, htoInt, Int.toNat_natCast]
    rw [hresult]
    dsimp only
    rw [if_pos hnonneg, hlength]
    refine congrArg some (List.ext_getElem (by simp) fun i hi hi' => ?_)
    simpa using (stored_overlay out R).byte i hi'
  · have hresult : (tinyVformat (some out) capacity (some format) args).1 = -1 := by
      rcases Nat.eq_zero_or_pos capacity with rfl | hcapacity
      · rfl
      · rw [tinyVformat_eq format out hcapacity hR]
        exact if_neg fun h => hlt h.2
    dsimp only
    rw [hresult]
    exact if_neg (by decide)

/-- For every format made of ordinary characters and directives, documented or not, and with no
`NULL` among its strings: a rendering that fits is stored exactly and its length is returned, as an
`int`; otherwise the result is `-1`.  For every format at all: no byte from the capacity on is
written, and the buffer is terminated and holds a prefix of the rendering up to the failing
point. -/
theorem tiny_vformat_exact (capacity : ℕ) (hcapacity : 0 < capacity) (out : ℕ → UInt8)
    (args : Stream' VaArg) :
    (∀ (items : List FormatItem) (R : List UInt8), render items args = some R →
      if R.length < capacity then
        (tinyVformat (some out) capacity (some (toFormat items)) args).1 = Int32.ofNat R.length ∧
        (R.length < 2 ^ 31 →
          (tinyVformat (some out) capacity (some (toFormat items)) args).1.toInt = R.length) ∧
        ∃ data, (tinyVformat (some out) capacity (some (toFormat items)) args).2 = some data ∧
          Stored data R
      else (tinyVformat (some out) capacity (some (toFormat items)) args).1 = -1) ∧
    ∀ format : CString, (∃ R ok, Renders format.bytes args R ok) ∧
      ∀ R ok, Renders format.bytes args R ok →
        ∃ data n, (tinyVformat (some out) capacity (some format) args).2 = some data ∧
          (∀ i, capacity ≤ i → data i = out i) ∧ n < capacity ∧ Stored data (R.take n) ∧ 0 ∉ R := by
  refine ⟨fun items R hR => ?_, fun format => ⟨exists_renders _ _, fun R ok hR => ?_⟩⟩
  · split_ifs with hlt
    · rw [tinyVformat_items out hR hlt]
      exact ⟨rfl, fun hint => Int32.toInt_ofNat_of_lt hint, _, rfl, stored_overlay out R⟩
    · rw [tinyVformat_eq (toFormat items) out hcapacity (renders_spellAll hR),
        if_neg fun h => hlt h.2]
  · refine ⟨_, capacity - 1, congrArg Prod.snd (tinyVformat_eq format out hcapacity hR), ?_,
      by omega,
      stored_overlay out _, hR.zero_notMem format.noNul⟩
    intro i hi
    refine overlay_of_le ?_
    rw [List.length_append, List.length_take, List.length_singleton]
    omega

/-- Arguments that are the number seven at every integer type. -/
def sevens : Stream' VaArg :=
  Stream'.const
    { text := none, unsignedInt := 7, int := 7, unsignedLong := 7, long := 7
      double := ⟨0, fun _ hq hne => absurd (FloatValue.finite.inj hq).symm hne⟩ }

omit [DoubleRounding] in
/-- `%06u` of seven fills a buffer of seven bytes. -/
theorem tiny_vformat_exact_padded :
    (@tinyVformat Binary64.rounding (some fun _ => 1) 7
      (some (toFormat [.directive (.unsigned false true)])) sevens).1.toInt = 6 ∧
    ∃ data, (@tinyVformat Binary64.rounding (some fun _ => 1) 7
      (some (toFormat [.directive (.unsigned false true)])) sevens).2 = some data ∧
      Stored data (literal "000007") := by
  have hexact := (@tiny_vformat_exact Binary64.rounding 7 (by decide) (fun _ => 1) sevens).1
    [.directive (.unsigned false true)] (literal "000007") (by decide)
  rw [if_pos (by decide)] at hexact
  exact ⟨hexact.2.1 (by decide), hexact.2.2⟩

/-- A format of `2 ^ 31` ordinary characters. -/
def longFormat : List FormatItem := List.replicate 2147483648 (.ordinary ⟨ascii 'x', by decide⟩)

/-- Ordinary characters stand for themselves. -/
lemma render_replicate (n : ℕ) (c : Ordinary) (args : Stream' VaArg) :
    render (List.replicate n (.ordinary c)) args = some (List.replicate n c.val) := by
  induction n with
  | zero => rfl
  | succ n ih => rw [List.replicate_succ, render, ih, List.replicate_succ]; rfl

omit [DoubleRounding] in
/-- A rendering whose length is not an `int` fits and is stored, but its length is not returned. -/
theorem tiny_vformat_overflow :
    ∃ R, @render Binary64.rounding longFormat sevens = some R ∧ R.length = 2147483648 ∧
      (@tinyVformat Binary64.rounding (some fun _ => 0) 2147483649 (some (toFormat longFormat))
        sevens).1.toInt = -2147483648 := by
  have hrender := @render_replicate Binary64.rounding 2147483648 ⟨ascii 'x', by decide⟩ sevens
  refine ⟨_, hrender, List.length_replicate, ?_⟩
  have hresult := @tinyVformat_items 2147483649 Binary64.rounding longFormat sevens _
    (fun _ => 0) hrender (by rw [List.length_replicate]; norm_num)
  rw [hresult, List.length_replicate]
  decide

omit [DoubleRounding] in
/-- The sign of a length as an `int`. -/
lemma nonneg_ofNat_iff (n : ℕ) : 0 ≤ Int32.ofNat n ↔ n % 2 ^ 32 < 2 ^ 31 := by
  have hzero : (0 : Int32).toInt = 0 := rfl
  rw [Int32.le_iff_toInt_le, hzero, Int32.toInt_ofNat', Int.bmod_def]
  have hsize : (Int32.size : ℤ) = 2 ^ 32 := rfl
  rw [hsize]
  split_ifs <;> omega

/-- The result is `-1`, or the length of the rendering of a sequence of items. -/
lemma tinyVformat_cases (out : Option (ℕ → UInt8)) (capacity : ℕ) (format : CString)
    (args : Stream' VaArg) :
    (tinyVformat out capacity (some format) args).1 = -1 ∨
    ∃ items R, format = toFormat items ∧ out.isSome = true ∧ render items args = some R ∧
      R.length < capacity ∧
      (tinyVformat out capacity (some format) args).1 = Int32.ofNat R.length := by
  cases out with
  | none => exact Or.inl rfl
  | some out =>
    rcases Nat.eq_zero_or_pos capacity with rfl | hcapacity
    · exact Or.inl rfl
    obtain ⟨R, ok, hR⟩ := exists_renders format.bytes args
    rw [tinyVformat_eq format out hcapacity hR]
    by_cases hsuccess : ok = true ∧ R.length < capacity
    · obtain ⟨rfl, hlt⟩ := hsuccess
      obtain ⟨items, hitems, hrender⟩ := exists_items hR format.noNul
      refine Or.inr ⟨items, R, ?_, rfl, hrender, hlt, if_pos ⟨rfl, hlt⟩⟩
      cases format
      cases hitems
      rfl
    · exact Or.inl (if_neg hsuccess)

/-- A call succeeds exactly when its format is a sequence of items whose rendering fits. -/
lemma nonneg_tinyVformat_iff (out : Option (ℕ → UInt8)) (capacity : ℕ) (format : CString)
    (args : Stream' VaArg) :
    0 ≤ (tinyVformat out capacity (some format) args).1 ↔
      ∃ items R, format = toFormat items ∧ out.isSome = true ∧ render items args = some R ∧
        R.length < capacity ∧ R.length % 2 ^ 32 < 2 ^ 31 := by
  constructor
  · intro h
    rcases tinyVformat_cases out capacity format args with hfail | ⟨items, R, hf, ho, hR, hlt, heq⟩
    · rw [hfail] at h
      exact absurd h (by decide)
    · rw [heq, nonneg_ofNat_iff] at h
      exact ⟨items, R, hf, ho, hR, hlt, h⟩
  · rintro ⟨items, R, rfl, ho, hR, hlt, hint⟩
    obtain ⟨out, rfl⟩ := Option.isSome_iff_exists.mp ho
    rw [tinyVformat_items out hR hlt, nonneg_ofNat_iff]
    exact hint

/-- Exactly when a call accepts a format that is not documented: when the format consists of
ordinary characters and the eleven directives of the code, one of them `%06d`, `%06ld` or
`%06.6g`, and nothing else makes the call fail.  A format that does not consist of ordinary
characters and the eleven directives is always refused. -/
theorem undocumented_formats (out : Option (ℕ → UInt8)) (capacity : ℕ) (format : CString)
    (args : Stream' VaArg) :
    ((0 ≤ (tinyVformat out capacity (some format) args).1 →
        ∃ items, format = toFormat items ∧ ∀ item ∈ items, item.documented = true) ↔
      ¬ ∃ items R, format = toFormat items ∧ (∃ item ∈ items, item.documented = false) ∧
        out.isSome = true ∧ render items args = some R ∧ R.length < capacity ∧
        R.length % 2 ^ 32 < 2 ^ 31) ∧
    ((¬ ∃ items, format = toFormat items) →
      (tinyVformat out capacity (some format) args).1 = -1) := by
  refine ⟨⟨?_, ?_⟩, ?_⟩
  · rintro h ⟨items, R, hf, ⟨item, hmem, hitem⟩, hfits⟩
    obtain ⟨others, ho, hall⟩ := h ((nonneg_tinyVformat_iff _ _ _ _).mpr ⟨items, R, hf, hfits⟩)
    have heq : others = items := spellAll_injective (congrArg CString.bytes (ho.symm.trans hf))
    rw [heq] at hall
    exact absurd ((hall item hmem).symm.trans hitem) nofun
  · intro h hnonneg
    obtain ⟨items, R, hf, hfits⟩ := (nonneg_tinyVformat_iff _ _ _ _).mp hnonneg
    refine ⟨items, hf, fun item hmem => ?_⟩
    by_contra hitem
    exact h ⟨items, R, hf, ⟨item, hmem, Bool.eq_false_iff.mpr hitem⟩, hfits⟩
  · intro h
    rcases tinyVformat_cases out capacity format args with hfail | ⟨items, R, hf, -⟩
    · exact hfail
    · exact absurd ⟨items, hf⟩ h

omit [DoubleRounding] in
/-- `%06d` is accepted. -/
theorem undocumented_formats_signed :
    (@tinyVformat Binary64.rounding (some fun _ => 0) 16
      (some (toFormat [.directive (.signed false true)])) sevens).1 = 6 ∧
    ¬ ∃ items, toFormat [.directive (.signed false true)] = toFormat items ∧
      ∀ item ∈ items, item.documented = true := by
  refine ⟨by decide +kernel, ?_⟩
  rintro ⟨items, hitems, hall⟩
  obtain rfl := spellAll_injective (congrArg CString.bytes hitems)
  exact absurd (hall _ (List.mem_singleton_self _)) nofun

end Result

end MotionFirmware
