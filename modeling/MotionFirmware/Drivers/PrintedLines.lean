import MotionFirmware.Drivers.FormatWidth
import MotionFirmware.Foundation.Lines

/-!
# Printed lines

How a rendering begins and ends: an ordinary character at the start or at the end of a format is the
first or the last character of the text, and a string at the start begins the text.
-/

namespace MotionFirmware

/-- The line feed. -/
def newline : UInt8 := 10

/-- Nothing but ordinary text has line feeds. -/
lemma foreign_newline : Foreign newline := by decide

section Renderings

variable [DoubleRounding] {c : UInt8} {format text : List UInt8} {args : Stream' VaArg}

/-- The empty format. -/
lemma Renders.of_nil (h : Renders [] args text true) : text = [] := by
  generalize hformat : [] = whole at h
  cases h with
  | done args => rfl
  | ordinary hc h => exact absurd hformat (by simp)
  | directive d hfirst h => exact absurd hformat (by simp [Directive.spell])

/-- An ordinary character at the start. -/
lemma Renders.of_ordinary (hc : c ≠ ascii '%') (h : Renders (c :: format) args text true) :
    ∃ tail, text = c :: tail ∧ Renders format args tail true := by
  generalize hformat : c :: format = whole at h
  cases h with
  | done args => exact absurd hformat (by simp)
  | ordinary hc' h =>
    obtain ⟨rfl, rfl⟩ := List.cons.inj hformat
    exact ⟨_, rfl, h⟩
  | directive d hfirst h => exact absurd (List.cons.inj hformat).1 hc

/-- A directive at the start. -/
lemma Renders.of_directive {d : Directive} (h : Renders (d.spell ++ format) args text true) :
    ∃ first tail, d.text args.head = some first ∧ text = first ++ tail ∧
      Renders format args.tail tail true := by
  generalize hformat : d.spell ++ format = whole at h
  cases h with
  | done args => exact absurd hformat (by simp [Directive.spell])
  | ordinary hc h => exact absurd (List.cons.inj hformat).1.symm hc
  | directive d' hfirst h =>
    obtain ⟨hitem, rfl⟩ :=
      @FormatItem.spell_append_inj (.directive d) (.directive d') _ _ hformat
    obtain rfl := FormatItem.directive.inj hitem
    exact ⟨_, _, hfirst, rfl, h⟩

/-- An ordinary character at the end.  By induction on the rendering; a directive does not end the
format. -/
lemma Renders.getLast (hc : c ∉ literal "%sudl06.g") (h : Renders (format ++ [c]) args text true) :
    text.getLast? = some c := by
  rw [List.getLast?_eq_some_iff]
  generalize hformat : format ++ [c] = whole at h
  generalize hok : true = ok at h
  induction h generalizing format with
  | done args => exact absurd hformat (by simp)
  | @ordinary b rest args text ok hb h ih =>
    cases format with
    | nil =>
      obtain ⟨rfl, rfl⟩ := List.cons.inj hformat
      obtain rfl := hok
      exact ⟨[], by rw [h.of_nil, List.nil_append]⟩
    | cons b' format =>
      obtain ⟨tail, rfl⟩ := ih (List.cons.inj hformat).2 hok
      exact ⟨b :: tail, rfl⟩
  | @directive d rest args first text ok hfirst h ih =>
    rcases List.eq_nil_or_concat rest with rfl | ⟨rest, b, rfl⟩
    · have hmem : c ∈ d.spell := by
        rw [List.append_nil] at hformat
        rw [← hformat]
        exact List.mem_append_right _ (List.mem_singleton_self c)
      exact absurd hmem (d.notMem_spell hc)
    · rw [List.concat_eq_append, ← List.append_assoc] at hformat
      obtain ⟨-, hlast⟩ := List.append_inj' hformat rfl
      obtain rfl := List.singleton_inj.mp hlast
      obtain ⟨tail, rfl⟩ := ih (List.concat_eq_append ..).symm hok
      exact ⟨first ++ tail, (List.append_assoc ..).symm⟩
  | null d hnull => exact absurd hok (by simp)
  | unsupported hnone => exact absurd hok (by simp)

end Renderings

/-- The format of the call is a line, and its arguments have no line feed. -/
structure Print.IsLine (p : Print) : Prop where
  count : p.format.bytes.count newline = 1
  last : p.format.bytes.getLast? = some newline
  args : ∀ arg ∈ p.args, newline ∉ arg.bytes

end MotionFirmware
