import ImportWeights.Proofs.Text.Trim
import ImportWeights.Source.Line

/-! # What cleaning leaves

A text is cleaned down to its core, which begins and ends with neither a quote nor a blank. A text
has one core only, so it makes no difference how often it is cleaned, nor how many quotes and blanks
are put around it. -/

namespace ImportWeights.Source

variable {text core before after : String}

/-- Nothing but quotes and blanks. -/
def OuterOnly (text : String) : Prop :=
  ∀ c ∈ text.toList, c = '"' ∨ Text.isBlank c = true

/-- What stands between quotes and blanks, and begins and ends with neither. -/
structure IsCore (core text : String) : Prop where
  whole : ∃ before after, text = before ++ core ++ after ∧ OuterOnly before ∧ OuterOnly after
  ends : core = "" ∨ ∃ first last,
    core.toList.head? = some first ∧ core.toList.getLast? = some last ∧
      ¬ (first = '"' ∨ Text.isBlank first = true) ∧ ¬ (last = '"' ∨ Text.isBlank last = true)

theorem isOuter_iff {c : Char} : isOuter c = true ↔ c = '"' ∨ Text.isBlank c = true := by
  rw [isOuter, Bool.or_eq_true, beq_iff_eq]

theorem isOuter_eq_false_iff {c : Char} :
    isOuter c = false ↔ ¬ (c = '"' ∨ Text.isBlank c = true) := by
  rw [← isOuter_iff, Bool.not_eq_true]

theorem outerOnly_iff : OuterOnly text ↔ ∀ c ∈ text.toList, isOuter c = true := by
  simp only [OuterOnly, isOuter_iff]

instance (text : String) : Decidable (OuterOnly text) :=
  decidable_of_iff (text.toList.all isOuter = true) (List.all_eq_true.trans outerOnly_iff.symm)

theorem toList_clean (text : String) :
    (clean text).toList = Text.trimBoth isOuter text.toList := by
  rw [clean, String.toList_ofList]

/-- Wrapping a text in quotes and blanks does not change what cleaning leaves of it. -/
theorem clean_append (hbefore : OuterOnly before) (hafter : OuterOnly after) (text : String) :
    clean (before ++ text ++ after) = clean text := by
  rw [clean, clean, String.toList_append, String.toList_append,
    Text.trimBoth_append (outerOnly_iff.mp hbefore) (outerOnly_iff.mp hafter)]

@[simp] theorem clean_clean (text : String) : clean (clean text) = clean text := by
  rw [clean, toList_clean, Text.trimBoth_of_bare (Text.bare_trimBoth isOuter text.toList), ← clean]

theorem bare_iff : Text.Bare isOuter core.toList ↔ core = "" ∨ ∃ first last,
    core.toList.head? = some first ∧ core.toList.getLast? = some last ∧
      ¬ (first = '"' ∨ Text.isBlank first = true) ∧
      ¬ (last = '"' ∨ Text.isBlank last = true) := by
  simp only [← isOuter_eq_false_iff]
  constructor
  · intro bare
    by_cases empty : core = ""
    · exact .inl empty
    · have filled : core.toList ≠ [] := mt String.toList_eq_nil_iff.mp empty
      have first := List.head?_eq_some_head filled
      have last := List.getLast?_eq_some_getLast filled
      exact .inr ⟨_, _, first, last, bare.begins _ first, bare.ends _ last⟩
  · rintro (rfl | ⟨first, last, hfirst, hlast, begins, ends⟩)
    · constructor <;> simp
    · constructor
      · intro c hc
        rw [hfirst] at hc
        cases hc
        exact begins
      · intro c hc
        rw [hlast] at hc
        cases hc
        exact ends

theorem isCore_clean (text : String) : IsCore (clean text) text where
  whole := by
    obtain ⟨front, back, hwhole, hfront, hback⟩ := Text.exists_trimmed isOuter text.toList
    refine ⟨String.ofList front, String.ofList back, ?_, ?_, ?_⟩
    · rw [clean, ← String.ofList_append, ← String.ofList_append, ← hwhole, String.ofList_toList]
    · rw [outerOnly_iff, String.toList_ofList]
      exact hfront
    · rw [outerOnly_iff, String.toList_ofList]
      exact hback
  ends := by
    rw [← bare_iff, toList_clean]
    exact Text.bare_trimBoth isOuter text.toList

/-- Cleaning takes off exactly the quotes and blanks at both ends: it leaves the one core that the
text has, whatever is wrapped around it. -/
theorem clean_is_the_core (text : String) :
    (∀ core, IsCore core text ↔ core = clean text) ∧
      clean (clean text) = clean text ∧
      ∀ before after, OuterOnly before → OuterOnly after →
        clean (before ++ text ++ after) = clean text := by
  refine ⟨fun core => ⟨fun h => ?_, ?_⟩, clean_clean text, fun before after => ?_⟩
  · obtain ⟨before, after, rfl, hbefore, hafter⟩ := h.whole
    have bare : Text.Bare isOuter core.toList := bare_iff.mpr h.ends
    rw [clean_append hbefore hafter, clean, Text.trimBoth_of_bare bare, String.ofList_toList]
  · rintro rfl
    exact isCore_clean text
  · intro hbefore hafter
    exact clean_append hbefore hafter text

/-- Quotes inside stay, and an ideographic space is a blank. -/
theorem clean_is_the_core_alias :
    OuterOnly "\u3000\"" ∧ OuterOnly "\" " ∧
      clean ("\u3000\"" ++ "log \"x/y\"" ++ "\" ") = "log \"x/y" := by
  have front : OuterOnly "\u3000\"" := by decide
  have back : OuterOnly "\" " := by decide
  exact ⟨front, back, ((clean_is_the_core "log \"x/y\"").2.2 _ _ front back).trans (by decide)⟩

end ImportWeights.Source
