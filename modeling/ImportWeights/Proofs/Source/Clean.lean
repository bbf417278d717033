import Mathlib.Data.List.Basic
import Mathlib.Data.List.TakeWhile
import ImportWeights.Source.Line

/-! What cleaning leaves of a line, and how the three literal tokens keep out of each
other's way: neither token of the import block is a package line, and a package line never
cleans to nothing. -/

namespace ImportWeights.Text

variable {α : Type} {p : α → Bool} {xs : List α}

theorem trimEnd_eq_nil_iff : trimEnd p xs = [] ↔ ∀ x ∈ xs, p x = true := by
  rw [trimEnd, List.reverse_eq_nil_iff, List.dropWhile_eq_nil_iff]
  simp only [List.mem_reverse]

theorem trimBoth_eq_nil_iff : trimBoth p xs = [] ↔ ∀ x ∈ xs, p x = true := by
  rw [trimBoth, trimEnd_eq_nil_iff]
  constructor
  · intro h x hx
    rw [← List.takeWhile_append_dropWhile (p := p) (l := xs), List.mem_append] at hx
    cases hx with
    | inl hx => exact List.mem_takeWhile_imp hx
    | inr hx => exact h x hx
  · intro h x hx
    exact h x ((List.dropWhile_sublist p).mem hx)

end ImportWeights.Text

namespace ImportWeights.Source

theorem clean_eq_empty_iff {s : String} :
    clean s = "" ↔ ∀ c ∈ s.toList, isOuter c = true := by
  rw [clean, ← Text.trimBoth_eq_nil_iff, String.ofList_eq_empty_iff]

@[simp] theorem afterPackage?_importOpen : afterPackage? importOpen = none := by decide

@[simp] theorem afterPackage?_importClose : afterPackage? importClose = none := by decide

theorem mem_of_afterPackage? {line rest : String} (h : afterPackage? line = some rest) :
    'p' ∈ line.toList := by
  rw [afterPackage?, Option.map_eq_some_iff] at h
  obtain ⟨cs, hcs, -⟩ := h
  have hprefix := List.isPrefixOf?_eq_some_iff_append_eq.mp hcs
  rw [← hprefix]
  simp [packageKeyword]

/-- A line that starts with the keyword has a letter that no cleaning cuts off. -/
theorem clean_ne_empty_of_package {line rest : String} (h : afterPackage? line = some rest) :
    clean line ≠ "" := by
  intro hclean
  have houter := clean_eq_empty_iff.mp hclean 'p' (mem_of_afterPackage? h)
  exact absurd houter (by decide)

end ImportWeights.Source
