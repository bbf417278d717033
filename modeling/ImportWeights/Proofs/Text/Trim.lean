import ImportWeights.Proofs.Text.Ascii

/-! # Trimming at both ends

What is left of a list is bare: it neither begins nor ends with anything that is cut off. A bare
list is left as it is, and what is cut off makes no difference to what is left. -/

namespace ImportWeights.Text

variable {α : Type} {p : α → Bool} {xs front back : List α}

/-- Nothing to cut off stands at either end. -/
structure Bare (p : α → Bool) (xs : List α) : Prop where
  begins : ∀ x ∈ xs.head?, p x = false
  ends : ∀ x ∈ xs.getLast?, p x = false

theorem begins_dropWhile (p : α → Bool) (xs : List α) :
    ∀ x ∈ (xs.dropWhile p).head?, p x = false := by
  intro x hx
  have stops := List.head?_dropWhile_not p xs
  rw [Option.mem_def.mp hx] at stops
  exact stops

theorem bare_trimBoth (p : α → Bool) (xs : List α) : Bare p (trimBoth p xs) := by
  constructor
  · intro x hx
    -- what is cut off the end does not touch the beginning
    have whole := trimEnd_append p (xs.dropWhile p)
    have first : x ∈ (xs.dropWhile p).head? := by
      rw [trimBoth, Option.mem_def] at hx
      rw [← whole, List.head?_append, hx]
      rfl
    exact begins_dropWhile p xs x first
  · intro x hx
    rw [trimBoth, trimEnd, List.getLast?_reverse] at hx
    exact begins_dropWhile p _ x hx

/-- A list is what is cut off the beginning, what is left, and what is cut off the end. -/
theorem exists_trimmed (p : α → Bool) (xs : List α) :
    ∃ front back, xs = front ++ trimBoth p xs ++ back ∧
      (∀ x ∈ front, p x = true) ∧ ∀ x ∈ back, p x = true := by
  refine ⟨xs.takeWhile p, ((xs.dropWhile p).reverse.takeWhile p).reverse, ?_, ?_, ?_⟩
  · rw [List.append_assoc, trimBoth, trimEnd_append, List.takeWhile_append_dropWhile]
  · intro x hx
    exact List.mem_takeWhile_imp hx
  · intro x hx
    exact List.mem_takeWhile_imp (List.mem_reverse.mp hx)

theorem trimBoth_of_bare (h : Bare p xs) : trimBoth p xs = xs := by
  have kept : xs.dropWhile p = xs := by
    cases xs with
    | nil => rfl
    | cons x xs => exact List.dropWhile_cons_of_neg (ne_true_of_eq_false (h.begins x rfl))
  rw [trimBoth, kept]
  exact trimEnd_eq_self h.ends

/-- What is cut off anyway makes no difference. -/
theorem trimBoth_append (hfront : ∀ x ∈ front, p x = true) (hback : ∀ x ∈ back, p x = true)
    (xs : List α) : trimBoth p (front ++ xs ++ back) = trimBoth p xs := by
  rw [trimBoth, trimBoth, List.append_assoc, List.dropWhile_append_of_pos hfront,
    List.dropWhile_append]
  split
  · rename_i nothing
    rw [List.isEmpty_iff.mp nothing, List.dropWhile_eq_nil_iff.mpr hback]
  · exact trimEnd_append_of_all hback _

end ImportWeights.Text
