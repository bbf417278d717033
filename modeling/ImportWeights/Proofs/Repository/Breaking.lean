import Mathlib.Data.List.Infix
import ImportWeights.Repository.Locator

/-! # Where a pattern first occurs

A text is broken at the first occurrence of a pattern, so what comes before it, the pattern and
what comes after make up the text, and a text that holds the pattern anywhere is broken. -/

namespace ImportWeights.Repository

variable {pattern before cs front back : List Char}

theorem breakAt_go_eq_some (h : breakAt.go pattern before cs = some (front, back)) :
    before.reverse ++ cs = front ++ pattern ++ back := by
  induction cs generalizing before with
  | nil =>
    rw [breakAt.go] at h
    split at h
    · rename_i hempty
      cases h
      simp [hempty]
    · cases h
  | cons c cs ih =>
    rw [breakAt.go] at h
    split at h
    · rename_i after hafter
      cases h
      rw [← List.isPrefixOf?_eq_some_iff_append_eq.mp hafter, List.append_assoc]
    · rw [← ih h]
      simp

theorem isSome_breakAt_go (h : pattern <:+: cs) : (breakAt.go pattern before cs).isSome := by
  induction cs generalizing before with
  | nil =>
    rw [breakAt.go, if_pos (List.infix_nil.mp h)]
    rfl
  | cons c cs ih =>
    rw [breakAt.go]
    split
    · rfl
    · rename_i hnone
      rcases List.infix_cons_iff.mp h with ⟨after, hfront⟩ | hlater
      · rw [List.isPrefixOf?_eq_some_iff_append_eq.mpr hfront] at hnone
        cases hnone
      · exact ih hlater

theorem breakAt_eq_some (h : breakAt pattern cs = some (front, back)) :
    cs = front ++ pattern ++ back := by
  simpa using breakAt_go_eq_some h

theorem isSome_breakAt_iff : (breakAt pattern cs).isSome ↔ pattern <:+: cs := by
  constructor
  · intro h
    obtain ⟨⟨front, back⟩, hbroken⟩ := Option.isSome_iff_exists.mp h
    exact ⟨front, back, (breakAt_eq_some hbroken).symm⟩
  · exact isSome_breakAt_go

theorem breakAt_eq_none_iff : breakAt pattern cs = none ↔ ¬ pattern <:+: cs := by
  rw [← isSome_breakAt_iff, Bool.not_eq_true, Option.isSome_eq_false_iff, Option.isNone_iff_eq_none]

/-- A pattern is not met before it can begin. -/
theorem infix_append_of_not_mem {first : Char} {rest : List Char} (hfront : first ∉ front) :
    first :: rest <:+: front ++ back ↔ first :: rest <:+: back := by
  induction front with
  | nil => rfl
  | cons c front ih =>
    rw [List.mem_cons, not_or] at hfront
    have elsewhere : ¬ first :: rest <+: c :: (front ++ back) := by
      rw [List.cons_prefix_cons]
      exact fun here => hfront.1 here.1
    rw [List.cons_append, List.infix_cons_iff, or_iff_right elsewhere, ih hfront.2]

/-- A part in which the pattern cannot begin is passed over. -/
theorem breakAt_go_append {first : Char} {rest : List Char} (hfront : first ∉ front) :
    breakAt.go (first :: rest) before (front ++ first :: rest ++ back) =
      some (before.reverse ++ front, back) := by
  induction front generalizing before with
  | nil =>
    rw [List.nil_append, List.cons_append, breakAt.go]
    have hhere : (first :: rest).isPrefixOf? (first :: (rest ++ back)) = some back :=
      List.isPrefixOf?_eq_some_iff_append_eq.mpr rfl
    rw [hhere, List.append_nil]
  | cons c front ih =>
    rw [List.mem_cons, not_or] at hfront
    have hnone : (first :: rest).isPrefixOf? (c :: (front ++ first :: rest ++ back)) = none := by
      rw [List.isPrefixOf?, if_neg]
      simpa using hfront.1
    rw [List.cons_append, List.cons_append, breakAt.go, hnone]
    exact (ih hfront.2).trans (by simp)

end ImportWeights.Repository
