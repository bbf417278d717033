import Mathlib.Data.List.Basic
import ImportWeights.Proofs.Text.Ascii
import ImportWeights.Repository.Folder

/-! # The last part of a URL

A `.git` at the end of a text stands behind its last separator, so it goes with the last part.
Slashes at the end do not count. What comes before the last separator, be it the scheme or the
host, is never looked at. -/

namespace ImportWeights.Repository

variable {front middle : List Char} {separator first : Char}

theorem gitSuffix_append_cons (front middle : List Char)
    (hsep : separator = '/' ∨ separator = ':') :
    ".git".toList <:+ front ++ separator :: middle ↔ ".git".toList <:+ middle := by
  have foreign : separator ∉ ".git".toList := by
    obtain rfl | rfl := hsep <;> decide
  constructor
  · intro h
    obtain inside | outside :=
      List.suffix_or_suffix_of_suffix h (List.suffix_append front (separator :: middle))
    · obtain same | later := List.suffix_cons_iff.mp inside
      · exact absurd (same ▸ List.mem_cons_self) foreign
      · exact later
    · exact absurd (outside.mem List.mem_cons_self) foreign
  · intro h
    exact h.trans ((List.suffix_cons separator middle).trans (List.suffix_append front _))

theorem dropGitSuffix_of_suffix (h : ".git".toList <:+ middle) :
    dropGitSuffix middle = middle.take (middle.length - 4) :=
  if_pos (List.isSuffixOf_iff_suffix.mpr h)

theorem dropGitSuffix_of_not_suffix (h : ¬ ".git".toList <:+ middle) :
    dropGitSuffix middle = middle :=
  if_neg (mt List.isSuffixOf_iff_suffix.mp h)

theorem mem_dropGitSuffix {c : Char} (h : c ∈ dropGitSuffix middle) : c ∈ middle := by
  rw [dropGitSuffix] at h
  split at h
  · exact List.mem_of_mem_take h
  · exact h

theorem dropGitSuffix_append_cons (front middle : List Char)
    (hsep : separator = '/' ∨ separator = ':') :
    dropGitSuffix (front ++ separator :: middle) =
      front ++ separator :: dropGitSuffix middle := by
  have same := gitSuffix_append_cons front middle hsep
  by_cases h : ".git".toList <:+ middle
  · have long : 4 ≤ middle.length := h.length_le
    have count : (front ++ separator :: middle).length - 4 =
        front.length + (middle.length - 4 + 1) := by
      simp only [List.length_append, List.length_cons]
      omega
    rw [dropGitSuffix_of_suffix (same.mpr h), dropGitSuffix_of_suffix h, count,
      List.take_length_add_append, List.take_succ_cons]
  · rw [dropGitSuffix_of_not_suffix (mt same.mp h), dropGitSuffix_of_not_suffix h]

/-- The first character is left, unless it is the dot of the suffix. -/
theorem dropGitSuffix_cons (rest : List Char) (hfirst : first ≠ '.') :
    ∃ kept, dropGitSuffix (first :: rest) = first :: kept := by
  by_cases h : ".git".toList <:+ first :: rest
  · obtain same | later := List.suffix_cons_iff.mp h
    · exact absurd (List.cons.inj same).1.symm hfirst
    · have long : 4 ≤ rest.length := later.length_le
      have count : (first :: rest).length - 4 = rest.length - 4 + 1 := by
        rw [List.length_cons]
        omega
      rw [dropGitSuffix_of_suffix h, count, List.take_succ_cons]
      exact ⟨_, rfl⟩
  · rw [dropGitSuffix_of_not_suffix h]
    exact ⟨rest, rfl⟩

theorem lastPart_append_cons (front : List Char) (hsep : separator = '/' ∨ separator = ':')
    (whole : ∀ c ∈ middle, c ≠ '/' ∧ c ≠ ':') :
    lastPart (front ++ separator :: middle) = middle := by
  have inside : ∀ c ∈ middle.reverse, (c != '/' && c != ':') = true := by
    intro c hc
    simpa using whole c (List.mem_reverse.mp hc)
  rw [lastPart, List.reverse_append, List.reverse_cons, List.append_assoc,
    List.takeWhile_append_of_pos inside]
  obtain rfl | rfl := hsep <;> simp

theorem trimEnd_slashes (front : List Char) (filled : middle ≠ [])
    (whole : ∀ c ∈ middle, c ≠ '/') (slashes : Nat) :
    Text.trimEnd (· == '/') (front ++ (middle ++ List.replicate slashes '/')) =
      front ++ middle := by
  have stays : ∀ last ∈ (front ++ middle).getLast?, (last == '/') = false := by
    intro last hlast
    rw [List.getLast?_append_of_ne_nil front filled] at hlast
    exact beq_false_of_ne (whole last (List.mem_of_getLast? hlast))
  rw [← List.append_assoc, Text.trimEnd_append_replicate rfl, Text.trimEnd_eq_self stays]

/-- Nothing, or a text that ends with a separator. -/
def BeforePart (front : List Char) : Prop := ∀ c ∈ front.getLast?, c = '/' ∨ c = ':'

theorem beforePart_concat (front : List Char) (hsep : separator = '/' ∨ separator = ':') :
    BeforePart (front ++ [separator]) := by
  intro c hc
  rw [List.getLast?_concat, Option.mem_some_iff] at hc
  exact hc ▸ hsep

theorem BeforePart.cases (hfront : BeforePart front) :
    front = [] ∨ ∃ before separator, front = before ++ [separator] ∧
      (separator = '/' ∨ separator = ':') := by
  refine front.eq_nil_or_concat.imp_right ?_
  rintro ⟨before, separator, ended⟩
  rw [List.concat_eq_append] at ended
  exact ⟨before, separator, ended, hfront separator (by simp [ended])⟩

theorem dropGitSuffix_append (hfront : BeforePart front) (middle : List Char) :
    dropGitSuffix (front ++ middle) = front ++ dropGitSuffix middle := by
  obtain rfl | ⟨before, separator, rfl, hsep⟩ := hfront.cases
  · rfl
  · rw [List.append_assoc, List.append_assoc]
    exact dropGitSuffix_append_cons before middle hsep

theorem lastPart_append (hfront : BeforePart front) (whole : ∀ c ∈ middle, c ≠ '/' ∧ c ≠ ':') :
    lastPart (front ++ middle) = middle := by
  obtain rfl | ⟨before, separator, rfl, hsep⟩ := hfront.cases
  · have inside : ∀ c ∈ middle.reverse, (c != '/' && c != ':') = true := by
      intro c hc
      simpa using whole c (List.mem_reverse.mp hc)
    rw [List.nil_append, lastPart, List.takeWhile_eq_self_iff.mpr inside, List.reverse_reverse]
  · rw [List.append_assoc]
    exact lastPart_append_cons before hsep whole

/-- Slashes at the end are passed over, and then what follows the last separator counts. -/
theorem repositorySegment_append (hfront : BeforePart front) (filled : middle ≠ [])
    (whole : ∀ c ∈ middle, c ≠ '/' ∧ c ≠ ':') (slashes : Nat) :
    repositorySegment (String.ofList (front ++ (middle ++ List.replicate slashes '/'))) =
      String.ofList (dropGitSuffix middle) := by
  have trimmed := trimEnd_slashes front filled (fun c hc => (whole c hc).1) slashes
  rw [repositorySegment, String.toList_ofList, trimmed, dropGitSuffix_append hfront,
    lastPart_append hfront fun c hc => whole c (mem_dropGitSuffix hc)]

theorem repositorySegment_eq (front : List Char) (hsep : separator = '/' ∨ separator = ':')
    (filled : middle ≠ []) (whole : ∀ c ∈ middle, c ≠ '/' ∧ c ≠ ':') (slashes : Nat) :
    repositorySegment
        (String.ofList (front ++ separator :: (middle ++ List.replicate slashes '/'))) =
      String.ofList (dropGitSuffix middle) := by
  rw [← repositorySegment_append (beforePart_concat front hsep) filled whole slashes,
    List.append_assoc, List.singleton_append]

theorem not_separator_of_mem_lastPart {c : Char} {cs : List Char} (h : c ∈ lastPart cs) :
    c ≠ '/' ∧ c ≠ ':' := by
  rw [lastPart, List.mem_reverse] at h
  simpa using List.mem_takeWhile_imp h

end ImportWeights.Repository
