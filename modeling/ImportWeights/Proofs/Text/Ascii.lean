import Mathlib.Data.List.TakeWhile
import ImportWeights.Text.Ascii
import ImportWeights.Text.Trim
import ImportWeights.Text.Utf8

/-! ASCII texts. Their bytes are the codes of their characters, and the digits of a number are read
as that number. There are 128 ASCII characters, so what holds of a kind of them is checked one by
one. -/

namespace ImportWeights.Text

variable {c : Char} {cs : List Char}

/-- What holds of the first 128 characters holds of every ASCII character. -/
theorem of_ascii {p : Char → Prop} (h : ∀ n < 128, p (Char.ofNat n)) (small : c.toNat < 128) :
    p c := by
  have hc := h c.toNat small
  rwa [Char.ofNat_toNat] at hc

/-- Only an ASCII character has another one in lower case. -/
theorem lowerAscii_eq_self_or_small (c : Char) : lowerAscii c = c ∨ c.toNat < 128 := by
  by_cases upper : 'A' ≤ c ∧ c ≤ 'Z'
  · exact .inr (Nat.lt_of_le_of_lt upper.2 (by decide))
  · exact .inl (if_neg upper)

theorem lowerAscii_lowerAscii (c : Char) : lowerAscii (lowerAscii c) = lowerAscii c := by
  obtain fixed | small := lowerAscii_eq_self_or_small c
  · rw [fixed, fixed]
  · exact of_ascii (p := fun c => lowerAscii (lowerAscii c) = lowerAscii c) (by decide) small

/-! ## Decimal digits -/

theorem isDigit_iff : isDigit c = true ↔ 48 ≤ c.toNat ∧ c.toNat ≤ 57 := by
  simp only [isDigit, Bool.and_eq_true, decide_eq_true_eq]
  exact Iff.rfl

theorem isDigit_of_mem_toDigits {n : Nat} (h : c ∈ Nat.toDigits 10 n) : isDigit c = true := by
  have digit := Nat.isDigit_of_mem_toDigits (by decide) (by decide) h
  simpa [isDigit_iff, Char.isDigit, UInt32.le_iff_toNat_le] using digit

theorem digitsValue_eq (h : ∀ c ∈ cs, isDigit c = true) :
    digitsValue 10 cs = Nat.ofDigitChars 10 cs 0 := by
  suffices ∀ n, cs.foldl (fun n c => n * 10 + (hexValue? c.toNat).getD 0) n =
      Nat.ofDigitChars 10 cs n from this 0
  induction cs with
  | nil => intro n; rfl
  | cons c cs ih =>
    intro n
    obtain ⟨hc, hcs⟩ := List.forall_mem_cons.mp h
    rw [List.foldl_cons, ih hcs, Nat.ofDigitChars_cons, hexValue?, if_pos (isDigit_iff.mp hc),
      Nat.mul_comm]
    rfl

/-- The digits of a number are read as the number. -/
theorem digitsValue_toDigits (n : Nat) : digitsValue 10 (Nat.toDigits 10 n) = n := by
  rw [digitsValue_eq fun _ => isDigit_of_mem_toDigits,
    Nat.ofDigitChars_toDigits (by decide) (by decide)]

/-! ## Runs of characters -/

theorem bne_of_not_mem {x : Char} (h : x ∉ cs) : ∀ c ∈ cs, (c != x) = true :=
  fun _ hc => bne_iff_ne.mpr fun same => h (same ▸ hc)

section Run

variable {α : Type} {p : α → Bool} {xs : List α} {x : α}

/-- What comes behind the first that is not taken makes no difference. -/
theorem takeWhile_append_stop (hx : p x = false) (xs ys : List α) :
    (xs ++ x :: ys).takeWhile p = xs.takeWhile p := by
  induction xs with
  | nil => exact List.takeWhile_cons_of_neg (ne_true_of_eq_false hx)
  | cons y xs ih => cases hy : p y <;> simp [hy, ih]

theorem dropWhile_append_stop (hx : p x = false) (xs ys : List α) :
    (xs ++ x :: ys).dropWhile p = xs.dropWhile p ++ x :: ys := by
  induction xs with
  | nil => exact List.dropWhile_cons_of_neg (ne_true_of_eq_false hx)
  | cons y xs ih => cases hy : p y <;> simp [hy, ih]

theorem takeWhile_append_cons (front : ∀ y ∈ xs, p y = true) (hx : p x = false) (ys : List α) :
    (xs ++ x :: ys).takeWhile p = xs := by
  rw [List.takeWhile_append_of_pos front, List.takeWhile_cons_of_neg (ne_true_of_eq_false hx),
    List.append_nil]

theorem dropWhile_append_cons (front : ∀ y ∈ xs, p y = true) (hx : p x = false) (ys : List α) :
    (xs ++ x :: ys).dropWhile p = x :: ys := by
  rw [List.dropWhile_append_of_pos front, List.dropWhile_cons_of_neg (ne_true_of_eq_false hx)]

/-- Only what comes after the last `x` that stays is cut off at the end. -/
theorem trimEnd_append_cons (hx : p x = false) (xs ys : List α) :
    trimEnd p (xs ++ x :: ys) = xs ++ x :: trimEnd p ys := by
  rw [trimEnd, trimEnd, List.reverse_append, List.reverse_cons, List.append_assoc,
    List.dropWhile_append]
  split
  · rename_i cut
    simp [List.isEmpty_iff.mp cut, hx]
  · simp

/-- What is cut off anyway makes no difference at the end. -/
theorem trimEnd_append_of_all {back : List α} (h : ∀ x ∈ back, p x = true) (xs : List α) :
    trimEnd p (xs ++ back) = trimEnd p xs := by
  have cut : ∀ x ∈ back.reverse, p x = true := fun x hx => h x (List.mem_reverse.mp hx)
  rw [trimEnd, trimEnd, List.reverse_append, List.dropWhile_append_of_pos cut]

theorem trimEnd_append_replicate (hx : p x = true) (xs : List α) (n : Nat) :
    trimEnd p (xs ++ List.replicate n x) = trimEnd p xs :=
  trimEnd_append_of_all (fun _ hy => List.eq_of_mem_replicate hy ▸ hx) xs

/-- Nothing is cut off behind something that stays. -/
theorem trimEnd_eq_self (h : ∀ last ∈ xs.getLast?, p last = false) : trimEnd p xs = xs := by
  obtain rfl | ⟨front, last, rfl⟩ := List.eq_nil_or_concat xs
  · rfl
  · rw [List.concat_eq_append] at h ⊢
    rw [trimEnd_append_cons (h last (by simp)), trimEnd, List.reverse_nil, List.dropWhile_nil,
      List.reverse_nil]

end Run

/-- Nothing is cut off a text without characters to cut off. -/
theorem trimBoth_eq_self {p : Char → Bool} (h : ∀ c ∈ cs, p c = false) : trimBoth p cs = cs := by
  have front : cs.dropWhile p = cs := by
    rw [List.dropWhile_eq_self_iff]
    intro filled
    exact ne_true_of_eq_false (h _ (List.getElem_mem filled))
  have back : cs.reverse.dropWhile p = cs.reverse := by
    rw [List.dropWhile_eq_self_iff]
    intro filled
    exact ne_true_of_eq_false (h _ (List.mem_reverse.mp (List.getElem_mem filled)))
  rw [trimBoth, front, trimEnd, back, List.reverse_reverse]

theorem trim_eq_self {s : String} (h : ∀ c ∈ s.toList, isBlank c = false) : trim s = s := by
  rw [trim, trimBoth_eq_self h, String.ofList_toList]

end ImportWeights.Text

namespace ImportWeights.Text.Utf8

variable {c : Char} {cs : List Char}

theorem utf8EncodeChar_of_small (h : c.toNat < 128) :
    String.utf8EncodeChar c = [UInt8.ofNat c.toNat] := by
  have small : c.val.toNat ≤ 127 := Nat.le_of_lt_succ h
  rw [String.utf8EncodeChar]
  exact if_pos small

theorem encode_of_small (h : ∀ c ∈ cs, c.toNat < 128) :
    encode cs = cs.map fun c => UInt8.ofNat c.toNat := by
  induction cs with
  | nil => rfl
  | cons c cs ih =>
    obtain ⟨hc, hcs⟩ := List.forall_mem_cons.mp h
    rw [encode, List.flatMap_cons, utf8EncodeChar_of_small hc, ← encode, ih hcs]
    rfl

end ImportWeights.Text.Utf8
