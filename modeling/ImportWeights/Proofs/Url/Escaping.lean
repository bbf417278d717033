import ImportWeights.Proofs.Text.Ascii
import ImportWeights.Proofs.Text.Encoding
import ImportWeights.Url.Percent

/-! # Escapes

Every byte of an escape is read back, so a text comes back from its escaped form, whatever set of
characters is escaped, as long as a percent sign is never left as it stands. -/

namespace ImportWeights.Url

open ImportWeights.Text

variable {c : Char} {cs : List Char} {set : Char → Bool}

theorem unescape_cons_of_ne {b : UInt8} (h : b ≠ 37) (bytes : List UInt8) :
    unescape (b :: bytes) = b :: unescape bytes := by
  match bytes with
  | [] => rfl
  | [_] => rfl
  | _ :: _ :: _ => rw [unescape, if_neg h]

theorem unescape_of_no_percent {bytes : List UInt8} (h : 37 ∉ bytes) : unescape bytes = bytes := by
  induction bytes with
  | nil => rfl
  | cons b bytes ih =>
    rw [List.mem_cons, not_or] at h
    rw [unescape_cons_of_ne (Ne.symm h.1), ih h.2]

/-! ## Escaping and back -/

theorem hexDigit_spec : ∀ n < 16,
    (hexDigit true n).toNat < 128 ∧ hexValue? (hexDigit true n).toNat = some n := by
  decide

theorem unescape_escapedByte (b : UInt8) (rest : List UInt8) :
    unescape (Utf8.encode ('%' :: hexByte true b) ++ rest) = b :: unescape rest := by
  have size := b.toNat_lt
  obtain ⟨highSmall, highValue⟩ := hexDigit_spec (b.toNat / 16) (by omega)
  obtain ⟨lowSmall, lowValue⟩ := hexDigit_spec (b.toNat % 16) (by omega)
  have code {n : Nat} (small : n < 128) : (UInt8.ofNat n).toNat = n :=
    UInt8.toNat_ofNat_of_lt' (Nat.lt_trans small (by decide))
  have small : ∀ c ∈ '%' :: hexByte true b, c.toNat < 128 := by
    simp [hexByte, highSmall, lowSmall]
  have whole : 16 * (b.toNat / 16) + b.toNat % 16 = b.toNat := Nat.div_add_mod _ _
  rw [Utf8.encode_of_small small]
  simp [hexByte, unescape, code highSmall, code lowSmall, highValue, lowValue, whole]

theorem unescape_escapedBytes (bytes rest : List UInt8) :
    unescape (Utf8.encode (bytes.flatMap fun b => '%' :: hexByte true b) ++ rest) =
      bytes ++ unescape rest := by
  induction bytes with
  | nil => rfl
  | cons b bytes ih =>
    rw [List.flatMap_cons, Utf8.encode_append, List.append_assoc, unescape_escapedByte, ih]
    rfl

/-- A text comes back from its escaped form. -/
theorem unescapeText_escape (percent : ∀ c ∈ cs, c = '%' → set c = true) :
    unescapeText (escape set cs) = Utf8.encode cs := by
  induction cs with
  | nil => rfl
  | cons c cs ih =>
    rw [List.forall_mem_cons] at percent
    have rest : unescape (Utf8.encode (escape set cs)) = Utf8.encode cs := ih percent.2
    have both : Utf8.encode (c :: cs) = String.utf8EncodeChar c ++ Utf8.encode cs :=
      List.flatMap_cons
    rw [unescapeText, escape, List.flatMap_cons, ← escape, Utf8.encode_append, both]
    split
    · rw [escapeChar, unescape_escapedBytes, rest]
    · rename_i asIs
      simp only [Bool.or_eq_true, decide_eq_true_eq, not_or] at asIs
      have small : c.toNat < 128 := Nat.lt_of_not_le asIs.1.2
      -- left as it is, it would begin an escape only if it were a percent sign
      have other : UInt8.ofNat c.toNat ≠ 37 := by
        intro same
        have code := congrArg UInt8.toNat same
        rw [UInt8.toNat_ofNat_of_lt' (Nat.lt_trans small (by decide))] at code
        exact asIs.2 (percent.1 (Char.toNat_inj.mp code))
      have alone : Utf8.encode [c] = [UInt8.ofNat c.toNat] :=
        Utf8.encode_of_small (by simpa using small)
      rw [alone, Utf8.utf8EncodeChar_of_small small, List.singleton_append,
        unescape_cons_of_ne other, rest]
      rfl

end ImportWeights.Url
