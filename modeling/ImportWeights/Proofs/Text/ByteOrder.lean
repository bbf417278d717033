import Mathlib.Data.String.Basic
import ImportWeights.Proofs.Text.Encoding

/-! Texts are in the order of their bytes. Of two characters, the lower one has the lower byte where
their encodings first differ, and they always differ before either of them ends, so what follows the
two characters cannot turn the order round. -/

namespace ImportWeights.Text.Utf8

open Decoder (toNat_byte)

/-- Where the two first differ, the first one has the lower byte. -/
def Lower : List UInt8 → List UInt8 → Prop
  | b :: bytes, b' :: bytes' => b.toNat < b'.toNat ∨ b.toNat = b'.toNat ∧ Lower bytes bytes'
  | _, _ => False

variable {bytes bytes' : List UInt8} {c d : Char} {cs ds : List Char} {s t : String}

theorem Lower.append_lt (h : Lower bytes bytes') (more more' : List UInt8) :
    bytes ++ more < bytes' ++ more' := by
  induction bytes generalizing bytes' with
  | nil => cases h
  | cons b bytes ih =>
    cases bytes' with
    | nil => cases h
    | cons b' bytes' =>
      rw [List.cons_append, List.cons_append, List.cons_lt_cons_iff, UInt8.lt_iff_toNat_lt,
        ← UInt8.toNat_inj]
      exact h.imp_right fun ⟨same, rest⟩ => ⟨same, ih rest⟩

theorem lower_utf8EncodeChar (h : c < d) :
    Lower (String.utf8EncodeChar c) (String.utf8EncodeChar d) := by
  have below : c.val.toNat < d.val.toNat := h
  have last : d.val.toNat < 0x110000 := by
    obtain small | ⟨-, large⟩ := d.valid
    · exact Nat.lt_trans small (by decide)
    · exact large
  rw [String.utf8EncodeChar, String.utf8EncodeChar]
  have twelve (k : Nat) : k / 4096 = k / 64 / 64 := by omega
  have eighteen (k : Nat) : k / 262144 = k / 64 / 64 / 64 := by omega
  -- a longer encoding begins with a higher byte; two of one length spell their numbers
  generalize c.val.toNat = n at *
  generalize d.val.toNat = m at *
  repeat' split
  all_goals
    simp (disch := omega) only [Lower, toNat_byte, twelve, eighteen]
    omega

theorem encode_lt_encode (h : cs < ds) : encode cs < encode ds := by
  induction h with
  | nil =>
    rename_i d ds
    obtain ⟨b, bytes, filled⟩ :=
      List.exists_cons_of_ne_nil (mt encode_eq_nil_iff.mp (List.cons_ne_nil d ds))
    rw [filled]
    exact List.nil_lt_cons b bytes
  | cons _ ih => exact List.append_left_lt ih
  | rel first => exact (lower_utf8EncodeChar first).append_lt _ _

theorem ofString_lt_ofString_iff : ofString s < ofString t ↔ s < t := by
  have keeps {s t : String} (h : s < t) : ofString s < ofString t := by
    rw [ofString_eq, ofString_eq]
    exact encode_lt_encode (String.lt_iff_toList_lt.mp h)
  refine ⟨?_, keeps⟩
  intro h
  by_contra behind
  obtain same | lower := (not_lt.mp behind).eq_or_lt
  · exact List.lt_irrefl _ (same ▸ h)
  · exact List.lt_asymm h (keeps lower)

end ImportWeights.Text.Utf8
