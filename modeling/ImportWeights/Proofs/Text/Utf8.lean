import ImportWeights.Proofs.Text.Pieces
import ImportWeights.Text.Utf8

/-! A byte below 128 always stands for itself. It ends whatever sequence was open before it,
so what comes before and what comes after can be decoded apart, and only such a byte decodes to
its character. Cutting bytes at one of them is therefore cutting the text at its character. -/

namespace ImportWeights.Text.Utf8

namespace Decoder

/-- The same reader with more read before it. -/
def onto (d : Decoder) (older : List (Option Char)) : Decoder :=
  ⟨d.pending, d.pieces ++ older⟩

@[simp] theorem onto_pending (d : Decoder) (older : List (Option Char)) :
    (d.onto older).pending = d.pending := rfl

theorem first_onto (done older : List (Option Char)) (b : UInt8) :
    first (done ++ older) b = (first done b).onto older := by
  simp only [first]
  repeat' split
  all_goals rfl

/-- What was read before has no influence on what is read now. -/
theorem step_onto (d : Decoder) (older : List (Option Char)) (b : UInt8) :
    (d.onto older).step b = (d.step b).onto older := by
  simp only [step, onto_pending]
  split
  · exact first_onto d.pieces older b
  · split
    · split <;> rfl
    · exact first_onto (none :: d.pieces) older b

theorem foldl_onto (d : Decoder) (older : List (Option Char)) (bytes : List UInt8) :
    bytes.foldl step (d.onto older) = (bytes.foldl step d).onto older := by
  induction bytes generalizing d with
  | nil => rfl
  | cons b bytes ih => rw [List.foldl_cons, List.foldl_cons, step_onto, ih]

theorem finish_onto (d : Decoder) (older : List (Option Char)) :
    (d.onto older).finish = older.reverse ++ d.finish := by
  cases h : d.pending.isSome <;> simp [finish, onto, h]

/-- With no sequence begun, a byte is a character, or an invalid part, or begins a sequence. -/
theorem first_pieces (done : List (Option Char)) (b : UInt8) :
    b.toNat < 128 ∧ (first done b).pieces = some (Char.ofNat b.toNat) :: done ∨
      (first done b).pieces = none :: done ∨ (first done b).pieces = done := by
  simp only [first]
  split
  · exact .inl ⟨‹_›, rfl⟩
  · right
    repeat' split
    all_goals simp

theorem finish_step_ne_nil (d : Decoder) (b : UInt8) : (d.step b).finish ≠ [] := by
  simp only [step, first]
  repeat' split
  all_goals simp [finish]

end Decoder

/-- A sequence begun by a byte of 192 or more. No byte below 128 goes on with it, and it comes
to no character of one byte: it has the bits for a longer one, or will have them after the byte
to come next. -/
structure Partial.Proper (p : Partial) : Prop where
  low : 128 ≤ p.low.toNat
  large : 2 ≤ p.bits ∨ 1 < p.missing ∧ 2 ≤ p.bits * 64 + (p.low.toNat - 0x80)

section Proper

variable {bits missing : Nat} {low high b : UInt8}

theorem Partial.Proper.more (h : (Partial.mk bits missing low high).Proper) (hb : low ≤ b) :
    (Partial.mk (bits * 64 + (b.toNat - 0x80)) (missing - 1) 0x80 0xbf).Proper := by
  have hlow : low.toNat ≤ b.toNat := UInt8.le_iff_toNat_le.mp hb
  have hgrown : 2 ≤ bits * 64 + (b.toNat - 0x80) := by
    cases h.large with
    | inl hbits => simp only at hbits; omega
    | inr hnext => simp only at hnext; omega
  exact ⟨Nat.le_refl 128, .inl hgrown⟩

theorem Partial.Proper.last (h : (Partial.mk bits missing low high).Proper)
    (hmissing : missing ≤ 1) : 128 ≤ bits * 64 + (b.toNat - 0x80) := by
  cases h.large with
  | inl hbits => simp only at hbits; omega
  | inr hnext => simp only at hnext; omega

end Proper

theorem Decoder.first_proper {done : List (Option Char)} {b : UInt8} {p : Partial}
    (h : (first done b).pending = some p) : p.Proper := by
  simp only [first] at h
  split at h
  · cases h
  split at h
  · cases h
  split at h
  · rw [← Option.some.inj h]
    exact ⟨Nat.le_refl 128, .inl (by simp; omega)⟩
  -- after the least lead byte of a length, a higher bound keeps overlong sequences out
  split at h
  · rw [← Option.some.inj h]
    by_cases hlead : b.toNat = 0xe0
    · exact ⟨by simp [hlead], .inr (by simp [hlead])⟩
    · exact ⟨by simp [hlead], .inr (by simp [hlead]; omega)⟩
  split at h
  · rw [← Option.some.inj h]
    by_cases hlead : b.toNat = 0xf0
    · exact ⟨by simp [hlead], .inr (by simp [hlead])⟩
    · exact ⟨by simp [hlead], .inr (by simp [hlead]; omega)⟩
  · cases h

theorem toNat_ofNat_of_large {n : Nat} (h : 128 ≤ n) :
    (Char.ofNat n).toNat = 0 ∨ 128 ≤ (Char.ofNat n).toNat := by
  by_cases hvalid : n.isValidChar
  · right
    rw [Char.ofNat, dif_pos hvalid]
    exact h
  · left
    rw [Char.ofNat, dif_neg hvalid]
    rfl

theorem toNat_ofNat_of_small {n : Nat} (h : n < 128) : (Char.ofNat n).toNat = n := by
  have hvalid : n.isValidChar := .inl (by omega)
  rw [Char.ofNat, dif_pos hvalid]
  rfl

/-- The characters of one byte among the pieces come from bytes that were there; only NUL also
stands for a number that is no character. -/
def Traced (bytes : List UInt8) (pieces : List (Option Char)) : Prop :=
  ∀ c, some c ∈ pieces → 0 < c.toNat → c.toNat < 128 → UInt8.ofNat c.toNat ∈ bytes

/-- What is known of a decoder that has read some bytes. -/
structure Reads (bytes : List UInt8) (d : Decoder) : Prop where
  pending : ∀ p, d.pending = some p → p.Proper
  pieces : Traced bytes d.pieces

namespace Traced

variable {bytes more : List UInt8} {pieces : List (Option Char)}

theorem invalid (h : Traced bytes pieces) : Traced bytes (none :: pieces) := by
  intro c hc
  cases hc with
  | tail _ hc => exact h c hc

theorem append (h : Traced bytes pieces) : Traced (bytes ++ more) pieces :=
  fun c hc hpos hsmall => List.mem_append_left more (h c hc hpos hsmall)

theorem small (h : Traced bytes pieces) {b : UInt8} (hb : b.toNat < 128) :
    Traced (bytes ++ [b]) (some (Char.ofNat b.toNat) :: pieces) := by
  intro c hc hpos hsmall
  cases hc with
  | head => rw [toNat_ofNat_of_small hb]; simp
  | tail _ hc => exact h.append c hc hpos hsmall

theorem large (h : Traced bytes pieces) {n : Nat} (hn : 128 ≤ n) :
    Traced bytes (some (Char.ofNat n) :: pieces) := by
  intro c hc hpos hsmall
  cases hc with
  | head =>
    cases toNat_ofNat_of_large hn with
    | inl hzero => omega
    | inr hlarge => omega
  | tail _ hc => exact h c hc hpos hsmall

theorem first (h : Traced bytes pieces) (b : UInt8) :
    Traced (bytes ++ [b]) (Decoder.first pieces b).pieces := by
  obtain ⟨hb, hpieces⟩ | hpieces | hpieces := Decoder.first_pieces pieces b
  · rw [hpieces]
    exact h.small hb
  · rw [hpieces]
    exact h.invalid.append
  · rw [hpieces]
    exact h.append

end Traced

namespace Reads

theorem first {bytes : List UInt8} {done : List (Option Char)} (h : Traced bytes done)
    (b : UInt8) : Reads (bytes ++ [b]) (Decoder.first done b) :=
  ⟨fun _ hp => Decoder.first_proper hp, h.first b⟩

theorem step {bytes : List UInt8} {d : Decoder} (h : Reads bytes d) (b : UInt8) :
    Reads (bytes ++ [b]) (d.step b) := by
  obtain ⟨pending, pieces⟩ := d
  cases pending with
  | none => exact first h.pieces b
  | some p =>
    obtain ⟨bits, missing, low, high⟩ := p
    have hproper := h.pending _ rfl
    simp only [Decoder.step]
    split
    · rename_i hb
      split
      · rename_i hmissing
        exact ⟨nofun, (h.pieces.large (hproper.last hmissing)).append⟩
      · refine ⟨fun p hp => ?_, h.pieces.append⟩
        rw [← Option.some.inj hp]
        exact hproper.more hb.1
    · exact first h.pieces.invalid b

theorem foldl {bytes : List UInt8} {d : Decoder} (h : Reads bytes d) (more : List UInt8) :
    Reads (bytes ++ more) (more.foldl Decoder.step d) := by
  induction more generalizing bytes d with
  | nil => rw [List.append_nil]; exact h
  | cons b more ih =>
    have hrest := ih (h.step b)
    rwa [List.append_assoc, List.singleton_append] at hrest

theorem fresh : Reads [] Decoder.fresh := by
  refine ⟨fun p hp => ?_, fun c hc => ?_⟩
  · cases hp
  · cases hc

theorem run (bytes : List UInt8) : Reads bytes (bytes.foldl Decoder.step Decoder.fresh) :=
  fresh.foldl bytes

/-- A byte below 128 ends what is open and stands for itself. -/
theorem step_ascii {bytes : List UInt8} {d : Decoder} (h : Reads bytes d) {b : UInt8}
    (hb : b.toNat < 128) :
    d.step b = Decoder.fresh.onto (some (Char.ofNat b.toNat) :: d.finish.reverse) := by
  obtain ⟨pending, pieces⟩ := d
  cases pending with
  | none => simp [Decoder.step, Decoder.first, hb, Decoder.finish, Decoder.onto, Decoder.fresh]
  | some p =>
    have hlow : ¬ p.low ≤ b := by
      have := (h.pending p rfl).low
      rw [UInt8.le_iff_toNat_le]
      omega
    simp [Decoder.step, Decoder.first, hlow, hb, Decoder.finish, Decoder.onto, Decoder.fresh]

end Reads

section Bytes

variable {b : UInt8} {bytes more : List UInt8}

theorem parts_append_cons (hb : b.toNat < 128) :
    parts (bytes ++ b :: more) = parts bytes ++ some (Char.ofNat b.toNat) :: parts more := by
  rw [parts, List.foldl_append, List.foldl_cons, (Reads.run bytes).step_ascii hb,
    Decoder.foldl_onto, Decoder.finish_onto, List.reverse_cons, List.reverse_reverse,
    List.append_assoc, List.singleton_append]
  rfl

theorem parts_ne_nil (h : bytes ≠ []) : parts bytes ≠ [] := by
  obtain rfl | ⟨bytes, b, rfl⟩ := List.eq_nil_or_concat bytes
  · contradiction
  · rw [parts, List.concat_eq_append, List.foldl_append]
    exact Decoder.finish_step_ne_nil _ b

@[simp] theorem decodeLossy_nil : decodeLossy [] = [] := rfl

theorem decodeLossy_ne_nil (h : bytes ≠ []) : decodeLossy bytes ≠ [] := by
  rw [decodeLossy, Ne, List.map_eq_nil_iff]
  exact parts_ne_nil h

/-- Decoding goes apart at every byte below 128. -/
theorem decodeLossy_append_cons (hb : b.toNat < 128) :
    decodeLossy (bytes ++ b :: more) =
      decodeLossy bytes ++ Char.ofNat b.toNat :: decodeLossy more := by
  simp only [decodeLossy, parts_append_cons hb, List.map_append, List.map_cons,
    Option.getD_some]

/-- A character below 128 in the decoded text was there as its byte. -/
theorem mem_of_mem_decodeLossy {c : Char} (hc : c ∈ decodeLossy bytes) (hpos : 0 < c.toNat)
    (hsmall : c.toNat < 128) : UInt8.ofNat c.toNat ∈ bytes := by
  obtain ⟨part, hpart, rfl⟩ := List.mem_map.mp hc
  cases part with
  | none => exact absurd hsmall (by decide)
  | some c =>
    refine (Reads.run bytes).pieces c ?_ hpos hsmall
    rw [parts, Decoder.finish, List.mem_reverse] at hpart
    split at hpart
    · simpa using hpart
    · exact hpart

theorem not_mem_decodeLossy (hpos : 0 < b.toNat) (hb : b.toNat < 128) (h : b ∉ bytes) :
    Char.ofNat b.toNat ∉ decodeLossy bytes := by
  intro hmem
  have hsame := toNat_ofNat_of_small hb
  have hbyte := mem_of_mem_decodeLossy hmem (by omega) (by omega)
  rw [hsame, UInt8.ofNat_toNat] at hbyte
  exact h hbyte

/-- Cutting before decoding is cutting after it. -/
theorem pieces_decodeLossy (hpos : 0 < b.toNat) (hb : b.toNat < 128) (bytes : List UInt8) :
    pieces (Char.ofNat b.toNat) (decodeLossy bytes) =
      (pieces b bytes).map fun p => (decodeLossy p.1, p.2) := by
  induction bytes using pieces_induction b with
  | nil => rfl
  | last bytes hne hbytes =>
    rw [pieces_of_not_mem hne hbytes, pieces_of_not_mem (decodeLossy_ne_nil hne)
      (not_mem_decodeLossy hpos hb hbytes)]
    rfl
  | cut bytes more hbytes ih =>
    rw [decodeLossy_append_cons hb, pieces_append_cons (not_mem_decodeLossy hpos hb hbytes), ih,
      pieces_append_cons hbytes, List.map_cons]

/-- Taking a last byte off before decoding is taking its character off after it. -/
theorem dropTrailing_decodeLossy (hpos : 0 < b.toNat) (hb : b.toNat < 128)
    (bytes : List UInt8) :
    dropTrailing (Char.ofNat b.toNat) (decodeLossy bytes) =
      decodeLossy (dropTrailing b bytes) := by
  induction bytes using pieces_induction b with
  | nil => rfl
  | last bytes hne hbytes =>
    rw [dropTrailing_of_not_mem hbytes,
      dropTrailing_of_not_mem (not_mem_decodeLossy hpos hb hbytes)]
  | cut bytes more hbytes ih =>
    rw [decodeLossy_append_cons hb]
    by_cases hmore : more = []
    · rw [hmore, decodeLossy_nil, dropTrailing_concat, dropTrailing_concat]
    · rw [dropTrailing_append_cons (fun h => absurd h hmore), decodeLossy_append_cons hb, ← ih,
        dropTrailing_append_cons (fun h => absurd h (decodeLossy_ne_nil hmore))]

end Bytes

end ImportWeights.Text.Utf8
