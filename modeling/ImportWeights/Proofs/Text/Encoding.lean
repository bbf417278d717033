import Mathlib.Logic.Function.Defs
import ImportWeights.Text.Utf8

/-! The bytes of a text. They are the encodings of its characters, so they decode to the text, and a
byte below 128 is among them only for the character that it stands for. -/

namespace ImportWeights.Text.Utf8

private theorem toList_loop (bytes : ByteArray) (i : Nat) (done : List UInt8) :
    ByteArray.toList.loop bytes i done = done.reverse ++ bytes.data.toList.drop i := by
  induction i, done using ByteArray.toList.loop.induct bytes with
  | case1 i done before ih =>
    have next : bytes.data.toList.drop i = bytes.get! i :: bytes.data.toList.drop (i + 1) := by
      rw [List.drop_eq_getElem_cons (by simpa using before)]
      simp [ByteArray.get!, before]
    rw [ByteArray.toList.loop, if_pos before, ih, next]
    simp
  | case2 i done after =>
    rw [ByteArray.toList.loop, if_neg after, List.drop_eq_nil_of_le (by simpa using after),
      List.append_nil]

theorem encode_append (cs ds : List Char) : encode (cs ++ ds) = encode cs ++ encode ds :=
  List.flatMap_append

theorem encode_eq_nil_iff {cs : List Char} : encode cs = [] ↔ cs = [] := by
  cases cs <;> simp [encode]

theorem ofString_eq (s : String) : ofString s = encode s.toList := by
  have bytes : s.toUTF8 = (encode s.toList).toByteArray := String.utf8Encode_toList.symm
  rw [ofString, ByteArray.toList, toList_loop, bytes, List.toList_data_toByteArray]
  rfl

theorem length_le_length_encode (cs : List Char) : cs.length ≤ (encode cs).length := by
  induction cs with
  | nil => exact Nat.le_refl 0
  | cons c cs ih =>
    have one := c.utf8Size_pos
    rw [encode, List.flatMap_cons, List.length_append, String.length_utf8EncodeChar, ← encode,
      List.length_cons]
    omega

theorem length_le_utf8ByteSize (s : String) : s.length ≤ s.utf8ByteSize := by
  have bytes : (encode s.toList).toByteArray = s.toByteArray := String.utf8Encode_toList
  rw [← String.length_toList, ← String.size_toByteArray, ← bytes, List.size_toByteArray]
  exact length_le_length_encode s.toList

theorem ofString_injective : Function.Injective ofString := by
  intro s t h
  rw [ofString_eq, ofString_eq] at h
  rw [← String.toByteArray_inj, ← String.utf8Encode_toList, ← String.utf8Encode_toList]
  exact congrArg List.toByteArray h

/-- Only a character below 128 has such a byte in its encoding, and it is that one. -/
theorem mem_utf8EncodeChar {b : UInt8} (hb : b.toNat < 128) {c : Char} :
    b ∈ String.utf8EncodeChar c ↔ c.toNat = b.toNat := by
  have small (n : Nat) (h : n < 256) : b = UInt8.ofNat n ↔ b.toNat = n := by
    rw [← UInt8.toNat_inj, UInt8.toNat_ofNat_of_lt' h]
  have hc : c.val.toNat = c.toNat := rfl
  rw [String.utf8EncodeChar]
  split
  · rw [List.mem_singleton, small _ (by omega)]
    omega
  split
  · simp only [List.mem_cons, List.not_mem_nil, or_false]
    rw [small _ (by omega), small _ (by omega)]
    omega
  split
  · simp only [List.mem_cons, List.not_mem_nil, or_false]
    rw [small _ (by omega), small _ (by omega), small _ (by omega)]
    omega
  · simp only [List.mem_cons, List.not_mem_nil, or_false]
    rw [small _ (by omega), small _ (by omega), small _ (by omega), small _ (by omega)]
    omega

theorem mem_ofString {b : UInt8} (hb : b.toNat < 128) {s : String} :
    b ∈ ofString s ↔ ∃ c ∈ s.toList, c.toNat = b.toNat := by
  rw [ofString_eq, encode, List.mem_flatMap]
  simp only [mem_utf8EncodeChar hb]

/-! ## Decoding what was encoded -/

namespace Decoder

variable {n bits missing : Nat} {low high : UInt8}

theorem toNat_byte (h : n < 256) : (UInt8.ofNat n).toNat = n := UInt8.toNat_ofNat_of_lt' h

/-! The bytes that begin a sequence, by its length, and those that go on with one. -/

theorem begin_one (done : List (Option Char)) (h : n < 0x80) :
    step ⟨none, done⟩ (UInt8.ofNat n) = ⟨none, some (Char.ofNat n) :: done⟩ := by
  simp [step, first, toNat_byte (show n < 256 by omega), h]

theorem begin_two (done : List (Option Char)) (h : 0xc2 ≤ n) (h' : n < 0xe0) :
    step ⟨none, done⟩ (UInt8.ofNat n) = ⟨some ⟨n - 0xc0, 1, 0x80, 0xbf⟩, done⟩ := by
  have one : ¬ n < 0x80 := by omega
  have lead : ¬ n < 0xc2 := by omega
  simp [step, first, toNat_byte (show n < 256 by omega), one, lead, h']

theorem begin_three (done : List (Option Char)) (h : 0xe0 ≤ n) (h' : n < 0xf0) :
    step ⟨none, done⟩ (UInt8.ofNat n) = ⟨some ⟨n - 0xe0, 2, if n = 0xe0 then 0xa0 else 0x80,
      if n = 0xed then 0x9f else 0xbf⟩, done⟩ := by
  have one : ¬ n < 0x80 := by omega
  have lead : ¬ n < 0xc2 := by omega
  have two : ¬ n < 0xe0 := by omega
  simp [step, first, toNat_byte (show n < 256 by omega), one, lead, two, h']

theorem begin_four (done : List (Option Char)) (h : 0xf0 ≤ n) (h' : n < 0xf5) :
    step ⟨none, done⟩ (UInt8.ofNat n) = ⟨some ⟨n - 0xf0, 3, if n = 0xf0 then 0x90 else 0x80,
      if n = 0xf4 then 0x8f else 0xbf⟩, done⟩ := by
  have one : ¬ n < 0x80 := by omega
  have lead : ¬ n < 0xc2 := by omega
  have two : ¬ n < 0xe0 := by omega
  have three : ¬ n < 0xf0 := by omega
  simp [step, first, toNat_byte (show n < 256 by omega), one, lead, two, three, h']

theorem step_within (done : List (Option Char)) (hlow : low.toNat ≤ n) (hhigh : n ≤ high.toNat) :
    step ⟨some ⟨bits, missing, low, high⟩, done⟩ (UInt8.ofNat n) =
      if missing ≤ 1 then ⟨none, some (Char.ofNat (bits * 64 + (n - 0x80))) :: done⟩
      else ⟨some ⟨bits * 64 + (n - 0x80), missing - 1, 0x80, 0xbf⟩, done⟩ := by
  have same := toNat_byte (Nat.lt_of_le_of_lt hhigh high.toNat_lt)
  have within : low ≤ UInt8.ofNat n ∧ UInt8.ofNat n ≤ high := by
    rw [UInt8.le_iff_toNat_le, UInt8.le_iff_toNat_le, same]
    exact ⟨hlow, hhigh⟩
  simp only [step, within, same]
  rfl

/-- Only the byte after the first one has bounds of its own. -/
theorem step_rest (done : List (Option Char)) (bits missing v : Nat) :
    step ⟨some ⟨bits, missing, 0x80, 0xbf⟩, done⟩ (UInt8.ofNat (v % 64 + 0x80)) =
      if missing ≤ 1 then ⟨none, some (Char.ofNat (bits * 64 + v % 64)) :: done⟩
      else ⟨some ⟨bits * 64 + v % 64, missing - 1, 0x80, 0xbf⟩, done⟩ := by
  have low : UInt8.toNat 0x80 ≤ v % 64 + 0x80 := Nat.le_add_left _ _
  have high : v % 64 + 0x80 ≤ UInt8.toNat 0xbf := by
    have bound : v % 64 < 64 := Nat.mod_lt _ (by decide)
    exact Nat.le_of_lt_succ (Nat.add_lt_add_right bound 0x80)
  rw [step_within done low high, Nat.add_sub_cancel]

/-- The bytes of a character are read as it. -/
theorem foldl_utf8EncodeChar (done : List (Option Char)) (c : Char) :
    (String.utf8EncodeChar c).foldl step ⟨none, done⟩ = ⟨none, some c :: done⟩ := by
  have valid : c.toNat < 0xd800 ∨ 0xdfff < c.toNat ∧ c.toNat < 0x110000 := c.valid
  have code : c.val.toNat = c.toNat := rfl
  have read {n : Nat} (h : n = c.toNat) : Char.ofNat n = c := h ▸ Char.ofNat_toNat c
  rw [String.utf8EncodeChar, code]
  -- the cases are the lengths; the bounds keep out what is shorter and what is no character
  generalize c.toNat = v at *
  split
  · rename_i one
    rw [List.foldl_cons, List.foldl_nil, begin_one done (by omega), read rfl]
  split
  · rename_i one two
    rw [List.foldl_cons, List.foldl_cons, List.foldl_nil, begin_two done (by omega) (by omega),
      step_rest, if_pos (Nat.le_refl 1), read (by omega)]
  split
  · rename_i one two three
    have low : UInt8.toNat (if v / 4096 % 16 + 0xe0 = 0xe0 then 0xa0 else 0x80) ≤
        v / 64 % 64 + 0x80 := by
      split <;> simp; omega
    have high : v / 64 % 64 + 0x80 ≤
        UInt8.toNat (if v / 4096 % 16 + 0xe0 = 0xed then 0x9f else 0xbf) := by
      split <;> simp <;> omega
    rw [List.foldl_cons, List.foldl_cons, List.foldl_cons, List.foldl_nil,
      begin_three done (by omega) (by omega), step_within done low high, if_neg (by decide),
      step_rest, if_pos (Nat.le_refl 1), read (by omega)]
  · rename_i one two three
    have low : UInt8.toNat (if v / 262144 % 8 + 0xf0 = 0xf0 then 0x90 else 0x80) ≤
        v / 4096 % 64 + 0x80 := by
      split <;> simp; omega
    have high : v / 4096 % 64 + 0x80 ≤
        UInt8.toNat (if v / 262144 % 8 + 0xf0 = 0xf4 then 0x8f else 0xbf) := by
      split <;> simp <;> omega
    rw [List.foldl_cons, List.foldl_cons, List.foldl_cons, List.foldl_cons, List.foldl_nil,
      begin_four done (by omega) (by omega), step_within done low high, if_neg (by decide),
      step_rest, if_neg (by decide), step_rest, if_pos (Nat.le_refl 1), read (by omega)]

theorem foldl_encode (done : List (Option Char)) (cs : List Char) :
    (encode cs).foldl step ⟨none, done⟩ = ⟨none, (cs.map some).reverse ++ done⟩ := by
  induction cs generalizing done with
  | nil => rfl
  | cons c cs ih =>
    rw [encode, List.flatMap_cons, List.foldl_append, foldl_utf8EncodeChar, ← encode, ih]
    simp

end Decoder

theorem parts_encode (cs : List Char) : parts (encode cs) = cs.map some := by
  rw [parts, Decoder.fresh, Decoder.foldl_encode]
  simp [Decoder.finish]

/-- The bytes of a text decode to it. -/
theorem decode?_encode (cs : List Char) : decode? (encode cs) = some cs := by
  rw [decode?, parts_encode]
  simp

/-- Nothing is replaced in the bytes of a text. -/
theorem lossyString_ofString (s : String) : lossyString (ofString s) = s := by
  rw [lossyString, decodeLossy, ofString_eq, parts_encode, List.map_map]
  exact (congrArg String.ofList (List.map_id s.toList)).trans String.ofList_toList

end ImportWeights.Text.Utf8
