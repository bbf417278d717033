import ImportWeights.Proofs.Text.Pieces
import ImportWeights.Proofs.Url.Escaping
import ImportWeights.Url.Parse

/-! # Forms

What is written into a form is read out of it again, whatever the texts are: no text brings in a
character that parts the pairs, and every byte comes back. Pairs put at the end of a query come
after those that it had. -/

namespace ImportWeights.Url

open ImportWeights.Text

variable {cs : List Char}

/-! ## One text -/

/-- A form's plus signs as the blanks that they stand for. -/
def unplus (cs : List Char) : List Char := cs.map fun c => if c = '+' then ' ' else c

theorem unplus_append (cs ds : List Char) : unplus (cs ++ ds) = unplus cs ++ unplus ds :=
  List.map_append

theorem unplus_of_not_mem (h : '+' ∉ cs) : unplus cs = cs := by
  have same : cs.map (fun c => if c = '+' then ' ' else c) = cs.map id := by
    refine List.map_congr_left fun c hc => if_neg ?_
    rintro rfl
    exact h hc
  rw [unplus, same, List.map_id]

/-- What no text brings into a form. -/
def PartsNothing (cs : List Char) : Prop := '&' ∉ cs ∧ '=' ∉ cs

theorem small_of_isFormSafe {b : UInt8} (h : isFormSafe b = true) : b.toNat < 128 := by
  simp only [isFormSafe, Bool.or_eq_true, Bool.and_eq_true, decide_eq_true_eq, beq_iff_eq] at h
  omega

/-- A byte that stands for itself is none of those that mean something else. -/
theorem plain_of_isFormSafe {b : UInt8} (h : isFormSafe b = true) :
    b ≠ 37 ∧ (Char.ofNat b.toNat).toNat = b.toNat ∧
      '+' ∉ [Char.ofNat b.toNat] ∧ PartsNothing [Char.ofNat b.toNat] := by
  have plain : ∀ n < 128, isFormSafe (UInt8.ofNat n) = true →
      UInt8.ofNat n ≠ 37 ∧ (Char.ofNat n).toNat = n ∧
        '+' ∉ [Char.ofNat n] ∧ '&' ∉ [Char.ofNat n] ∧ '=' ∉ [Char.ofNat n] := by
    decide
  have found := plain b.toNat (small_of_isFormSafe h)
  rw [UInt8.ofNat_toNat] at found
  exact found h

theorem plain_hexByte (b : UInt8) :
    '+' ∉ '%' :: hexByte true b ∧ PartsNothing ('%' :: hexByte true b) := by
  have digit : ∀ n < 16,
      '+' ≠ hexDigit true n ∧ '&' ≠ hexDigit true n ∧ '=' ≠ hexDigit true n := by
    decide
  have size := b.toNat_lt
  obtain ⟨plus, ampersand, equals⟩ := digit (b.toNat / 16) (by omega)
  obtain ⟨plus', ampersand', equals'⟩ := digit (b.toNat % 16) (by omega)
  simp [PartsNothing, hexByte, plus, plus', ampersand, ampersand', equals, equals']

theorem formByte_partsNothing (b : UInt8) : PartsNothing (formByte b) := by
  unfold formByte
  split
  · exact ⟨by decide, by decide⟩
  · split
    · rename_i safe
      exact (plain_of_isFormSafe safe).2.2.2
    · exact (plain_hexByte b).2

theorem formText_partsNothing (s : String) : PartsNothing (formText s) := by
  have apart (c : Char) (h : ∀ b, c ∉ formByte b) : c ∉ formText s := by
    intro hc
    obtain ⟨b, -, hb⟩ := List.mem_flatMap.mp hc
    exact h b hb
  exact ⟨apart '&' fun b => (formByte_partsNothing b).1,
    apart '=' fun b => (formByte_partsNothing b).2⟩

/-- What is written for a byte is read as the byte. -/
theorem unescape_formByte (b : UInt8) (rest : List UInt8) :
    unescape (Utf8.encode (unplus (formByte b)) ++ rest) = b :: unescape rest := by
  unfold formByte
  split
  · rename_i blank
    rw [blank]
    exact unescape_cons_of_ne (by decide) rest
  · split
    · rename_i safe
      obtain ⟨noEscape, code, noPlus, -⟩ := plain_of_isFormSafe safe
      have alone : Utf8.encode [Char.ofNat b.toNat] = [b] := by
        rw [Utf8.encode_of_small (by simpa [code] using small_of_isFormSafe safe)]
        simp [code]
      rw [unplus_of_not_mem noPlus, alone]
      exact unescape_cons_of_ne noEscape rest
    · rw [unplus_of_not_mem (plain_hexByte b).1, unescape_escapedByte]

theorem unescape_formBytes (bytes : List UInt8) :
    unescape (Utf8.encode (unplus (bytes.flatMap formByte))) = bytes := by
  induction bytes with
  | nil => rfl
  | cons b bytes ih =>
    rw [List.flatMap_cons, unplus_append, Utf8.encode_append, unescape_formByte, ih]

/-- A text comes back from the form that it is written into. -/
theorem readFormText_formText (s : String) : readFormText (formText s) = s := by
  have bytes : unescapeText (unplus (formText s)) = Utf8.ofString s := unescape_formBytes _
  have read : readFormText (formText s) =
      Utf8.lossyString (unescapeText (unplus (formText s))) := rfl
  rw [read, bytes, Utf8.lossyString_ofString]

/-! ## Pairs -/

theorem readFormPair_formPair (pair : String × String) : readFormPair (formPair pair) = pair := by
  have front := bne_of_not_mem (formText_partsNothing pair.1).2
  rw [readFormPair, formPair, takeWhile_append_cons front rfl, dropWhile_append_cons front rfl,
    List.drop_one, List.tail_cons, readFormText_formText, readFormText_formText]

theorem ampersand_not_mem_formPair (pair : String × String) : '&' ∉ formPair pair := by
  rw [formPair, List.mem_append, List.mem_cons]
  rintro (name | equals | value)
  · exact (formText_partsNothing pair.1).1 name
  · exact absurd equals (by decide)
  · exact (formText_partsNothing pair.2).1 value

theorem formPair_ne_nil (pair : String × String) : formPair pair ≠ [] := by
  simp [formPair]

theorem readFormPairs_of_not_mem (filled : cs ≠ []) (h : '&' ∉ cs) :
    readFormPairs cs = [readFormPair cs] := by
  simp [readFormPairs, pieces_of_not_mem filled h, filled]

/-- An ampersand at the end ends a pair that is there anyway. -/
theorem readFormPairs_ended (cs : List Char) : readFormPairs (cs ++ ['&']) = readFormPairs cs := by
  unfold readFormPairs
  congr 1
  induction cs using pieces_induction '&' with
  | nil => rfl
  | last cs filled h => simp [pieces_append_cons h, pieces_of_not_mem filled h]
  | cut cs more h ih =>
    simp only [List.append_assoc, List.cons_append, pieces_append_cons h, List.map_cons,
      List.filter_cons, ih]

theorem readFormPairs_append_cons (cs ds : List Char) :
    readFormPairs (cs ++ '&' :: ds) = readFormPairs cs ++ readFormPairs ds := by
  rw [← readFormPairs_ended cs]
  simp only [readFormPairs, pieces_append_cons_of_mem cs ds, List.map_append, List.filter_append]

/-- Pairs come back from the form that they are written into. -/
theorem readFormPairs_formPairs (pairs : List (String × String)) :
    readFormPairs (formPairs pairs) = pairs := by
  have single (pair : String × String) : readFormPairs (formPair pair) = [pair] := by
    rw [readFormPairs_of_not_mem (formPair_ne_nil pair) (ampersand_not_mem_formPair pair),
      readFormPair_formPair]
  induction pairs with
  | nil => rfl
  | cons pair pairs ih =>
    cases pairs with
    | nil => rw [formPairs, List.map_singleton, List.intercalate_singleton, single]
    | cons other pairs =>
      rw [formPairs, List.map_cons, List.map_cons, List.intercalate_cons_cons, List.append_assoc,
        List.singleton_append, readFormPairs_append_cons, single, ← List.map_cons, ← formPairs, ih]
      rfl

/-- Where there are no pairs, there is nothing but ampersands. -/
theorem eq_ampersand_of_readFormPairs (h : readFormPairs cs = []) : ∀ c ∈ cs, c = '&' := by
  induction cs using pieces_induction '&' with
  | nil => exact fun c hc => absurd hc List.not_mem_nil
  | last cs filled apart =>
    rw [readFormPairs_of_not_mem filled apart] at h
    cases h
  | cut cs more apart ih =>
    rw [readFormPairs_append_cons, List.append_eq_nil_iff] at h
    by_cases filled : cs = []
    · rw [filled, List.nil_append]
      exact List.forall_mem_cons.mpr ⟨rfl, ih h.2⟩
    · rw [readFormPairs_of_not_mem filled apart] at h
      cases h.1

/-- A URL keeps its path and its query when its user is taken off. -/
theorem withoutUser_eq (u : Url) :
    u.withoutUser.path = u.path ∧ u.withoutUser.query = u.query := by
  unfold withoutUser
  dsimp only
  split
  · exact ⟨rfl, rfl⟩
  · split
    · exact ⟨rfl, rfl⟩
    · exact ⟨rfl, rfl⟩

/-- The pairs of a query. -/
def pairsOf (query : Option (List Char)) : List (String × String) :=
  readFormPairs (query.getD [])

/-- Pairs that are put at the end of a query come after its own. -/
theorem pairsOf_withPairs (u : Url) (pairs : List (String × String)) :
    pairsOf (u.withPairs pairs).query = pairsOf u.query ++ pairs := by
  have added := readFormPairs_formPairs pairs
  have kept (cs : List Char) : pairsOf (if cs = [] then none else some cs) = readFormPairs cs := by
    split
    · rename_i empty
      rw [empty]
      rfl
    · rfl
  rw [withPairs, kept]
  split
  · rename_i none
    rw [none, added]
    rfl
  · rename_i empty
    rw [empty, added]
    rfl
  · rename_i query filled given
    rw [given]
    split
    · rename_i nothing
      have noPairs : pairs = [] := by rw [← added, nothing]; rfl
      rw [noPairs, List.append_nil]
      rfl
    · rw [readFormPairs_append_cons, added]
      rfl

end ImportWeights.Url
