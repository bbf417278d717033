import Mathlib.Data.List.TakeWhile
import ImportWeights.Proofs.Text.Pieces
import ImportWeights.Source.BoundedLine

/-! What the bounded reader reads. Its lines are the pieces between line feeds, whole and in
order, and it refuses exactly the first one that is too long; the two bytes beyond the limit
are enough to tell. -/

namespace ImportWeights.Source

open ImportWeights.Text

/-- The lines of a file: its pieces between line feeds, each without one carriage return at
its end, the last piece included. -/
def fileLines (bytes : List UInt8) : List (List UInt8) :=
  (pieces lineFeed bytes).map fun p => dropTrailing carriageReturn p.1

/-- Feeds lines to a parser up to the first one that is too long or closes the block; `line` is
the number of the next one. -/
def feedShort (max : Nat) : FileParser → Nat → List (List UInt8) → Except OverlongLine Outcome
  | parser, _, [] => .ok parser.finish
  | parser, line, text :: rest =>
    if max < text.length then .error ⟨line, max⟩
    else
      let fed := parser.feed (Utf8.lossyString text)
      if fed.closed then .ok fed.finish else feedShort max fed (line + 1) rest

variable {max : Nat} {bytes whole rest text : List UInt8}

theorem fileLines_of_not_mem (hne : bytes ≠ []) (h : lineFeed ∉ bytes) :
    fileLines bytes = [dropTrailing carriageReturn bytes] := by
  rw [fileLines, pieces_of_not_mem hne h]
  rfl

theorem fileLines_append_cons (h : lineFeed ∉ whole) (rest : List UInt8) :
    fileLines (whole ++ lineFeed :: rest) =
      dropTrailing carriageReturn whole :: fileLines rest := by
  rw [fileLines, pieces_append_cons h]
  rfl

/-- Of a line that does not fit, the part that is looked at tells that it does not. -/
theorem readLine_of_takeWhile (hne : bytes ≠ [])
    (hwhole : bytes.takeWhile (· != lineFeed) = whole) :
    readLine max bytes =
      if max < (dropTrailing carriageReturn whole).length then .tooLong
      else .line (dropTrailing carriageReturn whole) (bytes.drop (whole.length + 1)) := by
  cases bytes with
  | nil => contradiction
  | cons b more =>
    simp only [readLine, hwhole]
    by_cases hfits : whole.length < max + 2
    · have hcount : ¬ whole.length = max + 2 := by omega
      rw [List.take_of_length_le (Nat.le_of_lt hfits)]
      simp [hcount]
    · have hdropped := length_le_dropTrailing carriageReturn whole
      have htaken : (whole.take (max + 2)).length = max + 2 := by
        rw [List.length_take]; omega
      rw [if_pos (by omega : max < (dropTrailing carriageReturn whole).length)]
      simp [hfits, htaken]

theorem bne_lineFeed_of_mem (h : lineFeed ∉ whole) : ∀ b ∈ whole, (b != lineFeed) = true := by
  intro b hb
  rw [bne_iff_ne]
  rintro rfl
  exact h hb

theorem readLine_of_not_mem (hne : bytes ≠ []) (h : lineFeed ∉ bytes) :
    readLine max bytes =
      if max < (dropTrailing carriageReturn bytes).length then .tooLong
      else .line (dropTrailing carriageReturn bytes) [] := by
  have hwhole : bytes.takeWhile (· != lineFeed) = bytes :=
    List.takeWhile_eq_self_iff.mpr (bne_lineFeed_of_mem h)
  rw [readLine_of_takeWhile hne hwhole, List.drop_eq_nil_of_le (Nat.le_succ _)]

theorem readLine_append_cons (h : lineFeed ∉ whole) (rest : List UInt8) :
    readLine max (whole ++ lineFeed :: rest) =
      if max < (dropTrailing carriageReturn whole).length then .tooLong
      else .line (dropTrailing carriageReturn whole) rest := by
  have hwhole : (whole ++ lineFeed :: rest).takeWhile (· != lineFeed) = whole := by
    rw [List.takeWhile_append_of_pos (bne_lineFeed_of_mem h)]
    simp
  have hrest : (whole ++ lineFeed :: rest).drop (whole.length + 1) = rest := by
    rw [List.append_cons]
    exact List.drop_left' (by simp)
  rw [readLine_of_takeWhile (by simp) hwhole, hrest]

theorem extractFrom_nil (max : Nat) (parser : FileParser) (line : Nat) :
    extractFrom max parser line [] = .ok parser.finish := by
  rw [extractFrom]
  rfl

theorem extractFrom_of_tooLong (h : readLine max bytes = .tooLong) (parser : FileParser)
    (line : Nat) : extractFrom max parser line bytes = .error ⟨line, max⟩ := by
  rw [extractFrom]
  split <;> simp_all

theorem extractFrom_of_line (h : readLine max bytes = .line text rest) (parser : FileParser)
    (line : Nat) :
    extractFrom max parser line bytes =
      if (parser.feed (Utf8.lossyString text)).closed
      then .ok (parser.feed (Utf8.lossyString text)).finish
      else extractFrom max (parser.feed (Utf8.lossyString text)) (line + 1) rest := by
  rw [extractFrom]
  split <;> simp_all

/-- Reading a file line by line is going through its lines. -/
theorem extractFrom_eq_feedShort (max : Nat) (bytes : List UInt8) (parser : FileParser)
    (line : Nat) :
    extractFrom max parser line bytes = feedShort max parser line (fileLines bytes) := by
  induction bytes using pieces_induction lineFeed generalizing parser line with
  | nil => exact extractFrom_nil max parser line
  | last bytes hne hbytes =>
    rw [fileLines_of_not_mem hne hbytes, feedShort]
    by_cases hlong : max < (dropTrailing carriageReturn bytes).length
    · rw [if_pos hlong]
      exact extractFrom_of_tooLong (by rw [readLine_of_not_mem hne hbytes, if_pos hlong]) _ _
    · rw [if_neg hlong, extractFrom_of_line (by rw [readLine_of_not_mem hne hbytes, if_neg hlong]),
        extractFrom_nil]
      rfl
  | cut whole rest hwhole ih =>
    rw [fileLines_append_cons hwhole, feedShort]
    by_cases hlong : max < (dropTrailing carriageReturn whole).length
    · rw [if_pos hlong]
      exact extractFrom_of_tooLong (by rw [readLine_append_cons hwhole, if_pos hlong]) _ _
    · rw [if_neg hlong, extractFrom_of_line (by rw [readLine_append_cons hwhole, if_neg hlong]), ih]

theorem extract_eq_feedShort (max : Nat) (bytes : List UInt8) :
    extract max bytes = feedShort max FileParser.fresh 1 (fileLines bytes) :=
  extractFrom_eq_feedShort max bytes FileParser.fresh 1

/-- Where no line is too long, all of them are fed. -/
theorem feedShort_of_short {lines : List (List UInt8)}
    (h : ∀ text ∈ lines, text.length ≤ max) (parser : FileParser) (line : Nat) :
    feedShort max parser line lines =
      .ok (parser.feedAll (lines.map Utf8.lossyString)).finish := by
  induction lines generalizing parser line with
  | nil => rfl
  | cons text lines ih =>
    obtain ⟨htext, hlines⟩ := List.forall_mem_cons.mp h
    rw [feedShort, if_neg (Nat.not_lt.mpr htext), List.map_cons, FileParser.feedAll]
    by_cases hclosed : (parser.feed (Utf8.lossyString text)).closed
    · simp only [hclosed, if_true]
    · simp only [hclosed, ih hlines]
      rfl

end ImportWeights.Source
