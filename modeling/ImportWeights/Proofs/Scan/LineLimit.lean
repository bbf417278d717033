import ImportWeights.Proofs.Source.Block
import ImportWeights.Proofs.Source.BoundedLine
import ImportWeights.Scan.Scanner

/-! # Lines and their limit

How a content falls into lines is said without reading it (`Cut`): each line is followed by what
ends it, and the lines with their endings make up the content. There is one such cut, and it is
the one that is read. A file is refused exactly at the first line that is longer than the limit,
unless the block is closed before; a line that just fits is taken with every kind of ending. -/

namespace ImportWeights.Source

open ImportWeights.Text

/-- What may stand between a line and its line feed, or the end of the file: nothing, or one
carriage return. A line that itself ends in a carriage return needs another one after it. -/
inductive Ending (text : List UInt8) : List UInt8 → Prop
  | bare (h : text.getLast? ≠ some carriageReturn) : Ending text []
  | returned : Ending text [carriageReturn]

/-- A content and its lines. Only the last line may lack a line feed, and it is not empty then,
or has a carriage return at least. -/
inductive Cut : List UInt8 → List (List UInt8) → Prop
  | nil : Cut [] []
  | last {text ending : List UInt8} (whole : lineFeed ∉ text) (ended : Ending text ending)
      (filled : text ++ ending ≠ []) : Cut (text ++ ending) [text]
  | line {text ending rest : List UInt8} {lines : List (List UInt8)} (whole : lineFeed ∉ text)
      (ended : Ending text ending) (more : Cut rest lines) :
      Cut (text ++ ending ++ lineFeed :: rest) (text :: lines)

/-- The line of that number, counted from 1, is the first one that is too long, and no line before
it closes the block of the parser. -/
def TooLongAt (max : Nat) (p : FileParser) (lines : List (List UInt8)) (number : Nat) : Prop :=
  ∃ before text after, lines = before ++ text :: after ∧ number = before.length + 1 ∧
    (∀ earlier ∈ before, earlier.length ≤ max) ∧ max < text.length ∧
    (p.feedAll (before.map Utf8.lossyString)).closed = false

variable {max line number : Nat} {text ending content : List UInt8} {lines : List (List UInt8)}
  {p : FileParser}

/-! ## The cut -/

theorem Ending.dropTrailing_append (h : Ending text ending) :
    dropTrailing carriageReturn (text ++ ending) = text := by
  cases h with
  | bare h => rw [List.append_nil, dropTrailing_of_getLast?_ne h]
  | returned => exact dropTrailing_concat carriageReturn text

theorem Ending.whole (h : Ending text ending) (whole : lineFeed ∉ text) :
    lineFeed ∉ text ++ ending := by
  cases h with
  | bare _ => rwa [List.append_nil]
  | returned =>
    rw [List.mem_append, List.mem_singleton, not_or]
    exact ⟨whole, by decide⟩

theorem exists_ending (whole : List UInt8) :
    ∃ ending, Ending (dropTrailing carriageReturn whole) ending ∧
      dropTrailing carriageReturn whole ++ ending = whole := by
  by_cases h : whole.getLast? = some carriageReturn
  · obtain ⟨text, rfl⟩ := List.getLast?_eq_some_iff.mp h
    rw [dropTrailing_concat]
    exact ⟨_, .returned, rfl⟩
  · rw [dropTrailing_of_getLast?_ne h]
    exact ⟨[], .bare h, List.append_nil _⟩

theorem cut_fileLines (content : List UInt8) : Cut content (fileLines content) := by
  induction content using pieces_induction lineFeed with
  | nil => exact .nil
  | last bytes hne hbytes =>
    obtain ⟨ending, ended, split⟩ := exists_ending bytes
    have cut := Cut.last (fun h => hbytes (mem_of_mem_dropTrailing h)) ended (by rwa [split])
    rw [split] at cut
    rw [fileLines_of_not_mem hne hbytes]
    exact cut
  | cut whole rest hwhole ih =>
    obtain ⟨ending, ended, split⟩ := exists_ending whole
    have cut := Cut.line (fun h => hwhole (mem_of_mem_dropTrailing h)) ended ih
    rw [split] at cut
    rw [fileLines_append_cons hwhole]
    exact cut

/-- There is one way to cut a content into lines. -/
theorem Cut.eq_fileLines (h : Cut content lines) : lines = fileLines content := by
  induction h with
  | nil => rfl
  | last whole ended filled =>
    rw [fileLines_of_not_mem filled (ended.whole whole), ended.dropTrailing_append]
  | line whole ended _ ih =>
    rw [fileLines_append_cons (ended.whole whole), ended.dropTrailing_append, ← ih]

/-! ## The limit -/

theorem not_tooLongAt_nil : ¬ TooLongAt max p [] number := by
  rintro ⟨before, text, after, split, -⟩
  simp at split

theorem tooLongAt_cons_of_long (hopen : p.closed = false) (long : max < text.length) :
    TooLongAt max p (text :: lines) number ↔ number = 1 := by
  constructor
  · rintro ⟨before, other, after, split, rfl, short, -, -⟩
    cases before with
    | nil => rfl
    | cons first before =>
      obtain ⟨rfl, -⟩ := List.cons.inj split
      exact absurd (short text List.mem_cons_self) (Nat.not_le.mpr long)
  · rintro rfl
    exact ⟨[], text, lines, rfl, rfl, by simp, long, hopen⟩

theorem tooLongAt_cons_of_short (short : text.length ≤ max) :
    TooLongAt max p (text :: lines) number ↔
      (p.feed (Utf8.lossyString text)).closed = false ∧
        ∃ earlier, number = earlier + 1 ∧
          TooLongAt max (p.feed (Utf8.lossyString text)) lines earlier := by
  constructor
  · rintro ⟨before, other, after, split, rfl, fits, long, unclosed⟩
    cases before with
    | nil =>
      obtain ⟨rfl, -⟩ := List.cons.inj split
      exact absurd short (Nat.not_le.mpr long)
    | cons first before =>
      obtain ⟨rfl, rfl⟩ := List.cons.inj split
      rw [List.map_cons, FileParser.feedAll] at unclosed
      cases closed : (p.feed (Utf8.lossyString text)).closed with
      | true => simp [closed] at unclosed
      | false =>
        simp only [closed, Bool.false_eq_true, if_false] at unclosed
        exact ⟨rfl, before.length + 1, rfl, before, other, after, rfl, rfl,
          (List.forall_mem_cons.mp fits).2, long, unclosed⟩
  · rintro ⟨closed, _, rfl, before, other, after, rfl, rfl, fits, long, unclosed⟩
    refine ⟨text :: before, other, after, rfl, rfl, List.forall_mem_cons.mpr ⟨short, fits⟩,
      long, ?_⟩
    rwa [List.map_cons, FileParser.feedAll_cons_of_open closed]

/-- A file is refused at the first line that is too long, if the parser gets that far. -/
theorem feedShort_error_iff (hopen : p.closed = false) {e : OverlongLine} :
    feedShort max p line lines = .error e ↔
      e.limit = max ∧ ∃ number, e.line + 1 = line + number ∧ TooLongAt max p lines number := by
  obtain ⟨place, limit⟩ := e
  induction lines generalizing p line with
  | nil => simp [feedShort, not_tooLongAt_nil]
  | cons text lines ih =>
    rw [feedShort]
    by_cases long : max < text.length
    · simp only [long, if_true, tooLongAt_cons_of_long hopen long]
      simp [eq_comm, and_comm]
    · simp only [long, if_false, tooLongAt_cons_of_short (Nat.not_lt.mp long)]
      cases closed : (p.feed (Utf8.lossyString text)).closed with
      | true => simp
      | false =>
        simp only [Bool.false_eq_true, if_false, ih closed, true_and]
        refine and_congr_right fun _ => ?_
        constructor
        · rintro ⟨number, sum, refused⟩
          exact ⟨number + 1, by omega, number, rfl, refused⟩
        · rintro ⟨_, sum, number, rfl, refused⟩
          exact ⟨number, by omega, refused⟩

/-- Where no line is refused, all are fed up to the one that closes the block. -/
theorem feedShort_of_not_tooLongAt (hopen : p.closed = false)
    (h : ∀ number, ¬ TooLongAt max p lines number) :
    feedShort max p line lines = .ok (p.feedAll (lines.map Utf8.lossyString)).finish := by
  induction lines generalizing p line with
  | nil => rfl
  | cons text lines ih =>
    have short : ¬ max < text.length :=
      fun long => h 1 ((tooLongAt_cons_of_long hopen long).mpr rfl)
    rw [feedShort, if_neg short, List.map_cons, FileParser.feedAll]
    cases closed : (p.feed (Utf8.lossyString text)).closed with
    | true => simp only [closed, if_true]
    | false =>
      have later : ∀ number, ¬ TooLongAt max (p.feed (Utf8.lossyString text)) lines number := by
        intro number refused
        exact h (number + 1) ((tooLongAt_cons_of_short (Nat.not_lt.mp short)).mpr
          ⟨closed, number, rfl, refused⟩)
      simp only [closed, Bool.false_eq_true, if_false, ih closed later]

theorem TooLongAt.lt_length (h : TooLongAt max p lines number) {count : Nat}
    (place : number = count + 1) (at_ : lines[count]? = some text) : max < text.length := by
  obtain ⟨before, other, after, rfl, rfl, -, long, -⟩ := h
  obtain rfl : before.length = count := Nat.succ.inj place
  simp at at_
  exact at_ ▸ long

end ImportWeights.Source

namespace ImportWeights.Scan

open ImportWeights.Files ImportWeights.Source

/-- A content has one cut into lines. A file that can be read is refused exactly at its first line
longer than the limit, if no line before closes the block; that line's number and the limit are
told. Any other file gives what comes of feeding its lines up to the one that closes the block. No
line that fits is refused, whatever ends it. -/
theorem extractFile_exact (s : Scanner) (files : FileTree) (path : Path) (content : List UInt8)
    (readable : files.read path = .ok content) :
    ∃ lines, Cut content lines ∧ (∀ other, Cut content other → other = lines) ∧
      (∀ number limit, s.extractFile files path = .error (.lineTooLong path number limit) ↔
        limit = s.maxLineLength ∧ TooLongAt s.maxLineLength FileParser.fresh lines number) ∧
      ((∀ number, ¬ TooLongAt s.maxLineLength FileParser.fresh lines number) →
        s.extractFile files path =
          .ok (FileParser.fresh.feedAll (lines.map Text.Utf8.lossyString)).finish) ∧
      ∀ count text, lines[count]? = some text → text.length ≤ s.maxLineLength →
        ∀ limit, s.extractFile files path ≠ .error (.lineTooLong path (count + 1) limit) := by
  have extracted : s.extractFile files path = outcomeOf s.maxLineLength path (.ok content) := by
    rw [Scanner.extractFile, readable]
  have refused : ∀ number limit,
      s.extractFile files path = .error (.lineTooLong path number limit) ↔
        limit = s.maxLineLength ∧
          TooLongAt s.maxLineLength FileParser.fresh (fileLines content) number := by
    intro number limit
    have told : feedShort s.maxLineLength FileParser.fresh 1 (fileLines content) =
        .error ⟨number, limit⟩ ↔ _ := feedShort_error_iff rfl
    have same : (∃ n, number + 1 = 1 + n ∧
        TooLongAt s.maxLineLength FileParser.fresh (fileLines content) n) ↔
          TooLongAt s.maxLineLength FileParser.fresh (fileLines content) number := by
      constructor
      · rintro ⟨n, sum, h⟩
        obtain rfl : n = number := by omega
        exact h
      · intro h
        exact ⟨number, Nat.add_comm number 1, h⟩
    rw [same, ← extract_eq_feedShort] at told
    rw [extracted, outcomeOf, ← told]
    cases h : extract s.maxLineLength content with
    | ok outcome => simp
    | error e =>
      obtain ⟨line, max⟩ := e
      simp
  refine ⟨fileLines content, cut_fileLines content, fun _ cut => cut.eq_fileLines, refused, ?_, ?_⟩
  · intro fits
    rw [extracted, outcomeOf, extract_eq_feedShort, feedShort_of_not_tooLongAt rfl fits]
  · intro count text at_ fits limit told
    have long := ((refused _ _).mp told).2.lt_length rfl at_
    exact absurd fits (Nat.not_le.mpr long)

/-- `ab` before `\r\n`, `c\r` before `\r\n`, and `de\rf` at the end of the file. -/
def limitSample : List UInt8 := [97, 98, 13, 10, 99, 13, 13, 10, 100, 101, 13, 102]

/-- Two lines that just fit, and one that does not. -/
theorem extractFile_exact_third_line :
    let s : Scanner := ⟨⟨[]⟩, 2⟩
    let files : FileTree := ⟨.dir [([109], .file limitSample)], []⟩
    files.read ⟨[47, 109]⟩ = .ok limitSample ∧
      Cut limitSample [[97, 98], [99, 13], [100, 101, 13, 102]] ∧
      s.extractFile files ⟨[47, 109]⟩ = .error (.lineTooLong ⟨[47, 109]⟩ 3 2) := by
  intro s files
  have readable : files.read ⟨[47, 109]⟩ = .ok limitSample := by
    simp [files, FileTree.read, FileTree.node, FileTree.locate, FileTree.steps, FileTree.walk,
      Path.names, Path.separator, Path.isAbsolute, Path.currentName, Path.parentName,
      Text.pieces, Node.at?, Node.child?, Node.entries, maxPathLength, maxNameLength]
  have bare : Ending [100, 101, 13, 102] [] := .bare (by decide)
  have first : Ending [97, 98] [13] := .returned
  have second : Ending [99, 13] [13] := .returned
  have last : Cut [100, 101, 13, 102] [[100, 101, 13, 102]] :=
    .last (by decide) bare (by decide)
  have lastTwo : Cut [99, 13, 13, 10, 100, 101, 13, 102] [[99, 13], [100, 101, 13, 102]] :=
    .line (by decide) second last
  have cut : Cut limitSample [[97, 98], [99, 13], [100, 101, 13, 102]] :=
    .line (by decide) first lastTwo
  obtain ⟨lines, -, unique, refused, -, -⟩ := extractFile_exact s files ⟨[47, 109]⟩ _ readable
  obtain rfl := unique _ cut
  refine ⟨readable, cut, (refused 3 2).mpr ⟨rfl, ?_⟩⟩
  exact ⟨[[97, 98], [99, 13]], [100, 101, 13, 102], [], rfl, rfl, by decide, by decide,
    by decide⟩

end ImportWeights.Scan
