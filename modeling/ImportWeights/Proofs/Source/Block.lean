import ImportWeights.Proofs.Source.Clean
import ImportWeights.Source.FileParser

/-! What a source text means, read off the places of its lines: where the import block
opens, where it closes, and what stands before and between. Feeding the lines one by one
to a parser comes to the same. -/

namespace ImportWeights.Source

/-- The place of the line that opens the import block: the first one that is the token. -/
def openingLine? (lines : List String) : Option Nat :=
  lines.idxOf? importOpen

/-- The place of the line that closes a block opened at a place: the first one after it. -/
def closingLine? (lines : List String) (opening : Nat) : Option Nat :=
  ((lines.drop (opening + 1)).idxOf? importClose).map (opening + 1 + ·)

/-- The name that the last package line gives, or the one there was before. -/
def renamed (name : String) (lines : List String) : String :=
  ((lines.filterMap afterPackage?).getLast?.map clean).getD name

/-- The imports that the lines of a block stand for. -/
def collected (lines : List String) : List String :=
  (lines.map clean).filter (· ≠ "")

/-- The outcome that the places of the tokens call for. -/
def meaning (lines : List String) : Outcome :=
  match openingLine? lines with
  | none => .noImportBlock
  | some i =>
    match closingLine? lines i with
    | some j => .complete ⟨renamed "" (lines.take j), collected ((lines.take j).drop (i + 1))⟩
    | none => .unterminated (renamed "" lines) (collected (lines.drop (i + 1))).length

@[simp] theorem renamed_nil (name : String) : renamed name [] = name := rfl

theorem renamed_cons (name line : String) (lines : List String) :
    renamed name (line :: lines) = renamed (renamed name [line]) lines := by
  cases h : afterPackage? line with
  | none => simp [renamed, h]
  | some rest =>
    cases hlast : (lines.filterMap afterPackage?).getLast? with
    | none => simp [renamed, h, hlast, List.getLast?_cons]
    | some last => simp [renamed, h, hlast, List.getLast?_cons]

theorem renamed_append (name : String) (lines more : List String) :
    renamed name (lines ++ more) = renamed (renamed name lines) more := by
  induction lines generalizing name with
  | nil => rfl
  | cons line lines ih =>
    rw [List.cons_append, renamed_cons, ih, ← renamed_cons]

/-- The line that opens a block renames nothing. -/
theorem renamed_importOpen_cons (name : String) (lines : List String) :
    renamed name (importOpen :: lines) = renamed name lines := by
  simp [renamed]

@[simp] theorem collected_nil : collected [] = [] := rfl

theorem collected_cons (line : String) (lines : List String) :
    collected (line :: lines) = collected [line] ++ collected lines := by
  by_cases h : clean line = "" <;> simp [collected, h]

namespace FileParser

variable {p : FileParser} {line : String} {lines rest : List String}

theorem feedAll_cons_of_open (h : (p.feed line).closed = false) :
    p.feedAll (line :: rest) = (p.feed line).feedAll rest := by
  simp [feedAll, h]

theorem feed_seeking (hmode : p.mode = .seeking) (hline : line ≠ importOpen) :
    p.feed line = { p with name := renamed p.name [line] } := by
  obtain ⟨mode, name, imports, closed⟩ := p
  subst hmode
  cases h : afterPackage? line with
  | none => simp [feed, classify, note, Mode.after, renamed, h, hline]
  | some rest => simp [feed, classify, note, Mode.after, renamed, h]

theorem feed_capturing (hmode : p.mode = .capturing) (hline : line ≠ importClose) :
    p.feed line =
      { p with name := renamed p.name [line], imports := p.imports ++ collected [line] } := by
  obtain ⟨mode, name, imports, closed⟩ := p
  subst hmode
  cases h : afterPackage? line with
  | none =>
    by_cases hclean : clean line = "" <;>
      simp [feed, classify, note, Mode.after, renamed, collected, h, hline, hclean]
  | some rest =>
    have hclean := clean_ne_empty_of_package h
    simp [feed, classify, note, Mode.after, renamed, collected, h, hclean]

theorem feed_importOpen (hmode : p.mode = .seeking) :
    p.feed importOpen = { p with mode := .capturing } := by
  obtain ⟨mode, name, imports, closed⟩ := p
  subst hmode
  simp [feed, classify, note, Mode.after]

theorem feed_importClose (hmode : p.mode = .capturing) :
    p.feed importClose = { p with mode := .seeking, closed := true } := by
  obtain ⟨mode, name, imports, closed⟩ := p
  subst hmode
  simp [feed, classify, note, Mode.after]

/-- Before the block is opened only package lines count. -/
theorem feedAll_seeking (hmode : p.mode = .seeking) (hopen : p.closed = false)
    (hlines : importOpen ∉ lines) (rest : List String) :
    p.feedAll (lines ++ rest) = { p with name := renamed p.name lines }.feedAll rest := by
  induction lines generalizing p with
  | nil => rfl
  | cons line lines ih =>
    rw [List.mem_cons, not_or] at hlines
    have hfed := feed_seeking hmode (Ne.symm hlines.1)
    have hmode' : (p.feed line).mode = .seeking := by rw [hfed]; exact hmode
    have hopen' : (p.feed line).closed = false := by rw [hfed]; exact hopen
    rw [List.cons_append, feedAll_cons_of_open hopen', ih hmode' hopen' hlines.2, hfed,
      renamed_cons p.name line lines]

/-- Inside the block a package line counts twice: as a name and as an import. -/
theorem feedAll_capturing (hmode : p.mode = .capturing) (hopen : p.closed = false)
    (hlines : importClose ∉ lines) (rest : List String) :
    p.feedAll (lines ++ rest) =
      { p with name := renamed p.name lines
               imports := p.imports ++ collected lines }.feedAll rest := by
  induction lines generalizing p with
  | nil => simp
  | cons line lines ih =>
    rw [List.mem_cons, not_or] at hlines
    have hfed := feed_capturing hmode (Ne.symm hlines.1)
    have hmode' : (p.feed line).mode = .capturing := by rw [hfed]; exact hmode
    have hopen' : (p.feed line).closed = false := by rw [hfed]; exact hopen
    rw [List.cons_append, feedAll_cons_of_open hopen', ih hmode' hopen' hlines.2, hfed,
      renamed_cons p.name line lines, collected_cons line lines, List.append_assoc]

end FileParser

/-- How the tokens lie in a text: there is no block, or one that stays open, or one that is
closed. What follows the closing line is free. -/
inductive Layout : List String → Prop
  | unopened {lines : List String} (hopen : importOpen ∉ lines) : Layout lines
  | unclosed {before body : List String} (hopen : importOpen ∉ before)
      (hclose : importClose ∉ body) : Layout (before ++ importOpen :: body)
  | closed {before body after : List String} (hopen : importOpen ∉ before)
      (hclose : importClose ∉ body) :
      Layout (before ++ importOpen :: (body ++ importClose :: after))

theorem layout (lines : List String) : Layout lines := by
  by_cases hopen : importOpen ∈ lines
  · obtain ⟨before, rest, rfl, hbefore⟩ := List.eq_append_cons_of_mem hopen
    by_cases hclose : importClose ∈ rest
    · obtain ⟨body, after, rfl, hbody⟩ := List.eq_append_cons_of_mem hclose
      exact .closed hbefore hbody
    · exact .unclosed hbefore hclose
  · exact .unopened hopen

section Places

variable {before body after : List String}

theorem idxOf?_append_cons {token : String} (h : token ∉ before) :
    (before ++ token :: after).idxOf? token = some before.length := by
  induction before with
  | nil => simp [List.idxOf?_cons]
  | cons line before ih =>
    rw [List.mem_cons, not_or] at h
    simp [List.idxOf?_cons, Ne.symm h.1, ih h.2]

theorem openingLine?_append_cons (hopen : importOpen ∉ before) :
    openingLine? (before ++ importOpen :: after) = some before.length :=
  idxOf?_append_cons hopen

theorem drop_opening : (before ++ importOpen :: body).drop (before.length + 1) = body := by
  rw [List.append_cons]
  exact List.drop_left' (by simp)

theorem take_closing :
    (before ++ importOpen :: (body ++ importClose :: after)).take
      (before.length + 1 + body.length) = before ++ importOpen :: body := by
  rw [← List.cons_append, ← List.append_assoc]
  exact List.take_left' (by simp only [List.length_append, List.length_cons]; omega)

theorem take_through_closing :
    (before ++ importOpen :: (body ++ importClose :: after)).take
      (before.length + 1 + body.length + 1) = before ++ importOpen :: (body ++ [importClose]) := by
  rw [List.append_cons body, ← List.cons_append, ← List.append_assoc]
  refine List.take_left' ?_
  simp only [List.length_append, List.length_cons, List.length_nil]
  omega

theorem closingLine?_of_not_mem (hclose : importClose ∉ body) :
    closingLine? (before ++ importOpen :: body) before.length = none := by
  rw [closingLine?, drop_opening, List.idxOf?_eq_none_iff.mpr hclose, Option.map_none]

theorem closingLine?_append_cons (hclose : importClose ∉ body) :
    closingLine? (before ++ importOpen :: (body ++ importClose :: after)) before.length =
      some (before.length + 1 + body.length) := by
  rw [closingLine?, drop_opening, idxOf?_append_cons hclose, Option.map_some]

theorem meaning_unopened {lines : List String} (hopen : importOpen ∉ lines) :
    meaning lines = .noImportBlock := by
  simp only [meaning, openingLine?, List.idxOf?_eq_none_iff.mpr hopen]

theorem meaning_unclosed (hopen : importOpen ∉ before) (hclose : importClose ∉ body) :
    meaning (before ++ importOpen :: body) =
      .unterminated (renamed "" (before ++ importOpen :: body)) (collected body).length := by
  simp only [meaning, openingLine?_append_cons hopen, closingLine?_of_not_mem hclose,
    drop_opening]

theorem meaning_closed (hopen : importOpen ∉ before) (hclose : importClose ∉ body) :
    meaning (before ++ importOpen :: (body ++ importClose :: after)) =
      .complete ⟨renamed "" (before ++ importOpen :: body), collected body⟩ := by
  simp only [meaning, openingLine?_append_cons hopen, closingLine?_append_cons hclose,
    take_closing, drop_opening]

end Places

namespace FileParser

variable {before body : List String}

/-- The parser after a text whose block opens and has not closed yet. -/
theorem feedAll_fresh_open (hopen : importOpen ∉ before) (hclose : importClose ∉ body)
    (after : List String) :
    fresh.feedAll (before ++ importOpen :: (body ++ after)) =
      (FileParser.mk .capturing (renamed "" (before ++ importOpen :: body)) (collected body)
        false).feedAll after := by
  rw [feedAll_seeking rfl rfl hopen, feedAll_cons_of_open (by rw [feed_importOpen rfl]; rfl),
    feed_importOpen rfl, feedAll_capturing rfl rfl hclose, renamed_append,
    renamed_importOpen_cons]
  rfl

/-- Feeding lines until the block is closed gives what their places call for. -/
theorem finish_feedAll_fresh (lines : List String) :
    (fresh.feedAll lines).finish = meaning lines := by
  cases layout lines with
  | unopened hopen =>
    have hfed := feedAll_seeking (p := fresh) rfl rfl hopen []
    rw [List.append_nil] at hfed
    rw [hfed, meaning_unopened hopen]
    rfl
  | unclosed hopen hclose =>
    rename_i before body
    have hfed := feedAll_fresh_open hopen hclose []
    rw [List.append_nil] at hfed
    rw [hfed, meaning_unclosed hopen hclose]
    rfl
  | closed hopen hclose =>
    rw [feedAll_fresh_open hopen hclose _, feedAll, feed_importClose rfl,
      meaning_closed hopen hclose]
    rfl

end FileParser

/-- Once the block is closed, the lines after its closing line are free. -/
theorem meaning_eq_of_take_eq {lines other : List String} {i j : Nat}
    (hi : openingLine? lines = some i) (hj : closingLine? lines i = some j)
    (heq : other.take (j + 1) = lines.take (j + 1)) : meaning other = meaning lines := by
  cases layout lines with
  | unopened hopen =>
    rw [openingLine?, List.idxOf?_eq_none_iff.mpr hopen] at hi
    contradiction
  | unclosed hopen hclose =>
    rw [openingLine?_append_cons hopen] at hi
    cases hi
    rw [closingLine?_of_not_mem hclose] at hj
    contradiction
  | @closed before body after hopen hclose =>
    rw [openingLine?_append_cons hopen] at hi
    cases hi
    rw [closingLine?_append_cons hclose] at hj
    cases hj
    rw [take_through_closing] at heq
    have hother := List.take_append_drop (before.length + 1 + body.length + 1) other
    rw [heq, List.append_assoc, List.cons_append, List.append_assoc] at hother
    rw [← hother, List.singleton_append, meaning_closed hopen hclose,
      meaning_closed hopen hclose]

/-- A parser fed with the lines of a text finds what their places call for, and nothing after
the line that closes the block changes the outcome. -/
theorem parseSource_eq_meaning (source : String) :
    parseSource source = meaning (sourceLines source) ∧
      ∀ i j, openingLine? (sourceLines source) = some i →
        closingLine? (sourceLines source) i = some j →
        ∀ other, (sourceLines other).take (j + 1) = (sourceLines source).take (j + 1) →
          parseSource other = parseSource source := by
  have hmeaning : ∀ text, parseSource text = meaning (sourceLines text) :=
    fun text => FileParser.finish_feedAll_fresh (sourceLines text)
  refine ⟨hmeaning source, fun i j hi hj other heq => ?_⟩
  rw [hmeaning other, hmeaning source]
  exact meaning_eq_of_take_eq hi hj heq

/-- A package line inside the block renames and is collected; a second block is not read. -/
theorem parseSource_of_reopened :
    parseSource "package a\nimport (\npackage b\n)\nimport (" =
      .complete ⟨"b", ["package b"]⟩ := by
  have hfirst := parseSource_eq_meaning "package a\nimport (\npackage b\n)"
  refine (hfirst.2 1 3 (by decide) (by decide) _ (by decide)).trans ?_
  rw [hfirst.1]
  decide

end ImportWeights.Source
