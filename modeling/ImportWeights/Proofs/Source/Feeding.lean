import ImportWeights.Proofs.Source.Clean
import ImportWeights.Proofs.Source.Core
import ImportWeights.Source.FileParser

/-! # Feeding on after the end

Nothing keeps a parser from being fed after it answered that it is done: it goes on between the two
modes, it renames and collects, but it stays closed. What a line can mean in a mode is said once
(`Meant`); every invariant is kept by each such event, and so by any feeding at all. -/

namespace ImportWeights.Source

/-- What a line can mean in a mode. Whatever is taken up from it is clean. -/
inductive Meant : Mode → LineEvent → Prop
  | package {name : String} (hname : clean name = name) : Meant .seeking (.package name)
  | openBlock : Meant .seeking .openBlock
  | skipped : Meant .seeking .ignored
  | packageImport {name path : String} (hname : clean name = name) (hpath : clean path = path)
      (filled : path ≠ "") : Meant .capturing (.packageImport name path)
  | closeBlock : Meant .capturing .closeBlock
  | importPath {path : String} (hpath : clean path = path) (filled : path ≠ "") :
      Meant .capturing (.importPath path)
  | blank : Meant .capturing .ignored

theorem classify_meant (mode : Mode) (line : String) : Meant mode (classify mode line) := by
  unfold classify
  cases hpackage : afterPackage? line with
  | some rest =>
    cases mode with
    | seeking => exact .package (clean_clean rest)
    | capturing =>
      exact .packageImport (clean_clean rest) (clean_clean line)
        (clean_ne_empty_of_package hpackage)
  | none =>
    cases mode with
    | seeking =>
      dsimp only
      split
      · exact .openBlock
      · exact .skipped
    | capturing =>
      dsimp only
      split
      · exact .closeBlock
      · split
        · exact .blank
        · rename_i filled
          exact .importPath (clean_clean line) filled

/-- Whether whoever feeds a parser should go on. -/
inductive Flow where
  | more
  | done
deriving DecidableEq, Repr

namespace FileParser

/-- What a parser answers to the line that it was just fed. -/
def answer (p : FileParser) : Flow := if p.closed then .done else .more

/-- The parser after all of the lines, those after the end included. -/
def feedOn (p : FileParser) (lines : List String) : FileParser := lines.foldl feed p

/-- What the lines mean, each in the mode in which it is met. -/
def events : FileParser → List String → List LineEvent
  | _, [] => []
  | p, line :: rest => classify p.mode line :: events (p.feed line) rest

/-- The answers to the lines, one by one. -/
def answers : FileParser → List String → List Flow
  | _, [] => []
  | p, line :: rest => (p.feed line).answer :: answers (p.feed line) rest

/-- What no feeding takes from a parser. -/
structure Sound (p : FileParser) : Prop where
  name : clean p.name = p.name
  imports : ∀ path ∈ p.imports, path ≠ "" ∧ clean path = path
  /-- Only inside a block is anything collected, and it is left by closing it. -/
  unopened : p.closed = false → p.mode = .seeking → p.imports = []

variable {p : FileParser} {line : String} {lines : List String}

/-! ## One line -/

theorem sound_fresh : Sound fresh where
  name := by decide
  imports path hpath := absurd hpath List.not_mem_nil
  unopened _ _ := rfl

theorem Sound.feed (h : Sound p) (line : String) : Sound (p.feed line) := by
  have meant := classify_meant p.mode line
  unfold FileParser.feed
  generalize classify p.mode line = event at meant
  obtain ⟨mode, name, imports, closed⟩ := p
  have collected (path : String) (hpath : path ≠ "" ∧ clean path = path) :
      ∀ other ∈ imports ++ [path], other ≠ "" ∧ clean other = other := by
    intro other hother
    rcases List.mem_append.mp hother with old | new
    · exact h.imports other old
    · exact List.mem_singleton.mp new ▸ hpath
  cases meant with
  | package hname => exact ⟨hname, h.imports, h.unopened⟩
  | openBlock => exact ⟨h.name, h.imports, fun _ other => nomatch other⟩
  | skipped => exact ⟨h.name, h.imports, h.unopened⟩
  | packageImport hname hpath filled =>
    exact ⟨hname, collected _ ⟨filled, hpath⟩, fun _ other => nomatch other⟩
  | closeBlock => exact ⟨h.name, h.imports, fun shut => nomatch shut⟩
  | importPath hpath filled =>
    exact ⟨h.name, collected _ ⟨filled, hpath⟩, fun _ other => nomatch other⟩
  | blank => exact ⟨h.name, h.imports, fun _ other => nomatch other⟩

/-- Only the line that closes the block closes a parser, and nothing opens it again. -/
theorem closed_feed : (p.feed line).closed = true ↔
    p.closed = true ∨ classify p.mode line = .closeBlock := by
  unfold feed
  cases classify p.mode line <;> simp [note]

/-- Imports are added at the end only. -/
theorem imports_feed (p : FileParser) (line : String) : p.imports <+: (p.feed line).imports := by
  unfold feed
  cases classify p.mode line with
  | packageImport name path => exact List.prefix_append p.imports [path]
  | importPath path => exact List.prefix_append p.imports [path]
  | package name => exact List.prefix_rfl
  | openBlock => exact List.prefix_rfl
  | closeBlock => exact List.prefix_rfl
  | ignored => exact List.prefix_rfl

theorem answer_eq_done_iff : p.answer = .done ↔ p.closed = true := by
  unfold answer
  split
  · rename_i shut
    exact ⟨fun _ => shut, fun _ => rfl⟩
  · rename_i unclosed
    exact ⟨fun other => (nomatch other), fun shut => absurd shut unclosed⟩

/-! ## Any number of lines -/

theorem feedOn_append (p : FileParser) (lines more : List String) :
    p.feedOn (lines ++ more) = (p.feedOn lines).feedOn more :=
  List.foldl_append

theorem Sound.feedOn (h : Sound p) (lines : List String) : Sound (p.feedOn lines) := by
  induction lines generalizing p with
  | nil => exact h
  | cons line lines ih => exact ih (h.feed line)

theorem closed_feedOn : (p.feedOn lines).closed = true ↔
    p.closed = true ∨ .closeBlock ∈ p.events lines := by
  induction lines generalizing p with
  | nil => simp [FileParser.feedOn, events]
  | cons line lines ih =>
    have step : p.feedOn (line :: lines) = (p.feed line).feedOn lines := rfl
    rw [step, ih, closed_feed, events, List.mem_cons, or_assoc, eq_comm (a := LineEvent.closeBlock)]

theorem imports_feedOn (p : FileParser) (lines : List String) :
    p.imports <+: (p.feedOn lines).imports := by
  induction lines generalizing p with
  | nil => exact List.prefix_rfl
  | cons line lines ih => exact (imports_feed p line).trans (ih (p.feed line))

/-- The first events are those of the first lines. -/
theorem take_events (p : FileParser) (lines : List String) (n : Nat) :
    (p.events lines).take n = p.events (lines.take n) := by
  induction lines generalizing p n with
  | nil => simp [events]
  | cons line lines ih =>
    cases n with
    | zero => rfl
    | succ n => rw [events, List.take_succ_cons, ih, List.take_succ_cons, events]

/-- A line is answered by the parser that was fed all lines up to it. -/
theorem answers_eq_some_iff {flow : Flow} {i : Nat} : (p.answers lines)[i]? = some flow ↔
    i < lines.length ∧ (p.feedOn (lines.take (i + 1))).answer = flow := by
  induction lines generalizing p i with
  | nil => simp [answers]
  | cons line lines ih =>
    cases i with
    | zero => simp [answers, FileParser.feedOn]
    | succ i =>
      have step : p.feedOn ((line :: lines).take (i + 1 + 1)) =
          (p.feed line).feedOn (lines.take (i + 1)) := rfl
      rw [answers, List.getElem?_cons_succ, ih, step, List.length_cons, Nat.succ_lt_succ_iff]

theorem answered_done_iff {i : Nat} : (p.answers lines)[i]? = some .done ↔
    i < lines.length ∧ (p.closed = true ∨ .closeBlock ∈ (p.events lines).take (i + 1)) := by
  rw [answers_eq_some_iff, answer_eq_done_iff, closed_feedOn, take_events]

theorem finish_of_closed (shut : p.closed = true) : p.finish = .complete ⟨p.name, p.imports⟩ :=
  if_pos shut

theorem finish_of_open (unclosed : p.closed = false) : p.finish = match p.mode with
    | .capturing => .unterminated p.name p.imports.length
    | .seeking => .noImportBlock :=
  if_neg (ne_true_of_eq_false unclosed)

/-- Whatever lines a parser is fed, also after the end: what it holds is clean, it answers that it
is done from the line on that closes the block, from there on it has a record that only grows, and
before that it has collected something only inside the block. -/
theorem any_feeding_is_sound (lines : List String) :
    (clean (fresh.feedOn lines).name = (fresh.feedOn lines).name ∧
      ∀ path ∈ (fresh.feedOn lines).imports, path ≠ "" ∧ clean path = path) ∧
    (∀ i, (fresh.answers lines)[i]? = some .done ↔
      i < lines.length ∧ .closeBlock ∈ (fresh.events lines).take (i + 1)) ∧
    (∀ before line after, lines = before ++ line :: after →
      .closeBlock ∉ fresh.events before →
      classify (fresh.feedOn before).mode line = .closeBlock →
      (fresh.feedOn lines).finish =
          .complete ⟨(fresh.feedOn lines).name, (fresh.feedOn lines).imports⟩ ∧
        (fresh.feedOn (before ++ [line])).imports <+: (fresh.feedOn lines).imports) ∧
    (.closeBlock ∉ fresh.events lines → match (fresh.feedOn lines).mode with
      | .capturing => (fresh.feedOn lines).finish =
          .unterminated (fresh.feedOn lines).name (fresh.feedOn lines).imports.length
      | .seeking => (fresh.feedOn lines).finish = .noImportBlock ∧
          (fresh.feedOn lines).imports = []) := by
  have sound := sound_fresh.feedOn lines
  refine ⟨⟨sound.name, sound.imports⟩, fun i => ?_, ?_, fun unclosed => ?_⟩
  · rw [answered_done_iff]
    simp [fresh]
  · rintro before line after rfl - closes
    have whole : before ++ line :: after = before ++ [line] ++ after :=
      List.append_cons before line after
    have shut : (fresh.feedOn (before ++ [line])).closed = true := by
      rw [feedOn_append]
      exact closed_feed.mpr (.inr closes)
    rw [whole, feedOn_append fresh (before ++ [line])]
    exact ⟨finish_of_closed (closed_feedOn.mpr (.inl shut)), imports_feedOn _ after⟩
  · have still : (fresh.feedOn lines).closed = false := by
      rw [← Bool.not_eq_true, closed_feedOn]
      rintro (shut | closes)
      · cases shut
      · exact unclosed closes
    have finished := finish_of_open still
    split
    · rename_i hmode
      rw [finished, hmode]
    · rename_i hmode
      rw [finished, hmode]
      exact ⟨rfl, sound.unopened still hmode⟩

/-- A second block adds to the record that was there at the end of the first one. -/
theorem any_feeding_is_sound_reopened :
    classify (fresh.feedOn ["package a", "import (", "\"x\""]).mode ")" = .closeBlock ∧
      (fresh.feedOn ["package a", "import (", "\"x\"", ")", "import (", "package b"]).finish =
        .complete ⟨"b", ["x", "package b"]⟩ := by
  have closes :
      classify (fresh.feedOn ["package a", "import (", "\"x\""]).mode ")" = .closeBlock := by
    decide
  have sound :=
    any_feeding_is_sound ["package a", "import (", "\"x\"", ")", "import (", "package b"]
  have grown := sound.2.2.1 ["package a", "import (", "\"x\""] ")" ["import (", "package b"] rfl
    (by decide) closes
  exact ⟨closes, grown.1.trans (by decide)⟩

end FileParser

end ImportWeights.Source
