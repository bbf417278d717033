import Mathlib.Data.List.Forall2
import ImportWeights.Proofs.Report.Printing
import ImportWeights.Proofs.Weights.Heaviest
import ImportWeights.Report.Console

/-! # Colors change nothing but colors

A color is switched on and off by sequences that begin with an escape character. A text that is
painted part by part is the text without colors, part by part, once the sequences are taken out of
it again, as long as the parts hold no escape character of their own. -/

namespace ImportWeights.Report

open ImportWeights.Files

/-- What follows the sequence that a text begins with: an escape character, a bracket, digits and
an `m`. -/
def afterSequence? : List Char → Option (List Char)
  | '\x1b' :: '[' :: rest =>
    match rest.takeWhile Text.isDigit, rest.dropWhile Text.isDigit with
    | _ :: _, 'm' :: after => some after
    | _, _ => none
  | _ => none

theorem afterSequence?_shorter {cs after : List Char} (h : afterSequence? cs = some after) :
    after.length < cs.length := by
  unfold afterSequence? at h
  split at h
  · rename_i rest
    split at h
    · rename_i ended
      obtain rfl := Option.some.inj h
      have shorter := (List.dropWhile_sublist Text.isDigit (l := rest)).length_le
      rw [ended, List.length_cons] at shorter
      simp only [List.length_cons]
      omega
    · cases h
  · cases h

/-- A text with every such sequence taken out. -/
def uncolored : List Char → List Char
  | [] => []
  | c :: rest =>
    match h : afterSequence? (c :: rest) with
    | some after =>
      have := afterSequence?_shorter h
      uncolored after
    | none => c :: uncolored rest
termination_by cs => cs.length
decreasing_by
  · exact this
  · exact Nat.lt_succ_self rest.length

def withoutColors (s : String) : String := String.ofList (uncolored s.toList)

theorem uncolored_of_sequence {cs after : List Char} (h : afterSequence? cs = some after) :
    uncolored cs = uncolored after := by
  cases cs with
  | nil => cases h
  | cons c rest =>
    rw [uncolored]
    split
    · rename_i found
      rw [Option.some.inj (h.symm.trans found)]
    · rename_i missing
      cases h.symm.trans missing

theorem uncolored_cons {c : Char} (h : c ≠ '\x1b') (rest : List Char) :
    uncolored (c :: rest) = c :: uncolored rest := by
  rw [uncolored]
  split
  · rename_i found
    unfold afterSequence? at found
    split at found
    · rename_i begins
      exact absurd (List.cons.inj begins).1 h
    · cases found
  · rfl

/-! ## Part by part -/

/-- Wherever the first text stands, taking out the sequences leaves the second one of it. -/
def Uncolors (painted plain : String) : Prop :=
  ∀ rest, uncolored (painted.toList ++ rest) = plain.toList ++ uncolored rest

variable {s painted plain painted' plain' : String} {r : ScanReport}

theorem uncolors_self (h : Lacks '\x1b' s) : Uncolors s s := by
  intro rest
  suffices ∀ cs : List Char, '\x1b' ∉ cs → uncolored (cs ++ rest) = cs ++ uncolored rest from
    this _ h
  intro cs plain
  induction cs with
  | nil => rfl
  | cons c cs ih =>
    obtain ⟨hc, hcs⟩ := not_or.mp (List.mem_cons.not.mp plain)
    rw [List.cons_append, uncolored_cons (Ne.symm hc), ih hcs, List.cons_append]

theorem Uncolors.append (h : Uncolors painted plain) (h' : Uncolors painted' plain') :
    Uncolors (painted ++ painted') (plain ++ plain') := by
  intro rest
  rw [String.toList_append, String.toList_append, List.append_assoc, h, h', List.append_assoc]

theorem Uncolors.withoutColors (h : Uncolors painted plain) : withoutColors painted = plain := by
  have whole := h []
  rw [List.append_nil, uncolored, List.append_nil] at whole
  rw [Report.withoutColors, whole, String.ofList_toList]

/-- A sequence goes whole, and what it stands in is not touched. -/
theorem uncolors_escapeSequence {code : String} (filled : code ≠ "")
    (digits : ∀ c ∈ code.toList, Text.isDigit c = true) : Uncolors (escapeSequence code) "" := by
  intro rest
  obtain ⟨first, more, hcode⟩ := List.exists_cons_of_ne_nil (mt String.toList_eq_nil_iff.mp filled)
  rw [hcode] at digits
  have after : afterSequence? ('\x1b' :: '[' :: (first :: more ++ 'm' :: rest)) = some rest := by
    rw [afterSequence?, Text.takeWhile_append_cons digits rfl,
      Text.dropWhile_append_cons digits rfl]
    rfl
  have spelled : (escapeSequence code).toList ++ rest =
      '\x1b' :: '[' :: (first :: more ++ 'm' :: rest) := by
    simp [escapeSequence, hcode]
  rw [spelled, uncolored_of_sequence after]
  rfl

theorem digits_of_code {role : StyleRole} {code : String} (h : role.code? = some code) :
    code ≠ "" ∧ ∀ c ∈ code.toList, Text.isDigit c = true := by
  cases role <;> cases h <;> exact ⟨by decide, List.all_eq_true.mp rfl⟩

theorem uncolors_of_isPlain (h : isPlain s = true) : Uncolors s s :=
  uncolors_self (lacks_of_isPlain (by decide) h)

theorem uncolors_paint (role : StyleRole) (h : Lacks '\x1b' s) :
    Uncolors (role.paint s true) (role.paint s false) := by
  cases hcode : role.code? with
  | none => simpa [StyleRole.paint, hcode] using uncolors_self h
  | some code =>
    obtain ⟨filled, digits⟩ := digits_of_code hcode
    have on := uncolors_escapeSequence filled digits
    have off : Uncolors (escapeSequence "0") "" :=
      uncolors_escapeSequence (by decide) (List.all_eq_true.mp rfl)
    simpa [StyleRole.paint, hcode, colored] using (on.append (uncolors_self h)).append off

theorem uncolors_paint_of_isPlain (role : StyleRole) (h : isPlain s = true) :
    Uncolors (role.paint s true) (role.paint s false) :=
  uncolors_paint role (lacks_of_isPlain (by decide) h)

/-! ## The lines of a report -/

theorem uncolors_tableRow (left : Uncolors painted plain) (right : Uncolors painted' plain') :
    Uncolors (tableRow painted painted') (tableRow plain plain') := by
  have front := uncolors_of_isPlain (s := "| ") rfl
  have between := uncolors_of_isPlain (s := " | ") rfl
  have last := uncolors_of_isPlain (s := " |") rfl
  exact (((front.append left).append between).append right).append last

/-- Cells are padded before they are painted, so a painted row is the plain one. -/
theorem uncolors_tableLines {rows : List (String × Nat)} (h : ∀ row ∈ rows, Lacks '\x1b' row.1) :
    List.Forall₂ Uncolors (tableLines true rows) (tableLines false rows) := by
  have separator := uncolors_of_isPlain (isPlain_separator (Columns.ofRows rows))
  have title : Uncolors ((Columns.ofRows rows).titleRow true)
      ((Columns.ofRows rows).titleRow false) :=
    uncolors_tableRow (uncolors_paint_of_isPlain _ ((isPlain_padEnd _).trans rfl))
      (uncolors_paint_of_isPlain _ ((isPlain_padStart _).trans rfl))
  have edges : List.Forall₂ Uncolors (rows.map ((Columns.ofRows rows).edgeRow true))
      (rows.map ((Columns.ofRows rows).edgeRow false)) := by
    rw [List.forall₂_map_left_iff, List.forall₂_map_right_iff, List.forall₂_same]
    intro row hrow
    exact uncolors_tableRow (uncolors_paint _ (lacks_padEnd (by decide) _ (h row hrow)))
      (uncolors_paint_of_isPlain _ ((isPlain_padStart _).trans (isPlain_toString _)))
  exact .cons separator (.cons title (.cons separator
    (List.rel_append edges (.cons separator .nil))))

theorem uncolors_textLines (folder : Lacks '\x1b' r.job.folder) (url : Lacks '\x1b' r.job.url)
    (keys : ∀ e ∈ r.weights.entries, Lacks '\x1b' e.1) :
    List.Forall₂ Uncolors (r.textLines true) (r.textLines false) := by
  have headline := uncolors_paint .header (lacks_headline (by decide) folder url)
  have totals := uncolors_paint_of_isPlain .dim (isPlain_totals r)
  have body : List.Forall₂ Uncolors
      (if r.weights.isEmpty then [StyleRole.dim.paint "No imports found" true]
        else tableLines true r.weights.heaviest)
      (if r.weights.isEmpty then [StyleRole.dim.paint "No imports found" false]
        else tableLines false r.weights.heaviest) := by
    split
    · exact .cons (uncolors_paint_of_isPlain _ rfl) .nil
    · exact uncolors_tableLines fun row hrow =>
        keys row ((WeightMap.heaviest_perm _).mem_iff.mp hrow)
  exact .cons headline (List.rel_append body (.cons totals .nil))

theorem uncolors_join {lines plainLines : List String}
    (h : List.Forall₂ Uncolors lines plainLines) :
    Uncolors (String.join (lines.map (· ++ "\n"))) (String.join (plainLines.map (· ++ "\n"))) := by
  have lineEnd : Uncolors "\n" "\n" := uncolors_self (show '\x1b' ∉ "\n".toList by decide)
  induction h with
  | nil => exact uncolors_of_isPlain rfl
  | cons first _ ih =>
    rw [List.map_cons, List.map_cons, String.join_cons, String.join_cons]
    exact (first.append lineEnd).append ih

/-- Where folder, URL and keys hold no escape character, the text with colors is the one without
them once the sequences are taken out, and a report that is meant for a file has no colors, whatever
was asked for. -/
theorem colors_change_nothing_else (r : ScanReport) :
    ('\x1b' ∉ r.job.folder.toList → '\x1b' ∉ r.job.url.toList →
      (∀ e ∈ r.weights.entries, '\x1b' ∉ e.1.toList) →
        withoutColors ((ConsoleReporter.create .text none true).render r) =
          (ConsoleReporter.create .text none false).render r) ∧
    ∀ format path colors, (ConsoleReporter.create format (some path) colors).render r =
      (ConsoleReporter.create format none false).render r := by
  refine ⟨?_, ?_⟩
  · intro folder url keys
    exact (uncolors_join (uncolors_textLines folder url keys)).withoutColors
  · intro format path colors
    have plain : ConsoleReporter.create format (some path) colors = ⟨format, some path, false⟩ := by
      rw [ConsoleReporter.create, Option.isNone_some, Bool.and_false]
    rw [plain]
    rfl

theorem colors_change_nothing_else_barred :
    ('\x1b' ∉ barredReport.job.folder.toList ∧ '\x1b' ∉ barredReport.job.url.toList ∧
      ∀ e ∈ barredReport.weights.entries, '\x1b' ∉ e.1.toList) ∧
    withoutColors ((ConsoleReporter.create .text none true).render barredReport) =
      (ConsoleReporter.create .text none false).render barredReport := by
  have folder : '\x1b' ∉ barredReport.job.folder.toList := by decide
  have url : '\x1b' ∉ barredReport.job.url.toList := by decide
  have keys : ∀ e ∈ barredReport.weights.entries, '\x1b' ∉ e.1.toList := by decide
  exact ⟨⟨folder, url, keys⟩, (colors_change_nothing_else barredReport).1 folder url keys⟩

end ImportWeights.Report
