import Mathlib.Data.List.Infix
import ImportWeights.Proofs.Text.Ascii
import ImportWeights.Proofs.Text.Encoding
import ImportWeights.Report.Table

/-! # Reading a row of the table

A key can hold bars and spaces like the ones between the columns, but the number after it cannot, so
the last bar inside a row is the one that ends the key. Cells are as wide as their column, in
characters, since a column is as wide as its longest key is in bytes. -/

namespace ImportWeights.Report

/-- What is before and what is after the last place where a pattern stands. -/
def breakAtLast (pattern : List Char) : List Char → Option (List Char × List Char)
  | [] => none
  | c :: rest =>
    match breakAtLast pattern rest with
    | some (front, back) => some (c :: front, back)
    | none => (pattern.isPrefixOf? (c :: rest)).map ([], ·)

/-- The number in the last cell: digits after padding, up to the bar that closes the row. -/
def readWeight? (cell : List Char) : Option Nat :=
  let digits := cell.dropWhile (· = ' ')
  match digits.takeWhile Text.isDigit, digits.dropWhile Text.isDigit with
  | first :: more, [' ', '|'] => some (Text.digitsValue 10 (first :: more))
  | _, _ => none

/-- The text between the first bar and the last inner one, without padding, and the number. -/
def readRow? : List Char → Option (String × Nat)
  | '|' :: ' ' :: cells =>
    match breakAtLast [' ', '|', ' '] cells with
    | some (edge, weight) =>
      (readWeight? weight).map fun n => (String.ofList (Text.trimEnd (· = ' ') edge), n)
    | none => none
  | _ => none

variable {pattern back cs : List Char} {s : String} {width : Nat}

theorem breakAtLast_eq_none (h : ¬ pattern <:+: cs) : breakAtLast pattern cs = none := by
  induction cs with
  | nil => rfl
  | cons c cs ih =>
    obtain ⟨here, later⟩ := not_or.mp (List.infix_cons_iff.not.mp h)
    have missing : pattern.isPrefixOf? (c :: cs) = none := by
      refine Option.eq_none_iff_forall_ne_some.mpr ?_
      intro rest starts
      exact here ⟨rest, List.isPrefixOf?_eq_some_iff_append_eq.mp starts⟩
    rw [breakAtLast, ih later, missing]
    rfl

/-- A pattern stands at its last place if no other one begins after its first character. -/
theorem breakAtLast_append {p : Char} (h : ¬ p :: pattern <:+: pattern ++ back)
    (front : List Char) :
    breakAtLast (p :: pattern) (front ++ p :: (pattern ++ back)) = some (front, back) := by
  induction front with
  | nil =>
    have starts : List.isPrefixOf? (p :: pattern) (p :: (pattern ++ back)) = some back :=
      List.isPrefixOf?_eq_some_iff_append_eq.mpr rfl
    rw [List.nil_append, breakAtLast, breakAtLast_eq_none h, starts]
    rfl
  | cons c front ih => rw [List.cons_append, breakAtLast, ih]

/-- Between the columns there is a bar, and none after it but the last character of the row. -/
theorem breakAtLast_bar (front : List Char) (h : '|' ∉ cs) :
    breakAtLast [' ', '|', ' '] (front ++ ' ' :: '|' :: ' ' :: (cs ++ [' ', '|'])) =
      some (front, cs ++ [' ', '|']) := by
  have alone : ¬ [' ', '|', ' '] <:+: ['|', ' '] ++ (cs ++ [' ', '|']) := by
    rintro ⟨before, after, found⟩
    cases before with
    | nil => exact absurd (List.cons.inj found).1 (by decide)
    | cons c before =>
      have rest : before ++ [' ', '|'] ++ ' ' :: after = ' ' :: cs ++ [' '] ++ ['|'] := by
        simpa using (List.cons.inj found).2
      have inside : '|' ∈ (before ++ [' ', '|'] ++ ' ' :: after).dropLast := by
        rw [List.dropLast_append_of_ne_nil (List.cons_ne_nil _ _)]
        simp
      rw [rest, List.dropLast_concat] at inside
      simp [h] at inside
  exact breakAtLast_append alone front

theorem trimEnd_padEnd (h : s.toList.getLast? ≠ some ' ') (width : Nat) :
    Text.trimEnd (· = ' ') (padEnd width s).toList = s.toList := by
  have stays : ∀ last ∈ s.toList.getLast?, decide (last = ' ') = false := by
    intro last hlast
    exact decide_eq_false fun same => h (same ▸ hlast)
  rw [padEnd, spaces, String.toList_append, String.toList_ofList,
    Text.trimEnd_append_replicate rfl, Text.trimEnd_eq_self stays]

theorem toList_padStart (width n : Nat) : (padStart width (toString n)).toList =
    List.replicate (width - (toString n).length) ' ' ++ Nat.toDigits 10 n := by
  rw [padStart, spaces, String.toList_append, String.toList_ofList,
    Nat.toString_eq_ofList_toDigits, String.toList_ofList]

theorem readWeight?_padStart (width n : Nat) :
    readWeight? ((padStart width (toString n)).toList ++ [' ', '|']) = some n := by
  have digits : ∀ c ∈ Nat.toDigits 10 n, Text.isDigit c = true :=
    fun _ => Text.isDigit_of_mem_toDigits
  have value := Text.digitsValue_toDigits n
  obtain ⟨first, more, spelled⟩ :=
    List.exists_cons_of_ne_nil (Nat.toDigits_ne_nil (n := n) (b := 10))
  rw [spelled] at digits value
  have start : decide (first = ' ') = false := by
    refine decide_eq_false ?_
    rintro rfl
    exact absurd (digits ' ' List.mem_cons_self) (by decide)
  have cell : ((padStart width (toString n)).toList ++ [' ', '|']).dropWhile (· = ' ') =
      (first :: more) ++ [' ', '|'] := by
    rw [toList_padStart, spelled, List.append_assoc, List.cons_append]
    exact Text.dropWhile_append_cons (p := (· = ' ')) (by simp) start _
  rw [readWeight?, cell, Text.takeWhile_append_cons digits rfl,
    Text.dropWhile_append_cons digits rfl]
  exact congrArg some value

theorem toList_tableRow (left right : String) : (tableRow left right).toList =
    '|' :: ' ' :: (left.toList ++ ' ' :: '|' :: ' ' :: (right.toList ++ [' ', '|'])) := by
  simp [tableRow]

@[simp] theorem paint_false (role : StyleRole) (s : String) : role.paint s false = s := by
  cases role <;> rfl

/-- A row gives back its key and its number. -/
theorem readRow?_edgeRow (columns : Columns) {row : String × Nat}
    (h : row.1.toList.getLast? ≠ some ' ') :
    readRow? (columns.edgeRow false row).toList = some row := by
  have numeric : '|' ∉ (padStart columns.weight (toString row.2)).toList := by
    intro hc
    rw [toList_padStart] at hc
    obtain padding | digit := List.mem_append.mp hc
    · exact absurd (List.eq_of_mem_replicate padding) (by decide)
    · exact absurd (Text.isDigit_of_mem_toDigits digit) (by decide)
  rw [Columns.edgeRow, paint_false, paint_false, toList_tableRow, readRow?,
    breakAtLast_bar _ numeric]
  dsimp only
  rw [readWeight?_padStart, trimEnd_padEnd h, String.ofList_toList]
  rfl

/-! ## Widths -/

variable {columns : Columns} {row : String × Nat} {rows : List (String × Nat)}

theorem length_padEnd (h : s.length ≤ width) : (padEnd width s).length = width := by
  rw [padEnd, spaces, String.length_append, String.length_ofList, List.length_replicate]
  omega

theorem length_padStart (h : s.length ≤ width) : (padStart width s).length = width := by
  rw [padStart, spaces, String.length_append, String.length_ofList, List.length_replicate]
  omega

/-- The characters in a line of a table with such columns. -/
def Columns.lineLength (columns : Columns) : Nat := columns.edge + columns.weight + 7

theorem length_separator (columns : Columns) : columns.separator.length = columns.lineLength := by
  simp only [Columns.separator, String.length_append, String.length_ofList, List.length_replicate]
  rw [Columns.lineLength]
  simp only [show "+".length = 1 from rfl]
  omega

theorem length_tableRow (left right : String) :
    (tableRow left right).length = left.length + right.length + 7 := by
  rw [← String.length_toList, toList_tableRow]
  simp only [List.length_cons, List.length_append, String.length_toList, List.length_nil]
  omega

/-- A width is at least the least one asked for, and that of each row. -/
theorem le_foldl_max {n least : Nat} {ns : List Nat} (h : n ∈ least :: ns) :
    n ≤ ns.foldl max least := List.le_max_of_mem h

theorem length_titleRow (rows : List (String × Nat)) :
    ((Columns.ofRows rows).titleRow false).length = (Columns.ofRows rows).lineLength := by
  have edge : "EDGE".length ≤ (Columns.ofRows rows).edge := le_foldl_max List.mem_cons_self
  have weight : "WEIGHT".length ≤ (Columns.ofRows rows).weight := le_foldl_max List.mem_cons_self
  rw [Columns.titleRow, paint_false, paint_false, length_tableRow, length_padEnd edge,
    length_padStart weight, Columns.lineLength]

theorem size_le_edge (h : row ∈ rows) : row.1.utf8ByteSize ≤ (Columns.ofRows rows).edge := by
  have among := List.mem_map_of_mem (f := fun r : String × Nat => r.1.utf8ByteSize) h
  exact le_foldl_max (List.mem_cons_of_mem 4 among)

theorem length_le_weight (h : row ∈ rows) :
    (toString row.2).length ≤ (Columns.ofRows rows).weight := by
  have among := List.mem_map_of_mem (f := fun r : String × Nat => (toString r.2).length) h
  exact le_foldl_max (List.mem_cons_of_mem 6 among)

/-- The column of the edges is wide enough, as no text has more characters than bytes. -/
theorem length_edgeRow (h : row ∈ rows) :
    ((Columns.ofRows rows).edgeRow false row).length = (Columns.ofRows rows).lineLength := by
  have edge := Nat.le_trans (Text.Utf8.length_le_utf8ByteSize row.1) (size_le_edge h)
  rw [Columns.edgeRow, paint_false, paint_false, length_tableRow, length_padEnd edge,
    length_padStart (length_le_weight h), Columns.lineLength]

end ImportWeights.Report
