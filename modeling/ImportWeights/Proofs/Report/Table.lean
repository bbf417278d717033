import ImportWeights.Proofs.Report.Printing
import ImportWeights.Proofs.Report.Row
import ImportWeights.Proofs.Text.ByteOrder
import ImportWeights.Proofs.Text.Pieces
import ImportWeights.Proofs.Weights.Heaviest
import ImportWeights.Report.Console

/-! # The table of a report

A report that has entries is a headline, a table and a line of totals. Every line of the table has
the same length, and its rows are the entries of the map, which can all be read back. -/

namespace ImportWeights.Report

open ImportWeights.Files

/-- A text that stays one line when a line feed is put after it. -/
structure IsLine (s : String) : Prop where
  whole : Lacks '\n' s
  ended : s.toList.getLast? ≠ some '\r'

variable {s left right : String} {columns : Columns} {row : String × Nat}
  {rows : List (String × Nat)} {r : ScanReport}

theorem isLine_of_isPlain (h : isPlain s = true) : IsLine s where
  whole := lacks_of_isPlain (by decide) h
  ended last := lacks_of_isPlain (c := '\r') (by decide) h (List.mem_of_getLast? last)

theorem isLine_tableRow (hleft : Lacks '\n' left) (hright : Lacks '\n' right) :
    IsLine (tableRow left right) where
  whole := lacks_tableRow (by decide) hleft hright
  ended := by
    have last : " |".toList.getLast? = some '|' := rfl
    rw [tableRow, String.toList_append, List.getLast?_append, last, Option.some_or]
    decide

theorem isLine_titleRow (columns : Columns) : IsLine (columns.titleRow false) := by
  rw [Columns.titleRow, paint_false, paint_false]
  exact isLine_tableRow (isLine_of_isPlain ((isPlain_padEnd _).trans rfl)).whole
    (isLine_of_isPlain ((isPlain_padStart _).trans rfl)).whole

theorem isLine_edgeRow (h : Lacks '\n' row.1) : IsLine (columns.edgeRow false row) := by
  rw [Columns.edgeRow, paint_false, paint_false]
  exact isLine_tableRow (lacks_padEnd (by decide) _ h)
    (isLine_of_isPlain ((isPlain_padStart _).trans (isPlain_toString _))).whole

theorem isLine_of_mem_tableLines (keys : ∀ row ∈ rows, Lacks '\n' row.1)
    (h : s ∈ tableLines false rows) : IsLine s := by
  have separator := isLine_of_isPlain (isPlain_separator (Columns.ofRows rows))
  have title := isLine_titleRow (Columns.ofRows rows)
  simp only [tableLines, List.mem_append, List.mem_cons, List.not_mem_nil, or_false,
    List.mem_map] at h
  obtain ((rfl | rfl | rfl) | ⟨row, hrow, rfl⟩) | rfl := h
  · exact separator
  · exact title
  · exact separator
  · exact isLine_edgeRow (keys row hrow)
  · exact separator

/-- Lines are read back from a text in which each is ended by a line feed. -/
theorem lines_join {texts : List String} (h : ∀ s ∈ texts, IsLine s) :
    Text.lines (String.join (texts.map (· ++ "\n"))).toList = texts.map String.toList := by
  induction texts with
  | nil => rfl
  | cons s texts ih =>
    obtain ⟨hs, htexts⟩ := List.forall_mem_cons.mp h
    have spelled : (String.join ((s :: texts).map (· ++ "\n"))).toList =
        s.toList ++ '\n' :: (String.join (texts.map (· ++ "\n"))).toList := by
      simp
    rw [spelled, Text.lines_cons hs.whole hs.ended, ih htexts, List.map_cons]

/-- What a headline holds can break it into lines; the lines of the rest are as they were. -/
theorem lines_text (filled : r.weights.isEmpty = false)
    (keys : ∀ e ∈ r.weights.entries, Lacks '\n' e.1) :
    Text.lines (r.text false).toList = Text.lines (r.headline ++ "\n").toList ++
      (tableLines false r.weights.heaviest).map String.toList ++ [r.totals.toList] := by
  have texts : r.textLines false =
      r.headline :: (tableLines false r.weights.heaviest ++ [r.totals]) := by
    simp [ScanReport.textLines, filled]
  have whole : ∀ s ∈ tableLines false r.weights.heaviest ++ [r.totals], IsLine s := by
    intro s hs
    obtain table | totals := List.mem_append.mp hs
    · exact isLine_of_mem_tableLines (fun row hrow =>
        keys row ((WeightMap.heaviest_perm r.weights).mem_iff.mp hrow)) table
    · exact List.mem_singleton.mp totals ▸ isLine_of_isPlain (isPlain_totals r)
  have spelled : (r.text false).toList = r.headline.toList ++
      '\n' :: (String.join ((tableLines false r.weights.heaviest ++ [r.totals]).map
        (· ++ "\n"))).toList := by
    rw [ScanReport.text, texts]
    simp
  rw [spelled, Text.lines_append_cons, lines_join whole]
  simp

theorem filter_titleRow (columns : Columns) :
    (columns.titleRow false).toList.filter (· ≠ ' ') = "|EDGE|WEIGHT|".toList := by
  simp [Columns.titleRow, toList_tableRow, padEnd, padStart, spaces]

theorem filter_separator (columns : Columns) :
    columns.separator.toList.filter (· ≠ '-') = "+++".toList := by
  simp [Columns.separator]

/-- Below the headline stand three equal rules, the titles, and one row for each entry, the heaviest
first and entries of one weight by the bytes of their keys. All are equally long, and the rows are
read back as the entries. -/
theorem table_is_lossless (r : ScanReport) (destination : Option Path)
    (filled : r.weights.isEmpty = false) (ordered : WeightMap.Ordered r.weights.entries)
    (whole : ∀ e ∈ r.weights.entries, '\n' ∉ e.1.toList)
    (unpadded : ∀ e ∈ r.weights.entries, e.1.toList.getLast? ≠ some ' ') :
    ∃ (rule title : List Char) (rows : List (List Char)),
      Text.lines ((ConsoleReporter.create .text destination false).render r).toList =
        Text.lines (r.headline ++ "\n").toList ++
          ([rule, title, rule] ++ rows ++ [rule]) ++ [r.totals.toList] ∧
      rule.filter (· ≠ '-') = "+++".toList ∧
      title.filter (· ≠ ' ') = "|EDGE|WEIGHT|".toList ∧
      (∀ line ∈ title :: rows, line.length = rule.length) ∧
      rows.map readRow? = r.weights.heaviest.map some ∧
      r.weights.heaviest.Perm r.weights.entries ∧
      r.weights.heaviest.Pairwise fun a b => b.2 < a.2 ∨
        a.2 = b.2 ∧ Text.Utf8.ofString a.1 < Text.Utf8.ofString b.1 := by
  have among : ∀ row ∈ r.weights.heaviest, row ∈ r.weights.entries :=
    fun row => (WeightMap.heaviest_perm r.weights).mem_iff.mp
  let columns := Columns.ofRows r.weights.heaviest
  refine ⟨columns.separator.toList, (columns.titleRow false).toList,
    r.weights.heaviest.map fun row => (columns.edgeRow false row).toList, ?_,
    filter_separator columns, filter_titleRow columns, ?_, ?_,
    WeightMap.heaviest_perm r.weights, ?_⟩
  · refine (lines_text filled whole).trans ?_
    simp [tableLines, columns]
  · have rule := length_separator columns
    intro line hline
    rw [String.length_toList, rule]
    obtain rfl | hline := List.mem_cons.mp hline
    · rw [String.length_toList, length_titleRow]
    · obtain ⟨row, hrow, rfl⟩ := List.mem_map.mp hline
      rw [String.length_toList, length_edgeRow hrow]
  · rw [List.map_map]
    exact List.map_congr_left fun row hrow =>
      readRow?_edgeRow columns (unpadded row (among row hrow))
  · exact (WeightMap.heaviest_pairwise ordered).imp fun h =>
      h.imp_right fun ⟨same, low⟩ => ⟨same, Text.Utf8.ofString_lt_ofString_iff.mpr low⟩

theorem barredReport_ordered : WeightMap.Ordered barredReport.weights.entries := by
  refine List.Pairwise.imp String.lt_iff_toList_lt.mpr ?_
  decide

theorem barredReport_heaviest : barredReport.weights.heaviest =
    [("a:é", 12), ("a:x | 7 |", 2), ("b:fmt", 2)] := by
  have lighter : WeightMap.heavierFirst ("a:x | 7 |", 2) ("a:é", 12) = false := by decide
  have heavier : WeightMap.heavierFirst ("a:é", 12) ("b:fmt", 2) = true := by decide
  have lower : WeightMap.heavierFirst ("a:x | 7 |", 2) ("b:fmt", 2) = true := by decide
  simp [WeightMap.heaviest, barredReport, List.mergeSort, List.MergeSort.Internal.splitInTwo,
    lighter, heavier, lower]

/-- The last bar of `| a:x | 7 | |      2 |` is the one that ends the key. -/
theorem table_is_lossless_barred :
    barredReport.weights.isEmpty = false ∧ WeightMap.Ordered barredReport.weights.entries ∧
      (∀ e ∈ barredReport.weights.entries, '\n' ∉ e.1.toList) ∧
      (∀ e ∈ barredReport.weights.entries, e.1.toList.getLast? ≠ some ' ') ∧
      ∃ (rule title : List Char) (rows : List (List Char)),
        Text.lines ((ConsoleReporter.create .text none false).render barredReport).toList =
          Text.lines (barredReport.headline ++ "\n").toList ++
            ([rule, title, rule] ++ rows ++ [rule]) ++ [barredReport.totals.toList] ∧
        (∀ line ∈ title :: rows, line.length = rule.length) ∧
        rows.map readRow? = [some ("a:é", 12), some ("a:x | 7 |", 2), some ("b:fmt", 2)] := by
  have whole : ∀ e ∈ barredReport.weights.entries, '\n' ∉ e.1.toList := by decide
  have unpadded : ∀ e ∈ barredReport.weights.entries, e.1.toList.getLast? ≠ some ' ' := by decide
  obtain ⟨rule, title, rows, spelled, -, -, aligned, read, -, -⟩ :=
    table_is_lossless barredReport none rfl barredReport_ordered whole unpadded
  rw [barredReport_heaviest] at read
  exact ⟨rfl, barredReport_ordered, whole, unpadded, rule, title, rows, spelled, aligned, read⟩

end ImportWeights.Report
