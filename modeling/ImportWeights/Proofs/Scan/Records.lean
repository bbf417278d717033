import ImportWeights.Proofs.Scan.Confinement
import ImportWeights.Proofs.Source.Block
import ImportWeights.Proofs.Source.BoundedLine

/-! # What the records of a scan hold

Each record is that of one file whose block was closed. A parser takes up no empty import, so
no record has one. -/

namespace ImportWeights.Source

namespace FileParser

variable {p : FileParser} {line : String} {record : PackageRecord}

theorem empty_not_mem_feed (h : "" ∉ p.imports) (line : String) : "" ∉ (p.feed line).imports := by
  cases hmode : p.mode with
  | seeking =>
    by_cases hline : line = importOpen
    · rw [hline, feed_importOpen hmode]
      exact h
    · rw [feed_seeking hmode hline]
      exact h
  | capturing =>
    by_cases hline : line = importClose
    · rw [hline, feed_importClose hmode]
      exact h
    · rw [feed_capturing hmode hline]
      simp [collected, h]

theorem imports_of_finish (h : p.finish = .complete record) : record.imports = p.imports := by
  unfold finish at h
  split at h
  · cases h
    rfl
  · split at h <;> cases h

end FileParser

theorem empty_not_mem_of_feedShort {max line : Nat} {p : FileParser} {lines : List (List UInt8)}
    {record : PackageRecord} (hp : "" ∉ p.imports)
    (h : feedShort max p line lines = .ok (.complete record)) : "" ∉ record.imports := by
  induction lines generalizing p line with
  | nil =>
    rw [FileParser.imports_of_finish (Except.ok.inj h)]
    exact hp
  | cons text lines ih =>
    have hfed := FileParser.empty_not_mem_feed hp (Text.Utf8.lossyString text)
    rw [feedShort] at h
    split at h
    · cases h
    dsimp only at h
    split at h
    · rw [FileParser.imports_of_finish (Except.ok.inj h)]
      exact hfed
    · exact ih hfed h

theorem empty_not_mem_of_extract {max : Nat} {bytes : List UInt8} {record : PackageRecord}
    (h : extract max bytes = .ok (.complete record)) : "" ∉ record.imports := by
  rw [extract_eq_feedShort] at h
  exact empty_not_mem_of_feedShort List.not_mem_nil h

end ImportWeights.Source

namespace ImportWeights.Scan

open ImportWeights.Files ImportWeights.Source

variable {s : Scanner} {files : FileTree} {root : Path} {scan : TreeScan} {record : PackageRecord}

theorem packages_eq (h : (s.scanTree files root).result = .ok scan) :
    ∃ paths, scan.packages = recordsOf (s.readings files paths) := by
  cases hcollect : collectCandidates s.filter files root with
  | error e =>
    rw [scanTree_of_error hcollect] at h
    cases h
  | ok found =>
    rw [(scanTree_of_ok hcollect).1] at h
    cases h
    exact ⟨_, rfl⟩

/-- A record comes from a file that was read whole up to the end of its block. -/
theorem exists_extract_of_mem (h : (s.scanTree files root).result = .ok scan)
    (hrecord : record ∈ scan.packages) :
    ∃ bytes, extract s.maxLineLength bytes = .ok (.complete record) := by
  obtain ⟨paths, hpaths⟩ := packages_eq h
  rw [hpaths, recordsOf, List.mem_filterMap] at hrecord
  obtain ⟨reading, hreading, hrecord⟩ := hrecord
  obtain ⟨path, -, rfl⟩ := List.mem_map.mp hreading
  simp only [Scanner.extractFile] at hrecord
  cases hread : files.read path with
  | error e => rw [hread] at hrecord; cases e <;> cases hrecord
  | ok bytes =>
    rw [hread, outcomeOf] at hrecord
    cases hextract : extract s.maxLineLength bytes with
    | error e => rw [hextract] at hrecord; cases hrecord
    | ok outcome =>
      rw [hextract] at hrecord
      cases outcome with
      | complete other => cases hrecord; exact ⟨bytes, hextract⟩
      | unterminated package imports => cases hrecord
      | noImportBlock => cases hrecord

theorem empty_not_mem_imports (h : (s.scanTree files root).result = .ok scan)
    (hrecord : record ∈ scan.packages) : "" ∉ record.imports := by
  obtain ⟨bytes, hbytes⟩ := exists_extract_of_mem h hrecord
  exact empty_not_mem_of_extract hbytes

end ImportWeights.Scan
