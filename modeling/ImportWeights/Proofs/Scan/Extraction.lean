import ImportWeights.Proofs.Source.BoundedLine
import ImportWeights.Proofs.Text.Utf8
import ImportWeights.Scan.Scanner

/-! A file and a text in memory are parsed alike. The file is cut into lines before its
bytes are decoded and the text after; a file gives up a carriage return at its very end, too,
which at most adds an empty line, and an empty line means nothing. -/

namespace ImportWeights.Source

open ImportWeights.Text

variable {bytes whole : List UInt8}

theorem sourceLines_lossyString (bytes : List UInt8) :
    sourceLines (Utf8.lossyString bytes) = (pieces lineFeed bytes).map fun p =>
      Utf8.lossyString (if p.2 then dropTrailing carriageReturn p.1 else p.1) := by
  have hcut := Utf8.pieces_decodeLossy (b := lineFeed) (by decide) (by decide) bytes
  have hdrop := Utf8.dropTrailing_decodeLossy (b := carriageReturn) (by decide) (by decide)
  rw [sourceLines, Utf8.lossyString, String.toList_ofList, lines]
  rw [show '\n' = Char.ofNat lineFeed.toNat from rfl, hcut, List.map_map, List.map_map]
  refine List.map_congr_left ?_
  rintro ⟨piece, ended⟩ -
  cases ended with
  | true => simp only [Function.comp_apply, if_true, Utf8.lossyString, ← hdrop]; rfl
  | false => rfl

theorem sourceLines_of_not_mem (hne : bytes ≠ []) (h : lineFeed ∉ bytes) :
    sourceLines (Utf8.lossyString bytes) = [Utf8.lossyString bytes] := by
  rw [sourceLines_lossyString, pieces_of_not_mem hne h]
  rfl

theorem sourceLines_append_cons (h : lineFeed ∉ whole) (rest : List UInt8) :
    sourceLines (Utf8.lossyString (whole ++ lineFeed :: rest)) =
      Utf8.lossyString (dropTrailing carriageReturn whole) ::
        sourceLines (Utf8.lossyString rest) := by
  rw [sourceLines_lossyString, pieces_append_cons h, List.map_cons, ← sourceLines_lossyString]
  rfl

/-- The two ways of cutting give the same lines, but for an empty one at the end. -/
theorem fileLines_agree (bytes : List UInt8) :
    ∃ blank : List String, blank ⊆ [""] ∧ (fileLines bytes).map Utf8.lossyString =
      sourceLines (Utf8.lossyString (dropTrailing carriageReturn bytes)) ++ blank := by
  induction bytes using pieces_induction lineFeed with
  | nil => exact ⟨[], by simp, rfl⟩
  | last bytes hne hbytes =>
    rw [fileLines_of_not_mem hne hbytes]
    have hleft : lineFeed ∉ dropTrailing carriageReturn bytes :=
      fun h => hbytes (mem_of_mem_dropTrailing h)
    by_cases hempty : dropTrailing carriageReturn bytes = []
    · exact ⟨[""], by simp, by rw [hempty]; rfl⟩
    · exact ⟨[], by simp, by rw [sourceLines_of_not_mem hempty hleft]; rfl⟩
  | cut whole rest hwhole ih =>
    obtain ⟨blank, hblank, hlines⟩ := ih
    refine ⟨blank, hblank, ?_⟩
    rw [fileLines_append_cons hwhole, dropTrailing_append_cons (fun _ => by decide),
      sourceLines_append_cons hwhole, List.map_cons, hlines, List.cons_append]

namespace FileParser

theorem feed_blank (p : FileParser) : p.feed "" = p := by
  obtain ⟨mode, name, imports, closed⟩ := p
  cases mode <;> rfl

theorem feedAll_blank {blank : List String} (hblank : blank ⊆ [""]) (p : FileParser) :
    p.feedAll blank = p := by
  induction blank generalizing p with
  | nil => rfl
  | cons line blank ih =>
    obtain ⟨hline, hrest⟩ := List.cons_subset.mp hblank
    rw [List.mem_singleton.mp hline, feedAll, feed_blank, ih hrest, ite_self]

/-- Empty lines at the end of a text change nothing. -/
theorem feedAll_append_blank {blank : List String} (hblank : blank ⊆ [""])
    (lines : List String) (p : FileParser) :
    p.feedAll (lines ++ blank) = p.feedAll lines := by
  induction lines generalizing p with
  | nil => exact feedAll_blank hblank p
  | cons line lines ih => rw [List.cons_append, feedAll, feedAll, ih]

end FileParser

theorem extract_of_short {max : Nat} (h : ∀ line ∈ fileLines bytes, line.length ≤ max) :
    extract max bytes =
      .ok (parseSource (Utf8.lossyString (dropTrailing carriageReturn bytes))) := by
  obtain ⟨blank, hblank, hlines⟩ := fileLines_agree bytes
  rw [extract, extractFrom_eq_feedShort, feedShort_of_short h, hlines,
    FileParser.feedAll_append_blank hblank, parseSource]

end ImportWeights.Source

namespace ImportWeights.Scan

open ImportWeights.Files ImportWeights.Source

/-- Reading a regular file whose lines all fit gives what parsing its decoded content gives. -/
theorem extractFile_eq_parseSource (s : Scanner) (files : FileTree) (path : Path)
    (content : List UInt8) (hfile : files.node path = .ok (.file content))
    (hshort : ∀ line ∈ fileLines content, line.length ≤ s.maxLineLength) :
    s.extractFile files path = .ok (parseSource (Text.Utf8.lossyString
      (Text.dropTrailing carriageReturn content))) := by
  have hread : files.read path = .ok content := by rw [FileTree.read, hfile]
  rw [Scanner.extractFile, hread, outcomeOf, extract_of_short hshort]

/-- The lines `import (`, one with an invalid byte before its `\r\n`, and `)\r` at the end. -/
def sampleContent : List UInt8 :=
  [105, 109, 112, 111, 114, 116, 32, 40, 10, 99, 233, 13, 10, 41, 13]

theorem extractFile_of_invalid_byte :
    (Scanner.mk ⟨[]⟩ 8).extractFile ⟨.dir [([109], .file sampleContent)], []⟩ ⟨[47, 109]⟩ =
      .ok (.complete ⟨"", ["c\uFFFD"]⟩) := by
  refine (extractFile_eq_parseSource _ _ _ sampleContent ?_ (by decide)).trans ?_
  · simp [FileTree.node, FileTree.locate, FileTree.steps, FileTree.walk, Path.names,
      Path.separator, Path.isAbsolute, Path.currentName, Path.parentName, Text.pieces, Node.at?,
      Node.child?, Node.entries, maxPathLength, maxNameLength]
  · decide

end ImportWeights.Scan
