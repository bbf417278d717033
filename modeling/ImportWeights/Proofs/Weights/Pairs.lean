import ImportWeights.Proofs.Scan.Records
import ImportWeights.Proofs.Weights.Lookup

/-! # Counts of pairs

A weight map is keyed by a text: the package, a colon and the import. Both may hold colons
themselves, and then two pairs can have one key. The count under a key is that of all pairs
with this key, so it is a pair's own count exactly where no other pair that occurs shares the
key; package names without a colon are enough for that. -/

namespace ImportWeights.WeightMap

open ImportWeights.Files ImportWeights.Source ImportWeights.Scan

/-- How often a package imports a path, in all records of that name together. -/
def occurrences (records : List PackageRecord) (e : Edge) : Nat :=
  ((records.filter (·.name = e.package)).flatMap (·.imports)).count e.path

variable {records : List PackageRecord} {e other : Edge} {es : List Edge}

theorem count_map_edge (name : String) (imports : List String) (e : Edge) :
    (imports.map (Edge.mk name)).count e =
      if name = e.package then imports.count e.path else 0 := by
  induction imports with
  | nil => simp
  | cons path imports ih =>
    obtain ⟨package, target⟩ := e
    rw [List.map_cons, List.count_cons, ih]
    by_cases hname : name = package
    · by_cases hpath : path = target <;> simp [hname, hpath]
    · simp [hname]

theorem edges_cons (r : PackageRecord) (records : List PackageRecord) :
    edges (r :: records) = (r.imports.filter (· ≠ "")).map (Edge.mk r.name) ++ edges records := by
  rw [edges, List.flatMap_cons]
  rfl

/-- Where no import is empty, the edges that are counted are the pairs that occur. -/
theorem count_edges (hfilled : ∀ r ∈ records, "" ∉ r.imports) (e : Edge) :
    (edges records).count e = occurrences records e := by
  induction records with
  | nil => rfl
  | cons r records ih =>
    obtain ⟨hr, hrecords⟩ := List.forall_mem_cons.mp hfilled
    have hall : r.imports.filter (· ≠ "") = r.imports := by
      refine List.filter_eq_self.mpr ?_
      intro path hpath
      exact decide_eq_true fun hempty => hr (hempty ▸ hpath)
    rw [edges_cons, hall, List.count_append, count_map_edge, ih hrecords, occurrences, occurrences,
      List.filter_cons]
    by_cases hname : r.name = e.package <;> simp [hname]

theorem counted_inj {n n' : Nat} : counted n = counted n' ↔ n = n' := by
  unfold counted
  split <;> split <;> simp_all; omega

/-- Edges with a key are the one that is meant, and others with the same key. -/
theorem countP_key (es : List Edge) (e : Edge) :
    es.countP (·.key = e.key) =
      es.count e + es.countP fun other => other.key = e.key ∧ other ≠ e := by
  induction es with
  | nil => rfl
  | cons first es ih =>
    rw [List.countP_cons, List.countP_cons, List.count_cons, ih]
    by_cases hfirst : first = e
    · simp [hfirst]; omega
    · simp [hfirst]; omega

theorem countP_key_eq_count_iff :
    es.countP (·.key = e.key) = es.count e ↔ ∀ other ∈ es, other.key = e.key → other = e := by
  rw [countP_key, Nat.add_eq_left, List.countP_eq_zero]
  simp

/-- A colon that stands in neither package tells where the package ends. -/
theorem eq_of_key_eq (h : ':' ∉ e.package.toList) (h' : ':' ∉ other.package.toList)
    (hkey : other.key = e.key) : other = e := by
  have hfront : ∀ {package : List Char} (path : List Char), ':' ∉ package →
      (package ++ ':' :: path).takeWhile (· != ':') = package := by
    intro package path hpackage
    rw [List.takeWhile_append_of_pos]
    · simp
    · intro c hc
      exact bne_iff_ne.mpr fun heq => hpackage (heq ▸ hc)
  have hchars : other.package.toList ++ ':' :: other.path.toList =
      e.package.toList ++ ':' :: e.path.toList := by
    simpa [Edge.key] using congrArg String.toList hkey
  have hpackage : other.package.toList = e.package.toList := by
    rw [← hfront other.path.toList h', hchars, hfront _ h]
  rw [hpackage] at hchars
  have hpath := List.append_cancel_left hchars
  obtain ⟨package, path⟩ := e
  obtain ⟨package', path'⟩ := other
  rw [Edge.mk.injEq]
  exact ⟨String.toList_injective hpackage, String.toList_injective (List.cons.inj hpath).2⟩

theorem mem_edges_iff (hfilled : ∀ r ∈ records, "" ∉ r.imports) :
    e ∈ edges records ↔ 0 < occurrences records e := by
  rw [← count_edges hfilled, List.count_pos_iff]

theorem exists_record_of_mem_edges (h : e ∈ edges records) : ∃ r ∈ records, r.name = e.package := by
  obtain ⟨r, hr, hmem⟩ := List.mem_flatMap.mp h
  obtain ⟨path, -, rfl⟩ := List.mem_map.mp hmem
  exact ⟨r, hr, rfl⟩

/-- Of the records of a scan, what is found under a pair's key is the count of that pair exactly
if no other pair with the same key occurs. Where no package name holds a colon, it is. -/
theorem get?_key_exact (s : Scanner) (files : FileTree) (root : Path) (scan : TreeScan)
    (h : (s.scanTree files root).result = .ok scan) (e : Edge) :
    ((ofRecords scan.packages).get? e.key = counted (occurrences scan.packages e) ↔
      ∀ other, 0 < occurrences scan.packages other → other.key = e.key → other = e) ∧
    ((∀ r ∈ scan.packages, ':' ∉ r.name.toList) → ':' ∉ e.package.toList →
      (ofRecords scan.packages).get? e.key = counted (occurrences scan.packages e)) := by
  have hfilled : ∀ r ∈ scan.packages, "" ∉ r.imports := fun _ => empty_not_mem_imports h
  have hexact : (ofRecords scan.packages).get? e.key = counted (occurrences scan.packages e) ↔
      ∀ other, 0 < occurrences scan.packages other → other.key = e.key → other = e := by
    rw [ofRecords, get?_ofEdges, counted_inj, ← count_edges hfilled, countP_key_eq_count_iff]
    simp only [mem_edges_iff hfilled]
  refine ⟨hexact, ?_⟩
  intro hnames hpackage
  refine hexact.mpr ?_
  intro other hoccurs hkey
  obtain ⟨r, hr, hname⟩ := exists_record_of_mem_edges ((mem_edges_iff hfilled).mpr hoccurs)
  exact eq_of_key_eq hpackage (hname ▸ hnames r hr) hkey

/-- `a.go` of a package `a:b` that imports `c`, and `b.go` of a package `a` that imports `b:c`. -/
def colonCheckout : FileTree :=
  ⟨.dir [([97, 46, 103, 111], .file (Text.Utf8.ofString "package a:b\nimport (\nc\n)")),
    ([98, 46, 103, 111], .file (Text.Utf8.ofString "package a\nimport (\nb:c\n)"))], []⟩

theorem colonCheckout_candidates : collectCandidates ⟨[]⟩ colonCheckout ⟨[47]⟩ =
    .ok [[[97, 46, 103, 111]], [[98, 46, 103, 111]]] := by
  have hroot : colonCheckout.node ⟨[47]⟩ = .ok colonCheckout.top :=
    FileTree.node_ok_iff.mpr ⟨[], colonCheckout.locate_separator true⟩
  exact collectCandidates_of_flat [[97, 46, 103, 111], [98, 46, 103, 111]] hroot
    (by simp [Node.isDir]) rfl (by decide)
    (by simp only [Scan.isCandidate_eq, Scan.isPruned_eq]; decide) (by simp)

theorem colonCheckout_read :
    colonCheckout.read (pathBelow ⟨[47]⟩ [[97, 46, 103, 111]]) =
        .ok (Text.Utf8.ofString "package a:b\nimport (\nc\n)") ∧
      colonCheckout.read (pathBelow ⟨[47]⟩ [[98, 46, 103, 111]]) =
        .ok (Text.Utf8.ofString "package a\nimport (\nb:c\n)") := by
  constructor <;>
  simp [colonCheckout, pathBelow, Path.join, Path.ofNames, FileTree.read, FileTree.node,
    FileTree.locate, FileTree.steps, FileTree.walk, Path.names, Path.separator, Path.isAbsolute,
    Text.pieces, Path.currentName, Path.parentName, Node.at?, Node.child?, Node.entries,
    maxPathLength, maxNameLength]

theorem colonCheckout_scan : ((Scanner.mk ⟨[]⟩ 4096).scanTree colonCheckout ⟨[47]⟩).result =
    .ok ⟨[⟨"a:b", ["c"]⟩, ⟨"a", ["b:c"]⟩], 2⟩ := by
  have hfirst : extract 4096 (Text.Utf8.ofString "package a:b\nimport (\nc\n)") =
      .ok (.complete ⟨"a:b", ["c"]⟩) :=
    (extract_eq_feedShort _ _).trans (by decide +kernel)
  have hsecond : extract 4096 (Text.Utf8.ofString "package a\nimport (\nb:c\n)") =
      .ok (.complete ⟨"a", ["b:c"]⟩) :=
    (extract_eq_feedShort _ _).trans (by decide +kernel)
  rw [(scanTree_of_ok colonCheckout_candidates).1]
  simp [Scanner.readings, recordsOf, Scanner.extractFile, colonCheckout_read, outcomeOf, hfirst,
    hsecond, recordOf]

/-- The import of `c` is counted under its own key, and there with the import of `b:c`. -/
theorem get?_key_exact_colon :
    ((Scanner.mk ⟨[]⟩ 4096).scanTree colonCheckout ⟨[47]⟩).result =
        .ok ⟨[⟨"a:b", ["c"]⟩, ⟨"a", ["b:c"]⟩], 2⟩ ∧
      (ofRecords [⟨"a:b", ["c"]⟩, ⟨"a", ["b:c"]⟩]).get? (Edge.mk "a:b" "c").key ≠
        counted (occurrences [⟨"a:b", ["c"]⟩, ⟨"a", ["b:c"]⟩] ⟨"a:b", "c"⟩) := by
  refine ⟨colonCheckout_scan, ?_⟩
  intro heq
  obtain ⟨hexact, -⟩ := get?_key_exact _ _ _ _ colonCheckout_scan ⟨"a:b", "c"⟩
  have hother := hexact.mp heq ⟨"a", "b:c"⟩ (by decide) (by decide)
  exact absurd hother (by decide)

/-- Another pair's occurrences are counted under a pair's key. -/
theorem get?_key_collides :
    ¬ ∀ (s : Scanner) (files : FileTree) (root : Path) (scan : TreeScan),
      (s.scanTree files root).result = .ok scan → ∀ e : Edge,
      (ofRecords scan.packages).get? e.key = counted (occurrences scan.packages e) := by
  intro h
  have hcount := h _ _ _ _ colonCheckout_scan ⟨"a:b", "c"⟩
  have htwo : (ofRecords [⟨"a:b", ["c"]⟩, ⟨"a", ["b:c"]⟩]).get? (Edge.mk "a:b" "c").key =
      some 2 := by decide
  have hone : counted (occurrences [⟨"a:b", ["c"]⟩, ⟨"a", ["b:c"]⟩] ⟨"a:b", "c"⟩) = some 1 := by
    decide
  rw [htwo, hone] at hcount
  cases hcount

end ImportWeights.WeightMap
