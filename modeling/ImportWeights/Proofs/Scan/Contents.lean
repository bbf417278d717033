import ImportWeights.Proofs.Scan.Confinement
import ImportWeights.Proofs.Weights.Counting

/-! # Contents alone

What a file comes to is told by what it holds; its path stands only in what is told of it. So a
scan is read off the contents of its candidates, each taken for itself (`scanTree_of_contents`),
and two checkouts whose candidates hold the same come to the same figures and weights, wherever
the files lie, in whatever order they are met, and whatever lies beside them, as long as the
walk gets past it. -/

namespace ImportWeights.Scan

open ImportWeights.Files ImportWeights.Source

/-- What reading each candidate gives, in walk order: of a regular file, its content. A walk that
fails gives no candidates, not even none. -/
def Scanner.contents (s : Scanner) (files : FileTree) (root : Path) :
    Except ScanError (List (Except FileTree.ReadError (List UInt8))) :=
  (s.candidates files root).map fun found =>
    found.map fun names => files.read (pathBelow root names)

/-- Why a file is told of. -/
inductive DiagnosticKind where
  | unopened
  | unreadable
  | overlongLine
  | unterminated
deriving DecidableEq, Repr

def Diagnostic.kind : Diagnostic → DiagnosticKind
  | .skipped (.opening ..) => .unopened
  | .skipped (.reading ..) => .unreadable
  | .skipped (.lineTooLong ..) => .overlongLine
  | .unterminated .. => .unterminated

/-- The record of a file that holds a content, wherever it lies. -/
def recordIn (max : Nat) (content : Except FileTree.ReadError (List UInt8)) :
    Option PackageRecord :=
  recordOf (outcomeOf max ⟨[]⟩ content)

/-- Why a file that holds a content is told of, wherever it lies. -/
def kindIn (max : Nat) (content : Except FileTree.ReadError (List UInt8)) :
    Option DiagnosticKind :=
  (diagnosticOf ⟨[]⟩ (outcomeOf max ⟨[]⟩ content)).map Diagnostic.kind

variable {s s' : Scanner} {files files' : FileTree} {root root' : Path}

theorem recordOf_outcomeOf (max : Nat) (path : Path)
    (content : Except FileTree.ReadError (List UInt8)) :
    recordOf (outcomeOf max path content) = recordIn max content := by
  unfold recordIn
  cases content with
  | error e => cases e <;> rfl
  | ok bytes => cases h : extract max bytes <;> simp [outcomeOf, h, recordOf]

theorem kind_outcomeOf (max : Nat) (path : Path)
    (content : Except FileTree.ReadError (List UInt8)) :
    (diagnosticOf path (outcomeOf max path content)).map Diagnostic.kind =
      kindIn max content := by
  unfold kindIn
  cases content with
  | error e => cases e <;> rfl
  | ok bytes =>
    cases h : extract max bytes with
    | error e => simp [outcomeOf, h, diagnosticOf, Diagnostic.kind]
    | ok outcome => cases outcome <;> simp [outcomeOf, h, diagnosticOf, Diagnostic.kind]

theorem recordsOf_readings (s : Scanner) (files : FileTree) (paths : List Path) :
    recordsOf (s.readings files paths) =
      (paths.map files.read).filterMap (recordIn s.maxLineLength) := by
  rw [recordsOf, Scanner.readings, List.filterMap_map, List.filterMap_map]
  exact List.filterMap_congr fun path _ => recordOf_outcomeOf _ path _

theorem kinds_readings (s : Scanner) (files : FileTree) (paths : List Path) :
    (diagnosticsOf (s.readings files paths)).map Diagnostic.kind =
      (paths.map files.read).filterMap (kindIn s.maxLineLength) := by
  rw [diagnosticsOf, Scanner.readings, List.map_filterMap, List.filterMap_map, List.filterMap_map]
  exact List.filterMap_congr fun path _ => kind_outcomeOf _ path _

/-- A scan whose walk does not fail succeeds if its candidates hold anything at all, even nothing
that can be read; its records and what it tells are those of the contents, one by one. -/
theorem scanTree_of_contents {contents : List (Except FileTree.ReadError (List UInt8))}
    (h : s.contents files root = .ok contents) :
    ((∃ scan, (s.scanTree files root).result = .ok scan) ↔ contents ≠ []) ∧
    (s.scanTree files root).diagnostics.map Diagnostic.kind =
      contents.filterMap (kindIn s.maxLineLength) ∧
    ∀ scan, (s.scanTree files root).result = .ok scan →
      scan.filesScanned = contents.length ∧
      scan.packages = contents.filterMap (recordIn s.maxLineLength) := by
  rw [Scanner.contents] at h
  cases hfound : s.candidates files root with
  | error e =>
    rw [hfound] at h
    cases h
  | ok found =>
    rw [hfound] at h
    obtain rfl := Except.ok.inj h
    rcases collectCandidates_of_candidates hfound with ⟨collected, nonempty⟩ | ⟨rfl, e, refused⟩
    · obtain ⟨result, diagnostics⟩ := scanTree_of_ok collected
      have reads : (found.map (pathBelow root)).map files.read =
          found.map fun names => files.read (pathBelow root names) := List.map_map
      rw [result, diagnostics, kinds_readings, recordsOf_readings, reads]
      refine ⟨by simp [nonempty], rfl, ?_⟩
      intro scan same
      cases same
      exact ⟨(List.length_map _).symm, rfl⟩
    · simp [scanTree_of_error refused]

/-- Two scans with the same limit, neither of whose walks fails, and whose candidates hold the
same, in any order and under any names, both fail or both succeed. They tell of as many files of
each kind, have read as many files, and have the same records but for their order, and so the
same weights. -/
theorem scan_depends_on_contents (s s' : Scanner) (files files' : FileTree) (root root' : Path)
    (contents contents' : List (Except FileTree.ReadError (List UInt8)))
    (limit : s'.maxLineLength = s.maxLineLength)
    (walked : s.contents files root = .ok contents)
    (walked' : s'.contents files' root' = .ok contents') (same : contents'.Perm contents) :
    ((∃ scan', (s'.scanTree files' root').result = .ok scan') ↔
      ∃ scan, (s.scanTree files root).result = .ok scan) ∧
    (∀ kind, (s'.scanTree files' root').diagnostics.countP (·.kind = kind) =
      (s.scanTree files root).diagnostics.countP (·.kind = kind)) ∧
    ∀ scan scan', (s.scanTree files root).result = .ok scan →
      (s'.scanTree files' root').result = .ok scan' →
      scan'.filesScanned = scan.filesScanned ∧
      scan'.packages.Perm scan.packages ∧
      scan'.packages.length = scan.packages.length ∧
      WeightMap.ofRecords scan'.packages = WeightMap.ofRecords scan.packages ∧
      (WeightMap.ofRecords scan'.packages).heaviest =
        (WeightMap.ofRecords scan.packages).heaviest := by
  obtain ⟨succeeds, kinds, found⟩ := scanTree_of_contents walked
  obtain ⟨succeeds', kinds', found'⟩ := scanTree_of_contents walked'
  refine ⟨?_, ?_, ?_⟩
  · rw [succeeds, succeeds', Ne, Ne, ← List.length_eq_zero_iff, same.length_eq,
      List.length_eq_zero_iff]
  · intro kind
    have told : ((s'.scanTree files' root').diagnostics.map Diagnostic.kind).Perm
        ((s.scanTree files root).diagnostics.map Diagnostic.kind) := by
      rw [kinds, kinds', limit]
      exact same.filterMap _
    have count := told.countP_eq fun other => other = kind
    rw [List.countP_map, List.countP_map] at count
    exact count
  · intro scan scan' result result'
    obtain ⟨scanned, packages⟩ := found scan result
    obtain ⟨scanned', packages'⟩ := found' scan' result'
    have records : scan'.packages.Perm scan.packages := by
      rw [packages, packages', limit]
      exact same.filterMap _
    have weights : WeightMap.ofRecords scan'.packages = WeightMap.ofRecords scan.packages :=
      WeightMap.ofRecords_eq_of_reordered ⟨scan'.packages, records.symm,
        List.forall₂_same.mpr fun _ _ => ⟨rfl, .refl _⟩⟩
    refine ⟨?_, records, records.length_eq, weights, congrArg WeightMap.heaviest weights⟩
    rw [scanned, scanned', same.length_eq]

/-! ## Two checkouts of the same contents -/

/-- A file whose block is closed, and one whose block stays open. -/
def closedContent : List UInt8 := Text.Utf8.ofString "package p\nimport (\nx\n)"
def openContent : List UInt8 := Text.Utf8.ofString "import ("

/-- `a.go` with the closed block, and `b.go` with the open one. -/
def flatCheckout : FileTree :=
  ⟨.dir [([97, 46, 103, 111], .file closedContent), ([98, 46, 103, 111], .file openContent)], []⟩

/-- `a/z.go` with the open block, `b.go` with the closed one, and `n`, which is no source file. -/
def nestedCheckout : FileTree :=
  ⟨.dir [([97], .dir [([122, 46, 103, 111], .file openContent)]),
    ([98, 46, 103, 111], .file closedContent), ([110], .file [])], []⟩

theorem flatCheckout_candidates : collectCandidates ⟨[]⟩ flatCheckout ⟨[47]⟩ =
    .ok [[[97, 46, 103, 111]], [[98, 46, 103, 111]]] := by
  have root : flatCheckout.node ⟨[47]⟩ = .ok flatCheckout.top :=
    FileTree.node_ok_iff.mpr ⟨[], flatCheckout.locate_separator true⟩
  exact collectCandidates_of_flat [[97, 46, 103, 111], [98, 46, 103, 111]] root
    (by simp [Node.isDir]) rfl (by decide)
    (by simp only [isCandidate_eq, isPruned_eq]; decide) (by simp)

theorem nestedCheckout_proper : nestedCheckout.top.Proper := by
  simp [nestedCheckout, properName_iff, Path.separator, Path.currentName, Path.parentName]

theorem nestedCheckout_met : metBelow ⟨[]⟩ [] nestedCheckout.top =
    [⟨[], true⟩, ⟨[[97]], true⟩, ⟨[[97], [122, 46, 103, 111]], false⟩,
      ⟨[[98, 46, 103, 111]], false⟩, ⟨[[110]], false⟩] := by
  rw [nestedCheckout, metBelow_dir, inNameOrder_of_pairwise (by decide)]
  simp only [List.flatMap_cons, List.flatMap_nil, metAt, metBelow_dir, List.nil_append,
    kept_without_patterns]
  rw [inNameOrder_of_pairwise (by decide)]
  simp [metAt, metBelow, Node.isDir]

theorem nestedCheckout_candidates : collectCandidates ⟨[]⟩ nestedCheckout ⟨[47]⟩ =
    .ok [[[97], [122, 46, 103, 111]], [[98, 46, 103, 111]]] := by
  have root : nestedCheckout.node ⟨[47]⟩ = .ok nestedCheckout.top :=
    FileTree.node_ok_iff.mpr ⟨[], nestedCheckout.locate_separator true⟩
  have directory : nestedCheckout.top.at? [[97]] =
      some (.dir [([122, 46, 103, 111], .file openContent)]) := by
    simp [nestedCheckout, Node.child?, Node.entries]
  have found : candidatesBelow ⟨[]⟩ [] nestedCheckout.top =
      [[[97], [122, 46, 103, 111]], [[98, 46, 103, 111]]] := by
    rw [candidatesBelow, nestedCheckout_met]
    simp only [Entry.isToRead, isCandidate_eq, isPruned_eq]
    decide
  rw [collectCandidates_of_listable root, found]
  · rfl
  · rw [nestedCheckout_met]
    simp only [List.forall_mem_cons]
    exact ⟨fun _ => listable_root root, fun _ => listable_of_fits
      (nestedCheckout.locate_separator true) nestedCheckout_proper directory (by decide)
      ⟨by decide, by decide, by decide⟩, listable_of_leaf, listable_of_leaf, listable_of_leaf,
      List.forall_mem_nil _⟩

theorem contents_of_candidates {found : List (List Name)}
    (h : collectCandidates s.filter files root = .ok found) :
    s.contents files root = .ok (found.map fun names => files.read (pathBelow root names)) := by
  rw [Scanner.contents, Scanner.candidates, h]
  rfl

theorem flatCheckout_contents (max : Nat) :
    (Scanner.mk ⟨[]⟩ max).contents flatCheckout ⟨[47]⟩ =
      .ok [.ok closedContent, .ok openContent] := by
  rw [contents_of_candidates flatCheckout_candidates]
  simp [flatCheckout, pathBelow, Path.join, Path.ofNames, FileTree.read, FileTree.node,
    FileTree.locate, FileTree.steps, FileTree.walk, Path.names, Path.separator, Path.isAbsolute,
    Text.pieces, Path.currentName, Path.parentName, Node.at?, Node.child?, Node.entries,
    maxPathLength, maxNameLength]

theorem nestedCheckout_contents (max : Nat) :
    (Scanner.mk ⟨[]⟩ max).contents nestedCheckout ⟨[47]⟩ =
      .ok [.ok openContent, .ok closedContent] := by
  rw [contents_of_candidates nestedCheckout_candidates]
  simp [nestedCheckout, pathBelow, Path.join, Path.ofNames, FileTree.read, FileTree.node,
    FileTree.locate, FileTree.steps, FileTree.walk, Path.names, Path.separator, Path.isAbsolute,
    Text.pieces, Path.currentName, Path.parentName, Node.at?, Node.child?, Node.entries,
    maxPathLength, maxNameLength]

/-- One checkout has the two files side by side, the other one has them in two directories, and
in the other order. -/
theorem scan_depends_on_contents_nested :
    let s : Scanner := ⟨⟨[]⟩, 4096⟩
    ∃ contents contents', s.contents flatCheckout ⟨[47]⟩ = .ok contents ∧
      s.contents nestedCheckout ⟨[47]⟩ = .ok contents' ∧ contents'.Perm contents ∧
      contents' ≠ contents ∧
      ∃ scan scan', (s.scanTree flatCheckout ⟨[47]⟩).result = .ok scan ∧
        (s.scanTree nestedCheckout ⟨[47]⟩).result = .ok scan' ∧
        WeightMap.ofRecords scan'.packages = WeightMap.ofRecords scan.packages := by
  intro s
  have flat := flatCheckout_contents 4096
  have nested := nestedCheckout_contents 4096
  have same : [Except.ok openContent, .ok closedContent].Perm
      [(.ok closedContent : Except FileTree.ReadError (List UInt8)), .ok openContent] := .swap ..
  obtain ⟨succeeds, -, figures⟩ := scan_depends_on_contents s s flatCheckout nestedCheckout
    ⟨[47]⟩ ⟨[47]⟩ _ _ rfl flat nested same
  obtain ⟨scan, result⟩ := (scanTree_of_contents flat).1.mpr (by simp)
  obtain ⟨scan', result'⟩ := succeeds.mpr ⟨scan, result⟩
  obtain ⟨-, -, -, weights, -⟩ := figures scan scan' result result'
  have differ : [Except.ok openContent, .ok closedContent] ≠
      [(.ok closedContent : Except FileTree.ReadError (List UInt8)), .ok openContent] := by
    decide +kernel
  exact ⟨_, _, flat, nested, same, differ, scan, scan', result, result', weights⟩

/-- `ok.go` alone. -/
def lonelyCheckout : FileTree := ⟨.dir [([111, 107, 46, 103, 111], .file [])], []⟩

theorem lonelyCheckout_node : lonelyCheckout.node ⟨[47]⟩ = .ok lonelyCheckout.top :=
  FileTree.node_ok_iff.mpr ⟨[], lonelyCheckout.locate_separator true⟩

theorem lonelyCheckout_collected :
    collectCandidates ⟨[]⟩ lonelyCheckout ⟨[47]⟩ = .ok [[[111, 107, 46, 103, 111]]] :=
  collectCandidates_of_flat [[111, 107, 46, 103, 111]] lonelyCheckout_node (by simp [Node.isDir])
    rfl (by decide) (by simp only [isCandidate_eq, isPruned_eq]; decide) (by simp)

theorem lonelyCheckout_read :
    lonelyCheckout.read (pathBelow ⟨[47]⟩ [[111, 107, 46, 103, 111]]) = .ok [] ∧
      shutCheckout.read (pathBelow ⟨[47]⟩ [[111, 107, 46, 103, 111]]) = .ok [] := by
  constructor <;>
  simp [lonelyCheckout, shutCheckout, pathBelow, Path.join, Path.ofNames, FileTree.read,
    FileTree.node, FileTree.locate, FileTree.steps, FileTree.walk, Path.names, Path.separator,
    Path.isAbsolute, Text.pieces, Path.currentName, Path.parentName, Node.at?, Node.child?,
    Node.entries, maxPathLength, maxNameLength]

/-- What the files to be read hold is not enough: one of two checkouts that hold the same may
have a directory beside them that the walk fails at. -/
theorem scan_depends_on_the_walk :
    ¬ ∀ (s s' : Scanner) (files files' : FileTree) (root root' : Path) (top top' : Node),
      s'.maxLineLength = s.maxLineLength →
      files.node root = .ok top → top.isDir = true → top.Proper →
      files'.node root' = .ok top' → top'.isDir = true → top'.Proper →
      ((candidatesBelow s'.filter [] top').map fun names => files'.read (pathBelow root' names)).Perm
        ((candidatesBelow s.filter [] top).map fun names => files.read (pathBelow root names)) →
      ((∃ scan', (s'.scanTree files' root').result = .ok scan') ↔
        ∃ scan, (s.scanTree files root).result = .ok scan) := by
  intro h
  have proper : lonelyCheckout.top.Proper := by
    simp [lonelyCheckout, properName_iff, Path.separator, Path.currentName, Path.parentName]
  have both := h ⟨⟨[]⟩, 4096⟩ ⟨⟨[]⟩, 4096⟩ lonelyCheckout shutCheckout ⟨[47]⟩ ⟨[47]⟩ _ _ rfl
    lonelyCheckout_node rfl proper shutCheckout_node rfl shutCheckout_proper
  obtain ⟨-, candidates⟩ := eq_candidatesBelow lonelyCheckout_node lonelyCheckout_collected
  rw [← candidates, shutCheckout_candidates] at both
  simp only [List.map_cons, List.map_nil, lonelyCheckout_read] at both
  obtain ⟨scan, failed⟩ := (both (.refl _)).mpr ⟨_, (scanTree_of_ok lonelyCheckout_collected).1⟩
  rw [scanTree_of_error (shutCheckout_fails kept_without_patterns)] at failed
  cases failed

end ImportWeights.Scan
