import ImportWeights.Proofs.Scan.Walk
import ImportWeights.Proofs.Text.Encoding

/-! # The walk finds exactly the candidates

What a scan is to read is said of the tree as a whole (`ToRead`): an entry that is no directory,
that the filter selects, and that lies below no directory left out. So are the directories that
the walk has to list on the way (`Entered`). It is given all that is to be read, or it fails at
the first of these directories that cannot be listed. -/

namespace ImportWeights.Scan

open ImportWeights.Files

/-- An entry that a scan of a tree is to read. Its way down is told by names alone: links are
entries like files and lead nowhere. -/
structure ToRead (f : CandidateFilter) (top : Node) (names : List Name) : Prop where
  entry : top.HasLeaf names
  selected : f.isCandidate (Path.ofNames names) = true
  reached : ∀ above, above <+: names → above ≠ [] → above ≠ names →
    f.isPruned (Path.ofNames above) = false

/-- A directory that a scan of a tree has to list: neither it nor any above it is left out. -/
structure Entered (f : CandidateFilter) (top : Node) (names : List Name) : Prop where
  entry : ∃ node, top.at? names = some node ∧ node.isDir = true
  kept : ∀ above, above <+: names → above ≠ [] → f.isPruned (Path.ofNames above) = false

/-- The candidates at and below a node at the given names, if every directory can be listed. -/
def candidatesBelow (f : CandidateFilter) (names : List Name) (n : Node) : List (List Name) :=
  ((metBelow f names n).filter (·.isToRead f)).map (·.names)

variable {f : CandidateFilter} {files : FileTree} {root : Path} {names way : List Name}
  {n top : Node} {entries : List (Name × Node)} {found : List (List Name)}

theorem candidatesBelow_sorted (proper : n.Proper) :
    (candidatesBelow f names n).Pairwise (· < ·) :=
  List.pairwise_map.mpr ((metBelow_sorted f names proper).filter _)

/-- The candidates of a tree are what is to be read of it. -/
theorem toRead_iff_mem (proper : n.Proper) : ToRead f n way ↔ way ∈ candidatesBelow f [] n := by
  simp only [candidatesBelow, List.mem_map, List.mem_filter, mem_metBelow proper, List.nil_append]
  constructor
  · rintro ⟨⟨leaf, entry, hleaf⟩, selected, reached⟩
    exact ⟨_, ⟨⟨way, leaf, rfl, entry, reached, by simp [hleaf]⟩, by
      simp [Entry.isToRead, hleaf, selected]⟩, rfl⟩
  · rintro ⟨e, ⟨⟨below, child, rfl, met⟩, selected⟩, rfl⟩
    rw [Entry.isToRead, Bool.and_eq_true, Bool.not_eq_true'] at selected
    exact ⟨⟨child, met.entry, selected.1⟩, selected.2, met.passed⟩

/-- The directories that the walk meets are those that it has to list. -/
theorem entered_iff_mem (proper : n.Proper) : Entered f n way ↔ ⟨way, true⟩ ∈ metBelow f [] n := by
  rw [mem_metBelow proper]
  constructor
  · rintro ⟨⟨child, entry, hdir⟩, kept⟩
    exact ⟨way, child, by rw [hdir, List.nil_append], entry,
      fun above hfront hne _ => kept above hfront hne, fun _ hne => kept way List.prefix_rfl hne⟩
  · rintro ⟨below, child, same, entry, passed, kept⟩
    obtain ⟨rfl, hdir⟩ := Entry.mk.inj same
    refine ⟨⟨child, entry, hdir.symm⟩, ?_⟩
    intro above hfront hne
    by_cases hwhole : above = way
    · subst hwhole
      exact kept hdir.symm hne
    · exact passed above hfront hne hwhole

/-! ## The list as a whole -/

theorem rootNode_of_node (h : files.node root = .ok top) : rootNode files root = .ok top := by
  unfold rootNode
  rcases FileTree.nodeItself_of_node h with hitself | ⟨target, hlink⟩
  · rw [hitself]
    cases top with
    | dir entries => rfl
    | file content => rfl
    | shut directory cause => rfl
    | link target => rw [h]
  · rw [hlink, h]

/-- Without patterns only the name of the vendored tree leaves anything out, and nothing below
that name is a candidate. -/
theorem not_isPruned_of_isCandidate (hexcludes : f.excludes = [])
    (hnames : ∀ name ∈ names, ProperName name) {above : List Name} (hfront : above <+: names)
    (hselected : f.isCandidate (Path.ofNames names) = true) :
    f.isPruned (Path.ofNames above) = false := by
  have hvendor : CandidateFilter.inVendorTree (Path.ofNames names) = false := by
    unfold CandidateFilter.isCandidate at hselected
    split at hselected
    · cases hselected
    · simp only [Bool.and_eq_true, Bool.not_eq_true'] at hselected
      exact hselected.1.2
  have habove : CandidateFilter.inVendorTree (Path.ofNames above) = false := by
    rw [CandidateFilter.inVendorTree, Path.components_ofNames hnames] at hvendor
    rw [CandidateFilter.inVendorTree,
      Path.components_ofNames fun name h => hnames name (hfront.mem h)]
    rw [← Bool.not_eq_true, List.contains_iff_mem] at hvendor ⊢
    exact fun hmem => hvendor ((hfront.map _).mem hmem)
  have hexcluded : f.isExcluded (Path.ofNames above) = false := by
    unfold CandidateFilter.isExcluded
    rw [hexcludes]
    split <;> rfl
  rw [CandidateFilter.isPruned, habove, hexcluded]
  rfl

theorem collectCandidates_eq (h : files.node root = .ok top) :
    collectCandidates f files root = (walkOver files root (metBelow f [] top)).bind fun _ =>
      if (candidatesBelow f [] top).isEmpty then .error (.noFilesFound root)
      else .ok (candidatesBelow f [] top) := by
  rw [collectCandidates, rootNode_of_node h]
  change (walkBelow f files root [] top).bind _ = _
  rw [walkBelow_eq, walkOver]
  cases (metBelow f [] top).findSome? (refusal? files root) <;> rfl

theorem collectCandidates_of_listable (h : files.node root = .ok top)
    (listable : ∀ e ∈ metBelow f [] top, e.directory = true → Listable files root e.names) :
    collectCandidates f files root =
      if (candidatesBelow f [] top).isEmpty then .error (.noFilesFound root)
      else .ok (candidatesBelow f [] top) := by
  have none : (metBelow f [] top).findSome? (refusal? files root) = none :=
    List.findSome?_eq_none_iff.mpr fun e he => refusal?_eq_none_iff.mpr (listable e he)
  rw [collectCandidates_eq h, walkOver, none]
  rfl

theorem listable_of_leaf {names : List Name} (h : (⟨names, false⟩ : Entry).directory = true) :
    Listable files root names := by
  cases h

theorem listable_root (h : files.node root = .ok (.dir entries)) : Listable files root [] :=
  ⟨entries, by rw [walkPath, if_pos rfl, FileTree.list, h]⟩

/-- A directory without directories in it is listed as soon as it is there. -/
theorem collectCandidates_of_flat (ordered : List Name) (h : files.node root = .ok (.dir entries))
    (flat : ∀ e ∈ entries, e.2.isDir = false) (hnames : entries.map (·.1) = ordered)
    (sorted : ordered.Pairwise (· ≤ ·))
    (hfound : ((ordered.map fun name => [name]).filter fun names =>
      f.isCandidate (Path.ofNames names)) = found) (hne : found ≠ []) :
    collectCandidates f files root = .ok found := by
  have met := metBelow_flat f [] flat (List.pairwise_map.mp (hnames ▸ sorted))
  have candidates : candidatesBelow f [] (.dir entries) = found := by
    rw [candidatesBelow, met, List.filter_cons_of_neg (by simp [Entry.isToRead]), ← hfound,
      ← hnames]
    simp [List.filter_map, Function.comp_def, Entry.isToRead]
  rw [collectCandidates_of_listable h, candidates, if_neg (by simpa using hne)]
  rw [met]
  refine List.forall_mem_cons.mpr ⟨fun _ => listable_root h, ?_⟩
  intro e he hdir
  obtain ⟨x, -, rfl⟩ := List.mem_map.mp he
  cases hdir

/-- What a scan is given was found below a directory. -/
theorem eq_candidatesBelow (h : files.node root = .ok top)
    (hfound : collectCandidates f files root = .ok found) :
    top.isDir = true ∧ found = candidatesBelow f [] top := by
  rw [collectCandidates_eq h] at hfound
  cases hwalk : walkOver files root (metBelow f [] top) with
  | error refusal =>
    rw [hwalk] at hfound
    cases hfound
  | ok met =>
    simp only [hwalk, Except.bind] at hfound
    split at hfound
    · cases hfound
    · rename_i hne
      refine ⟨?_, (Except.ok.inj hfound).symm⟩
      by_contra hleaf
      rw [Bool.not_eq_true] at hleaf
      have nothing : candidatesBelow f [] top = [] := by
        rw [candidatesBelow, metBelow_leaf hleaf]
        rfl
      exact hne (by rw [nothing]; rfl)

/-- A scan that has nothing to read fails. -/
theorem ne_nil_of_collectCandidates (h : collectCandidates f files root = .ok found) :
    found ≠ [] := by
  rintro rfl
  rw [collectCandidates] at h
  cases hroot : rootNode files root with
  | error refusal =>
    rw [hroot] at h
    cases h
  | ok top =>
    cases hwalk : walkBelow f files root [] top with
    | error refusal =>
      simp only [hroot, hwalk, bind, Except.bind] at h
      cases h
    | ok met =>
      simp only [hroot, hwalk, bind, Except.bind] at h
      split at h
      · cases h
      · rename_i hne
        exact hne (by rw [Except.ok.inj h]; rfl)

/-- Below a directory that is there, and if each directory that has to be listed can be: a scan
is refused exactly if there is nothing to be read, and otherwise it is given all that is to be
read, each once, by the byte order of the names on the way down. If there are directories that
cannot be listed, the whole scan fails, and it names the first of them in that order and why it
could not be listed. Without patterns, all candidates of the tree are to be read. -/
theorem collectCandidates_exact (f : CandidateFilter) (files : FileTree) (root : Path)
    (top : Node) (hroot : files.node root = .ok top) (proper : top.Proper) :
    ((∀ names, Entered f top names → Listable files root names) →
      (collectCandidates f files root = .error (.noFilesFound root) ↔
        ∀ names, ¬ ToRead f top names) ∧
      ((∃ names, ToRead f top names) → ∃ found, collectCandidates f files root = .ok found ∧
        (∀ names, names ∈ found ↔ ToRead f top names) ∧ found.Pairwise (· < ·))) ∧
    ((∃ names, Entered f top names ∧ ¬ Listable files root names) → ∃ names cause,
      Entered f top names ∧ files.list (walkPath root names) = .error cause ∧
      (∀ earlier, earlier < names → Entered f top earlier → Listable files root earlier) ∧
      collectCandidates f files root =
        .error (.walk root names.length (walkPath root names) cause)) ∧
    (f.excludes = [] → ∀ names, ToRead f top names ↔
      top.HasLeaf names ∧ f.isCandidate (Path.ofNames names) = true) := by
  refine ⟨?_, ?_, ?_⟩
  · intro listable
    have each : ∀ e ∈ metBelow f [] top, e.directory = true → Listable files root e.names := by
      rintro ⟨names, directory⟩ he rfl
      exact listable names ((entered_iff_mem proper).mpr he)
    rw [collectCandidates_of_listable hroot each]
    constructor
    · simp [toRead_iff_mem proper, List.eq_nil_iff_forall_not_mem]
    · rintro ⟨names, hnames⟩
      have hne : candidatesBelow f [] top ≠ [] :=
        List.ne_nil_of_mem ((toRead_iff_mem proper).mp hnames)
      exact ⟨_, by simp [hne], fun _ => (toRead_iff_mem proper).symm,
        candidatesBelow_sorted proper⟩
  · rintro ⟨missed, entered, unlisted⟩
    obtain ⟨refusal, hfirst⟩ : ∃ refusal,
        (metBelow f [] top).findSome? (refusal? files root) = some refusal := by
      rw [← Option.isSome_iff_exists, List.findSome?_isSome_iff]
      refine ⟨_, (entered_iff_mem proper).mp entered, Option.isSome_iff_ne_none.mpr ?_⟩
      exact fun h => unlisted (refusal?_eq_none_iff.mp h rfl)
    obtain ⟨before, ⟨names, directory⟩, after, hsplit, hrefused, hbefore⟩ :=
      List.findSome?_eq_some_iff.mp hfirst
    obtain ⟨rfl, cause, hcause, rfl⟩ := refusal?_eq_some_iff.mp hrefused
    refine ⟨names, cause, (entered_iff_mem proper).mpr (by simp [hsplit]), hcause, ?_, ?_⟩
    · intro earlier hlt hearlier
      have hmem := (entered_iff_mem proper).mp hearlier
      -- an entry that comes earlier in the order of names stands before in the list
      have sorted := metBelow_sorted f [] proper
      rw [hsplit] at hmem sorted
      have hlater := (List.pairwise_append.mp sorted).2.1
      rcases List.mem_append.mp hmem with hmem | hmem
      · exact refusal?_eq_none_iff.mp (hbefore _ hmem) rfl
      · rcases List.mem_cons.mp hmem with hsame | hmem
        · rw [(Entry.mk.inj hsame).1] at hlt
          exact absurd hlt (List.lt_irrefl _)
        · exact absurd ((List.pairwise_cons.mp hlater).1 _ hmem) (List.lt_asymm hlt)
    · rw [collectCandidates_eq hroot, walkOver, hfirst]
      rfl
  · intro hexcludes names
    refine ⟨fun h => ⟨h.entry, h.selected⟩, ?_⟩
    rintro ⟨entry, selected⟩
    refine ⟨entry, selected, ?_⟩
    intro above hfront _ _
    obtain ⟨node, hnode, -⟩ := entry
    exact not_isPruned_of_isCandidate hexcludes (proper.properNames hnode) hfront selected

/-! ## The filter with its names spelled out -/

theorem isPruned_eq (f : CandidateFilter) (relative : Path) : f.isPruned relative =
    (relative.components.contains (.normal [118, 101, 110, 100, 111, 114]) ||
      f.isExcluded relative) := by
  have vendor : vendorName = [118, 101, 110, 100, 111, 114] := by
    rw [vendorName, Text.Utf8.ofString_eq]
    decide
  rw [CandidateFilter.isPruned, CandidateFilter.inVendorTree, vendor]

theorem isCandidate_eq (f : CandidateFilter) (relative : Path) : f.isCandidate relative =
    relative.fileName?.any fun name => (Text.Utf8.string? name).isSome &&
      !List.isSuffixOf [95, 116, 101, 115, 116, 46, 103, 111] name &&
      List.isSuffixOf [46, 103, 111] name && !f.isPruned relative := by
  have source : sourceSuffix = [46, 103, 111] := by
    rw [sourceSuffix, Text.Utf8.ofString_eq]
    decide
  have test : testSuffix = [95, 116, 101, 115, 116, 46, 103, 111] := by
    rw [testSuffix, Text.Utf8.ofString_eq]
    decide
  rw [CandidateFilter.isCandidate]
  cases relative.fileName? with
  | none => rfl
  | some name =>
    simp [CandidateFilter.isSourceName, CandidateFilter.isPruned, source, test, Bool.and_assoc]

/-- `b.go`, a link `a.go`, and a directory `a` with `x.go` and a vendored `v.go`. -/
def sampleCheckout : Node :=
  .dir [([98, 46, 103, 111], .file []), ([97, 46, 103, 111], .link ⟨[97]⟩),
    ([97], .dir [([120, 46, 103, 111], .file []),
      ([118, 101, 110, 100, 111, 114], .dir [([118, 46, 103, 111], .file [])])])]

theorem sampleCheckout_node : FileTree.node ⟨sampleCheckout, []⟩ ⟨[47]⟩ = .ok sampleCheckout :=
  FileTree.node_ok_iff.mpr ⟨[], FileTree.locate_separator _ true⟩

theorem sampleCheckout_proper : sampleCheckout.Proper := by
  simp [sampleCheckout, properName_iff, Path.separator, Path.currentName, Path.parentName]

theorem kept_without_patterns :
    CandidateFilter.isPruned ⟨[]⟩ (Path.ofNames [[97]]) = false := by
  rw [isPruned_eq]
  decide

theorem sampleCheckout_met : metBelow ⟨[]⟩ [] sampleCheckout =
    [⟨[], true⟩, ⟨[[97]], true⟩, ⟨[[97], [120, 46, 103, 111]], false⟩,
      ⟨[[97, 46, 103, 111]], false⟩, ⟨[[98, 46, 103, 111]], false⟩] := by
  have vendored : CandidateFilter.isPruned ⟨[]⟩
      (Path.ofNames [[97], [118, 101, 110, 100, 111, 114]]) = true := by
    rw [isPruned_eq]
    decide
  rw [sampleCheckout, metBelow_dir,
    inNameOrder_eq_of_perm (List.reverse_perm _).symm (by simp; decide)]
  simp only [List.reverse_cons, List.reverse_nil, List.nil_append, List.cons_append,
    List.flatMap_cons, List.flatMap_nil, metAt, metBelow_dir, kept_without_patterns]
  rw [inNameOrder_eq_of_perm (List.reverse_perm _).symm (by simp; decide)]
  simp [metAt, metBelow, Node.isDir, vendored]

theorem sampleCheckout_listable (entered : Entered ⟨[]⟩ sampleCheckout names) :
    Listable ⟨sampleCheckout, []⟩ ⟨[47]⟩ names := by
  rw [entered_iff_mem sampleCheckout_proper, sampleCheckout_met] at entered
  obtain rfl | rfl : names = [] ∨ names = [[97]] := by simpa using entered
  · exact listable_root sampleCheckout_node
  · have directory : sampleCheckout.at? [[97]] = some (.dir [([120, 46, 103, 111], .file []),
        ([118, 101, 110, 100, 111, 114], .dir [([118, 46, 103, 111], .file [])])]) := by
      simp [sampleCheckout, Node.child?, Node.entries]
    exact listable_of_fits (FileTree.locate_separator _ true) sampleCheckout_proper directory
      (by decide) ⟨by decide, by decide, by decide⟩

theorem collectCandidates_exact_vendored :
    let files : FileTree := ⟨sampleCheckout, []⟩
    files.node ⟨[47]⟩ = .ok sampleCheckout ∧ sampleCheckout.Proper ∧
      (∀ names, Entered ⟨[]⟩ sampleCheckout names → Listable files ⟨[47]⟩ names) ∧
      ∃ found, collectCandidates ⟨[]⟩ files ⟨[47]⟩ = .ok found ∧
        (∀ names, names ∈ found ↔ ToRead ⟨[]⟩ sampleCheckout names) ∧
        found.Pairwise (· < ·) ∧ [[97], [120, 46, 103, 111]] ∈ found ∧
        [[97], [118, 101, 110, 100, 111, 114], [118, 46, 103, 111]] ∉ found := by
  intro files
  obtain ⟨hexact, -, hplain⟩ := collectCandidates_exact ⟨[]⟩ files ⟨[47]⟩ _ sampleCheckout_node
    sampleCheckout_proper
  have listable : ∀ names, Entered ⟨[]⟩ sampleCheckout names → Listable files ⟨[47]⟩ names :=
    fun _ => sampleCheckout_listable
  obtain ⟨-, hfound⟩ := hexact listable
  have hread := (hplain rfl [[97], [120, 46, 103, 111]]).mpr
    ⟨⟨.file [], by simp [sampleCheckout, Node.child?, Node.entries], rfl⟩, by
      rw [isCandidate_eq, isPruned_eq]; decide⟩
  obtain ⟨found, hcollect, hmem, hsorted⟩ := hfound ⟨_, hread⟩
  refine ⟨sampleCheckout_node, sampleCheckout_proper, listable, found, hcollect, hmem, hsorted,
    (hmem _).mpr hread, ?_⟩
  rw [hmem, hplain rfl]
  rintro ⟨-, hselected⟩
  have hvendored : CandidateFilter.isCandidate ⟨[]⟩
      (Path.ofNames [[97], [118, 101, 110, 100, 111, 114], [118, 46, 103, 111]]) = false := by
    rw [isCandidate_eq, isPruned_eq]
    decide
  exact Bool.false_ne_true (hvendored.symm.trans hselected)

/-! ## A directory that cannot be listed -/

/-- `ok.go` beside a directory `a` that the system refuses to open. -/
def shutCheckout : FileTree :=
  ⟨.dir [([97], .shut true .permissionDenied), ([111, 107, 46, 103, 111], .file [])], []⟩

theorem shutCheckout_node : shutCheckout.node ⟨[47]⟩ = .ok shutCheckout.top :=
  FileTree.node_ok_iff.mpr ⟨[], shutCheckout.locate_separator true⟩

theorem shutCheckout_proper : shutCheckout.top.Proper := by
  simp [shutCheckout, properName_iff, Path.separator, Path.currentName, Path.parentName]

theorem shutCheckout_met (f : CandidateFilter) : metBelow f [] shutCheckout.top =
    ⟨[], true⟩ :: ((if f.isPruned (Path.ofNames [[97]]) then [] else [⟨[[97]], true⟩]) ++
      [⟨[[111, 107, 46, 103, 111]], false⟩]) := by
  rw [shutCheckout, metBelow_dir, inNameOrder_of_pairwise (by decide)]
  simp [metAt, metBelow, Node.isDir]

theorem shutCheckout_refused : refusal? shutCheckout ⟨[47]⟩ ⟨[], true⟩ = none ∧
    refusal? shutCheckout ⟨[47]⟩ ⟨[[97]], true⟩ =
      some (.walk ⟨[47]⟩ 1 ⟨[47, 97]⟩ .permissionDenied) := by
  have path : walkPath ⟨[47]⟩ [[97]] = ⟨[47, 97]⟩ := by decide
  have shut : shutCheckout.list ⟨[47, 97]⟩ = .error .permissionDenied := by
    simp [shutCheckout, FileTree.list, FileTree.node, FileTree.locate, FileTree.steps,
      FileTree.walk, Path.names, Path.separator, Path.isAbsolute, Text.pieces, Path.currentName,
      Path.parentName, Node.at?, Node.child?, Node.entries, maxPathLength, maxNameLength]
  constructor
  · exact refusal?_eq_none_iff.mpr fun _ => listable_root shutCheckout_node
  · exact refusal?_eq_some_iff.mpr ⟨rfl, _, by rw [path]; exact shut, by rw [path]; rfl⟩

/-- A filter that does not leave the directory out is given nothing. -/
theorem shutCheckout_fails {f : CandidateFilter}
    (entered : f.isPruned (Path.ofNames [[97]]) = false) :
    collectCandidates f shutCheckout ⟨[47]⟩ =
      .error (.walk ⟨[47]⟩ 1 ⟨[47, 97]⟩ .permissionDenied) := by
  rw [collectCandidates_eq shutCheckout_node, shutCheckout_met, entered, walkOver]
  simp [shutCheckout_refused, Except.bind]

theorem shutCheckout_candidates :
    candidatesBelow ⟨[]⟩ [] shutCheckout.top = [[[111, 107, 46, 103, 111]]] := by
  rw [candidatesBelow, shutCheckout_met, kept_without_patterns]
  simp only [Entry.isToRead, isCandidate_eq, isPruned_eq]
  decide

theorem shutCheckout_toRead : ToRead ⟨[]⟩ shutCheckout.top [[111, 107, 46, 103, 111]] := by
  rw [toRead_iff_mem shutCheckout_proper, shutCheckout_candidates]
  exact List.mem_singleton_self _

/-- That all directories can be listed has to be said: there are trees with something to be read
whose walk fails. -/
theorem collectCandidates_needs_its_directories :
    ¬ ∀ (f : CandidateFilter) (files : FileTree) (root : Path) (top : Node),
      files.node root = .ok top → top.isDir = true → top.Proper →
      (collectCandidates f files root = .error (.noFilesFound root) ↔
        ∀ names, ¬ ToRead f top names) ∧
      ((∃ names, ToRead f top names) → ∃ found, collectCandidates f files root = .ok found ∧
        (∀ names, names ∈ found ↔ ToRead f top names) ∧ found.Pairwise (· < ·)) := by
  intro h
  obtain ⟨-, hfound⟩ := h ⟨[]⟩ shutCheckout ⟨[47]⟩ _ shutCheckout_node rfl shutCheckout_proper
  obtain ⟨found, hcollect, -⟩ := hfound ⟨_, shutCheckout_toRead⟩
  rw [shutCheckout_fails kept_without_patterns] at hcollect
  cases hcollect

end ImportWeights.Scan
