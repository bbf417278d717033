import Mathlib.Data.List.Flatten
import ImportWeights.Proofs.Scan.Confinement

/-! # Excluding more never adds anything

Patterns act twice: a directory that one of them matches is not entered, and a file that one of
them matches is not read. Two walks with different patterns enter different directories, so
what they meet is compared node by node (`metBelow_sublist`): at every entry the walk with
more patterns meets nothing, or it goes on below as the other one does. So it also has fewer
directories to list, and fails only where the other one fails. -/

namespace ImportWeights.Scan

open ImportWeights.Files

/-! ## The patterns of a scanner -/

section Patterns

variable {texts more : List String} {patterns : List Pattern} {f g : CandidateFilter}

theorem ofPatterns_ok_iff : CandidateFilter.ofPatterns texts = .ok f ↔
    texts.mapM compileExclude = .ok f.excludes := by
  rw [CandidateFilter.ofPatterns]
  cases texts.mapM compileExclude with
  | error e => simp [Except.map]
  | ok patterns =>
    simp only [Except.map, Except.ok.injEq]
    exact ⟨fun h => h ▸ rfl, fun h => h ▸ rfl⟩

theorem mapM_compileExclude_iff : texts.mapM compileExclude = .ok patterns ↔
    texts.map compileExclude = patterns.map .ok := by
  induction texts generalizing patterns with
  | nil => cases patterns <;> simp [pure, Except.pure]
  | cons text rest ih =>
    rw [List.mapM_cons, List.map_cons]
    cases compileExclude text with
    | error e => cases patterns <;> simp [bind, Except.bind]
    | ok pattern =>
      cases others : rest.mapM compileExclude <;>
        cases patterns <;> simp [bind, Except.bind, pure, Except.pure, ← ih, others]

/-- Where all texts of a list are valid, so are some of them, and these bring in no other
patterns. -/
theorem exists_ofPatterns_of_subset (valid : CandidateFilter.ofPatterns more = .ok g)
    (fewer : texts ⊆ more) :
    ∃ f, CandidateFilter.ofPatterns texts = .ok f ∧ f.excludes ⊆ g.excludes := by
  have all := mapM_compileExclude_iff.mp (ofPatterns_ok_iff.mp valid)
  have each : ∀ text ∈ texts, ∃ pattern ∈ g.excludes, .ok pattern = compileExclude text := by
    intro text htext
    exact List.mem_map.mp (all ▸ List.mem_map_of_mem (fewer htext))
  obtain ⟨patterns, compiled, members⟩ : ∃ patterns : List Pattern,
      texts.map compileExclude = patterns.map .ok ∧ patterns ⊆ g.excludes := by
    clear fewer
    induction texts with
    | nil => exact ⟨[], rfl, List.nil_subset _⟩
    | cons text rest ih =>
      obtain ⟨⟨pattern, member, compiled⟩, others⟩ := List.forall_mem_cons.mp each
      obtain ⟨patterns, below, members⟩ := ih others
      exact ⟨pattern :: patterns, by rw [List.map_cons, ← compiled, below, List.map_cons],
        List.cons_subset.mpr ⟨member, members⟩⟩
  exact ⟨⟨patterns⟩, ofPatterns_ok_iff.mpr (mapM_compileExclude_iff.mpr compiled), members⟩

theorem ofConfig_ok_iff {config : ScannerConfig} {s : Scanner} :
    Scanner.ofConfig config = .ok s ↔
      CandidateFilter.ofPatterns config.exclude = .ok s.filter ∧
        s.maxLineLength = config.maxLineLength := by
  rw [Scanner.ofConfig]
  cases CandidateFilter.ofPatterns config.exclude with
  | error e => simp [Except.map]
  | ok filter =>
    simp only [Except.map, Except.ok.injEq]
    constructor
    · rintro rfl
      exact ⟨rfl, rfl⟩
    · rintro ⟨rfl, hmax⟩
      rw [← hmax]

end Patterns

/-! ## Two walks side by side -/

section Walks

variable {f g : CandidateFilter} {relative : Path}

theorem isExcluded_mono (more : f.excludes ⊆ g.excludes) (h : f.isExcluded relative = true) :
    g.isExcluded relative = true := by
  unfold CandidateFilter.isExcluded at h ⊢
  split at h
  · obtain ⟨pattern, member, accepted⟩ := List.any_eq_true.mp h
    exact List.any_eq_true.mpr ⟨pattern, more member, accepted⟩
  · cases h

theorem isPruned_mono (more : f.excludes ⊆ g.excludes) (h : f.isPruned relative = true) :
    g.isPruned relative = true := by
  rw [CandidateFilter.isPruned, Bool.or_eq_true] at h ⊢
  exact h.imp_right (isExcluded_mono more)

theorem isCandidate_anti (more : f.excludes ⊆ g.excludes) (h : g.isCandidate relative = true) :
    f.isCandidate relative = true := by
  unfold CandidateFilter.isCandidate at h ⊢
  split at h
  · cases h
  · simp only [Bool.and_eq_true, Bool.not_eq_true', Bool.eq_false_iff] at h ⊢
    exact h.imp_right (mt (isExcluded_mono more))

/-- With more patterns nothing else is met below a node, and what is met stands in the same
order. -/
theorem metBelow_sublist (more : f.excludes ⊆ g.excludes) (names : List Name) (n : Node) :
    (metBelow g names n).Sublist (metBelow f names n) := by
  induction n using Node.induction_entries generalizing names with
  | file content => rw [metBelow, metBelow]
  | link target => rw [metBelow, metBelow]
  | shut directory cause => rw [metBelow, metBelow]
  | dir entries ih =>
    rw [metBelow_dir, metBelow_dir]
    refine (List.Sublist.flatMap_right _ ?_).cons_cons _
    intro e he
    unfold metAt
    split
    · exact List.nil_sublist _
    · -- a directory that the walk with more patterns enters is entered by the other one, too
      rename_i entered
      have entered' : ¬(e.2.isDir && f.isPruned (Path.ofNames (names ++ [e.1]))) = true := by
        rw [Bool.and_eq_true] at entered ⊢
        exact mt (And.imp_right (isPruned_mono more)) entered
      rw [if_neg entered']
      exact ih e (mem_inNameOrder.mp he) _

theorem isToRead_anti (more : f.excludes ⊆ g.excludes) {e : Entry} (h : e.isToRead g = true) :
    e.isToRead f = true := by
  rw [Entry.isToRead, Bool.and_eq_true] at h ⊢
  exact h.imp_right (isCandidate_anti more)

theorem candidatesBelow_sublist (more : f.excludes ⊆ g.excludes) (names : List Name) (n : Node) :
    (candidatesBelow g names n).Sublist (candidatesBelow f names n) := by
  have fewer : ((metBelow g names n).filter (·.isToRead g)).Sublist
      ((metBelow g names n).filter (·.isToRead f)) :=
    List.monotone_filter_right _ fun _ => isToRead_anti more
  exact (fewer.trans ((metBelow_sublist more names n).filter _)).map _

end Walks

/-! ## Whole scans -/

section Scans

variable {s t : Scanner} {files : FileTree} {root : Path}

/-- Only a walk that fails leaves a scanner without an answer. -/
theorem candidates_ok_iff {names : List (List Name)} : s.candidates files root = .ok names ↔
    ∃ top, rootNode files root = .ok top ∧
      (∀ e ∈ metBelow s.filter [] top, refusal? files root e = none) ∧
      names = candidatesBelow s.filter [] top := by
  rw [Scanner.candidates, collectCandidates]
  cases hroot : rootNode files root with
  | error e =>
    have walked : ∃ depth place cause, e = .walk root depth place cause := by
      unfold rootNode at hroot
      split at hroot
      · exact ⟨_, _, _, (Except.error.inj hroot).symm⟩
      · split at hroot
        · exact ⟨_, _, _, (Except.error.inj hroot).symm⟩
        · cases hroot
      · cases hroot
    obtain ⟨depth, place, cause, rfl⟩ := walked
    simp [bind, Except.bind]
  | ok top =>
    simp only [← List.findSome?_eq_none_iff, bind, Except.bind, Except.ok.injEq,
      exists_eq_left', walkBelow_eq, walkOver]
    cases hfirst : (metBelow s.filter [] top).findSome? (refusal? files root) with
    | some refusal =>
      obtain ⟨_, e, _, -, hrefused, -⟩ := List.findSome?_eq_some_iff.mp hfirst
      obtain ⟨-, cause, -, rfl⟩ := refusal?_eq_some_iff.mp hrefused
      simp
    | none =>
      have same : ((metBelow s.filter [] top).filter fun e => e.isToRead s.filter).map (·.names) =
          candidatesBelow s.filter [] top := rfl
      simp only [same, true_and]
      cases candidatesBelow s.filter [] top <;> simp [eq_comm]

/-- Two filters that meet the same below every node are the same to a scan. -/
theorem scanTree_eq_of_met (limit : s.maxLineLength = t.maxLineLength)
    (met : ∀ n, metBelow s.filter [] n = metBelow t.filter [] n)
    (toRead : ∀ e : Entry, e.isToRead s.filter = e.isToRead t.filter) :
    collectCandidates s.filter files root = collectCandidates t.filter files root ∧
      s.scanTree files root = t.scanTree files root := by
  have collected : collectCandidates s.filter files root =
      collectCandidates t.filter files root := by
    simp only [collectCandidates, walkBelow_eq, met, toRead]
  have readings : s.readings files = t.readings files := by
    funext paths
    simp only [Scanner.readings, Scanner.extractFile, limit]
  refine ⟨collected, ?_⟩
  simp only [Scanner.scanTree, collected, readAll_eq, readings]

/-- If all patterns of one list occur in a second list of valid patterns, they are valid, too. On
every tree whose walk with the first list does not fail, what is to be read with the second list
is what is to be read with the first one, in the same order, less some entries. Where the walk
with the first list does fail, the second list may leave out what it fails at; it still has
nothing read that the first one would not select. So two lists of the same patterns, in whatever
order and however often each, give the same candidates or failure, and the same scan. -/
theorem excluding_more_adds_nothing (fewer more : List String) (max : Nat) (t : Scanner)
    (valid : Scanner.ofConfig ⟨max, more⟩ = .ok t) (occur : fewer ⊆ more) :
    ∃ s, Scanner.ofConfig ⟨max, fewer⟩ = .ok s ∧
      (∀ files root names, s.candidates files root = .ok names →
        ∃ left, t.candidates files root = .ok left ∧ left.Sublist names) ∧
      (∀ files root left, t.candidates files root = .ok left →
        ∃ top, rootNode files root = .ok top ∧ left.Sublist (candidatesBelow s.filter [] top)) ∧
      (more ⊆ fewer → ∀ files root,
        collectCandidates s.filter files root = collectCandidates t.filter files root ∧
        s.scanTree files root = t.scanTree files root) := by
  obtain ⟨compiled, hmax⟩ := ofConfig_ok_iff.mp valid
  obtain ⟨f, fewerCompiled, subset⟩ := exists_ofPatterns_of_subset compiled occur
  refine ⟨⟨f, max⟩, ofConfig_ok_iff.mpr ⟨fewerCompiled, rfl⟩, ?_, ?_, ?_⟩
  · intro files root names hnames
    obtain ⟨top, hroot, listed, rfl⟩ := candidates_ok_iff.mp hnames
    refine ⟨_, candidates_ok_iff.mpr ⟨top, hroot, ?_, rfl⟩, candidatesBelow_sublist subset [] top⟩
    exact fun e he => listed e ((metBelow_sublist subset [] top).mem he)
  · intro files root left hleft
    obtain ⟨top, hroot, -, rfl⟩ := candidates_ok_iff.mp hleft
    exact ⟨top, hroot, candidatesBelow_sublist subset [] top⟩
  · intro back files root
    obtain ⟨g, compiled', subset'⟩ := exists_ofPatterns_of_subset fewerCompiled back
    obtain rfl : g = t.filter := Except.ok.inj (compiled'.symm.trans compiled)
    refine scanTree_eq_of_met hmax.symm ?_ ?_
    · intro n
      exact (metBelow_sublist subset' [] n).antisymm (metBelow_sublist subset [] n)
    · intro e
      exact Bool.eq_iff_iff.mpr ⟨isToRead_anti subset', isToRead_anti subset⟩

/-- The first list prunes the directory `a`; the second one says so twice and leaves out `b.go`,
too. -/
theorem excluding_more_adds_nothing_repeated :
    let files : FileTree := ⟨sampleCheckout, []⟩
    ∃ s t, Scanner.ofConfig ⟨4096, ["a"]⟩ = .ok s ∧
      Scanner.ofConfig ⟨4096, ["a", "b*", "a"]⟩ = .ok t ∧ ["a"] ⊆ ["a", "b*", "a"] ∧
      ∃ names left, s.candidates files ⟨[47]⟩ = .ok names ∧
        t.candidates files ⟨[47]⟩ = .ok left ∧ left.Sublist names ∧
        names = [[[97, 46, 103, 111]], [[98, 46, 103, 111]]] ∧ left = [[[97, 46, 103, 111]]] := by
  intro files
  let twice : Pattern := ⟨[.char 'a']⟩
  have valid : Scanner.ofConfig ⟨4096, ["a", "b*", "a"]⟩ =
      .ok ⟨⟨[twice, ⟨[.char 'b', .anySequence]⟩, twice]⟩, 4096⟩ := by decide +kernel
  have occur : ["a"] ⊆ ["a", "b*", "a"] := by simp
  obtain ⟨s, compiled, sublist, -, -⟩ := excluding_more_adds_nothing _ _ _ _ valid occur
  have once : Scanner.ofConfig ⟨4096, ["a"]⟩ = .ok ⟨⟨[twice]⟩, 4096⟩ := by decide +kernel
  obtain rfl := Except.ok.inj (compiled.symm.trans once)
  have root : rootNode files ⟨[47]⟩ = .ok sampleCheckout := rootNode_of_node sampleCheckout_node
  have pruned (f : CandidateFilter) (h : f.isPruned (Path.ofNames [[97]]) = true) :
      metBelow f [] sampleCheckout = [⟨[], true⟩, ⟨[[97, 46, 103, 111]], false⟩,
        ⟨[[98, 46, 103, 111]], false⟩] := by
    rw [sampleCheckout, metBelow_dir,
      inNameOrder_eq_of_perm (List.reverse_perm _).symm (by simp; decide)]
    simp [metAt, metBelow, Node.isDir, h]
  have leaves : CandidateFilter.isPruned ⟨[twice]⟩ (Path.ofNames [[97]]) = true := by
    rw [isPruned_eq]
    decide
  have names : Scanner.candidates ⟨⟨[twice]⟩, 4096⟩ files ⟨[47]⟩ =
      .ok [[[97, 46, 103, 111]], [[98, 46, 103, 111]]] := by
    refine candidates_ok_iff.mpr ⟨_, root, ?_, ?_⟩
    · rw [pruned _ leaves]
      simp only [refusal?_eq_none_iff, List.forall_mem_cons]
      exact ⟨fun _ => listable_root sampleCheckout_node, listable_of_leaf, listable_of_leaf,
        List.forall_mem_nil _⟩
    · rw [candidatesBelow, pruned _ leaves]
      simp only [Entry.isToRead, isCandidate_eq, isPruned_eq]
      decide
  obtain ⟨left, hleft, hsub⟩ := sublist files ⟨[47]⟩ _ names
  refine ⟨_, _, once, valid, occur, _, left, names, hleft, hsub, rfl, ?_⟩
  obtain ⟨top, hroot, -, rfl⟩ := candidates_ok_iff.mp hleft
  obtain rfl := Except.ok.inj (root.symm.trans hroot)
  rw [candidatesBelow, pruned _ (by rw [isPruned_eq]; decide)]
  simp only [Entry.isToRead, isCandidate_eq, isPruned_eq]
  decide

/-- With no patterns at all the walk fails at the directory that the second list leaves out, so
nothing was collected that the entries to be read with the second list could be among. -/
theorem excluding_more_avoids_a_failure :
    ¬ ∀ (fewer more : List String) (max : Nat) (s t : Scanner),
      Scanner.ofConfig ⟨max, fewer⟩ = .ok s → Scanner.ofConfig ⟨max, more⟩ = .ok t →
      fewer ⊆ more → ∀ files root left, t.candidates files root = .ok left →
        ∃ names, s.candidates files root = .ok names ∧ left.Sublist names := by
  intro h
  let pattern : Pattern := ⟨[.char 'a']⟩
  have none : Scanner.ofConfig ⟨4096, []⟩ = .ok ⟨⟨[]⟩, 4096⟩ := by decide
  have valid : Scanner.ofConfig ⟨4096, ["a"]⟩ = .ok ⟨⟨[pattern]⟩, 4096⟩ := by decide +kernel
  have met : metBelow ⟨[pattern]⟩ [] shutCheckout.top =
      [⟨[], true⟩, ⟨[[111, 107, 46, 103, 111]], false⟩] := by
    rw [shutCheckout_met, if_pos (by rw [isPruned_eq]; decide)]
    rfl
  have root := rootNode_of_node shutCheckout_node
  have listed : ∀ e ∈ metBelow ⟨[pattern]⟩ [] shutCheckout.top,
      refusal? shutCheckout ⟨[47]⟩ e = Option.none := by
    rw [met]
    simp only [List.forall_mem_cons]
    exact ⟨shutCheckout_refused.1, rfl, List.forall_mem_nil _⟩
  obtain ⟨names, hnames, -⟩ := h [] ["a"] 4096 _ _ none valid (List.nil_subset _) shutCheckout
    ⟨[47]⟩ _ (candidates_ok_iff.mpr ⟨_, root, listed, rfl⟩)
  rw [Scanner.candidates, shutCheckout_fails kept_without_patterns] at hnames
  cases hnames

end Scans

end ImportWeights.Scan
