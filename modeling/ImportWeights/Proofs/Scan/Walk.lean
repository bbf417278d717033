import Mathlib.Data.List.Nodup
import ImportWeights.Proofs.Files.Joined
import ImportWeights.Scan.Walk

/-! # What the walk meets

If every directory can be listed, what the walk meets is told by the tree and the filter alone
(`metBelow`): the entries that no directory left out lies above, in the order of their names
(`mem_metBelow`, `metBelow_sorted`). A directory that cannot be listed ends the walk, and the
first one that is met does so (`walkBelow_eq`). Whether one can be listed is asked along its
path, so links above the root and the length of the path matter for that, and for nothing
else. -/

namespace ImportWeights.Scan

open ImportWeights.Files

mutual

/-- All that a walk meets, at and below a node at the given names, that can list every directory
it enters. -/
def metBelow (f : CandidateFilter) (names : List Name) : Node → List Entry
  | .file _ => [⟨names, false⟩]
  | .link _ => [⟨names, false⟩]
  | .shut directory _ => [⟨names, directory⟩]
  | .dir entries => ⟨names, true⟩ :: (inNameOrder (metIn f names entries)).flatMap (·.2)

/-- The same of each entry of a directory. -/
def metIn (f : CandidateFilter) (names : List Name) :
    List (Name × Node) → List (Name × List Entry)
  | [] => []
  | (name, node) :: rest =>
    let below := names ++ [name]
    (name, if node.isDir && f.isPruned (Path.ofNames below) then []
      else metBelow f below node) :: metIn f names rest

end

/-- What is met at one entry of a directory. -/
def metAt (f : CandidateFilter) (names : List Name) (e : Name × Node) : List Entry :=
  if e.2.isDir && f.isPruned (Path.ofNames (names ++ [e.1])) then []
  else metBelow f (names ++ [e.1]) e.2

/-- No directory passed on a way down from a place is left out. The last name of the way is
not passed but reached. -/
def Unpruned (f : CandidateFilter) (names below : List Name) : Prop :=
  ∀ above, above <+: below → above ≠ [] → above ≠ below →
    f.isPruned (Path.ofNames (names ++ above)) = false

/-- A way down from a node at given names that the walk takes to its end. -/
structure MetBelow (f : CandidateFilter) (names : List Name) (n : Node) (below : List Name)
    (child : Node) : Prop where
  entry : n.at? below = some child
  passed : Unpruned f names below
  kept : child.isDir = true → below ≠ [] → f.isPruned (Path.ofNames (names ++ below)) = false

variable {f : CandidateFilter} {files : FileTree} {root : Path} {names below : List Name}
  {n child : Node} {e : Entry} {entries : List (Name × Node)}

theorem mem_inNameOrder {α : Type} {entries : List (Name × α)} {e : Name × α} :
    e ∈ inNameOrder entries ↔ e ∈ entries :=
  List.mem_mergeSort

/-- Names come before each other by their bytes, and two that differ are never level. -/
theorem inNameOrder_sorted {α : Type} {entries : List (Name × α)}
    (distinct : (entries.map (·.1)).Nodup) :
    (inNameOrder entries).Pairwise fun a b => a.1 < b.1 := by
  have hsorted : (inNameOrder entries).Pairwise fun a b => decide (a.1 ≤ b.1) = true := by
    refine List.pairwise_mergeSort ?_ ?_ entries
    · intro a b c hab hbc
      rw [decide_eq_true_eq] at *
      exact List.le_trans hab hbc
    · intro a b
      rw [Bool.or_eq_true, decide_eq_true_eq, decide_eq_true_eq]
      exact List.le_total a.1 b.1
  have hdistinct : (inNameOrder entries).Pairwise fun a b => a.1 ≠ b.1 := by
    have hperm := (List.mergeSort_perm entries fun a b => decide (a.1 ≤ b.1)).map (·.1)
    exact List.pairwise_map.mp (hperm.nodup_iff.mpr distinct)
  refine hsorted.imp₂ ?_ hdistinct
  intro a b hle hne
  exact Std.lt_of_le_of_ne (of_decide_eq_true hle) hne

theorem inNameOrder_map {α β : Type} (entries : List (Name × α)) (g : Name × α → β) :
    inNameOrder (entries.map fun e => (e.1, g e)) =
      (inNameOrder entries).map fun e => (e.1, g e) := by
  refine (List.map_mergeSort ?_).symm
  intro a _ b _
  rfl

theorem inNameOrder_of_pairwise {α : Type} {entries : List (Name × α)}
    (h : entries.Pairwise fun a b => a.1 ≤ b.1) : inNameOrder entries = entries :=
  List.mergeSort_of_pairwise (h.imp decide_eq_true)

/-- In whatever order a directory is read, its entries are met in the order of their names. -/
theorem inNameOrder_eq_of_perm {α : Type} {entries sorted : List (Name × α)}
    (perm : entries.Perm sorted) (h : sorted.Pairwise fun a b => a.1 < b.1) :
    inNameOrder entries = sorted := by
  have distinct : (entries.map (·.1)).Nodup := by
    rw [(perm.map _).nodup_iff]
    refine List.pairwise_map.mpr (h.imp ?_)
    intro a b hlt heq
    exact List.lt_irrefl _ (heq ▸ hlt)
  refine List.Perm.eq_of_pairwise ?_ (inNameOrder_sorted distinct) h
    ((List.mergeSort_perm entries _).trans perm)
  intro a b _ _ hlt hgt
  exact absurd hgt (List.lt_asymm hlt)

/-! ## The way down -/

theorem unpruned_nil (f : CandidateFilter) (names : List Name) : Unpruned f names [] := by
  intro above hfront hne
  exact absurd (List.prefix_nil.mp hfront) hne

theorem unpruned_singleton (f : CandidateFilter) (names : List Name) (name : Name) :
    Unpruned f names [name] := by
  intro above hfront hne hproper
  rcases List.prefix_cons_iff.mp hfront with rfl | ⟨rest, rfl, hrest⟩
  · contradiction
  · rw [List.prefix_nil.mp hrest] at hproper
    contradiction

/-- To pass a directory is to find it kept, and then to go on below it. -/
theorem unpruned_cons {name : Name} (hbelow : below ≠ []) :
    Unpruned f names (name :: below) ↔
      f.isPruned (Path.ofNames (names ++ [name])) = false ∧
        Unpruned f (names ++ [name]) below := by
  constructor
  · intro h
    refine ⟨h [name] (by simp) (by simp) (by simpa using hbelow.symm), ?_⟩
    intro above hfront hne hproper
    rw [List.append_assoc]
    exact h (name :: above) (List.cons_prefix_cons.mpr ⟨rfl, hfront⟩) (by simp) (by simpa)
  · rintro ⟨hkept, h⟩ above hfront hne hproper
    rcases List.prefix_cons_iff.mp hfront with rfl | ⟨rest, rfl, hrest⟩
    · contradiction
    · by_cases hfirst : rest = []
      · rw [hfirst]
        exact hkept
      · have hrest' := h rest hrest hfirst (by simpa using hproper)
        rwa [List.append_assoc] at hrest'

theorem metBelow_self (f : CandidateFilter) (names : List Name) (n : Node) :
    MetBelow f names n [] n :=
  ⟨n.at?_nil, unpruned_nil f names, fun _ hne => absurd rfl hne⟩

/-- Nothing but itself is met at what is no directory, or at one that is shut. -/
theorem metBelow_of_childless (h : ∀ name, n.child? name = none) :
    MetBelow f names n below child ↔ below = [] ∧ child = n := by
  constructor
  · rintro ⟨entry, -, -⟩
    cases below with
    | nil => exact ⟨rfl, (Option.some.inj ((Node.at?_nil n).symm.trans entry)).symm⟩
    | cons name below => simp [h] at entry
  · rintro ⟨rfl, rfl⟩
    exact metBelow_self f names child

/-- What is met below a directory is met below one of its entries, and that entry is no directory
left out. -/
theorem metBelow_dir_iff (distinct : (entries.map (·.1)).Nodup) :
    MetBelow f names (.dir entries) below child ↔
      (below = [] ∧ child = .dir entries) ∨ ∃ x ∈ entries, ∃ rest, below = x.1 :: rest ∧
        (x.2.isDir && f.isPruned (Path.ofNames (names ++ [x.1]))) = false ∧
        MetBelow f (names ++ [x.1]) x.2 rest child := by
  constructor
  · rintro ⟨entry, passed, kept⟩
    cases below with
    | nil => exact .inl ⟨rfl, (Option.some.inj ((Node.at?_nil _).symm.trans entry)).symm⟩
    | cons name rest =>
      rw [Node.at?_cons, Option.bind_eq_some_iff] at entry
      obtain ⟨node, hnode, entry⟩ := entry
      have mem := Node.mem_of_child? hnode
      by_cases hnil : rest = []
      · subst hnil
        obtain rfl : node = child := Option.some.inj ((Node.at?_nil node).symm.trans entry)
        refine .inr ⟨_, mem, [], rfl, ?_, metBelow_self f _ node⟩
        cases hdir : node.isDir with
        | false => rfl
        | true => exact kept hdir (by simp)
      · obtain ⟨first, passed⟩ := (unpruned_cons hnil).mp passed
        refine .inr ⟨_, mem, rest, rfl, by simp [first], entry, passed, ?_⟩
        intro hdir _
        simpa using kept hdir (by simp)
  · rintro (⟨rfl, rfl⟩ | ⟨⟨name, node⟩, mem, rest, rfl, hkept, entry, passed, kept⟩)
    · exact metBelow_self f names _
    · refine ⟨?_, ?_, ?_⟩
      · rw [Node.at?_cons, (Node.child?_eq_some_iff distinct).mpr mem]
        exact entry
      · by_cases hnil : rest = []
        · exact hnil ▸ unpruned_singleton f names name
        · have hdir : node.isDir = true := by
            by_contra hleaf
            exact hnil ((Node.at?_of_not_dir (Bool.eq_false_iff.mpr hleaf)).mp entry).1
          rw [hdir, Bool.true_and] at hkept
          exact (unpruned_cons hnil).mpr ⟨hkept, passed⟩
      · intro hdir _
        by_cases hnil : rest = []
        · subst hnil
          obtain rfl : node = child := Option.some.inj ((Node.at?_nil node).symm.trans entry)
          simpa [hdir] using hkept
        · simpa using kept hdir hnil

/-! ## The list of what is met -/

theorem metIn_eq_map (f : CandidateFilter) (names : List Name) (entries : List (Name × Node)) :
    metIn f names entries = entries.map fun e => (e.1, metAt f names e) := by
  induction entries with
  | nil => rw [metIn]; rfl
  | cons e entries ih => rw [metIn, ih]; rfl

/-- A directory is met, and then what it holds, entry by entry in the order of their names. -/
theorem metBelow_dir (f : CandidateFilter) (names : List Name) (entries : List (Name × Node)) :
    metBelow f names (.dir entries) =
      ⟨names, true⟩ :: (inNameOrder entries).flatMap (metAt f names) := by
  rw [metBelow, metIn_eq_map, inNameOrder_map, List.flatMap_map]

/-- What is no directory is met as it stands. -/
theorem metBelow_leaf (h : n.isDir = false) : metBelow f names n = [⟨names, false⟩] := by
  cases n with
  | dir entries => cases h
  | file content => rw [metBelow]
  | link target => rw [metBelow]
  | shut directory cause =>
    obtain rfl : directory = false := h
    rw [metBelow]

/-- Of a directory without directories in it, the entries are met. -/
theorem metBelow_flat (f : CandidateFilter) (names : List Name)
    (flat : ∀ e ∈ entries, e.2.isDir = false) (sorted : entries.Pairwise fun a b => a.1 ≤ b.1) :
    metBelow f names (.dir entries) =
      ⟨names, true⟩ :: entries.map fun e => ⟨names ++ [e.1], false⟩ := by
  rw [metBelow_dir, inNameOrder_of_pairwise sorted, List.map_eq_flatMap]
  refine congrArg _ (List.flatMap_congr ?_)
  intro e he
  rw [metAt, flat e he, Bool.false_and]
  exact metBelow_leaf (flat e he)

theorem mem_metBelow_childless (hn : metBelow f names n = [⟨names, n.isDir⟩])
    (h : ∀ name, n.child? name = none) : e ∈ metBelow f names n ↔
      ∃ below child, e = ⟨names ++ below, child.isDir⟩ ∧ MetBelow f names n below child := by
  rw [hn, List.mem_singleton]
  constructor
  · rintro rfl
    exact ⟨[], n, by rw [List.append_nil], metBelow_self f names n⟩
  · rintro ⟨below, child, rfl, met⟩
    obtain ⟨rfl, rfl⟩ := (metBelow_of_childless h).mp met
    rw [List.append_nil]

/-- What is in the list is what lies at the end of a way down that is taken. -/
theorem mem_metBelow (proper : n.Proper) : e ∈ metBelow f names n ↔
    ∃ below child, e = ⟨names ++ below, child.isDir⟩ ∧ MetBelow f names n below child := by
  induction proper generalizing names with
  | file content => exact mem_metBelow_childless (by rw [metBelow]; rfl) fun _ => rfl
  | link target => exact mem_metBelow_childless (by rw [metBelow]; rfl) fun _ => rfl
  | shut directory cause => exact mem_metBelow_childless (by rw [metBelow]; rfl) fun _ => rfl
  | @dir entries _ distinct _ ih =>
    simp only [metBelow_dir, metBelow_dir_iff distinct, List.mem_cons, List.mem_flatMap,
      mem_inNameOrder]
    constructor
    · rintro (rfl | ⟨x, hx, he⟩)
      · exact ⟨[], .dir entries, by rw [List.append_nil]; rfl, .inl ⟨rfl, rfl⟩⟩
      · unfold metAt at he
        split at he
        · cases he
        · rename_i hkept
          obtain ⟨rest, child, rfl, met⟩ := (ih x hx).mp he
          exact ⟨x.1 :: rest, child, by simp,
            .inr ⟨x, hx, rest, rfl, Bool.eq_false_iff.mpr hkept, met⟩⟩
    · rintro ⟨below, child, rfl, ⟨rfl, rfl⟩ | ⟨x, hx, rest, rfl, hkept, met⟩⟩
      · exact .inl (by rw [List.append_nil]; rfl)
      · refine .inr ⟨x, hx, ?_⟩
        unfold metAt
        rw [hkept]
        exact (ih x hx).mpr ⟨rest, child, by simp, met⟩

theorem exists_of_mem_metAt {x : Name × Node} (proper : x.2.Proper) (h : e ∈ metAt f names x) :
    ∃ rest, e.names = names ++ x.1 :: rest := by
  unfold metAt at h
  split at h
  · cases h
  · obtain ⟨rest, child, rfl, -⟩ := (mem_metBelow proper).mp h
    exact ⟨rest, by simp⟩

/-- A directory comes before what is below it, and all that is met at one entry before all that
is met at a later one. -/
theorem metBelow_sorted (f : CandidateFilter) (names : List Name) (proper : n.Proper) :
    (metBelow f names n).Pairwise fun a b => a.names < b.names := by
  induction proper generalizing names with
  | file content => rw [metBelow]; exact List.pairwise_singleton _ _
  | link target => rw [metBelow]; exact List.pairwise_singleton _ _
  | shut directory cause => rw [metBelow]; exact List.pairwise_singleton _ _
  | @dir entries _ distinct hbelow ih =>
    rw [metBelow_dir, List.pairwise_cons, List.pairwise_flatMap]
    refine ⟨?_, ?_, ?_⟩
    · intro e he
      obtain ⟨x, hx, he⟩ := List.mem_flatMap.mp he
      obtain ⟨rest, hrest⟩ := exists_of_mem_metAt (hbelow x (mem_inNameOrder.mp hx)) he
      have hlt : names ++ [] < names ++ x.1 :: rest := List.append_left_lt (List.nil_lt_cons _ _)
      rwa [List.append_nil, ← hrest] at hlt
    · intro x hx
      unfold metAt
      split
      · exact .nil
      · exact ih x (mem_inNameOrder.mp hx) _
    · refine (inNameOrder_sorted distinct).imp_of_mem ?_
      intro x y hx hy hlt a ha b hb
      obtain ⟨rest, hrest⟩ := exists_of_mem_metAt (hbelow x (mem_inNameOrder.mp hx)) ha
      obtain ⟨rest', hrest'⟩ := exists_of_mem_metAt (hbelow y (mem_inNameOrder.mp hy)) hb
      rw [hrest, hrest']
      exact List.append_left_lt (List.cons_lt_cons_iff.mpr (.inl hlt))

/-! ## Directories that cannot be listed -/

/-- Why the walk ends at an entry, if it does. -/
def refusal? (files : FileTree) (root : Path) (e : Entry) : Option ScanError :=
  if e.directory then
    match enter files root e.names with
    | .error refusal => some refusal
    | .ok _ => none
  else none

/-- What a walk comes to that would meet these entries. -/
def walkOver (files : FileTree) (root : Path) (entries : List Entry) :
    Except ScanError (List Entry) :=
  match entries.findSome? (refusal? files root) with
  | some refusal => .error refusal
  | none => .ok entries

theorem walkOver_leaf (files : FileTree) (root : Path) (names : List Name) :
    walkOver files root [⟨names, false⟩] = .ok [⟨names, false⟩] := rfl

theorem walkOver_append (files : FileTree) (root : Path) (first rest : List Entry) :
    walkOver files root (first ++ rest) = (do
      let met ← walkOver files root first
      let more ← walkOver files root rest
      return met ++ more) := by
  simp only [walkOver, List.findSome?_append]
  cases first.findSome? (refusal? files root) with
  | some refusal => rfl
  | none => cases rest.findSome? (refusal? files root) <;> rfl

theorem walkOver_enter (files : FileTree) (root : Path) (names : List Name) :
    walkOver files root [⟨names, true⟩] =
      (enter files root names).map fun _ => [⟨names, true⟩] := by
  simp only [walkOver, List.findSome?_singleton, refusal?, if_true]
  cases enter files root names <;> rfl

/-- Walking over one part after the other is walking over all of them. -/
theorem walkOver_flatMap {α : Type} (files : FileTree) (root : Path) (parts : List α)
    (part : α → List Entry) :
    (parts.mapM fun x => walkOver files root (part x)).map List.flatten =
      walkOver files root (parts.flatMap part) := by
  induction parts with
  | nil => rfl
  | cons x parts ih =>
    rw [List.flatMap_cons, walkOver_append, ← ih, List.mapM_cons]
    cases walkOver files root (part x) with
    | error refusal => rfl
    | ok met => cases parts.mapM fun x => walkOver files root (part x) <;> rfl

theorem walkEntries_eq_map (f : CandidateFilter) (files : FileTree) (root : Path)
    (names : List Name) (entries : List (Name × Node)) :
    walkEntries f files root names entries = entries.map fun e => (e.1,
      if e.2.isDir && f.isPruned (Path.ofNames (names ++ [e.1])) then .ok []
      else walkBelow f files root (names ++ [e.1]) e.2) := by
  induction entries with
  | nil => rw [walkEntries]; rfl
  | cons e entries ih => rw [walkEntries, ih]; rfl

/-- A walk meets what there is to meet, unless one of the directories cannot be listed; the first
of these ends it. -/
theorem walkBelow_eq (f : CandidateFilter) (files : FileTree) (root : Path) (names : List Name)
    (n : Node) : walkBelow f files root names n = walkOver files root (metBelow f names n) := by
  induction n using Node.induction_entries generalizing names with
  | file content => rw [walkBelow, metBelow, walkOver_leaf]
  | link target => rw [walkBelow, metBelow, walkOver_leaf]
  | shut directory cause =>
    rw [walkBelow, metBelow]
    cases directory with
    | true => exact (walkOver_enter files root names).symm
    | false => rfl
  | dir entries ih =>
    have each : inNameOrder (walkEntries f files root names entries) =
        (inNameOrder entries).map fun e => (e.1, walkOver files root (metAt f names e)) := by
      rw [walkEntries_eq_map, inNameOrder_map]
      refine List.map_congr_left ?_
      intro e he
      unfold metAt
      split
      · rfl
      · rw [ih e (mem_inNameOrder.mp he)]
    have below : ((inNameOrder (walkEntries f files root names entries)).mapM
        fun e : Name × Except ScanError (List Entry) => e.2).map List.flatten =
          walkOver files root ((inNameOrder entries).flatMap (metAt f names)) := by
      rw [← walkOver_flatMap, each, List.mapM_map]
      rfl
    rw [walkBelow, metBelow_dir, ← List.singleton_append, walkOver_append, walkOver_enter, ← below]
    cases enter files root names with
    | error refusal => rfl
    | ok _ =>
      cases (inNameOrder (walkEntries f files root names entries)).mapM
        fun e : Name × Except ScanError (List Entry) => e.2 <;> rfl

/-- A directory whose entries the walk can get at. -/
def Listable (files : FileTree) (root : Path) (names : List Name) : Prop :=
  ∃ entries, files.list (walkPath root names) = .ok entries

/-- A directory of the tree is listed if the system takes its path and the names in it. -/
theorem listable_of_fits {place : List Name} {top : Node}
    (hroot : files.locate root true = .ok (.found place top)) (proper : top.Proper)
    (hgoal : top.at? names = some (.dir entries))
    (short : ∀ name ∈ names, name.length ≤ maxNameLength)
    (fits : FileTree.Fits (walkPath root names)) : Listable files root names := by
  refine ⟨entries, ?_⟩
  rw [walkPath] at fits ⊢
  split at fits
  · rename_i hnil
    subst hnil
    obtain rfl : top = .dir entries := Option.some.inj ((Node.at?_nil top).symm.trans hgoal)
    rw [if_pos rfl, FileTree.list, FileTree.node_ok_iff.mpr ⟨place, hroot⟩]
  · rename_i hne
    have htop : top.isDir = true := by
      by_contra hleaf
      exact hne ((Node.at?_of_not_dir (Bool.eq_false_iff.mpr hleaf)).mp hgoal).1
    rw [if_neg hne, FileTree.list, pathBelow, FileTree.node_join_of_fits hroot htop
      (proper.properNames hgoal) short hgoal rfl fits]

/-- What is listed along the path of a directory are the entries of that directory. -/
theorem list_eq_entries {place : List Name} {top : Node} {listed : List (Name × Node)}
    (hroot : files.locate root true = .ok (.found place top)) (proper : top.Proper)
    (hgoal : top.at? names = some n) (hdir : n.isDir = true)
    (h : files.list (walkPath root names) = .ok listed) : n = .dir listed := by
  have unlinked : ∀ target, n ≠ .link target := by
    rintro target rfl
    cases hdir
  have reached : ∀ node, files.node (walkPath root names) = .ok node → node = n := by
    intro node hnode
    rw [walkPath] at hnode
    split at hnode
    · rename_i hnil
      subst hnil
      obtain rfl : top = n := Option.some.inj ((Node.at?_nil top).symm.trans hgoal)
      exact Except.ok.inj (hnode.symm.trans (FileTree.node_ok_iff.mpr ⟨place, hroot⟩))
    · rename_i hne
      have htop : top.isDir = true := by
        by_contra hleaf
        exact hne ((Node.at?_of_not_dir (Bool.eq_false_iff.mpr hleaf)).mp hgoal).1
      exact FileTree.node_join_eq hroot htop (proper.properNames hgoal) hgoal unlinked hnode
  unfold FileTree.list at h
  split at h
  · cases h
  · rename_i entries hnode
    rw [← reached _ hnode, Except.ok.inj h]
  · cases h
  · cases h

/-- A path that is too long for the system is not listed, whatever lies there. -/
theorem not_listable_of_long (hlong : maxPathLength < (walkPath root names).bytes.length) :
    ¬ Listable files root names := by
  rintro ⟨listed, h⟩
  unfold FileTree.list at h
  split at h
  · cases h
  · rename_i entries hnode
    obtain ⟨place, hfound⟩ := FileTree.node_ok_iff.mp hnode
    exact Nat.not_le.mpr hlong (FileTree.locate_ok_iff.mp hfound).1.short
  · cases h
  · cases h

theorem refusal?_eq_none_iff : refusal? files root e = none ↔
    (e.directory = true → Listable files root e.names) := by
  rw [refusal?, enter]
  cases e.directory with
  | false => simp
  | true => cases listed : files.list (walkPath root e.names) <;> simp [Listable, listed]

theorem refusal?_eq_some_iff {refusal : ScanError} : refusal? files root e = some refusal ↔
    e.directory = true ∧ ∃ cause, files.list (walkPath root e.names) = .error cause ∧
      refusal = .walk root e.names.length (walkPath root e.names) cause := by
  rw [refusal?, enter]
  cases e.directory with
  | false => simp
  | true => cases listed : files.list (walkPath root e.names) <;> simp [eq_comm]

end ImportWeights.Scan
