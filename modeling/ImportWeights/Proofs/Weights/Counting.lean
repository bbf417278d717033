import Mathlib.Data.List.Sort
import Mathlib.Data.Set.Card
import ImportWeights.Proofs.Weights.Lookup

/-! # Every import counts once

A map of weights is told by its look-ups (`eq_of_get?_eq`), and what is found under a key is
the number of places in the records where an import that is not empty gives that key
(`get?_ofRecords`). So the order of records and imports plays no part, and the maps of two
lists of records add up to that of both. -/

namespace ImportWeights.WeightMap

open ImportWeights.Source

variable {m m' : WeightMap} {entries : List (String × Nat)} {records other : List PackageRecord}
  {key : String} {es : List Edge}

/-- The name of each record with each of its imports, as often as the import stands there. -/
def pairs (records : List PackageRecord) : List (String × String) :=
  records.flatMap fun r => r.imports.map fun path => (r.name, path)

/-- How many imports that are not empty give a key, each counted at every place. -/
def tally (records : List PackageRecord) (key : String) : Nat :=
  (pairs records).countP fun x => x.2 ≠ "" ∧ x.1 ++ ":" ++ x.2 = key

/-- The same records, and in each of them the same imports, in another order. -/
def Reordered (records other : List PackageRecord) : Prop :=
  ∃ between, records.Perm between ∧
    List.Forall₂ (fun r s => r.name = s.name ∧ r.imports.Perm s.imports) between other

/-! ## Entries -/

theorem mem_iff_lookup (ordered : Ordered entries) (e : String × Nat) :
    e ∈ entries ↔ entries.lookup e.1 = some e.2 := by
  induction entries with
  | nil => simp
  | cons first rest ih =>
    obtain ⟨first, n⟩ := first
    obtain ⟨hfirst, hrest⟩ := List.pairwise_cons.mp ordered
    rw [lookup_cons_ite, List.mem_cons, ih hrest]
    split
    · rename_i heq
      have habsent : rest.lookup e.1 ≠ some e.2 := by
        intro hsome
        have hlt := hfirst e.1 (List.mem_map_of_mem ((ih hrest).mpr hsome))
        exact absurd heq hlt.ne'
      rw [or_iff_left habsent, Prod.ext_iff, Option.some_inj, and_iff_right heq, eq_comm]
    · rename_i hne
      have hother : e ≠ (first, n) := fun heq => hne (congrArg Prod.fst heq)
      rw [or_iff_right hother]

theorem mem_keys_iff (ordered : Ordered entries) :
    key ∈ keys entries ↔ (entries.lookup key).isSome := by
  rw [keys, List.mem_map, Option.isSome_iff_exists]
  constructor
  · rintro ⟨e, he, rfl⟩
    exact ⟨e.2, (mem_iff_lookup ordered e).mp he⟩
  · rintro ⟨n, hn⟩
    exact ⟨(key, n), (mem_iff_lookup ordered (key, n)).mpr hn, rfl⟩

/-- Entries in the order of their keys are told by what is found under each key. -/
theorem eq_of_get?_eq (ordered : Ordered m.entries) (ordered' : Ordered m'.entries)
    (h : ∀ key, m.get? key = m'.get? key) : m = m' := by
  have irrefl : Std.Irrefl fun a b : String × Nat => a.1 < b.1 := ⟨fun a => lt_irrefl a.1⟩
  have antisymm : Std.Antisymm fun a b : String × Nat => a.1 < b.1 :=
    ⟨fun a b hab hba => absurd hab hba.not_gt⟩
  have same : ∀ e, e ∈ m.entries ↔ e ∈ m'.entries := by
    intro e
    have found : m.entries.lookup e.1 = m'.entries.lookup e.1 := h e.1
    rw [mem_iff_lookup ordered, mem_iff_lookup ordered', found]
  cases m
  cases m'
  exact congrArg mk
    ((List.pairwise_map.mp ordered).eq_of_mem_iff (List.pairwise_map.mp ordered') same)

theorem ordered_foldl (ordered : Ordered m.entries) (es : List Edge) :
    Ordered (es.foldl increment m).entries := by
  induction es generalizing m with
  | nil => exact ordered
  | cons e es ih => exact ih (ordered.increment e)

theorem ordered_ofRecords (records : List PackageRecord) : Ordered (ofRecords records).entries :=
  ordered_foldl (m := empty) List.Pairwise.nil _

theorem total_bump (key : String) (entries : List (String × Nat)) :
    total ⟨bump key entries⟩ = total ⟨entries⟩ + 1 := by
  induction entries with
  | nil => rfl
  | cons first rest ih =>
    obtain ⟨first, n⟩ := first
    rw [bump]
    split
    · simp [total]
      omega
    split
    · simp [total]
      omega
    · simp [total] at ih ⊢
      omega

theorem total_increment (m : WeightMap) (e : Edge) : (m.increment e).total = m.total + 1 :=
  total_bump e.key m.entries

theorem total_foldl (m : WeightMap) (es : List Edge) :
    (es.foldl increment m).total = m.total + es.length := by
  induction es generalizing m with
  | nil => rfl
  | cons e es ih =>
    rw [List.foldl_cons, ih, total_increment, List.length_cons]
    omega

/-! ## Edges and places -/

theorem pairs_cons (r : PackageRecord) (records : List PackageRecord) :
    pairs (r :: records) = r.imports.map (fun path => (r.name, path)) ++ pairs records :=
  List.flatMap_cons

theorem pairs_append (records more : List PackageRecord) :
    pairs (records ++ more) = pairs records ++ pairs more :=
  List.flatMap_append

/-- The edges are the pairs whose import is not empty. -/
theorem edges_eq (records : List PackageRecord) :
    edges records = ((pairs records).filter (·.2 ≠ "")).map fun x => ⟨x.1, x.2⟩ := by
  induction records with
  | nil => rfl
  | cons r records ih =>
    rw [pairs_cons, List.filter_append, List.map_append, ← ih, List.filter_map, List.map_map]
    exact List.flatMap_cons

theorem length_edges (records : List PackageRecord) :
    (edges records).length = (pairs records).countP (·.2 ≠ "") := by
  rw [edges_eq, List.length_map, List.countP_eq_length_filter]

theorem countP_edges (records : List PackageRecord) (key : String) :
    (edges records).countP (·.key = key) = tally records key := by
  rw [edges_eq, List.countP_map, List.countP_filter, tally]
  refine List.countP_congr ?_
  intro x _
  simp only [Function.comp_apply, Bool.and_eq_true, decide_eq_true_eq]
  exact and_comm

theorem get?_ofRecords (records : List PackageRecord) (key : String) :
    (ofRecords records).get? key = counted (tally records key) := by
  rw [ofRecords, get?_ofEdges, countP_edges]

theorem total_ofRecords (records : List PackageRecord) :
    (ofRecords records).total = (pairs records).countP (·.2 ≠ "") := by
  rw [ofRecords, ofEdges, total_foldl, length_edges]
  exact Nat.zero_add _

theorem isSome_counted {n : Nat} : (counted n).isSome ↔ 0 < n := by
  unfold counted
  split
  · simp [*]
  · simp
    omega

theorem getD_counted (n : Nat) : (counted n).getD 0 = n := by
  unfold counted
  split
  · simp [*]
  · rfl

theorem mem_keys_ofRecords : key ∈ keys (ofRecords records).entries ↔ 0 < tally records key := by
  have found : (ofRecords records).entries.lookup key = counted (tally records key) :=
    get?_ofRecords records key
  rw [mem_keys_iff (ordered_ofRecords records), found, isSome_counted]

theorem size_ofRecords (records : List PackageRecord) :
    (ofRecords records).size = {key | 0 < tally records key}.ncard := by
  have distinct : (keys (ofRecords records).entries).Nodup :=
    (ordered_ofRecords records).imp fun h => h.ne
  have same : {key | 0 < tally records key} =
      ((keys (ofRecords records).entries).toFinset : Set String) := by
    ext key
    rw [Finset.mem_coe, List.mem_toFinset, mem_keys_ofRecords]
    rfl
  rw [same, Set.ncard_coe_finset, List.toFinset_card_of_nodup distinct, keys, List.length_map]
  rfl

theorem tally_append (records more : List PackageRecord) (key : String) :
    tally (records ++ more) key = tally records key + tally more key := by
  rw [tally, pairs_append, List.countP_append]
  rfl

/-! ## Order -/

theorem Reordered.pairs (h : Reordered records other) : (pairs records).Perm (pairs other) := by
  obtain ⟨between, hperm, hsame⟩ := h
  refine (hperm.flatMap_right _).trans ?_
  clear hperm
  induction hsame with
  | nil => exact .nil
  | cons hfirst _ ih =>
    obtain ⟨hname, himports⟩ := hfirst
    rw [WeightMap.pairs_cons, ← hname]
    exact (himports.map _).append ih

theorem ofRecords_eq_of_reordered (h : Reordered records other) :
    ofRecords other = ofRecords records := by
  refine eq_of_get?_eq (ordered_ofRecords other) (ordered_ofRecords records) ?_
  intro key
  rw [get?_ofRecords, get?_ofRecords, tally, tally, h.pairs.countP_eq]

/-- Under each key stands the number of places with an import that is not empty and gives that
key, and nothing if there is none; there are as many keys as are given by some import, and the
weights add up to the number of all imports that are not empty. So the map of two lists has
under each key the sum of what their maps have there, and the order of the records and of the
imports in a record changes nothing. -/
theorem every_import_counts_once (records : List PackageRecord) :
    (∀ key, (ofRecords records).get? key = counted (tally records key)) ∧
    (ofRecords records).size = {key | 0 < tally records key}.ncard ∧
    (ofRecords records).total = (pairs records).countP (·.2 ≠ "") ∧
    (∀ more key, (ofRecords (records ++ more)).get? key =
      counted (((ofRecords records).get? key).getD 0 + ((ofRecords more).get? key).getD 0)) ∧
    ∀ other, Reordered records other → ofRecords other = ofRecords records ∧
      (ofRecords other).heaviest = (ofRecords records).heaviest := by
  refine ⟨get?_ofRecords records, size_ofRecords records, total_ofRecords records, ?_, ?_⟩
  · intro more key
    rw [get?_ofRecords, get?_ofRecords, get?_ofRecords, getD_counted, getD_counted, tally_append]
  · intro other reordered
    have same := ofRecords_eq_of_reordered reordered
    exact ⟨same, congrArg heaviest same⟩

/-- Two records of one name, an import that stands twice and one that is empty. -/
theorem every_import_counts_once_repeated :
    let records : List PackageRecord := [⟨"p", ["b", "", "b"]⟩, ⟨"q", ["a"]⟩, ⟨"p", ["b"]⟩]
    let other : List PackageRecord := [⟨"p", ["b"]⟩, ⟨"p", ["", "b", "b"]⟩, ⟨"q", ["a"]⟩]
    Reordered records other ∧ (ofRecords records).get? "p:b" = some 3 ∧
      (ofRecords records).total = 4 ∧ ofRecords other = ofRecords records := by
  intro records other
  have reordered : Reordered records other := by
    refine ⟨[⟨"p", ["b"]⟩, ⟨"p", ["b", "", "b"]⟩, ⟨"q", ["a"]⟩], by decide, ?_⟩
    exact .cons ⟨rfl, by decide⟩ (.cons ⟨rfl, by decide⟩ (.cons ⟨rfl, by decide⟩ .nil))
  obtain ⟨found, -, total, -, order⟩ := every_import_counts_once records
  exact ⟨reordered, (found "p:b").trans (by decide), total.trans (by decide),
    (order other reordered).1⟩

end ImportWeights.WeightMap
