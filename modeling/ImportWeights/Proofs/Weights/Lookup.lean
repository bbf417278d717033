import Mathlib.Data.String.Basic
import ImportWeights.Weights

/-! # Looking up a count

The entries of a weight map stand in the order of their keys, each key once. So to add one to
a key's count changes what is found under that key and nothing else (`lookup_bump`), and a map
made of edges holds, under each key, how many of the edges have it (`get?_ofEdges`). -/

namespace ImportWeights.WeightMap

variable {m : WeightMap} {key k : String} {n : Nat} {entries : List (String × Nat)}

def keys (entries : List (String × Nat)) : List String := entries.map (·.1)

/-- The keys rise, so none stands twice. -/
def Ordered (entries : List (String × Nat)) : Prop := (keys entries).Pairwise (· < ·)

/-- What counting to a number leaves under a key: nothing if it is zero. -/
def counted (n : Nat) : Option Nat := if n = 0 then none else some n

theorem mem_keys_bump : k ∈ keys (bump key entries) ↔ k = key ∨ k ∈ keys entries := by
  induction entries with
  | nil => simp [bump, keys]
  | cons first rest ih =>
    obtain ⟨first, n⟩ := first
    simp only [keys] at ih
    rw [bump]
    split
    · rename_i heq
      simp [keys, heq]
    split
    · simp [keys]
    · simp only [keys, List.map_cons, List.mem_cons, ih]
      exact or_left_comm

theorem Ordered.bump (ordered : Ordered entries) (key : String) :
    Ordered (WeightMap.bump key entries) := by
  induction entries with
  | nil => simp [Ordered, keys, WeightMap.bump]
  | cons first rest ih =>
    obtain ⟨first, n⟩ := first
    obtain ⟨hfirst, hrest⟩ := List.pairwise_cons.mp ordered
    rw [WeightMap.bump]
    split
    · exact ordered
    rename_i hne
    split
    · rename_i hlt
      refine List.pairwise_cons.mpr ⟨?_, ordered⟩
      intro k hk
      rcases List.mem_cons.mp hk with rfl | hk
      · exact hlt
      · exact lt_trans hlt (hfirst k hk)
    · rename_i hnlt
      refine List.pairwise_cons.mpr ⟨?_, ih hrest⟩
      intro k hk
      rcases mem_keys_bump.mp hk with rfl | hk
      · exact lt_of_le_of_ne (not_lt.mp hnlt) (Ne.symm hne)
      · exact hfirst k hk

theorem lookup_cons_ite (k first : String) (n : Nat) (rest : List (String × Nat)) :
    ((first, n) :: rest).lookup k = if k = first then some n else rest.lookup k := by
  rw [List.lookup_cons]
  by_cases h : k = first
  · simp [h]
  · rw [beq_false_of_ne h, if_neg h]

/-- One more is found under the key, and the same as before under any other. -/
theorem lookup_bump (ordered : Ordered entries) (key k : String) :
    (bump key entries).lookup k =
      if k = key then some ((entries.lookup key).getD 0 + 1) else entries.lookup k := by
  induction entries with
  | nil => rw [bump, lookup_cons_ite]; rfl
  | cons first rest ih =>
    obtain ⟨first, n⟩ := first
    obtain ⟨hfirst, hrest⟩ := List.pairwise_cons.mp ordered
    rw [bump]
    split
    · rename_i heq
      subst heq
      by_cases hk : k = key <;> simp [lookup_cons_ite, hk]
    rename_i hne
    split
    · rename_i hlt
      have habsent : ((first, n) :: rest).lookup key = none := by
        refine List.lookup_eq_none_iff.mpr ?_
        intro e he
        rcases List.mem_cons.mp he with rfl | he
        · exact bne_iff_ne.mpr hne
        · exact bne_iff_ne.mpr (lt_trans hlt (hfirst e.1 (List.mem_map_of_mem he))).ne
      rw [lookup_cons_ite, habsent]
      rfl
    · rw [lookup_cons_ite, lookup_cons_ite, lookup_cons_ite, ih hrest, if_neg hne]
      by_cases hk : k = first
      · rw [if_pos hk, if_pos hk, if_neg (hk ▸ Ne.symm hne)]
      · rw [if_neg hk, if_neg hk]

theorem Ordered.increment (ordered : Ordered m.entries) (e : Edge) :
    Ordered (m.increment e).entries := ordered.bump e.key

theorem get?_increment (ordered : Ordered m.entries) (e : Edge) (k : String) :
    (m.increment e).get? k = if k = e.key then some ((m.get? k).getD 0 + 1) else m.get? k := by
  rw [WeightMap.increment, get?, lookup_bump ordered]
  split
  · rename_i heq
    rw [get?, heq]
  · rfl

/-- Edges that are counted on top of a map add up with what it holds. -/
theorem get?_foldl_increment (ordered : Ordered m.entries) (es : List Edge) (k : String) :
    (es.foldl WeightMap.increment m).get? k =
      if es.countP (·.key = k) = 0 then m.get? k
      else some ((m.get? k).getD 0 + es.countP (·.key = k)) := by
  induction es generalizing m with
  | nil => rfl
  | cons e es ih =>
    rw [List.foldl_cons, ih (ordered.increment e), get?_increment ordered, List.countP_cons]
    by_cases hkey : k = e.key
    · subst hkey
      simp only [if_true, decide_true, Option.getD_some, Nat.succ_ne_zero, if_false]
      split
      · rename_i hnone
        rw [hnone]
      · rw [Nat.add_right_comm, Nat.add_assoc]
    · have hkey' : ¬ e.key = k := fun h => hkey h.symm
      simp [hkey, hkey']

/-- Under each key stands the number of the edges that have it. -/
theorem get?_ofEdges (es : List Edge) (k : String) :
    (ofEdges es).get? k = counted (es.countP (·.key = k)) := by
  have hordered : Ordered empty.entries := List.Pairwise.nil
  have hempty : empty.get? k = none := rfl
  rw [ofEdges, get?_foldl_increment hordered, hempty, counted, Option.getD_none, Nat.zero_add]

end ImportWeights.WeightMap
