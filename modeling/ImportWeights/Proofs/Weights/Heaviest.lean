import ImportWeights.Proofs.Weights.Lookup

/-! The entries of a weight map by weight. No key stands twice, so of two entries one always comes
first: the heavier one, and of two that weigh the same the one with the lower key. -/

namespace ImportWeights.WeightMap

variable {m : WeightMap} {a b : String × Nat}

theorem heavierFirst_iff : heavierFirst a b = true ↔ b.2 < a.2 ∨ a.2 = b.2 ∧ a.1 ≤ b.1 := by
  simp [heavierFirst]

theorem heavierFirst_trans (a b c : String × Nat) (h : heavierFirst a b = true)
    (h' : heavierFirst b c = true) : heavierFirst a c = true := by
  rw [heavierFirst_iff] at h h' ⊢
  obtain heavier | ⟨same, low⟩ := h
  · left; omega
  obtain heavier | ⟨same', low'⟩ := h'
  · left; omega
  · exact .inr ⟨same.trans same', le_trans low low'⟩

theorem heavierFirst_total (a b : String × Nat) : heavierFirst a b || heavierFirst b a := by
  rw [Bool.or_eq_true, heavierFirst_iff, heavierFirst_iff]
  obtain lighter | same | heavier := lt_trichotomy a.2 b.2
  · exact .inr (.inl lighter)
  · obtain low | high := le_total a.1 b.1
    · exact .inl (.inr ⟨same, low⟩)
    · exact .inr (.inr ⟨same.symm, high⟩)
  · exact .inl (.inl heavier)

theorem heaviest_perm (m : WeightMap) : m.heaviest.Perm m.entries := List.mergeSort_perm _ _

theorem heaviest_pairwise (ordered : Ordered m.entries) :
    m.heaviest.Pairwise fun a b => b.2 < a.2 ∨ a.2 = b.2 ∧ a.1 < b.1 := by
  have sorted : m.heaviest.Pairwise (heavierFirst · ·) :=
    List.pairwise_mergeSort heavierFirst_trans heavierFirst_total m.entries
  have once : (keys m.heaviest).Nodup :=
    ((heaviest_perm m).map _).nodup_iff.mpr (ordered.imp fun h => h.ne)
  refine sorted.imp₂ ?_ (List.pairwise_map.mp once)
  intro a b before differ
  obtain heavier | ⟨same, low⟩ := heavierFirst_iff.mp before
  · exact .inl heavier
  · exact .inr ⟨same, lt_of_le_of_ne low differ⟩

end ImportWeights.WeightMap
