import Mathlib.Data.List.Basic
import ImportWeights.Files.Path
import ImportWeights.Proofs.Text.Pieces

/-! Names that a directory can hold, and paths made of them: the components of such a path are
its names again, so nothing is lost or read into it. -/

namespace ImportWeights.Files

/-- A name that stands for an entry: it has no separator in it, and neither dot names a place
of its own. -/
structure ProperName (name : Name) : Prop where
  ne_nil : name ≠ []
  whole : Path.separator ∉ name
  ne_current : name ≠ Path.currentName
  ne_parent : name ≠ Path.parentName

theorem properName_iff {name : Name} : ProperName name ↔ name ≠ [] ∧ Path.separator ∉ name ∧
    name ≠ Path.currentName ∧ name ≠ Path.parentName :=
  ⟨fun ⟨h, whole, current, parent⟩ => ⟨h, whole, current, parent⟩,
    fun ⟨h, whole, current, parent⟩ => ⟨h, whole, current, parent⟩⟩

instance (name : Name) : Decidable (ProperName name) := decidable_of_iff _ properName_iff.symm

namespace Path

variable {name : Name} {names : List Name}

theorem ofNames_cons_cons (name next : Name) (names : List Name) :
    (ofNames (name :: next :: names)).bytes =
      name ++ separator :: (ofNames (next :: names)).bytes := by
  simp [ofNames]

theorem ofNames_singleton (name : Name) : (ofNames [name]).bytes = name := by
  simp [ofNames]

theorem names_ofNames (h : ∀ name ∈ names, ProperName name) : (ofNames names).names = names := by
  have hcut : (Text.pieces separator (ofNames names).bytes).map (·.1) = names := by
    induction names with
    | nil => rfl
    | cons name names ih =>
      obtain ⟨hname, hnames⟩ := List.forall_mem_cons.mp h
      cases names with
      | nil => rw [ofNames_singleton, Text.pieces_of_not_mem hname.ne_nil hname.whole]; rfl
      | cons next names =>
        rw [ofNames_cons_cons, Text.pieces_append_cons hname.whole, List.map_cons, ih hnames]
  rw [Path.names, hcut, List.filter_eq_self]
  intro name hname
  simpa using (h name hname).ne_nil

theorem isAbsolute_ofNames (h : ∀ name ∈ names, ProperName name) :
    (ofNames names).isAbsolute = false := by
  have hhead : (ofNames names).bytes.head? ≠ some separator := by
    cases names with
    | nil => simp [ofNames]
    | cons name names =>
      obtain ⟨hname, -⟩ := List.forall_mem_cons.mp h
      obtain ⟨b, bytes, rfl⟩ := List.exists_cons_of_ne_nil hname.ne_nil
      have hb : b ≠ separator := fun heq => hname.whole (by simp [heq])
      cases names with
      | nil => simpa [ofNames_singleton] using hb
      | cons next names => simpa [ofNames_cons_cons] using hb
  simpa [isAbsolute] using hhead

theorem Component.ofName_proper (h : ProperName name) : ofName name = some (.normal name) := by
  rw [ofName, if_neg h.ne_current, if_neg h.ne_parent]

theorem Component.filterMap_ofName (h : ∀ name ∈ names, ProperName name) :
    names.filterMap ofName = names.map .normal := by
  rw [← List.filterMap_eq_map]
  exact List.filterMap_congr fun name hname => ofName_proper (h name hname)

theorem head?_ne_current (h : ∀ name ∈ names, ProperName name) :
    names.head? ≠ some currentName := by
  intro hhead
  exact (h _ (List.mem_of_head? hhead)).ne_current rfl

/-- The components of a path made of proper names are those names. -/
theorem components_ofNames (h : ∀ name ∈ names, ProperName name) :
    (ofNames names).components = names.map .normal := by
  rw [components, names_ofNames h, isAbsolute_ofNames h, if_neg Bool.false_ne_true,
    if_neg (head?_ne_current h), Component.filterMap_ofName h]

end Path

end ImportWeights.Files
