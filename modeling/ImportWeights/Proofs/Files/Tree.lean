import ImportWeights.Files.Tree
import ImportWeights.Proofs.Files.Names

/-! A tree as a file system holds it, and the way down to a node of it. -/

namespace ImportWeights.Files

namespace Node

/-- The entries of every directory have proper names, each its own. -/
inductive Proper : Node → Prop
  | file (content : List UInt8) : Proper (.file content)
  | link (target : Path) : Proper (.link target)
  | shut (directory : Bool) (cause : OsError) : Proper (.shut directory cause)
  | dir {entries : List (Name × Node)} (names : ∀ e ∈ entries, ProperName e.1)
      (distinct : (entries.map (·.1)).Nodup) (below : ∀ e ∈ entries, Proper e.2) :
      Proper (.dir entries)

@[simp] theorem proper_file (content : List UInt8) : (Node.file content).Proper := .file content

@[simp] theorem proper_link (target : Path) : (Node.link target).Proper := .link target

@[simp] theorem proper_shut (directory : Bool) (cause : OsError) :
    (Node.shut directory cause).Proper := .shut directory cause

@[simp] theorem proper_dir {entries : List (Name × Node)} :
    (Node.dir entries).Proper ↔ (∀ e ∈ entries, ProperName e.1) ∧
      (entries.map (·.1)).Nodup ∧ ∀ e ∈ entries, e.2.Proper := by
  refine ⟨?_, fun ⟨names, distinct, below⟩ => .dir names distinct below⟩
  rintro ⟨⟩
  exact ⟨‹_›, ‹_›, ‹_›⟩

/-- What holds of files, of links and of what is shut, and of a directory if it holds of its
entries, holds of every node. -/
theorem induction_entries {P : Node → Prop} (file : ∀ content, P (.file content))
    (link : ∀ target, P (.link target))
    (dir : ∀ entries : List (Name × Node), (∀ e ∈ entries, P e.2) → P (.dir entries))
    (shut : ∀ directory cause, P (.shut directory cause)) :
    ∀ n, P n :=
  @Node.rec P (fun entries => ∀ e ∈ entries, P e.2) (fun e => P e.2) file link dir shut
    (List.forall_mem_nil _) (fun _ _ first rest => List.forall_mem_cons.mpr ⟨first, rest⟩)
    (fun _ _ h => h)

variable {n child : Node} {name : Name} {names more : List Name} {entries : List (Name × Node)}

@[simp] theorem at?_nil (n : Node) : n.at? [] = some n := by
  rw [at?]

@[simp] theorem at?_cons (n : Node) (name : Name) (names : List Name) :
    n.at? (name :: names) = (n.child? name).bind (·.at? names) := by
  rw [at?]

theorem at?_append (n : Node) (names more : List Name) :
    n.at? (names ++ more) = (n.at? names).bind (·.at? more) := by
  induction names generalizing n with
  | nil => simp
  | cons name names ih =>
    rw [List.cons_append, at?_cons, at?_cons, Option.bind_assoc]
    exact congrArg _ (funext ih)

/-- Only a directory has anything below it. -/
theorem child?_of_not_dir (h : n.isDir = false) (name : Name) : n.child? name = none := by
  cases n with
  | dir entries => cases h
  | file content => rfl
  | link target => rfl
  | shut directory cause => rfl

/-- Nothing can be told of what is below a directory that is shut. -/
@[simp] theorem child?_shut (directory : Bool) (cause : OsError) (name : Name) :
    (shut directory cause).child? name = none := rfl

theorem at?_of_not_dir (h : n.isDir = false) :
    n.at? names = some child ↔ names = [] ∧ child = n := by
  cases names with
  | nil => simp [eq_comm]
  | cons name names => simp [child?_of_not_dir h]

theorem mem_of_child? (h : (Node.dir entries).child? name = some child) :
    (name, child) ∈ entries := by
  obtain ⟨⟨other, node⟩, hfind, rfl⟩ := Option.map_eq_some_iff.mp h
  have hname := List.find?_some hfind
  rw [decide_eq_true_eq] at hname
  exact hname ▸ List.mem_of_find?_eq_some hfind

/-- Where names are distinct, an entry is found under its name. -/
theorem child?_eq_some_iff (distinct : (entries.map (·.1)).Nodup) :
    (Node.dir entries).child? name = some child ↔ (name, child) ∈ entries := by
  refine ⟨mem_of_child?, ?_⟩
  induction entries with
  | nil => simp
  | cons e entries ih =>
    obtain ⟨hfirst, hrest⟩ := List.nodup_cons.mp distinct
    intro hmem
    rcases List.mem_cons.mp hmem with rfl | hmem
    · simp [child?, Node.entries]
    · have hne : e.1 ≠ name := fun heq => hfirst (List.mem_map.mpr ⟨_, hmem, heq.symm⟩)
      have hlater := ih hrest hmem
      simpa [child?, Node.entries, hne] using hlater

/-- An entry below a node, or the node itself, that is no directory. -/
def HasLeaf (n : Node) (names : List Name) : Prop :=
  ∃ node, n.at? names = some node ∧ node.isDir = false

/-- What lies in a proper tree is one itself. -/
theorem Proper.at? (proper : n.Proper) (h : n.at? names = some child) : child.Proper := by
  induction names generalizing n with
  | nil =>
    rw [at?_nil, Option.some.injEq] at h
    exact h ▸ proper
  | cons name names ih =>
    rw [at?_cons, Option.bind_eq_some_iff] at h
    obtain ⟨node, hnode, h⟩ := h
    cases n with
    | file content => cases hnode
    | link target => cases hnode
    | shut directory cause => cases hnode
    | dir entries => exact ih ((proper_dir.mp proper).2.2 _ (mem_of_child? hnode)) h

/-- All names on a way down a proper tree are proper. -/
theorem Proper.properNames (proper : n.Proper) (h : n.at? names = some child) :
    ∀ name ∈ names, ProperName name := by
  induction proper generalizing names with
  | file content => cases names <;> simp_all [child?, Node.entries]
  | link target => cases names <;> simp_all [child?, Node.entries]
  | shut directory cause => cases names <;> simp_all
  | dir hnames _ _ ih =>
    cases names with
    | nil => simp
    | cons name names =>
      obtain ⟨node, hchild, hnode⟩ := Option.bind_eq_some_iff.mp (at?_cons _ _ _ ▸ h)
      have hmem := mem_of_child? hchild
      exact List.forall_mem_cons.mpr ⟨hnames _ hmem, ih _ hmem hnode⟩

end Node

end ImportWeights.Files
