import ImportWeights.Proofs.Files.Places

/-! # What the content of one file reaches

Two trees that differ only in what one file holds (`SameBut`) hold the same kind of node at
every place. Following a path asks for nothing else, so a path leads to the same place in both
(`locate_spot`), and only a path that leads to that very file can read something else
(`read_eq_of_not_leadsTo`). -/

namespace ImportWeights.Files

namespace Node

/-- The same tree, but for what the file at a place holds. -/
inductive SameBut : List Name → Node → Node → Prop
  | file (old new : List UInt8) : SameBut [] (.file old) (.file new)
  | dir {name : Name} {rest : List Name} {n n' : Node} {before : List (Name × Node)}
      (after : List (Name × Node)) (first : name ∉ before.map (·.1)) (below : SameBut rest n n') :
      SameBut (name :: rest) (.dir (before ++ (name, n) :: after))
        (.dir (before ++ (name, n') :: after))

variable {n n' child : Node} {name : Name} {place names : List Name}
  {before after : List (Name × Node)}

theorem SameBut.symm (h : SameBut place n n') : SameBut place n' n := by
  induction h with
  | file old new => exact .file new old
  | dir after first _ ih => exact .dir after first ih

theorem child?_middle (first : name ∉ before.map (·.1)) (n : Node) :
    (Node.dir (before ++ (name, n) :: after)).child? name = some n := by
  have hbefore : before.find? (·.1 = name) = none := by
    rw [List.find?_eq_none]
    intro e he heq
    exact first (List.mem_map.mpr ⟨e, he, of_decide_eq_true heq⟩)
  simp [child?, entries, List.find?_append, hbefore]

theorem child?_elsewhere {other : Name} (hne : other ≠ name) (n : Node) :
    (Node.dir (before ++ (name, n) :: after)).child? other =
      (Node.dir (before ++ after)).child? other := by
  simp [child?, entries, List.find?_append, hne.symm]

/-- Both trees hold something at the same places. It is the very same, but on the way down to
the changed file, where it is the same but for that file again. -/
theorem SameBut.at? (h : SameBut place n n') (hchild : n.at? names = some child) :
    ∃ child', n'.at? names = some child' ∧
      (child' = child ∨ ∃ rest, place = names ++ rest ∧ SameBut rest child child') := by
  induction h generalizing names with
  | file old new =>
    obtain ⟨rfl, rfl⟩ := (at?_of_not_dir rfl).mp hchild
    exact ⟨.file new, at?_nil _, .inr ⟨[], rfl, .file old new⟩⟩
  | @dir name rest n n' before after first below ih =>
    cases names with
    | nil =>
      rw [at?_nil, Option.some.injEq] at hchild
      subst hchild
      exact ⟨_, at?_nil _, .inr ⟨_, rfl, .dir after first below⟩⟩
    | cons other names =>
      rw [at?_cons] at hchild ⊢
      by_cases hother : other = name
      · subst hother
        rw [child?_middle first, Option.bind_some] at hchild ⊢
        obtain ⟨child', hchild', hsame⟩ := ih hchild
        refine ⟨child', hchild', hsame.imp_right ?_⟩
        rintro ⟨rest', rfl, hbelow⟩
        exact ⟨rest', rfl, hbelow⟩
      · rw [child?_elsewhere hother] at hchild ⊢
        exact ⟨child, hchild, .inl rfl⟩

/-- What kind of node it is, and where a link leads: all that following a path asks of it. -/
def bare : Node → Node
  | .file _ => .file []
  | .link target => .link target
  | .dir _ => .dir []
  | .shut directory cause => .shut directory cause

theorem SameBut.bare_eq (h : SameBut place n n') : n'.bare = n.bare := by
  cases h <;> rfl

theorem SameBut.isDir_eq (h : SameBut place n n') : n'.isDir = n.isDir := by
  cases h <;> rfl

theorem SameBut.bare_at? (h : SameBut place n n') (names : List Name) :
    (n'.at? names).map bare = (n.at? names).map bare := by
  cases hn : n.at? names with
  | none =>
    cases hn' : n'.at? names with
    | none => rfl
    | some child' =>
      obtain ⟨child, hchild, -⟩ := h.symm.at? hn'
      rw [hn] at hchild
      cases hchild
  | some child =>
    obtain ⟨child', hchild', hsame⟩ := h.at? hn
    rw [hchild', Option.map_some, Option.map_some]
    rcases hsame with rfl | ⟨rest, -, hbelow⟩
    · rfl
    · rw [hbelow.bare_eq]

end Node

/-- Where a path leads, whatever is there. -/
def Target.bare : Target → Target
  | .found place node => .found place node.bare
  | .missing directory name => .missing directory name

namespace FileTree

/-- Where a path leads, or why it leads nowhere. -/
def spot (result : Except OsError Target) : Except OsError Target := result.map Target.bare

/-- The same of a single move. -/
def Move.bare : Move → Move
  | .stop result => .stop (spot result)
  | .go place => .go place
  | .through target => .through target

variable {top top' : Node} {follow : Bool} {place changed : List Name} {t t' : FileTree}
  {m : Move} {result : Except OsError Target}

theorem Move.bare_eq_stop : m.bare = .stop (spot result) ↔
    ∃ result', m = .stop result' ∧ spot result' = spot result := by
  cases m <;> simp [Move.bare]

theorem Move.bare_eq_go : m.bare = .go place ↔ m = .go place := by
  cases m <;> simp [Move.bare]

theorem Move.bare_eq_through {target : Path} : m.bare = .through target ↔ m = .through target := by
  cases m <;> simp [Move.bare]

/-- Trees with the same kinds of nodes give the same move. -/
theorem move_bare (h : ∀ names, (top'.at? names).map Node.bare = (top.at? names).map Node.bare)
    (follow : Bool) (place : List Name) (step : Step) (final : Bool) :
    (move top' follow place step final).bare = (move top follow place step final).bare := by
  have hplace := h place
  have hbelow := h (place ++ [step.name])
  rw [Node.at?_append, Node.at?_append] at hbelow
  unfold move
  cases hn : top.at? place with
  | none =>
    rw [hn] at hplace
    rw [Option.map_eq_none_iff.mp hplace]
  | some n =>
    rw [hn] at hplace hbelow
    obtain ⟨n', hn', hkind⟩ := Option.map_eq_some_iff.mp hplace
    rw [hn'] at hbelow ⊢
    cases n with
    | file content => cases n' <;> cases hkind; rfl
    | link target => cases n' <;> cases hkind; rfl
    | shut directory cause => cases n' <;> cases hkind; rfl
    | dir entries =>
      cases n' with
      | file content => cases hkind
      | link target => cases hkind
      | shut directory cause => cases hkind
      | dir entries' =>
        simp only [Option.bind_some, Node.at?_cons, Node.at?_nil, Option.bind_fun_some] at hbelow
        dsimp only
        split
        · rfl
        split
        · rfl
        split
        · rfl
        cases hchild : (Node.dir entries).child? step.name with
        | none =>
          rw [hchild] at hbelow
          rw [Option.map_eq_none_iff.mp hbelow]
        | some child =>
          rw [hchild] at hbelow
          obtain ⟨child', hchild', hkind'⟩ := Option.map_eq_some_iff.mp hbelow
          rw [hchild']
          cases child <;> cases child' <;> cases hkind'
          · dsimp only
            split <;> rfl
          · rfl
          · rfl
          · rfl

/-- They lead every path to the same place. -/
theorem walk_spot (h : ∀ names, (top'.at? names).map Node.bare = (top.at? names).map Node.bare)
    (links : Nat) (place : List Name) (todo : List Step) :
    spot (walk top' follow links place todo) = spot (walk top follow links place todo) := by
  induction links, place, todo using walk_induction with
  | nil links place =>
    have hplace := h place
    rw [walk_nil, walk_nil]
    cases hn : top.at? place with
    | none =>
      rw [hn] at hplace
      rw [Option.map_eq_none_iff.mp hplace]
    | some n =>
      rw [hn] at hplace
      obtain ⟨n', hn', hkind⟩ := Option.map_eq_some_iff.mp hplace
      rw [hn']
      exact congrArg (fun kind => Except.ok (Target.found place kind)) hkind
  | cons links place step rest inner outer =>
    have hmove := move_bare h follow place step rest.isEmpty
    rw [walk_cons, walk_cons]
    cases hm : move top follow place step rest.isEmpty with
    | stop result =>
      rw [hm] at hmove
      obtain ⟨result', hm', hresult⟩ := Move.bare_eq_stop.mp hmove
      rw [hm']
      exact hresult
    | go next =>
      rw [hm] at hmove
      rw [Move.bare_eq_go.mp hmove]
      exact inner next
    | through target =>
      rw [hm] at hmove
      rw [Move.bare_eq_through.mp hmove]
      cases links with
      | zero => rfl
      | succ fewer =>
        dsimp only
        split
        · rfl
        · exact outer fewer (Nat.lt_succ_self _) _ _

theorem locate_spot (h : t.top.SameBut changed t'.top)
    (hcurrent : t'.current = t.current) (p : Path) (follow : Bool) :
    spot (t'.locate p follow) = spot (t.locate p follow) := by
  unfold locate
  split
  · rfl
  split
  · rfl
  split
  · rfl
  rw [hcurrent]
  exact walk_spot h.bare_at? _ _ _

/-- A path comes to the same in both trees, or it leads to a node above the changed file, or to
that file. -/
theorem locate_cases (h : t.top.SameBut changed t'.top) (hcurrent : t'.current = t.current)
    (p : Path) (follow : Bool) :
    t'.locate p follow = t.locate p follow ∨ ∃ place n n' rest,
      t.locate p follow = .ok (.found place n) ∧ t'.locate p follow = .ok (.found place n') ∧
      changed = place ++ rest ∧ n.SameBut rest n' := by
  have hspot := locate_spot h hcurrent p follow
  cases hloc : t.locate p follow with
  | error e =>
    cases hloc' : t'.locate p follow with
    | error e' => rw [hloc, hloc'] at hspot; cases hspot; exact .inl rfl
    | ok target' => rw [hloc, hloc'] at hspot; cases hspot
  | ok target =>
    cases hloc' : t'.locate p follow with
    | error e' => rw [hloc, hloc'] at hspot; cases hspot
    | ok target' =>
      rw [hloc, hloc'] at hspot
      replace hspot : target'.bare = target.bare := Except.ok.inj hspot
      cases target with
      | missing directory name =>
        cases target' with
        | missing directory' name' => cases hspot; exact .inl rfl
        | found place' n' => cases hspot
      | found place n =>
        cases target' with
        | missing directory' name' => cases hspot
        | found place' n' =>
          obtain rfl : place' = place := (Target.found.inj hspot).1
          have hn := at?_of_walk (locate_ok_iff.mp hloc).2
          have hn' := at?_of_walk (locate_ok_iff.mp hloc').2
          obtain ⟨other, hother, hsame⟩ := h.at? hn
          obtain rfl : n' = other := Option.some.inj (hn'.symm.trans hother)
          rcases hsame with rfl | ⟨rest, hrest, hbelow⟩
          · exact .inl rfl
          · exact .inr ⟨place', n, n', rest, rfl, rfl, hrest, hbelow⟩

/-- The path leads to that place, links on the way included. -/
def LeadsTo (t : FileTree) (p : Path) (place : List Name) : Prop :=
  ∃ node, t.locate p true = .ok (.found place node)

/-- What is read along a path depends on one file only: on the one it leads to. -/
theorem read_eq_of_not_leadsTo (h : t.top.SameBut changed t'.top)
    (hcurrent : t'.current = t.current) (hother : ¬ t.LeadsTo p changed) :
    t'.read p = t.read p := by
  unfold read node
  rcases locate_cases h hcurrent p true with hsame | ⟨place, n, n', rest, hn, hn', hrest, hbelow⟩
  · rw [hsame]
  · rw [hn, hn']
    cases hbelow with
    | file old new => exact absurd ⟨_, by rw [hrest, List.append_nil]; exact hn⟩ hother
    | dir after first below => rfl

/-- Whether a directory can be listed does not depend on what a file holds. -/
theorem list_error_iff (h : t.top.SameBut changed t'.top) (hcurrent : t'.current = t.current)
    (p : Path) {cause : OsError} : t'.list p = .error cause ↔ t.list p = .error cause := by
  unfold list node
  rcases locate_cases h hcurrent p true with hsame | ⟨place, n, n', rest, hn, hn', -, hbelow⟩
  · rw [hsame]
  · rw [hn, hn']
    cases hbelow with
    | file old new => rfl
    | dir after first below => exact ⟨nofun, nofun⟩

end FileTree

end ImportWeights.Files
