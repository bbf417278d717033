import ImportWeights.Proofs.Files.Content

/-! # Where a joined path leads

The path of what lies below a directory is followed to that directory first and from there on,
whatever links lead to the directory (`walk_append`). From there it goes down the names
(`walk_down`), so the path of a file that is no link leads to that file and to no other. -/

namespace ImportWeights.Files

namespace Path

variable {base p : Path}

theorem names_cut (front back : List UInt8) :
    (Path.mk (front ++ separator :: back)).names =
      (Path.mk front).names ++ (Path.mk back).names := by
  induction front using Text.pieces_induction separator with
  | nil => simp [names, Text.pieces]
  | last front hne hfront =>
    simp [names, Text.pieces_append_cons hfront, Text.pieces_of_not_mem hne hfront, hne]
  | cut whole rest hwhole ih =>
    simp only [names] at ih ⊢
    rw [List.append_assoc, List.cons_append, Text.pieces_append_cons hwhole,
      Text.pieces_append_cons hwhole, List.map_cons, List.filter_cons, List.map_cons,
      List.filter_cons, ih]
    split <;> simp

theorem names_join (hbase : base.bytes ≠ []) (hp : p.isAbsolute = false) :
    (base.join p).names = base.names ++ p.names := by
  rw [join, hp, Bool.false_or, if_neg (by simpa using hbase)]
  split
  · rename_i hlast
    obtain ⟨front, hfront⟩ := List.getLast?_eq_some_iff.mp hlast
    obtain ⟨bytes⟩ := base
    obtain rfl : bytes = front ++ [separator] := hfront
    have hbare : (Path.mk (front ++ [separator])).names = (Path.mk front).names := by
      rw [names_cut]
      exact List.append_nil _
    rw [List.append_assoc, List.singleton_append, names_cut, hbare]
  · exact names_cut base.bytes p.bytes

theorem isAbsolute_join (hbase : base.bytes ≠ []) (hp : p.isAbsolute = false) :
    (base.join p).isAbsolute = base.isAbsolute := by
  obtain ⟨b, bytes, hbytes⟩ := List.exists_cons_of_ne_nil hbase
  rw [join, hp, Bool.false_or, if_neg (by simpa using hbase)]
  split <;> simp [isAbsolute, hbytes]

/-- Proper names that are joined to a path are its last components. -/
theorem components_join {names : List Name} (h : ∀ name ∈ names, ProperName name) :
    (base.join (ofNames names)).components = base.components ++ names.map .normal := by
  have hrelative := isAbsolute_ofNames h
  by_cases hbase : base.bytes = []
  · obtain rfl : base = ⟨[]⟩ := congrArg Path.mk hbase
    rw [join, if_pos (by simp), components_ofNames h]
    rfl
  · have hhead : (base.names ++ names).head? = some currentName ↔
        base.names.head? = some currentName := by
      cases hnames : base.names with
      | nil => simpa using head?_ne_current h
      | cons first rest => simp
    simp only [components, names_join hbase hrelative, isAbsolute_join hbase hrelative,
      names_ofNames h, List.filterMap_append, Component.filterMap_ofName h,
      hhead]
    split
    · rfl
    split <;> rfl

end Path

namespace FileTree

variable {top node : Node} {links : Nat} {place found : List Name} {todo : List Step}

/-- Whether a name is the last one matters only where the search stops. -/
theorem move_last {step : Step} {final : Bool}
    (h : ∀ result, move top true place step final ≠ .stop result) (last final' : Bool) :
    move top true place ⟨step.name, last⟩ final' = move top true place step final := by
  unfold move at h ⊢
  cases hplace : top.at? place with
  | none => rfl
  | some n =>
    cases n with
    | file content => rfl
    | link target => rfl
    | shut directory cause => rfl
    | dir entries =>
      rw [hplace] at h
      dsimp only at h ⊢
      split
      · rfl
      split
      · rfl
      split
      · rfl
      rename_i hlong hcurrent hparent
      rw [if_neg hlong, if_neg hcurrent, if_neg hparent] at h
      cases hchild : (Node.dir entries).child? step.name with
      | none => rw [hchild] at h; exact absurd rfl (h _)
      | some child =>
        cases child with
        | file content => rw [hchild] at h; exact absurd rfl (h _)
        | link target => simp
        | dir below => rfl
        | shut directory cause =>
          rw [hchild] at h
          cases directory with
          | true => rfl
          | false => exact absurd rfl (h _)

/-- A path that leads to a directory leads to it first when more names follow. -/
theorem walk_append (h : walk top true links place todo = .ok (.found found node))
    (hdir : node.isDir = true) {todo' : List Step}
    (hnames : todo'.map (·.name) = todo.map (·.name)) (more : List Step) :
    ∃ left, walk top true links place (todo' ++ more) = walk top true left found more := by
  induction links, place, todo using walk_induction generalizing todo' with
  | nil links place =>
    rw [walk_nil] at h
    split at h
    · cases h
      obtain rfl : todo' = [] := List.map_eq_nil_iff.mp hnames
      exact ⟨links, rfl⟩
    · cases h
  | cons links place step rest inner outer =>
    obtain ⟨⟨name, last⟩, rest', rfl, hname, hrest⟩ := List.map_eq_cons_iff.mp hnames
    obtain rfl : name = step.name := hname
    rw [List.cons_append]
    rcases walk_ok_cases h with hstop | ⟨next, hgo, hnext⟩ |
      ⟨target, fewer, hthrough, rfl, hne, hlinked⟩
    · rw [(move_found hstop).2] at hdir
      cases hdir
    · have hfree : ∀ result, move top true place step rest.isEmpty ≠ .stop result := by
        simp [hgo]
      rw [walk_cons, move_last hfree, hgo]
      exact inner next hnext hrest
    · have hfree : ∀ result, move top true place step rest.isEmpty ≠ .stop result := by
        simp [hthrough]
      rw [walk_through ((move_last hfree _ _).trans hthrough) hne, ← List.append_assoc]
      refine outer fewer (Nat.lt_succ_self _) _ _ hlinked ?_
      rw [List.map_append, List.map_append, linked_names, linked_names, hrest]

/-- Before the last name a search stops only at an error. -/
theorem move_before_last {step : Step} {result : Target} :
    move top true place step false ≠ .stop (.ok result) := by
  unfold move
  split
  · simp
  · simp
  · simp
  · simp
  · split
    · simp
    split
    · simp
    split
    · simp
    split <;> simp

/-- A path that leads somewhere leads to a directory first, as long as names follow. -/
theorem walk_front {more : List Step} (hmore : more ≠ [])
    (h : walk top true links place (todo ++ more) = .ok (.found found node)) {todo' : List Step}
    (hnames : todo'.map (·.name) = todo.map (·.name)) :
    ∃ front entries left, walk top true links place todo' = .ok (.found front (.dir entries)) ∧
      walk top true left front more = .ok (.found found node) := by
  induction links, place, todo using walk_induction generalizing todo' with
  | nil links place =>
    obtain rfl : todo' = [] := List.map_eq_nil_iff.mp hnames
    obtain ⟨step, rest, rfl⟩ := List.exists_cons_of_ne_nil hmore
    rw [walk_nil]
    cases hplace : top.at? place with
    | none => rw [List.nil_append, walk_cons, move, hplace] at h; cases h
    | some n =>
      cases n with
      | file content => rw [List.nil_append, walk_cons, move, hplace] at h; cases h
      | link target => rw [List.nil_append, walk_cons, move, hplace] at h; cases h
      | shut directory cause => rw [List.nil_append, walk_cons, move, hplace] at h; cases h
      | dir entries => exact ⟨place, entries, links, rfl, h⟩
  | cons links place step rest inner outer =>
    obtain ⟨⟨name, last⟩, rest', rfl, hname, hrest⟩ := List.map_eq_cons_iff.mp hnames
    obtain rfl : name = step.name := hname
    have hfinal : (rest ++ more).isEmpty = false := by
      simpa using fun _ => hmore
    rw [List.cons_append] at h
    rcases walk_ok_cases h with hstop | ⟨next, hgo, hnext⟩ |
      ⟨target, fewer, hthrough, rfl, hne, hlinked⟩
    · rw [hfinal] at hstop
      exact absurd hstop move_before_last
    · have hfree : ∀ result, move top true place step (rest ++ more).isEmpty ≠ .stop result := by
        simp [hgo]
      rw [walk_cons, move_last hfree, hgo]
      exact inner next hnext hrest
    · have hfree : ∀ result, move top true place step (rest ++ more).isEmpty ≠ .stop result := by
        simp [hthrough]
      rw [walk_through ((move_last hfree _ _).trans hthrough) hne]
      rw [← List.append_assoc] at hlinked
      refine outer fewer (Nat.lt_succ_self _) _ _ hlinked ?_
      rw [List.map_append, List.map_append, linked_names, linked_names, hrest]

/-- The move that comes to an entry, links being followed. -/
def Move.onto (place : List Name) (step : Step) (final : Bool) : Node → Move
  | .file content =>
    .stop (if step.last && final then .ok (.found (place ++ [step.name]) (.file content))
      else .error .notADirectory)
  | .link target => .through target
  | .dir _ => .go (place ++ [step.name])
  | .shut true _ => .go (place ++ [step.name])
  | .shut false cause =>
    .stop (if step.last && final then .ok (.found (place ++ [step.name]) (.shut false cause))
      else .error .notADirectory)

theorem move_child {step : Step} {entries : List (Name × Node)} {child : Node}
    (hplace : top.at? place = some (.dir entries)) (proper : ProperName step.name)
    (hshort : ¬ maxNameLength < step.name.length)
    (hchild : (Node.dir entries).child? step.name = some child) (final : Bool) :
    move top true place step final = .onto place step final child := by
  rw [move, hplace]
  dsimp only
  rw [if_neg hshort, if_neg proper.ne_current, if_neg proper.ne_parent, hchild]
  cases child with
  | shut directory cause => cases directory <;> rfl
  | _ => simp [Move.onto]

theorem move_long {step : Step} {entries : List (Name × Node)}
    (hplace : top.at? place = some (.dir entries)) (hlong : maxNameLength < step.name.length)
    (final : Bool) : move top true place step final = .stop (.error .nameTooLong) := by
  rw [move, hplace]
  exact if_pos hlong

/-- Names are followed down one by one; what they end at is no link, and so is none before. -/
theorem walk_down {n goal : Node} {names : List Name}
    (hplace : top.at? place = some n) (proper : ∀ name ∈ names, ProperName name)
    (hgoal : n.at? names = some goal) (unlinked : ∀ target, goal ≠ .link target)
    (htodo : todo.map (·.name) = names)
    (h : walk top true links place todo = .ok (.found found node)) : found = place ++ names := by
  induction names generalizing n place todo with
  | nil =>
    obtain rfl := List.map_eq_nil_iff.mp htodo
    rw [walk_nil, hplace] at h
    cases h
    exact (List.append_nil _).symm
  | cons name names ih =>
    obtain ⟨step, rest, rfl, hname, hrest⟩ := List.map_eq_cons_iff.mp htodo
    obtain rfl : step.name = name := hname
    obtain ⟨hproper, hnames⟩ := List.forall_mem_cons.mp proper
    rw [Node.at?_cons, Option.bind_eq_some_iff] at hgoal
    obtain ⟨child, hchild, hgoal⟩ := hgoal
    cases n with
    | file old => cases hchild
    | link target => cases hchild
    | shut directory cause => cases hchild
    | dir entries =>
      have hat : top.at? (place ++ [step.name]) = some child := by
        simp [Node.at?_append, hplace, hchild]
      have hdown (h : walk top true links (place ++ [step.name]) rest = .ok (.found found node)) :
          found = place ++ step.name :: names := by
        rw [ih hat hnames hgoal hrest h, List.append_assoc, List.singleton_append]
      rw [walk_cons] at h
      by_cases hlong : maxNameLength < step.name.length
      · rw [move_long hplace hlong] at h
        cases h
      rw [move_child hplace hproper hlong hchild] at h
      cases child with
      | link target =>
        -- nothing lies below a link in the tree itself
        obtain ⟨-, hlink⟩ := (Node.at?_of_not_dir rfl).mp hgoal
        exact absurd hlink (unlinked target)
      | file other =>
        obtain ⟨rfl, -⟩ := (Node.at?_of_not_dir rfl).mp hgoal
        dsimp only [Move.onto] at h
        split at h <;> cases h
        rfl
      | dir below => exact hdown h
      | shut directory cause =>
        cases directory with
        | true => exact hdown h
        | false =>
          obtain ⟨rfl, -⟩ := (Node.at?_of_not_dir rfl).mp hgoal
          dsimp only [Move.onto] at h
          split at h <;> cases h
          rfl

/-- No name on the way down to a directory stops the search, but one that is too long. -/
theorem walk_to_dir {n goal : Node} {names : List Name} (hplace : top.at? place = some n)
    (proper : ∀ name ∈ names, ProperName name)
    (short : ∀ name ∈ names, name.length ≤ maxNameLength) (hgoal : n.at? names = some goal)
    (hdir : goal.isDir = true) (htodo : todo.map (·.name) = names) :
    walk top true links place todo = .ok (.found (place ++ names) goal) := by
  induction names generalizing n place todo with
  | nil =>
    obtain rfl := List.map_eq_nil_iff.mp htodo
    obtain rfl : n = goal := Option.some.inj ((Node.at?_nil n).symm.trans hgoal)
    rw [walk_nil, hplace, List.append_nil]
  | cons name names ih =>
    obtain ⟨step, rest, rfl, hname, hrest⟩ := List.map_eq_cons_iff.mp htodo
    obtain rfl : step.name = name := hname
    obtain ⟨hproper, hnames⟩ := List.forall_mem_cons.mp proper
    obtain ⟨hshort, hshorts⟩ := List.forall_mem_cons.mp short
    rw [Node.at?_cons, Option.bind_eq_some_iff] at hgoal
    obtain ⟨child, hchild, hgoal⟩ := hgoal
    cases n with
    | file old => cases hchild
    | link target => cases hchild
    | shut directory cause => cases hchild
    | dir entries =>
      have hat : top.at? (place ++ [step.name]) = some child := by
        simp [Node.at?_append, hplace, hchild]
      have hdown := ih hat hnames hshorts hgoal hrest
      rw [List.append_assoc, List.singleton_append] at hdown
      rw [walk_cons, move_child hplace hproper (Nat.not_lt.mpr hshort) hchild]
      have hpassed : child.isDir = true := by
        by_contra hleaf
        obtain ⟨-, rfl⟩ := (Node.at?_of_not_dir (Bool.eq_false_iff.mpr hleaf)).mp hgoal
        exact hleaf hdir
      cases child with
      | link target => cases hpassed
      | file content => cases hpassed
      | dir below => exact hdown
      | shut directory cause =>
        obtain rfl : directory = true := hpassed
        exact hdown

section Join

variable {t : FileTree} {root : Path} {names : List Name} {goal : Node}

/-- A path that goes on from a directory is followed from there, whatever led to it. -/
theorem locate_join_iff (hroot : t.locate root true = .ok (.found place top))
    (hdir : top.isDir = true) (proper : ∀ name ∈ names, ProperName name) :
    ∃ left todo, todo.map Step.name = names ∧ ∀ result,
      t.locate (root.join (Path.ofNames names)) true = .ok result ↔
        Fits (root.join (Path.ofNames names)) ∧ walk t.top true left place todo = .ok result := by
  obtain ⟨hfits, hwalk⟩ := locate_ok_iff.mp hroot
  have hrelative := Path.isAbsolute_ofNames proper
  have hnames : (steps (root.join (Path.ofNames names))).map (·.name) = root.names ++ names := by
    rw [steps_names, Path.names_join hfits.ne_nil hrelative, Path.names_ofNames proper]
  obtain ⟨front, back, hsplit, hfront, hback⟩ := List.map_eq_append_iff.mp hnames
  obtain ⟨left, hleft⟩ := walk_append hwalk hdir (hfront.trans (steps_names root).symm) back
  refine ⟨left, back, hback, ?_⟩
  intro result
  rw [locate_ok_iff, Path.isAbsolute_join hfits.ne_nil hrelative, hsplit, hleft]

/-- The path of what is no link leads nowhere but to its own place. -/
theorem place_of_leadsTo_join {spot : List Name}
    (hroot : t.locate root true = .ok (.found place top)) (hdir : top.isDir = true)
    (proper : ∀ name ∈ names, ProperName name) (hgoal : top.at? names = some goal)
    (unlinked : ∀ target, goal ≠ .link target)
    (h : t.LeadsTo (root.join (Path.ofNames names)) spot) : spot = place ++ names := by
  obtain ⟨node, hnode⟩ := h
  obtain ⟨left, todo, htodo, hjoined⟩ := locate_join_iff hroot hdir proper
  exact walk_down (at?_of_walk (locate_ok_iff.mp hroot).2) proper hgoal unlinked htodo
    ((hjoined _).mp hnode).2

/-- The path of a directory leads to it, as long as the system takes the path and its names. -/
theorem node_join_of_fits (hroot : t.locate root true = .ok (.found place top))
    (htop : top.isDir = true) (proper : ∀ name ∈ names, ProperName name)
    (short : ∀ name ∈ names, name.length ≤ maxNameLength) (hgoal : top.at? names = some goal)
    (hdir : goal.isDir = true) (fits : Fits (root.join (Path.ofNames names))) :
    t.node (root.join (Path.ofNames names)) = .ok goal := by
  obtain ⟨left, todo, htodo, hjoined⟩ := locate_join_iff hroot htop proper
  exact node_ok_iff.mpr ⟨_, (hjoined _).mpr ⟨fits, walk_to_dir
    (at?_of_walk (locate_ok_iff.mp hroot).2) proper short hgoal hdir htodo⟩⟩

/-- Where the path of a directory is followed to its end, it leads to that directory. -/
theorem node_join_eq {node : Node} (hroot : t.locate root true = .ok (.found place top))
    (htop : top.isDir = true) (proper : ∀ name ∈ names, ProperName name)
    (hgoal : top.at? names = some goal) (unlinked : ∀ target, goal ≠ .link target)
    (h : t.node (root.join (Path.ofNames names)) = .ok node) : node = goal := by
  obtain ⟨spot, hspot⟩ := node_ok_iff.mp h
  obtain rfl := place_of_leadsTo_join hroot htop proper hgoal unlinked ⟨node, hspot⟩
  have hnode := at?_of_walk (locate_ok_iff.mp hspot).2
  rw [Node.at?_append, at?_of_walk (locate_ok_iff.mp hroot).2, Option.bind_some, hgoal] at hnode
  exact (Option.some.inj hnode).symm

end Join

theorem Fits.of_join {base p : Path} (hbase : base.bytes ≠ []) (hp : p.isAbsolute = false)
    (fits : Fits (base.join p)) : Fits base := by
  have hfront : ∃ back, (base.join p).bytes = base.bytes ++ back := by
    rw [Path.join, hp, Bool.false_or, if_neg (by simpa using hbase)]
    split
    · exact ⟨_, rfl⟩
    · exact ⟨_, rfl⟩
  obtain ⟨back, hback⟩ := hfront
  obtain ⟨text, -, short⟩ := fits
  rw [hback] at text short
  rw [List.length_append] at short
  exact ⟨fun h => text (List.mem_append_left _ h), hbase, by omega⟩

/-- What holds an entry is a directory that is there, and it is not empty. -/
theorem isOccupied_of_pathExists {t : FileTree} {base : Path} {name : Name}
    (hbase : base.bytes ≠ []) (proper : ProperName name)
    (h : t.pathExists (base.join (Path.ofNames [name])) = true) : t.isOccupied base = true := by
  have hproper : ∀ other ∈ [name], ProperName other := by simpa using proper
  have hrelative := Path.isAbsolute_ofNames hproper
  rw [pathExists] at h
  split at h
  · rename_i node hnode
    obtain ⟨found, hfound⟩ := node_ok_iff.mp hnode
    obtain ⟨hfits, hwalk⟩ := locate_ok_iff.mp hfound
    have hnames : (steps (base.join (Path.ofNames [name]))).map (·.name) =
        base.names ++ [name] := by
      rw [steps_names, Path.names_join hbase hrelative, Path.names_ofNames hproper]
    obtain ⟨front, back, hsplit, hfront, hback⟩ := List.map_eq_append_iff.mp hnames
    obtain ⟨step, rest, rfl, hname, hrest⟩ := List.map_eq_cons_iff.mp hback
    obtain rfl := List.map_eq_nil_iff.mp hrest
    rw [Path.isAbsolute_join hbase hrelative, hsplit] at hwalk
    obtain ⟨place, entries, left, hdir, hlast⟩ :=
      walk_front (by simp) hwalk ((steps_names base).trans hfront.symm)
    have hnode := node_ok_iff.mpr ⟨place, locate_ok_iff.mpr ⟨hfits.of_join hbase hrelative, hdir⟩⟩
    cases entries with
    | nil =>
      rw [walk_cons, move, at?_of_walk hdir] at hlast
      have hcurrent : step.name ≠ Path.currentName := hname ▸ proper.ne_current
      have hparent : step.name ≠ Path.parentName := hname ▸ proper.ne_parent
      by_cases hlong : maxNameLength < step.name.length <;>
        simp [hlong, hcurrent, hparent, Node.child?, Node.entries] at hlast
    | cons first entries => rw [isOccupied, hnode]
  · cases h

end FileTree

end ImportWeights.Files
