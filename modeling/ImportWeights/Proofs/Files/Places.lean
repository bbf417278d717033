import ImportWeights.Proofs.Files.Tree

/-! Where a path leads, one name at a time. A name stops the search, goes on to a place, or is
a link to be read through; `walk_cons` says that following a path is nothing else, and what
holds of every such move holds of every path by `walk_induction`. -/

namespace ImportWeights.Files.FileTree

/-- What following one name comes to. -/
inductive Move where
  | stop (result : Except OsError Target)
  | go (place : List Name)
  | through (target : Path)

/-- Follows one name from a place; `final` says that no name comes after it. -/
def move (top : Node) (follow : Bool) (place : List Name) (step : Step) (final : Bool) : Move :=
  match top.at? place with
  | none => .stop (.error .notFound)
  | some (.file _) => .stop (.error .notADirectory)
  | some (.link _) => .stop (.error .notADirectory)
  | some (.shut directory cause) => .stop (.error (if directory then cause else .notADirectory))
  | some (.dir entries) =>
    if maxNameLength < step.name.length then .stop (.error .nameTooLong)
    else if step.name = Path.currentName then .go place
    else if step.name = Path.parentName then .go place.dropLast
    else match (Node.dir entries).child? step.name with
      | none => .stop (if final then .ok (.missing place step.name) else .error .notFound)
      | some (.link target) =>
        if step.last && final && !follow then
          .stop (.ok (.found (place ++ [step.name]) (.link target)))
        else .through target
      | some (.file content) =>
        .stop (if step.last && final then .ok (.found (place ++ [step.name]) (.file content))
          else .error .notADirectory)
      | some (.dir _) => .go (place ++ [step.name])
      | some (.shut true _) => .go (place ++ [step.name])
      | some (.shut false cause) =>
        .stop (if step.last && final then .ok (.found (place ++ [step.name]) (.shut false cause))
          else .error .notADirectory)

/-- The names of a link's target, to be followed in place of its own. -/
def linked (target : Path) (step : Step) (final : Bool) : List Step :=
  (steps target).map fun s =>
    if final then { s with last := s.last && step.last } else { s with last := false }

theorem steps_names (p : Path) : (steps p).map (·.name) = p.names := by
  rw [steps, List.map_map]
  exact List.zipIdx_map_fst 0 p.names

theorem linked_names (target : Path) (step : Step) (final : Bool) :
    (linked target step final).map (·.name) = target.names := by
  rw [linked, List.map_map, ← steps_names]
  refine List.map_congr_left ?_
  intro s _
  cases final <;> rfl

variable {top : Node} {follow : Bool} {links : Nat} {place : List Name} {step : Step}
  {rest todo : List Step}

theorem walk_nil : walk top follow links place [] =
    match top.at? place with
    | some node => .ok (.found place node)
    | none => .error .notFound := by
  cases hplace : top.at? place <;> simp only [walk, hplace]

theorem walk_cons : walk top follow links place (step :: rest) =
    match move top follow place step rest.isEmpty with
    | .stop result => result
    | .go next => walk top follow links next rest
    | .through target =>
      match links with
      | 0 => .error .tooManyLinks
      | fewer + 1 =>
        if target.bytes = [] then .error .notFound
        else walk top follow fewer (if target.isAbsolute then [] else place)
          (linked target step rest.isEmpty ++ rest) := by
  rw [walk, move]
  cases hplace : top.at? place with
  | none => rfl
  | some node =>
    cases node with
    | file content => rfl
    | link target => rfl
    | shut directory cause => rfl
    | dir entries =>
      dsimp only
      by_cases hlong : maxNameLength < step.name.length
      · rw [if_pos hlong, if_pos hlong]
      rw [if_neg hlong, if_neg hlong]
      by_cases hcurrent : step.name = Path.currentName
      · rw [if_pos hcurrent, if_pos hcurrent]
      rw [if_neg hcurrent, if_neg hcurrent]
      by_cases hparent : step.name = Path.parentName
      · rw [if_pos hparent, if_pos hparent]
      rw [if_neg hparent, if_neg hparent]
      cases hchild : (Node.dir entries).child? step.name with
      | none => rfl
      | some child =>
        cases child with
        | file content => rfl
        | dir _ => rfl
        | shut directory cause => cases directory <;> rfl
        | link target =>
          by_cases hstay : (step.last && rest.isEmpty && !follow) = true
          · simp only [hstay, if_true]
          · simp only [hstay]
            cases links <;> rfl

theorem walk_through {fewer : Nat} {target : Path}
    (hmove : move top follow place step rest.isEmpty = .through target)
    (hne : target.bytes ≠ []) :
    walk top follow (fewer + 1) place (step :: rest) =
      walk top follow fewer (if target.isAbsolute then [] else place)
        (linked target step rest.isEmpty ++ rest) := by
  rw [walk_cons, hmove]
  exact if_neg hne

/-- How a search that leads somewhere goes on from a name. -/
theorem walk_ok_cases {result : Target}
    (h : walk top follow links place (step :: rest) = .ok result) :
    move top follow place step rest.isEmpty = .stop (.ok result) ∨
    (∃ next, move top follow place step rest.isEmpty = .go next ∧
      walk top follow links next rest = .ok result) ∨
    ∃ target fewer, move top follow place step rest.isEmpty = .through target ∧
      links = fewer + 1 ∧ target.bytes ≠ [] ∧
      walk top follow fewer (if target.isAbsolute then [] else place)
        (linked target step rest.isEmpty ++ rest) = .ok result := by
  rw [walk_cons] at h
  cases hmove : move top follow place step rest.isEmpty with
  | stop stopped =>
    rw [hmove] at h
    exact .inl (congrArg Move.stop h)
  | go next =>
    rw [hmove] at h
    exact .inr (.inl ⟨next, rfl, h⟩)
  | through target =>
    rw [hmove] at h
    cases links with
    | zero => cases h
    | succ fewer =>
      dsimp only at h
      split at h
      · cases h
      · rename_i hne
        exact .inr (.inr ⟨target, fewer, rfl, rfl, hne, h⟩)

/-- Following a path ends, for each name is used up or costs a link. -/
theorem walk_induction {motive : Nat → List Name → List Step → Prop}
    (nil : ∀ links place, motive links place [])
    (cons : ∀ links place step rest, (∀ next, motive links next rest) →
      (∀ fewer, fewer < links → ∀ start todo, motive fewer start todo) →
      motive links place (step :: rest))
    (links : Nat) (place : List Name) (todo : List Step) : motive links place todo := by
  induction links using Nat.strongRecOn generalizing place todo with
  | ind links outer =>
    induction todo generalizing place with
    | nil => exact nil links place
    | cons step rest inner => exact cons links place step rest inner outer

/-- A search stops with a node only at the name itself, and at no directory. -/
theorem move_found {found : List Name} {node : Node} {final : Bool}
    (h : move top follow place step final = .stop (.ok (.found found node))) :
    top.at? found = some node ∧ node.isDir = false := by
  unfold move at h
  split at h
  · simp at h
  · simp at h
  · simp at h
  · simp at h
  · rename_i entries hplace
    have hbelow : top.at? (place ++ [step.name]) = (Node.dir entries).child? step.name := by
      simp [Node.at?_append, hplace]
    split at h
    · simp at h
    split at h
    · simp at h
    split at h
    · simp at h
    split at h
    · split at h <;> simp at h
    · rename_i target hchild
      split at h <;> cases h
      exact ⟨hbelow.trans hchild, rfl⟩
    · rename_i content hchild
      split at h <;> cases h
      exact ⟨hbelow.trans hchild, rfl⟩
    · cases h
    · cases h
    · rename_i cause hchild
      split at h <;> cases h
      exact ⟨hbelow.trans hchild, rfl⟩

/-- What is found at a place is what the tree holds there. -/
theorem at?_of_walk {found : List Name} {node : Node}
    (h : walk top follow links place todo = .ok (.found found node)) :
    top.at? found = some node := by
  induction links, place, todo using walk_induction with
  | nil links place =>
    rw [walk_nil] at h
    split at h
    · cases h
      assumption
    · cases h
  | cons links place step rest inner outer =>
    rcases walk_ok_cases h with hstop | ⟨next, -, hnext⟩ | ⟨target, fewer, -, rfl, -, hlinked⟩
    · exact (move_found hstop).1
    · exact inner next hnext
    · exact outer fewer (Nat.lt_succ_self _) _ _ hlinked

/-- A search that does not follow a last link differs only where it stops at one. -/
theorem move_stay (top : Node) (place : List Name) (step : Step) (final : Bool) :
    move top false place step final = move top true place step final ∨
      ∃ found target,
        move top false place step final = .stop (.ok (.found found (.link target))) := by
  unfold move
  split
  · exact .inl rfl
  · exact .inl rfl
  · exact .inl rfl
  · exact .inl rfl
  · rename_i entries hplace
    split
    · exact .inl rfl
    split
    · exact .inl rfl
    split
    · exact .inl rfl
    split
    · exact .inl rfl
    · rename_i target hchild
      by_cases hlast : (step.last && final) = true
      · exact .inr ⟨_, _, by simp only [hlast]; rfl⟩
      · exact .inl (by simp only [hlast]; rfl)
    · exact .inl rfl
    · exact .inl rfl
    · exact .inl rfl
    · exact .inl rfl

/-- Whatever a path leads to is at the path itself, unless there is a link. -/
theorem walk_stay {found : List Name} {node : Node}
    (h : walk top true links place todo = .ok (.found found node)) :
    walk top false links place todo = .ok (.found found node) ∨
      ∃ at_ target, walk top false links place todo = .ok (.found at_ (.link target)) := by
  induction links, place, todo using walk_induction with
  | nil links place =>
    rw [walk_nil] at h ⊢
    exact .inl h
  | cons links place step rest inner outer =>
    rcases move_stay top place step rest.isEmpty with hsame | ⟨found, target, hlink⟩
    · rcases walk_ok_cases h with hstop | ⟨next, hgo, hnext⟩ |
        ⟨target, fewer, hthrough, rfl, hne, hlinked⟩
      · rw [walk_cons, hsame, hstop]
        exact .inl rfl
      · rw [walk_cons, hsame, hgo]
        exact inner next hnext
      · rw [walk_through (hsame.trans hthrough) hne]
        exact outer fewer (Nat.lt_succ_self _) _ _ hlinked
    · rw [walk_cons, hlink]
      exact .inr ⟨found, target, rfl⟩

/-- What has to hold of a path before it is followed at all. -/
structure Fits (p : Path) : Prop where
  text : (0 : UInt8) ∉ p.bytes
  ne_nil : p.bytes ≠ []
  short : p.bytes.length ≤ maxPathLength

theorem locate_ok_iff {t : FileTree} {p : Path} {result : Target} :
    t.locate p follow = .ok result ↔ Fits p ∧
      walk t.top follow maxLinks (if p.isAbsolute then [] else t.current) (steps p) =
        .ok result := by
  constructor
  · intro h
    unfold locate at h
    split at h
    · cases h
    rename_i hzero
    split at h
    · cases h
    rename_i hempty
    split at h
    · cases h
    rename_i hlong
    exact ⟨⟨by simpa using hzero, hempty, Nat.not_lt.mp hlong⟩, h⟩
  · rintro ⟨fits, hwalk⟩
    rw [locate, if_neg (by simpa using fits.text), if_neg fits.ne_nil,
      if_neg (Nat.not_lt.mpr fits.short)]
    exact hwalk

/-- A separator alone leads to the top. -/
theorem locate_separator (t : FileTree) (follow : Bool) :
    t.locate ⟨[Path.separator]⟩ follow = .ok (.found [] t.top) := by
  simp [locate, steps, walk_nil, Path.names, Path.separator, Path.isAbsolute, Text.pieces,
    maxPathLength]

theorem node_ok_iff {t : FileTree} {p : Path} {n : Node} :
    t.node p = .ok n ↔ ∃ place, t.locate p true = .ok (.found place n) := by
  rw [node]
  split <;> simp_all

/-- A node that a path leads to stands at the path itself, or a link stands there. -/
theorem nodeItself_of_node {t : FileTree} {p : Path} {n : Node} (h : t.node p = .ok n) :
    t.nodeItself p = .ok n ∨ ∃ target, t.nodeItself p = .ok (.link target) := by
  obtain ⟨place, hfound⟩ := node_ok_iff.mp h
  obtain ⟨hfits, hwalk⟩ := locate_ok_iff.mp hfound
  rcases walk_stay hwalk with hsame | ⟨other, target, hlink⟩
  · exact .inl (by rw [nodeItself, locate_ok_iff.mpr ⟨hfits, hsame⟩])
  · exact .inr ⟨target, by rw [nodeItself, locate_ok_iff.mpr ⟨hfits, hlink⟩]⟩

end ImportWeights.Files.FileTree
