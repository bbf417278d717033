import ImportWeights.Text.Pieces

/-! A list is read off its first separator: up to it there is one piece, after it the same
again. Whatever holds piece by piece follows by this induction. -/

namespace ImportWeights.Text

variable {α : Type} [DecidableEq α] {separator x : α} {xs ys : List α}

theorem pieces_cons_of_ne (hx : x ≠ separator) {piece : List α} {ended : Bool}
    {more : List (List α × Bool)} (hxs : pieces separator xs = (piece, ended) :: more) :
    pieces separator (x :: xs) = (x :: piece, ended) :: more := by
  rw [pieces] at hxs
  rw [pieces, List.foldr_cons, hxs, if_neg hx]

theorem pieces_of_not_mem (hne : xs ≠ []) (hxs : separator ∉ xs) :
    pieces separator xs = [(xs, false)] := by
  induction xs with
  | nil => contradiction
  | cons x xs ih =>
    rw [List.mem_cons, not_or] at hxs
    cases xs with
    | nil => simp [pieces, Ne.symm hxs.1]
    | cons y ys => exact pieces_cons_of_ne (Ne.symm hxs.1) (ih (List.cons_ne_nil y ys) hxs.2)

theorem pieces_append_cons (hxs : separator ∉ xs) (ys : List α) :
    pieces separator (xs ++ separator :: ys) = (xs, true) :: pieces separator ys := by
  induction xs with
  | nil => exact pieces_cons_self separator ys
  | cons x xs ih =>
    rw [List.mem_cons, not_or] at hxs
    exact pieces_cons_of_ne (Ne.symm hxs.1) (ih hxs.2)

/-- Induction over the separators of a list. -/
theorem pieces_induction {motive : List α → Prop} (separator : α) (nil : motive [])
    (last : ∀ xs, xs ≠ [] → separator ∉ xs → motive xs)
    (cut : ∀ xs ys, separator ∉ xs → motive ys → motive (xs ++ separator :: ys))
    (xs : List α) : motive xs := by
  by_cases hmem : separator ∈ xs
  · obtain ⟨before, after, hxs, hbefore⟩ := List.eq_append_cons_of_mem hmem
    have hshorter : after.length < xs.length := by
      rw [hxs, List.length_append, List.length_cons]; omega
    exact hxs ▸ cut before after hbefore (pieces_induction separator nil last cut after)
  · by_cases hne : xs = []
    · exact hne ▸ nil
    · exact last xs hne hmem
termination_by xs.length

/-- A separator keeps what comes before it apart from what comes after it. -/
theorem pieces_append_cons_of_mem (xs ys : List α) :
    pieces separator (xs ++ separator :: ys) =
      pieces separator (xs ++ [separator]) ++ pieces separator ys := by
  induction xs using pieces_induction separator with
  | nil => simp
  | last xs _ hxs => simp [pieces_append_cons hxs]
  | cut xs more hxs ih =>
    rw [List.append_assoc, List.append_assoc, List.cons_append, List.cons_append,
      pieces_append_cons hxs, pieces_append_cons hxs, ih, List.cons_append]

/-! ## Between the separators -/

@[simp] theorem splitAt_cons_self (separator : α) (xs : List α) :
    splitAt separator (separator :: xs) = [] :: splitAt separator xs :=
  if_pos rfl

theorem exists_splitAt (separator : α) (xs : List α) :
    ∃ piece more, splitAt separator xs = piece :: more := by
  cases xs with
  | nil => exact ⟨_, _, rfl⟩
  | cons x xs =>
    rw [splitAt]
    split
    · exact ⟨_, _, rfl⟩
    · split
      · exact ⟨_, _, rfl⟩
      · exact ⟨_, _, rfl⟩

theorem splitAt_cons_of_ne (hx : x ≠ separator) {piece : List α} {more : List (List α)}
    (hxs : splitAt separator xs = piece :: more) :
    splitAt separator (x :: xs) = (x :: piece) :: more := by
  rw [splitAt, if_neg hx, hxs]

theorem splitAt_eq_splitOn (separator : α) (xs : List α) :
    splitAt separator xs = xs.splitOn separator := by
  induction xs with
  | nil => rw [splitAt, List.splitOn_nil]
  | cons x xs ih =>
    obtain ⟨piece, more, hxs⟩ := exists_splitAt separator xs
    rw [List.splitOn_cons_eq_if_modifyHead, ← ih, hxs]
    by_cases hx : x = separator
    · rw [hx, splitAt_cons_self, hxs, if_pos (beq_self_eq_true separator)]
    · rw [splitAt_cons_of_ne hx hxs, if_neg (by simpa using hx), List.modifyHead_cons]

/-- What is not a separator is in one of the pieces. -/
theorem mem_splitAt (separator : α) (h : x ∈ xs) :
    x = separator ∨ ∃ piece ∈ splitAt separator xs, x ∈ piece := by
  induction xs with
  | nil => cases h
  | cons y xs ih =>
    obtain ⟨piece, more, hxs⟩ := exists_splitAt separator xs
    by_cases hy : y = separator
    · obtain rfl | h := List.mem_cons.mp h
      · exact .inl hy
      · rw [hy, splitAt_cons_self]
        exact (ih h).imp_right fun ⟨found, among, inside⟩ => ⟨found, .tail _ among, inside⟩
    · rw [splitAt_cons_of_ne hy hxs]
      obtain rfl | h := List.mem_cons.mp h
      · exact .inr ⟨x :: piece, .head _, .head _⟩
      · refine (ih h).imp_right fun ⟨found, among, inside⟩ => ?_
        rw [hxs] at among
        obtain rfl | among := List.mem_cons.mp among
        · exact ⟨y :: found, .head _, .tail _ inside⟩
        · exact ⟨found, .tail _ among, inside⟩

/-- A map that makes no separators and keeps those there are acts piece by piece. -/
theorem splitAt_map {β : Type} [DecidableEq β] {f : α → β} {mark : β}
    (h : ∀ x ∈ xs, f x = mark ↔ x = separator) :
    splitAt mark (xs.map f) = (splitAt separator xs).map (List.map f) := by
  induction xs with
  | nil => rfl
  | cons x xs ih =>
    obtain ⟨hx, hxs⟩ := List.forall_mem_cons.mp h
    obtain ⟨piece, more, pieces⟩ := exists_splitAt separator xs
    by_cases same : x = separator
    · rw [List.map_cons, hx.mpr same, same, splitAt_cons_self, splitAt_cons_self, ih hxs]
      rfl
    · rw [splitAt_cons_of_ne same pieces, List.map_cons,
        splitAt_cons_of_ne (mt hx.mp same) ((ih hxs).trans (congrArg _ pieces))]
      rfl

@[simp] theorem dropTrailing_concat (x : α) (xs : List α) : dropTrailing x (xs ++ [x]) = xs := by
  simp [dropTrailing]

theorem dropTrailing_of_getLast?_ne (h : xs.getLast? ≠ some x) : dropTrailing x xs = xs :=
  if_neg h

theorem dropTrailing_of_not_mem (h : x ∉ xs) : dropTrailing x xs = xs :=
  dropTrailing_of_getLast?_ne fun hlast => h (List.mem_of_getLast? hlast)

theorem length_le_dropTrailing (x : α) (xs : List α) :
    xs.length ≤ (dropTrailing x xs).length + 1 := by
  rw [dropTrailing]
  split
  · rw [List.length_dropLast]; omega
  · omega

theorem mem_of_mem_dropTrailing {y : α} (h : y ∈ dropTrailing x xs) : y ∈ xs := by
  rw [dropTrailing] at h
  split at h
  · exact (List.dropLast_sublist xs).mem h
  · exact h

/-- Only the end of what follows a separator is touched. -/
theorem dropTrailing_append_cons (h : ys = [] → separator ≠ x) (xs : List α) :
    dropTrailing x (xs ++ separator :: ys) = xs ++ separator :: dropTrailing x ys := by
  cases ys with
  | nil => simp [dropTrailing, h rfl]
  | cons y ys =>
    have hlast : (xs ++ separator :: y :: ys).getLast? = (y :: ys).getLast? := by
      simp [List.getLast?_append, List.getLast?_cons]
    have hinit : (xs ++ separator :: y :: ys).dropLast =
        xs ++ separator :: (y :: ys).dropLast := by
      simp [List.dropLast_append_of_ne_nil]
    rw [dropTrailing, dropTrailing, hlast, hinit]
    split <;> rfl

/-! ## Lines -/

theorem lines_append_cons (text rest : List Char) :
    lines (text ++ '\n' :: rest) = lines (text ++ ['\n']) ++ lines rest := by
  rw [lines, pieces_append_cons_of_mem, List.map_append]
  rfl

theorem lines_cons {line : List Char} (whole : '\n' ∉ line) (ended : line.getLast? ≠ some '\r')
    (rest : List Char) : lines (line ++ '\n' :: rest) = line :: lines rest := by
  rw [lines, pieces_append_cons whole, List.map_cons]
  exact congrArg (· :: lines rest) (dropTrailing_of_getLast?_ne ended)

end ImportWeights.Text
