import ImportWeights.Proofs.Url.Reach

/-! # Where a path ends

A path goes up to the first question mark or hash. What follows one of them is no part of it, so it
is the same path whatever follows; and where there is none, all that is left belongs to the path. -/

namespace ImportWeights.Url

open ImportWeights.Text

/-- The characters that end a path. -/
def endsPath (c : Char) : Bool := c = '?' || c = '#'

/-- The characters between two segments. -/
def partsSegments (special : Bool) (c : Char) : Bool := c = '/' || (special && c = '\\')

variable {c : Char} {cs front back : List Char} {special : Bool}

/-- A text stays within a path, or it goes on behind the first character that ends one. -/
theorem within_or_beyond (cs : List Char) : (∀ d ∈ cs, endsPath d = false) ∨
    ∃ front c back, cs = front ++ c :: back ∧ (∀ d ∈ front, endsPath d = false) ∧
      endsPath c = true := by
  induction cs with
  | nil => exact .inl fun c hc => absurd hc List.not_mem_nil
  | cons c cs ih =>
    by_cases ends : endsPath c = true
    · exact .inr ⟨[], c, cs, rfl, fun d hd => absurd hd List.not_mem_nil, ends⟩
    · have inside : endsPath c = false := eq_false_of_ne_true ends
      rcases ih with within | ⟨front, d, back, rfl, hfront, hd⟩
      · exact .inl (List.forall_mem_cons.mpr ⟨inside, within⟩)
      · exact .inr ⟨c :: front, d, back, rfl, List.forall_mem_cons.mpr ⟨inside, hfront⟩, hd⟩

theorem endsPath_iff : endsPath c = true ↔ c = '?' ∨ c = '#' := by
  simp [endsPath]

theorem partsSegments_of_endsPath (hc : endsPath c = true) : partsSegments special c = false := by
  rcases endsPath_iff.mp hc with rfl | rfl <;> cases special <;> rfl

theorem partsSegments_slash (special : Bool) : partsSegments special '/' = true := by
  cases special <;> rfl

/-! ## Segments -/

section Segments

variable (special : Bool) (done : List (List Char)) (current : List Char)

theorem segments_of_endsPath (hc : endsPath c = true) (back : List Char) :
    segments special done current (c :: back) =
      ((segments special done current []).1, c :: back) := by
  unfold segments
  exact if_pos hc

theorem segments_of_partsSegments (inside : endsPath c = false)
    (parts : partsSegments special c = true) : ∃ done', ∀ cs,
      segments special done current (c :: cs) = segments special done' [] cs := by
  apply Exists.intro
  intro cs
  rw [segments]
  exact (if_neg (ne_true_of_eq_false inside)).trans (if_pos parts)

theorem segments_of_inside (inside : endsPath c = false)
    (joins : partsSegments special c = false) (cs : List Char) :
    segments special done current (c :: cs) = segments special done (c :: current) cs := by
  rw [segments]
  exact (if_neg (ne_true_of_eq_false inside)).trans (if_neg (ne_true_of_eq_false joins))

/-- A character within a path brings in one more segment or makes the last one longer. -/
theorem segments_cons (inside : endsPath c = false) : ∃ done' current', ∀ cs,
    segments special done current (c :: cs) = segments special done' current' cs := by
  by_cases parts : partsSegments special c = true
  · obtain ⟨done', h⟩ := segments_of_partsSegments special done current inside parts
    exact ⟨done', [], h⟩
  · exact ⟨done, c :: current,
      segments_of_inside special done current inside (eq_false_of_ne_true parts)⟩

theorem segments_append (within : ∀ d ∈ front, endsPath d = false) : ∃ done' current', ∀ cs,
    segments special done current (front ++ cs) = segments special done' current' cs := by
  induction front generalizing done current with
  | nil => exact ⟨done, current, fun cs => rfl⟩
  | cons d front ih =>
    obtain ⟨inside, within⟩ := List.forall_mem_cons.mp within
    obtain ⟨done₁, current₁, first⟩ := segments_cons special done current inside
    obtain ⟨done₂, current₂, others⟩ := ih done₁ current₁ within
    exact ⟨done₂, current₂, fun cs => (first (front ++ cs)).trans (others cs)⟩

end Segments

/-! ## Paths -/

/-- A path that is not empty is read as segments, with or without a slash before them. -/
theorem pathAfterAuthority_eq (special : Bool) (inside : endsPath c = false) : ∃ current, ∀ cs,
    pathAfterAuthority special (c :: cs) = segments special [] current cs := by
  by_cases parts : partsSegments special c = true
  · exact ⟨[], fun cs => if_pos parts⟩
  · refine ⟨[c], fun cs => ?_⟩
    have stays : ¬ (!special && (decide (c = '?') || decide (c = '#'))) = true :=
      fun h => Bool.false_ne_true (inside.symm.trans ((Bool.and_eq_true _ _).mp h).2)
    rw [← segments_of_inside special [] [] inside (eq_false_of_ne_true parts)]
    exact (if_neg parts).trans (if_neg stays)

theorem pathAfterAuthority_slash (special : Bool) (cs : List Char) :
    pathAfterAuthority special ('/' :: cs) = segments special [] [] cs := by
  cases special <;> rfl

/-- Whatever follows the end of a path, the path is the same, and the rest is left as it stands. -/
theorem pathAfterAuthority_append_cons (special : Bool) (within : ∀ d ∈ front, endsPath d = false)
    (hc : endsPath c = true) : ∃ path, ∀ back,
      pathAfterAuthority special (front ++ c :: back) = (path, c :: back) := by
  cases front with
  | nil =>
    have joins : ¬ partsSegments special c = true :=
      ne_true_of_eq_false (partsSegments_of_endsPath hc)
    cases special with
    | true =>
      refine ⟨(segments true [] [] []).1, fun back => ?_⟩
      rw [List.nil_append, ← segments_of_endsPath true [] [] hc back]
      exact if_neg joins
    | false => exact ⟨[], fun back => (if_neg joins).trans (if_pos hc)⟩
  | cons d front =>
    obtain ⟨inside, within⟩ := List.forall_mem_cons.mp within
    obtain ⟨current, first⟩ := pathAfterAuthority_eq special inside
    obtain ⟨done', current', others⟩ := segments_append special [] current within
    refine ⟨(segments special done' current' []).1, fun back => ?_⟩
    rw [List.cons_append, first, others, segments_of_endsPath special done' current' hc]

/-- Without an end of the path, nothing is left behind it. -/
theorem pathAfterAuthority_within (special : Bool) (within : ∀ d ∈ cs, endsPath d = false) :
    ∃ path, pathAfterAuthority special cs = (path, []) := by
  cases cs with
  | nil => cases special with
    | true => exact ⟨['/'], rfl⟩
    | false => exact ⟨[], rfl⟩
  | cons d cs =>
    obtain ⟨inside, within⟩ := List.forall_mem_cons.mp within
    obtain ⟨current, first⟩ := pathAfterAuthority_eq special inside
    obtain ⟨done', current', others⟩ := segments_append special [] current within
    refine ⟨(segments special done' current' []).1, ?_⟩
    rw [first, ← List.append_nil cs, others]
    rfl

section FollowedBy

variable {u : Url} {path beyond : List Char}

/-- The path, the query and the fragment as they are kept behind what was read of a URL. -/
theorem followedBy_eq (read : pathAfterAuthority (isSpecialScheme u.scheme) cs = (path, beyond)) :
    u.followedBy cs =
      { u with
        path := if isFileScheme u.scheme then '/' :: path.dropWhile (· == '/') else path
        query := (queryAndFragment (isSpecialScheme u.scheme) beyond).1
        fragment := (queryAndFragment (isSpecialScheme u.scheme) beyond).2 } := by
  rw [followedBy, read]

/-- Without a question mark or a hash, all that follows an authority is a path. -/
theorem followedBy_within (within : ∀ c ∈ cs, endsPath c = false) :
    (u.followedBy cs).query = none ∧ (u.followedBy cs).fragment = none := by
  obtain ⟨path, read⟩ := pathAfterAuthority_within (isSpecialScheme u.scheme) within
  rw [followedBy_eq read]
  exact ⟨rfl, rfl⟩

end FollowedBy

/-! ## Behind a path -/

/-- The characters that a query escapes. -/
def inQueryOf (special : Bool) : Char → Bool := if special then inSpecialQuery else inQuery

theorem queryAndFragment_query (special : Bool) (h : '#' ∉ cs) :
    queryAndFragment special ('?' :: cs) = (some (escape (inQueryOf special) cs), none) := by
  have plain := bne_of_not_mem h
  have taken : cs.takeWhile (· != '#') = cs := List.takeWhile_eq_self_iff.mpr plain
  have left : cs.dropWhile (· != '#') = [] := List.dropWhile_eq_nil_iff.mpr plain
  simp only [queryAndFragment, taken, left]
  rfl

theorem queryAndFragment_both (special : Bool) (h : '#' ∉ cs) (back : List Char) :
    queryAndFragment special ('?' :: (cs ++ '#' :: back)) =
      (some (escape (inQueryOf special) cs), some (escape inFragment back)) := by
  have plain := bne_of_not_mem h
  have taken : (cs ++ '#' :: back).takeWhile (· != '#') = cs := takeWhile_append_cons plain rfl back
  have left : (cs ++ '#' :: back).dropWhile (· != '#') = '#' :: back :=
    dropWhile_append_cons plain rfl back
  simp only [queryAndFragment, taken, left]
  rfl

end ImportWeights.Url
