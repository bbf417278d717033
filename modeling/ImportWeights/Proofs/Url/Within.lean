import ImportWeights.Proofs.Url.Closing
import ImportWeights.Proofs.Url.PathEnd

/-! # URLs without a query

Whatever is read of a text, what is left of it is a part of it, so a question mark or a hash comes
from the text alone. A text without them is a URL with neither a query nor a fragment
(`parse_within`). -/

namespace ImportWeights.Url

open ImportWeights.Text

variable {α β : Type} {scheme cs : List Char} {u : Url}

theorem exists_of_bind_eq_ok {x : Except UrlError α} {next : α → Except UrlError β} {b : β}
    (h : x >>= next = .ok b) : ∃ a, x = .ok a ∧ next a = .ok b := by
  cases x with
  | error e => cases h
  | ok a => exact ⟨a, rfl, h⟩

theorem exists_of_map_eq_ok {x : Except UrlError α} {f : α → β} {b : β} (h : x.map f = .ok b) :
    ∃ a, x = .ok a ∧ f a = b := by
  cases x with
  | error e => cases h
  | ok a => exact ⟨a, rfl, Except.ok.inj h⟩

/-- Reads a part, and leaves nothing that was not there. -/
def LeavesPart (read : List Char → Except UrlError (α × List Char)) : Prop :=
  ∀ cs a left, read cs = .ok (a, left) → left ⊆ cs

theorem LeavesPart.bind {read : List Char → Except UrlError (α × List Char)}
    {next : α × List Char → Except UrlError (β × List Char)} (h : LeavesPart read)
    (hnext : ∀ a, LeavesPart fun cs => next (a, cs)) :
    LeavesPart fun cs => read cs >>= next := by
  intro cs b left both
  obtain ⟨⟨a, behind⟩, first, second⟩ := exists_of_bind_eq_ok both
  exact List.Subset.trans (hnext a behind b left second) (h cs a behind first)

/-! ## The parts of an authority -/

theorem splitAtLast_subset {x : Char} {before after : List Char}
    (h : splitAtLast x cs = some (before, after)) : after ⊆ cs := by
  unfold splitAtLast at h
  split at h
  · cases h
    intro c hc
    exact List.mem_reverse.mp (List.takeWhile_subset _ (List.mem_reverse.mp hc))
  · cases h

theorem leavesPart_userinfo (special : Bool) : LeavesPart (userinfo special) := by
  intro cs info left read
  unfold userinfo at read
  dsimp only at read
  have beyond := List.dropWhile_subset (l := cs) fun c => !endsAuthority special c
  have text := List.takeWhile_subset (l := cs) fun c => !endsAuthority special c
  cases parts : splitAtLast '@' (cs.takeWhile fun c => !endsAuthority special c) with
  | none =>
    rw [parts] at read
    cases read
    exact List.Subset.refl cs
  | some found =>
    obtain ⟨user, after⟩ := found
    have behind : after ++ cs.dropWhile (fun c => !endsAuthority special c) ⊆ cs :=
      List.append_subset.mpr ⟨List.Subset.trans (splitAtLast_subset parts) text, beyond⟩
    rw [parts] at read
    cases user with
    | nil =>
      dsimp only at read
      split at read
      · cases read
      · cases read
        exact behind
    | cons c user =>
      cases read
      exact behind

theorem spanHost_subset (special inside : Bool) (cs : List Char) :
    (spanHost special inside cs).2 ⊆ cs := by
  induction cs generalizing inside with
  | nil => exact List.Subset.refl []
  | cons c cs ih =>
    rw [spanHost]
    split
    · exact List.Subset.refl _
    · exact List.Subset.trans (ih _) (List.subset_cons_self c cs)

theorem leavesPart_hostPart (special : Bool) : LeavesPart (hostPart special) := by
  intro cs host left read
  unfold hostPart at read
  dsimp only at read
  split at read
  · cases read
  · obtain ⟨name, -, kept⟩ := exists_of_bind_eq_ok read
    split at kept
    · cases kept
    · cases kept
      exact spanHost_subset special false cs

theorem leavesPart_portOf (usual : Option Nat) : LeavesPart (portOf usual) := by
  intro cs port left read
  unfold portOf at read
  obtain ⟨-, refused⟩ | ⟨-, found⟩ := ite_eq_iff.mp read
  · cases refused
  · exact (Prod.mk.inj (Except.ok.inj found)).2 ▸ List.dropWhile_subset isDigit

theorem leavesPart_portPart (usual : Option Nat) : LeavesPart (portPart usual) := by
  intro cs port left read
  unfold portPart at read
  split at read
  · rename_i more
    exact List.Subset.trans (leavesPart_portOf usual more port left read)
      (List.subset_cons_self ':' more)
  · cases read
    exact List.Subset.refl cs

theorem leavesPart_assembled (scheme : List Char) (info : Option Userinfo) (host : List Char)
    (port : Option Nat) : LeavesPart (assembled scheme info host port) := by
  intro cs u left read
  unfold assembled at read
  split at read
  · cases read
  · cases read
    exact List.Subset.refl cs

theorem leavesPart_authority (scheme : List Char) (special : Bool) :
    LeavesPart (authority scheme special) := by
  refine (leavesPart_userinfo special).bind fun info => ?_
  dsimp only
  refine (leavesPart_hostPart special).bind fun host => ?_
  dsimp only
  refine (leavesPart_portPart (defaultPort? scheme)).bind fun port => ?_
  exact leavesPart_assembled scheme info host port

/-! ## Whole URLs -/

theorem afterSlashes_within (plain : isFileScheme scheme = false)
    (within : ∀ c ∈ cs, endsPath c = false)
    (read : afterSlashes scheme (isSpecialScheme scheme) cs = .ok u) :
    u.query = none ∧ u.fragment = none := by
  rw [afterSlashes_eq plain] at read
  obtain ⟨⟨before, left⟩, found, rfl⟩ := exists_of_map_eq_ok read
  have part := leavesPart_authority scheme _ cs before left found
  exact followedBy_within fun c hc => within c (part hc)

theorem fileAuthority_subset {hostText rest left : List Char}
    (read : fileAuthority scheme hostText rest = .ok (u, left)) :
    left ⊆ '/' :: (hostText ++ rest) := by
  unfold fileAuthority at read
  by_cases drive : isDriveLetter hostText = true
  · rw [if_pos drive] at read
    cases read
    exact List.Subset.refl _
  · rw [if_neg drive] at read
    obtain ⟨host, -, kept⟩ := exists_of_bind_eq_ok read
    cases kept
    exact List.Subset.trans (List.subset_append_right hostText rest) (List.subset_cons_self _ _)

theorem fileUrl_within (file : isFileScheme scheme = true)
    (within : ∀ c ∈ cs, endsPath c = false) (read : fileUrl scheme cs = .ok u) :
    u.query = none ∧ u.fragment = none := by
  by_cases slashes : ∃ a b more, cs = a :: b :: more ∧ isSlash a = true ∧ isSlash b = true
  · obtain ⟨a, b, more, rfl, ha, hb⟩ := slashes
    rw [fileUrl_eq file ha hb] at read
    obtain ⟨⟨before, left⟩, found, rfl⟩ := exists_of_map_eq_ok read
    have part : left ⊆ '/' :: more := by
      have whole : fileText more ++ afterFileText more = more := List.takeWhile_append_dropWhile
      exact whole ▸ fileAuthority_subset found
    refine followedBy_within fun c hc => ?_
    rcases List.mem_cons.mp (part hc) with rfl | inside
    · rfl
    · exact within c (.tail a (.tail b inside))
  · rw [fileUrl_of_apart file fun a b more whole both => slashes ⟨a, b, more, whole, both⟩] at read
    cases read
    exact followedBy_within within

theorem tidy_subset (cs : List Char) : tidy cs ⊆ cs := by
  rw [tidy_def, trimBoth, trimEnd]
  intro c hc
  have kept := (List.mem_filter.mp hc).1
  have begun := List.mem_reverse.mp (List.dropWhile_subset _ (List.mem_reverse.mp kept))
  exact List.dropWhile_subset _ begun

theorem scheme?_subset {rest : List Char} (read : scheme? cs = some (scheme, rest)) :
    rest ⊆ cs := by
  cases cs with
  | nil => cases read
  | cons c cs =>
    dsimp only [scheme?] at read
    split at read
    · split at read
      · rename_i rest behind
        cases read
        have left := List.dropWhile_subset (l := c :: cs) isSchemeChar
        rw [behind] at left
        exact List.Subset.trans (List.subset_cons_self ':' _) left
      · cases read
    · cases read

/-- A text without a question mark or a hash is a URL with neither a query nor a fragment. -/
theorem parse_within (within : ∀ c ∈ cs, endsPath c = false) (read : parse cs = .ok u) :
    u.query = none ∧ u.fragment = none := by
  cases found : scheme? (tidy cs) with
  | none =>
    rw [parse, found] at read
    cases read
  | some parts =>
    obtain ⟨scheme, rest⟩ := parts
    have within : ∀ c ∈ rest, endsPath c = false := fun c hc =>
      within c (tidy_subset cs (scheme?_subset found hc))
    simp only [parse, found] at read
    split at read
    · rename_i file
      exact fileUrl_within file within read
    · rename_i plain
      have plain : isFileScheme scheme = false := eq_false_of_ne_true plain
      split at read
      · rename_i special
        rw [← special] at read
        exact afterSlashes_within plain (fun c hc => within c (List.dropWhile_subset _ hc)) read
      · rename_i special
        split at read
        · rename_i more
          rw [← eq_false_of_ne_true special] at read
          exact afterSlashes_within plain (fun c hc => within c (.tail _ (.tail _ hc))) read
        · rename_i more _
          have inside : ∀ c ∈ more, endsPath c = false := fun c hc => within c (.tail _ hc)
          obtain ⟨done, current, segmented⟩ := segments_append false [] [] inside
          cases read
          rw [← List.append_nil more, segmented]
          exact ⟨rfl, rfl⟩
        · cases read
          have nothing : rest.dropWhile (fun c => !(c == '?' || c == '#')) = [] := by
            rw [List.dropWhile_eq_nil_iff]
            intro c hc
            exact (Bool.not_eq_true' _).mpr (within c hc)
          rw [nothing]
          exact ⟨rfl, rfl⟩

end ImportWeights.Url
