import ImportWeights.Proofs.Repository.Segment

/-! # All spellings of a URL give one name

A URL may or may not end in `.git`, and in any number of slashes. Whatever stands before the
name, as long as a separator parts them, the name is what is found. -/

namespace ImportWeights.Repository

variable {name : List Char}

theorem whole_gitSuffix : ∀ c ∈ ".git".toList, c ≠ '/' ∧ c ≠ ':' := by
  intro c hc
  have plain : ".git".toList.all (fun c => c != '/' && c != ':') = true := rfl
  simpa using List.all_eq_true.mp plain c hc

theorem dropGitSuffix_append_git (name : List Char) :
    dropGitSuffix (name ++ ".git".toList) = name := by
  rw [dropGitSuffix_of_suffix (List.suffix_append name _), List.length_append]
  exact List.take_left

theorem repositorySegment_slashes {front middle : String} (hfront : BeforePart front.toList)
    (filled : middle ≠ "") (whole : ∀ c ∈ middle.toList, c ≠ '/' ∧ c ≠ ':') (slashes : Nat) :
    repositorySegment (front ++ middle ++ String.ofList (List.replicate slashes '/')) =
      String.ofList (dropGitSuffix middle.toList) := by
  have spelled : front ++ middle ++ String.ofList (List.replicate slashes '/') =
      String.ofList (front.toList ++ (middle.toList ++ List.replicate slashes '/')) :=
    String.toList_injective (by simp only [String.toList_append, String.toList_ofList,
      List.append_assoc])
  rw [spelled]
  exact repositorySegment_append hfront (mt String.toList_eq_nil_iff.mp filled) whole slashes

/-- A name is found before `.git` and slashes, and, unless it ends in `.git` itself or is empty,
before slashes alone. What is found in any text holds no separator, and slashes at the end of the
text make no difference. -/
theorem every_spelling_gives_the_name :
    (∀ (front name : String) (slashes : Nat), BeforePart front.toList →
      '/' ∉ name.toList → ':' ∉ name.toList →
        repositorySegment
          (front ++ name ++ ".git" ++ String.ofList (List.replicate slashes '/')) = name ∧
        (name ≠ "" → ¬ ".git".toList <:+ name.toList →
          repositorySegment (front ++ name ++ String.ofList (List.replicate slashes '/')) =
            name)) ∧
    ∀ text, '/' ∉ (repositorySegment text).toList ∧ ':' ∉ (repositorySegment text).toList ∧
      ∀ slashes, repositorySegment (text ++ String.ofList (List.replicate slashes '/')) =
        repositorySegment text := by
  refine ⟨?_, ?_⟩
  · intro front name slashes hfront noSlash noColon
    have whole : ∀ c ∈ name.toList, c ≠ '/' ∧ c ≠ ':' := fun c hc =>
      ⟨fun same => noSlash (same ▸ hc), fun same => noColon (same ▸ hc)⟩
    refine ⟨?_, ?_⟩
    · have wholeGit : ∀ c ∈ (name ++ ".git").toList, c ≠ '/' ∧ c ≠ ':' := by
        rw [String.toList_append]
        exact fun c hc => (List.mem_append.mp hc).elim (whole c) (whole_gitSuffix c)
      have filled : name ++ ".git" ≠ "" := by
        rw [ne_eq, String.append_eq_empty_iff]
        exact fun empty => absurd empty.2 (by decide)
      have joined : front ++ name ++ ".git" = front ++ (name ++ ".git") := String.append_assoc
      rw [joined, repositorySegment_slashes hfront filled wholeGit, String.toList_append,
        dropGitSuffix_append_git, String.ofList_toList]
    · intro filled unmarked
      rw [repositorySegment_slashes hfront filled whole, dropGitSuffix_of_not_suffix unmarked,
        String.ofList_toList]
  · intro text
    rw [repositorySegment, String.toList_ofList]
    refine ⟨fun h => (not_separator_of_mem_lastPart h).1 rfl,
      fun h => (not_separator_of_mem_lastPart h).2 rfl, ?_⟩
    intro slashes
    rw [repositorySegment, String.toList_append, String.toList_ofList,
      Text.trimEnd_append_replicate rfl]

/-- A name that ends in `.git` is found before another `.git`, and one that does not is found
before slashes alone. -/
theorem every_spelling_gives_the_name_twice_marked :
    repositorySegment "git@github.com:o/r.git.git//" = "r.git" ∧
      repositorySegment "git@github.com:r//" = "r" := by
  obtain ⟨spelled, -⟩ := every_spelling_gives_the_name
  have marked := (spelled "git@github.com:o/" "r.git" 2 (by simp [BeforePart]) (by decide)
    (by decide)).1
  have unmarked := (spelled "git@github.com:" "r" 2 (by simp [BeforePart]) (by decide)
    (by decide)).2 (by decide) (by decide)
  exact ⟨marked, unmarked⟩

end ImportWeights.Repository
