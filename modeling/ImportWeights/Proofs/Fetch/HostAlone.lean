import ImportWeights.Proofs.Fetch.Naming
import ImportWeights.Proofs.Repository.HostAlone

/-! # URLs that name no repository

The host of a URL is read in one way and its folder in another: the folder is cut out of the
text. So where a URL has nothing after its host, the port or the host itself is taken for the
repository, and the guard against URLs that name none sees a name like any other. Such a URL is
refused only if it can not be read. -/

namespace ImportWeights.Fetch

open ImportWeights.Dispatch ImportWeights.Repository ImportWeights.Text ImportWeights.Url

/-- Why a URL of a host alone can not be read: its scheme has no path of its own and the URL
gives none, or its port is too large. -/
inductive Unreadable (scheme : RemoteScheme) (port : Option Nat) (slashes : Nat) : Prop
  | pathless (needed : scheme = .ssh ∨ scheme = .git) (missing : slashes = 0)
  | port (number : Nat) (given : port = some number) (large : 65536 ≤ number)

variable {host : List Char} {port : Option Nat} {scheme : RemoteScheme} {slashes : Nat}

theorem fits_of_readable (h : ¬ Unreadable scheme port slashes) :
    ∀ number ∈ port, number < 65536 := by
  intro number given
  exact Nat.lt_of_not_le fun large => h (.port number given large)

theorem namesRepository_hostUrl (h : HostName host) :
    NamesRepository (String.ofList (hostUrl scheme host port slashes)) := by
  obtain ⟨first, rest, segment, noDot⟩ := hostSegment_begins h port
  have other {name : String} (hname : name.toList.head? ≠ some first) :
      repositorySegment (String.ofList (hostUrl scheme host port slashes)) ≠ name := by
    rintro rfl
    simp [repositorySegment_hostUrl h, segment] at hname
  exact ⟨other (by simp), other (by simpa using noDot.symm), other (by simpa using noDot.symm)⟩

theorem isFolderless_hostUrl (h : HostName host) (naming : FolderNaming) :
    isFolderless (folderName naming (String.ofList (hostUrl scheme host port slashes))) =
      false := by
  cases naming with
  | segment => exact isFolderless_segment.mpr (namesRepository_hostUrl h)
  | hashed => exact isFolderless_hashed _

theorem trim_hostUrl (h : HostName host) :
    Text.trim (String.ofList (hostUrl scheme host port slashes)) =
      String.ofList (hostUrl scheme host port slashes) := by
  refine trim_eq_self fun c hc => ?_
  rw [String.toList_ofList] at hc
  exact of_isPlain (p := fun c => isBlank c = false) (by decide)
    (isPlain_of_mem_hostUrl h.plain hc)

section Judgement

variable {c : FetchConfig}

theorem judge_of_unreadable (h : HostName c.expectedHost.toList)
    (unreadable : Unreadable scheme port slashes) :
    let url := String.ofList (hostUrl scheme c.expectedHost.toList port slashes)
    ∃ reason, c.judge url = .error (.invalidUrl url reason) := by
  intro url
  obtain ⟨reason, invalid⟩ : ∃ reason,
      validate url c.expectedHost = .error (.invalidUrl url reason) := by
    -- the port is read first; that a path is missing is told only of a URL with a fitting one
    by_cases large : ∃ number, port = some number ∧ 65536 ≤ number
    · obtain ⟨number, rfl, large⟩ := large
      exact validate_of_large_port h scheme slashes large
    · have fits : ∀ number ∈ port, number < 65536 := fun number given =>
        Nat.lt_of_not_le fun le => large ⟨number, given, le⟩
      cases unreadable with
      | pathless needed missing =>
        rw [validate_hostUrl h scheme slashes fits,
          if_pos ⟨isSpecialScheme_eq_false_iff.mpr needed, missing⟩]
        exact ⟨_, rfl⟩
      | port number given le => exact absurd ⟨number, given, le⟩ large
  exact ⟨reason, FetchConfig.judge_of_invalid invalid⟩

theorem judge_of_readable (h : HostName c.expectedHost.toList)
    (readable : ¬ Unreadable scheme port slashes) :
    let url := String.ofList (hostUrl scheme c.expectedHost.toList port slashes)
    c.judge url = .ok (folderName c.folderNaming url) := by
  intro url
  have valid : validate url c.expectedHost = .ok () := by
    rw [validate_hostUrl h scheme slashes (fits_of_readable readable), if_neg]
    rintro ⟨needed, missing⟩
    exact readable (.pathless (isSpecialScheme_eq_false_iff.mp needed) missing)
  exact FetchConfig.judge_of_folder valid (isFolderless_hostUrl h _)

end Judgement

/-- A URL with nothing but a port and slashes after the expected host is refused exactly if it
can not be read. Any other one is taken, and its folder is the one for the port, or for the host
if there is no port, whatever the policy and the number of slashes. -/
theorem host_alone_is_refused_iff (f : Fetcher) (p : Pipeline) (scheme : RemoteScheme)
    (port : Option Nat) (slashes : Nat) (named : HostName f.config.expectedHost.toList) :
    let url := String.ofList (hostUrl scheme f.config.expectedHost.toList port slashes)
    let answer := (f.accept p url).1
    repositorySegment url = String.ofList (hostSegment f.config.expectedHost.toList port) ∧
    ((∃ reason, answer = .error (.invalidUrl url reason)) ↔ Unreadable scheme port slashes) ∧
    (¬ Unreadable scheme port slashes → ∃ task, answer = .ok task ∧ task.url = url ∧
      task.folder = folderName f.config.folderNaming url) := by
  intro url answer
  have answered : answer = (f.config.judge url).map fun folder =>
      ⟨url, folder, f.config.stagingDir, p.queue.handles.length⟩ := by
    have whole : Text.trim url = url := trim_hostUrl named
    have trimmed := Fetcher.accept_answer f p url
    rwa [whole] at trimmed
  have taken (readable : ¬ Unreadable scheme port slashes) : answer =
      .ok ⟨url, folderName f.config.folderNaming url, f.config.stagingDir,
        p.queue.handles.length⟩ := by
    rw [answered, judge_of_readable named readable]
    rfl
  refine ⟨repositorySegment_hostUrl named scheme port slashes, ⟨?_, ?_⟩, ?_⟩
  · rintro ⟨reason, refused⟩
    by_contra readable
    rw [taken readable] at refused
    cases refused
  · intro unreadable
    obtain ⟨reason, judged⟩ := judge_of_unreadable named unreadable
    rw [answered, judged]
    exact ⟨reason, rfl⟩
  · intro readable
    exact ⟨_, taken readable, rfl, rfl⟩

theorem sampleFetcher_host : HostName sampleFetcher.config.expectedHost.toList where
  begins := ⟨'g', "ithub.com".toList, rfl, rfl⟩
  plain := List.all_eq_true.mp rfl
  short := by decide
  named := by decide
  national := by decide

theorem host_alone_is_refused_iff_github :
    HostName sampleFetcher.config.expectedHost.toList ∧
    (∃ task, (sampleFetcher.accept samplePipeline "https://github.com:443//").1 = .ok task ∧
      task.folder = "443") ∧
    ∃ reason, (sampleFetcher.accept samplePipeline "ssh://github.com").1 =
      .error (.invalidUrl "ssh://github.com" reason) := by
  obtain ⟨-, -, taken⟩ := host_alone_is_refused_iff sampleFetcher samplePipeline .https
    (some 443) 2 sampleFetcher_host
  obtain ⟨-, refused, -⟩ := host_alone_is_refused_iff sampleFetcher samplePipeline .ssh none 0
    sampleFetcher_host
  have readable : ¬ Unreadable .https (some 443) 2 := by
    rintro (⟨_, missing⟩ | ⟨number, given, large⟩)
    · cases missing
    · cases given
      omega
  obtain ⟨task, answer, -, folder⟩ := taken readable
  exact ⟨sampleFetcher_host, ⟨task, answer, folder.trans rfl⟩,
    refused.mpr (.pathless (.inl rfl) rfl)⟩

/-- A host with nothing but a slash after it is cloned into a folder of its own name. -/
theorem host_alone_is_accepted :
    ¬ ∀ (f : Fetcher) (p : Pipeline) (scheme : RemoteScheme) (port : Option Nat) (slashes : Nat),
      HostName f.config.expectedHost.toList →
      let url := String.ofList (hostUrl scheme f.config.expectedHost.toList port slashes)
      ∃ reason, (f.accept p url).1 = .error (.invalidUrl url reason) := by
  intro h
  have taken : (sampleFetcher.accept samplePipeline "https://github.com/").1 =
      .ok ⟨"https://github.com/", "github.com", ⟨[]⟩, 1⟩ := by rfl
  obtain ⟨reason, refused⟩ := h sampleFetcher samplePipeline .https none 1 sampleFetcher_host
  have both := taken.symm.trans refused
  cases both

end ImportWeights.Fetch
