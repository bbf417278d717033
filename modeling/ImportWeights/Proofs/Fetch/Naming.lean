import ImportWeights.Proofs.Fetch.Outcome

/-! # Naming policies and acceptance

A URL is refused if its folder would be no name of a directory. With a digest at its end a
folder always is one, so this refuses nothing under the hashed policy: a URL on the expected
host that names no repository is taken there, and refused where folders are named after the
repository alone. About every other URL the two policies agree. -/

namespace ImportWeights.Fetch

open ImportWeights.Dispatch ImportWeights.Repository

/-- Whether the last part of a URL can stand for a repository. -/
structure NamesRepository (url : String) : Prop where
  ne_empty : repositorySegment url ≠ ""
  ne_current : repositorySegment url ≠ "."
  ne_parent : repositorySegment url ≠ ".."

theorem isFolderless_eq_false_iff {folder : String} :
    isFolderless folder = false ↔ folder ≠ "" ∧ folder ≠ "." ∧ folder ≠ ".." := by
  simp [isFolderless, and_assoc]

theorem isFolderless_segment {url : String} :
    isFolderless (folderName .segment url) = false ↔ NamesRepository url := by
  rw [isFolderless_eq_false_iff]
  constructor
  · rintro ⟨empty, current, parent⟩
    exact ⟨empty, current, parent⟩
  · intro named
    exact ⟨named.ne_empty, named.ne_current, named.ne_parent⟩

/-- The dash before the digest stands in no dot name. -/
theorem isFolderless_hashed (url : String) : isFolderless (folderName .hashed url) = false := by
  have dash : '-' ∈ (folderName .hashed url).toList := by simp [folderName]
  have other {name : String} (h : '-' ∉ name.toList) : folderName .hashed url ≠ name := by
    intro same
    exact h (same ▸ dash)
  rw [isFolderless_eq_false_iff]
  exact ⟨other (by decide), other (by decide), other (by decide)⟩

namespace FetchConfig

variable {c : FetchConfig} {url : String}

theorem judge_of_invalid {e : ValidationError} (h : validate url c.expectedHost = .error e) :
    c.judge url = .error e := by
  simp only [judge, h]

theorem judge_of_folderless (h : validate url c.expectedHost = .ok ())
    (folderless : isFolderless (folderName c.folderNaming url) = true) :
    c.judge url = .error (.invalidUrl url "URL does not name a repository") := by
  simp only [judge, h, folderless, if_true]

theorem judge_of_folder (h : validate url c.expectedHost = .ok ())
    (folder : isFolderless (folderName c.folderNaming url) = false) :
    c.judge url = .ok (folderName c.folderNaming url) := by
  simp [judge, h, folder]

/-- A URL is accepted if it is valid and its folder is the name of a directory. -/
theorem judge_ok_iff : (∃ folder, c.judge url = .ok folder) ↔
    validate url c.expectedHost = .ok () ∧
      isFolderless (folderName c.folderNaming url) = false := by
  cases valid : validate url c.expectedHost with
  | error e => simp [judge_of_invalid valid]
  | ok _ =>
    cases folder : isFolderless (folderName c.folderNaming url) with
    | true => simp [judge_of_folderless valid folder]
    | false => simp [judge_of_folder valid folder]

end FetchConfig

namespace Fetcher

/-- The same fetcher with another policy. -/
def withNaming (f : Fetcher) (naming : FolderNaming) : Fetcher :=
  { f with config := { f.config with folderNaming := naming } }

variable {f : Fetcher} {p : Pipeline} {url : String}

theorem exists_task_hashed_iff : (∃ task, ((f.withNaming .hashed).accept p url).1 = .ok task) ↔
    validate (Text.trim url) f.config.expectedHost = .ok () := by
  rw [exists_task_iff, FetchConfig.judge_ok_iff]
  exact and_iff_left (isFolderless_hashed _)

theorem exists_task_segment_iff : (∃ task, ((f.withNaming .segment).accept p url).1 = .ok task) ↔
    validate (Text.trim url) f.config.expectedHost = .ok () ∧ NamesRepository (Text.trim url) := by
  rw [exists_task_iff, FetchConfig.judge_ok_iff]
  exact and_congr_right fun _ => isFolderless_segment

/-- A URL that is not valid is refused for the same reason under any policy. -/
theorem accept_of_invalid (naming : FolderNaming) {e : ValidationError}
    (h : validate (Text.trim url) f.config.expectedHost = .error e) :
    ((f.withNaming naming).accept p url).1 = .error e := by
  have refused := FetchConfig.judge_of_invalid (c := (f.withNaming naming).config) h
  rw [accept_answer, refused]
  rfl

theorem accept_of_unnamed (h : validate (Text.trim url) f.config.expectedHost = .ok ())
    (unnamed : ¬ NamesRepository (Text.trim url)) :
    ((f.withNaming .segment).accept p url).1 =
      .error (.invalidUrl (Text.trim url) "URL does not name a repository") := by
  have folderless : isFolderless (folderName .segment (Text.trim url)) = true := by
    rw [← Bool.not_eq_false, isFolderless_segment]
    exact unnamed
  have refused := FetchConfig.judge_of_folderless (c := (f.withNaming .segment).config) h folderless
  rw [accept_answer, refused]
  rfl

/-- The hashed policy takes every valid URL, and the other one those of them that name a
repository. So the two agree about a URL exactly if it names one or is not valid. What the
hashed policy refuses the other one refuses for the same reason; what it alone takes is refused
by the other one as a URL that names no repository. -/
theorem policies_agree_iff_named (f : Fetcher) (p q : Pipeline) (url : String) :
    let segment := ((f.withNaming .segment).accept p url).1
    let hashed := ((f.withNaming .hashed).accept q url).1
    let valid := validate (Text.trim url) f.config.expectedHost = .ok ()
    ((∃ task, hashed = .ok task) ↔ valid) ∧
    ((∃ task, segment = .ok task) ↔ valid ∧ NamesRepository (Text.trim url)) ∧
    (((∃ task, segment = .ok task) ↔ ∃ task, hashed = .ok task) ↔
      (valid → NamesRepository (Text.trim url))) ∧
    (∀ e, hashed = .error e → segment = .error e) ∧
    (valid → ¬ NamesRepository (Text.trim url) →
      segment = .error (.invalidUrl (Text.trim url) "URL does not name a repository")) := by
  intro segment hashed valid
  refine ⟨exists_task_hashed_iff, exists_task_segment_iff, ?_, ?_, accept_of_unnamed⟩
  · rw [exists_task_segment_iff, exists_task_hashed_iff]
    exact and_iff_left_iff_imp
  · intro e refused
    cases judged : validate (Text.trim url) f.config.expectedHost with
    | error cause =>
      have same : hashed = .error cause := accept_of_invalid .hashed judged
      rw [refused] at same
      cases same
      exact accept_of_invalid .segment judged
    | ok _ =>
      obtain ⟨task, taken⟩ := exists_task_hashed_iff.mpr judged
      have both : hashed = .ok task := taken
      rw [refused] at both
      cases both

/-- The short form for the expected host, with nothing after its colon. -/
def bareUrl : String := "git@github.com:"

theorem bareUrl_valid :
    validate (Text.trim bareUrl) sampleFetcher.config.expectedHost = .ok () := rfl

theorem bareUrl_unnamed : ¬ NamesRepository (Text.trim bareUrl) :=
  fun named => named.ne_empty rfl

theorem policies_agree_iff_named_bareUrl :
    validate (Text.trim bareUrl) sampleFetcher.config.expectedHost = .ok () ∧
    ¬ NamesRepository (Text.trim bareUrl) ∧
    ((sampleFetcher.withNaming .segment).accept samplePipeline bareUrl).1 =
      .error (.invalidUrl (Text.trim bareUrl) "URL does not name a repository") ∧
    ∃ task, ((sampleFetcher.withNaming .hashed).accept samplePipeline bareUrl).1 = .ok task := by
  obtain ⟨hashed, -, -, -, segment⟩ :=
    policies_agree_iff_named sampleFetcher samplePipeline samplePipeline bareUrl
  exact ⟨bareUrl_valid, bareUrl_unnamed, segment bareUrl_valid bareUrl_unnamed,
    hashed.mpr bareUrl_valid⟩

/-- A URL without a repository is taken under one policy and refused under the other. -/
theorem policies_disagree_about_bareUrl :
    ¬ ∀ (f : Fetcher) (p : Pipeline) (url : String),
      (∃ task, ((f.withNaming .segment).accept p url).1 = .ok task) ↔
        ∃ task, ((f.withNaming .hashed).accept p url).1 = .ok task := by
  intro h
  have taken := exists_task_hashed_iff (f := sampleFetcher) (p := samplePipeline).mpr bareUrl_valid
  have both := (h sampleFetcher samplePipeline bareUrl).mpr taken
  exact bareUrl_unnamed (exists_task_segment_iff.mp both).2

end Fetcher

end ImportWeights.Fetch
