import ImportWeights.Proofs.Settings.Verdict
import ImportWeights.Proofs.Text.Pieces

/-! # Layers do not leak

What the configuration file says goes below what is set already, setting by setting: each one
looks at its own key and at nothing else of the file. -/

namespace ImportWeights.Settings

open ImportWeights.Toml

/-- Options with a table taken in. A setting that is set stays, and one that is open becomes what
its key says, if anything; lists are gone on with. The color flags are one setting: if either of
them is set, both stay. -/
def Options.filledFrom (o : Options) (t : Table) : Options := { o with
  repos := o.repos ++ saidList t "repo"
  listenAddr := o.listenAddr.or (saidText t "listen-addr")
  environment := o.environment.or (saidChoice t "env" _)
  stagingDir := o.stagingDir.or (saidPath t "staging-dir")
  expectedHost := o.expectedHost.or (saidText t "expected-host")
  cloneBackend := o.cloneBackend.or (saidChoice t "clone-backend" _)
  folderNaming := o.folderNaming.or (saidChoice t "folder-naming" _)
  maxLineLength := o.maxLineLength.or (saidLength t "max-line-length")
  exclude := o.exclude ++ saidList t "exclude"
  reportFormat := o.reportFormat.or (saidChoice t "report-format" _)
  reportFile := o.reportFile.or (saidPath t "report-file")
  diagramApiKey := o.diagramApiKey.or (saidText t "diagram-api-key")
  diagramBaseUrl := o.diagramBaseUrl.or (saidText t "diagram-base-url")
  diagramFolderId := o.diagramFolderId.or (saidText t "diagram-folder-id")
  logLevel := o.logLevel.or (saidText t "log-level")
  logFormat := o.logFormat.or (saidChoice t "log-format" _)
  logFile := o.logFile.or (saidPath t "log-file")
  color := if o.color || o.noColor then o.color else (saidFlag t "color").getD false
  noColor := if o.color || o.noColor then o.noColor else (saidFlag t "no-color").getD false }

/-- A setting of the file: its key, and where its value stands. -/
structure Setting where
  key : String
  Kind : Type
  get : Options → Kind

def settings : List Setting :=
  [⟨"repo", _, (·.repos)⟩, ⟨"exclude", _, (·.exclude)⟩, ⟨"listen-addr", _, (·.listenAddr)⟩,
    ⟨"env", _, (·.environment)⟩, ⟨"staging-dir", _, (·.stagingDir)⟩,
    ⟨"expected-host", _, (·.expectedHost)⟩, ⟨"clone-backend", _, (·.cloneBackend)⟩,
    ⟨"folder-naming", _, (·.folderNaming)⟩, ⟨"report-format", _, (·.reportFormat)⟩,
    ⟨"report-file", _, (·.reportFile)⟩, ⟨"diagram-api-key", _, (·.diagramApiKey)⟩,
    ⟨"diagram-base-url", _, (·.diagramBaseUrl)⟩, ⟨"diagram-folder-id", _, (·.diagramFolderId)⟩,
    ⟨"log-level", _, (·.logLevel)⟩, ⟨"log-format", _, (·.logFormat)⟩,
    ⟨"log-file", _, (·.logFile)⟩, ⟨"max-line-length", _, (·.maxLineLength)⟩,
    ⟨"color", _, (·.color)⟩, ⟨"no-color", _, (·.noColor)⟩]

variable {o o' : Options} {t t' : Table}

theorem over_said (o : Options) (t : Table) :
    o.over (said (!o.hasColorFlag) t) = o.filledFrom t := by
  unfold Options.over said Options.filledFrom Options.hasColorFlag
  cases o.color <;> cases o.noColor <;> simp

/-- Two tables that say the same under a key make the same of its setting. -/
theorem filledFrom_congr (o : Options) :
    ∀ s ∈ settings, t'.get? s.key = t.get? s.key →
      s.get (o.filledFrom t') = s.get (o.filledFrom t) := by
  simp only [settings, List.forall_mem_cons, List.not_mem_nil, false_implies, implies_true,
    and_true]
  and_intros <;>
  · intro same
    simp only [Options.filledFrom, saidList, saidTexts, saidChoice, saidPath, saidText, saidFlag,
      saidLength, same]

/-- Entries are the parts between commas, without the blanks around them, and none is empty. -/
theorem listEntries_eq (s : String) : listEntries s =
    ((s.toList.splitOn ',').map fun part => Text.trim (String.ofList part)).filter (· ≠ "") := by
  rw [listEntries, Text.splitAt_eq_splitOn]

/-- If a table is taken in, each setting that was set is kept and each open one becomes what its
own key says; the lists are gone on with by the entries of their keys, and the color flags are
taken from the table if neither was set. Every value that was looked at has the form that its key
takes, so that none is passed over. There are nineteen keys, all different, and what another
table says under one of them alone decides what becomes of its setting. -/
theorem layers_do_not_leak (h : o.withTable t = .ok o') :
    o' = o.filledFrom t ∧
    (∀ s, listEntries s = ((s.toList.splitOn ',').map fun part =>
      Text.trim (String.ofList part)).filter (· ≠ "")) ∧
    (∀ key ∈ keysFor (!(o.color || o.noColor)), key.fits t = true) ∧
    settings.length = 19 ∧ (settings.map (·.key)).Nodup ∧
    ∀ s ∈ settings, ∀ t' other, o.withTable t' = .ok other →
      t'.get? s.key = t.get? s.key → s.get other = s.get o' := by
  have taken {t : Table} {r : Options} (h : o.withTable t = .ok r) :
      r = o.filledFrom t ∧ ∀ key ∈ keysFor (!o.hasColorFlag), key.fits t = true := by
    obtain ⟨filled, fits⟩ | ⟨_, _, _, _, _, _, _, _, refused⟩ := withTable_cases o t
    · rw [filled, over_said] at h
      exact ⟨(Except.ok.inj h).symm, fits⟩
    · rw [refused] at h
      cases h
  obtain ⟨rfl, fits⟩ := taken h
  refine ⟨rfl, listEntries_eq, fits, rfl, by decide, ?_⟩
  intro s hs t' other h' same
  obtain ⟨rfl, -⟩ := taken h'
  exact filledFrom_congr o s hs same

/-- A command line that names a staging directory, a repository and no colors. -/
def sampleOptions : Options :=
  { Options.unset with
    repos := ["a"], stagingDir := some (Files.Path.ofString "./own"), noColor := true }

/-- A file that names a staging directory, too, two repositories, and an environment. -/
def sampleTable : Table :=
  [("staging-dir", .text "./other"), ("repo", .text "b,, c "), ("env", .text "production"),
    ("color", .boolean true)]

theorem layers_do_not_leak_sample : ∃ o', sampleOptions.withTable sampleTable = .ok o' ∧
    o'.repos = ["a", "b", "c"] ∧ o'.stagingDir = some (Files.Path.ofString "./own") ∧
    o'.environment = some .prod ∧ o'.color = false ∧ o'.noColor = true ∧
    ∀ t' other, sampleOptions.withTable t' = .ok other →
      t'.get? "env" = some (.text "production") → other.environment = some .prod := by
  have taken : sampleOptions.withTable sampleTable =
      .ok { sampleOptions with repos := ["a", "b", "c"], environment := some .prod } := by
    decide +kernel
  obtain ⟨filled, -, -, -, -, apart⟩ := layers_do_not_leak taken
  refine ⟨_, taken, ?_⟩
  rw [filled]
  refine ⟨by decide, rfl, by decide, rfl, rfl, ?_⟩
  intro t' other h same
  have env : (⟨"env", _, (·.environment)⟩ : Setting) ∈ settings := by simp [settings]
  exact (apart _ env t' other h same).trans rfl

end ImportWeights.Settings
