import Mathlib.Data.List.Basic
import ImportWeights.Settings.ConfigFile

/-! # What a configuration file is checked for

Each key takes values of one form. Reading a table is passing a verdict on one key after the
other and then taking from each key what it says (`ofTable_eq`): what is refused and what is
taken can be looked at apart. -/

namespace ImportWeights.Settings

open ImportWeights.Files ImportWeights.Toml

/-- The names that stand for a value of a type. -/
def Choice.accepted (α : Type) [Choice α] : List String :=
  (Choice.all : List α).flatMap fun a => Choice.name a :: (Choice.otherName? a).toList

/-- What a key takes. -/
inductive Form where
  | list
  | text
  | choice (names : List String)
  | length
  | flag
deriving DecidableEq, Repr

def Form.fits : Form → Value → Bool
  | .list, .text _ => true
  | .list, .array items => items.all fun item => (textOf? item).isSome
  | .text, .text _ => true
  | .choice names, .text s => names.contains s
  | .length, .integer n => 0 < n
  | .flag, .boolean _ => true
  | _, _ => false

/-- What is said of a value that does not fit. -/
def Form.complaint : Form → Value → String
  | .list, .array _ | .list, .tables _ => "expected strings"
  | .list, _ => "expected a string or an array of strings"
  | .choice _, .text s => "'" ++ s ++ "' is not a recognised value"
  | .choice _, _ | .text, _ => "expected a string"
  | .length, _ => "expected a positive integer"
  | .flag, _ => "expected true or false"

/-- A key of the configuration file. -/
structure Key where
  name : String
  form : Form
deriving DecidableEq, Repr

/-- The keys that are always looked at, in that order. -/
def settingKeys : List Key :=
  [⟨"repo", .list⟩, ⟨"exclude", .list⟩, ⟨"listen-addr", .text⟩,
    ⟨"env", .choice (Choice.accepted Environment)⟩, ⟨"staging-dir", .text⟩,
    ⟨"expected-host", .text⟩, ⟨"clone-backend", .choice (Choice.accepted Fetch.CloneBackend)⟩,
    ⟨"folder-naming", .choice (Choice.accepted Repository.FolderNaming)⟩,
    ⟨"report-format", .choice (Choice.accepted Report.ReportFormat)⟩, ⟨"report-file", .text⟩,
    ⟨"diagram-api-key", .text⟩, ⟨"diagram-base-url", .text⟩, ⟨"diagram-folder-id", .text⟩,
    ⟨"log-level", .text⟩, ⟨"log-format", .choice (Choice.accepted Logging.LogFormat)⟩,
    ⟨"log-file", .text⟩, ⟨"max-line-length", .length⟩]

def colorKeys : List Key := [⟨"color", .flag⟩, ⟨"no-color", .flag⟩]

/-- The keys that are looked at. Those on colors stay closed if a color flag was given. -/
def keysFor (withColors : Bool) : List Key :=
  settingKeys ++ if withColors then colorKeys else []

/-- Whether the value under a key, if there is one, has the form that the key takes. -/
def Key.fits (key : Key) (t : Table) : Bool := (t.get? key.name).all key.form.fits

/-- Refuses a value that does not fit. -/
def verdict (t : Table) (key : Key) : Except ConfigError Unit :=
  match t.get? key.name with
  | none => .ok ()
  | some v =>
    if key.form.fits v then .ok ()
    else .error (.invalidValue key.name (key.form.complaint v))

/-! ## What a table says under a key -/

section Said

variable (t : Table) (key : String)

def saidText : Option String := (t.get? key).bind textOf?

def saidPath : Option Path := (saidText t key).map Path.ofString

def saidChoice (α : Type) [Choice α] : Option α := (saidText t key).bind Choice.ofName?

def saidFlag : Option Bool :=
  match t.get? key with
  | some (.boolean b) => some b
  | _ => none

def saidLength : Option Nat :=
  match t.get? key with
  | some (.integer n) => some n.toNat
  | _ => none

/-- The texts of a list, whether it is written as one text or as an array. -/
def saidTexts : List String :=
  match t.get? key with
  | some (.text s) => [s]
  | some (.array items) => items.filterMap textOf?
  | _ => []

def saidList : List String := (saidTexts t key).flatMap listEntries

end Said

/-- All that a table says. -/
def said (withColors : Bool) (t : Table) : Options where
  repos := saidList t "repo"
  noServer := false
  configFile := none
  listenAddr := saidText t "listen-addr"
  environment := saidChoice t "env" _
  stagingDir := saidPath t "staging-dir"
  expectedHost := saidText t "expected-host"
  cloneBackend := saidChoice t "clone-backend" _
  folderNaming := saidChoice t "folder-naming" _
  maxLineLength := saidLength t "max-line-length"
  exclude := saidList t "exclude"
  reportFormat := saidChoice t "report-format" _
  reportFile := saidPath t "report-file"
  diagramApiKey := saidText t "diagram-api-key"
  diagramBaseUrl := saidText t "diagram-base-url"
  diagramFolderId := saidText t "diagram-folder-id"
  logLevel := saidText t "log-level"
  logFormat := saidChoice t "log-format" _
  logFile := saidPath t "log-file"
  color := withColors && (saidFlag t "color").getD false
  noColor := withColors && (saidFlag t "no-color").getD false

/-! ## Reading is judging and then taking -/

/-- Takes what a key says, once its value was judged. -/
def judged {α : Type} (t : Table) (key : Key) (a : α) : Except ConfigError α :=
  verdict t key >>= fun _ => pure a

section Judged

variable {t : Table} {name : String} {form : Form} {α : Type} {a : α} {v : Value}

theorem judged_of_none (h : t.get? name = none) : judged t ⟨name, form⟩ a = .ok a := by
  rw [judged, verdict, h]
  rfl

theorem judged_of_fits (h : t.get? name = some v) (form : Form) (fits : form.fits v = true) :
    judged t ⟨name, form⟩ a = .ok a := by
  simp only [judged, verdict, h, fits, if_true]
  rfl

theorem judged_of_unfit (h : t.get? name = some v) (form : Form) (unfit : form.fits v = false) :
    judged t ⟨name, form⟩ a = .error (.invalidValue name (form.complaint v)) := by
  simp only [judged, verdict, h, unfit, Bool.false_eq_true, if_false]
  rfl

end Judged

section Reading

variable (t : Table) (key : String)

theorem isSome_ofName? (α : Type) [Choice α] (s : String) :
    (Choice.ofName? s : Option α).isSome = (Choice.accepted α).contains s := by
  rw [Bool.eq_iff_iff, Choice.ofName?, List.find?_isSome, List.contains_iff_mem, Choice.accepted]
  simp only [Bool.or_eq_true, decide_eq_true_eq, List.mem_flatMap, List.mem_cons,
    Option.mem_toList, @eq_comm _ s]

theorem mapM_textOf? (items : List Value) : items.mapM textOf? =
    if items.all fun item => (textOf? item).isSome then some (items.filterMap textOf?)
    else none := by
  induction items with
  | nil => rfl
  | cons item rest ih =>
    rw [List.mapM_cons, ih, List.all_cons, List.filterMap_cons]
    cases textOf? item with
    | none => rfl
    | some s => cases rest.all fun item => (textOf? item).isSome <;> rfl

theorem textAt_eq : textAt t key = judged t ⟨key, .text⟩ (saidText t key) := by
  rw [judged, verdict, textAt, saidText]
  cases t.get? key with
  | none => rfl
  | some v => cases v <;> rfl

theorem pathAt_eq : pathAt t key = judged t ⟨key, .text⟩ (saidPath t key) := by
  rw [pathAt, textAt_eq, saidPath, judged, judged]
  cases verdict t ⟨key, .text⟩ <;> rfl

theorem choiceAt_eq (α : Type) [Choice α] :
    choiceAt t key = judged t ⟨key, .choice (Choice.accepted α)⟩ (saidChoice t key α) := by
  rw [choiceAt, textAt_eq, saidChoice]
  cases h : t.get? key with
  | none => simp [judged_of_none h, saidText, h]
  | some v =>
    cases v with
    | text s =>
      have known := isSome_ofName? α s
      rw [judged_of_fits h .text rfl, saidText, h, Option.bind_some, textOf?]
      cases found : (Choice.ofName? s : Option α) with
      | none =>
        rw [found] at known
        simp [judged_of_unfit h (.choice _) known.symm, found, Form.complaint]
      | some a =>
        rw [found] at known
        simp [judged_of_fits h (.choice _) known.symm, found]
    | _ => simp [judged_of_unfit h (.choice _) rfl, judged_of_unfit h .text rfl, Form.complaint]

theorem flagAt_eq : flagAt t key = judged t ⟨key, .flag⟩ (saidFlag t key) := by
  rw [judged, verdict, flagAt, saidFlag]
  cases t.get? key with
  | none => rfl
  | some v => cases v <;> rfl

theorem lengthAt_eq : lengthAt t key = judged t ⟨key, .length⟩ (saidLength t key) := by
  rw [lengthAt, saidLength]
  cases h : t.get? key with
  | none => rw [judged_of_none h]
  | some v =>
    cases v with
    | integer n =>
      by_cases positive : 0 < n
      · simp only [positive, if_true, judged_of_fits h .length (decide_eq_true positive)]
      · simp only [positive, if_false, judged_of_unfit h .length (decide_eq_false positive),
          Form.complaint]
    | _ => simp only [judged_of_unfit h .length rfl, Form.complaint]

theorem listAt_eq : listAt t key = judged t ⟨key, .list⟩ (saidList t key) := by
  rw [listAt, saidList, saidTexts]
  cases h : t.get? key with
  | none => rw [judged_of_none h, List.flatMap_nil]
  | some v =>
    cases v with
    | text s => simp [judged_of_fits h .list rfl]
    | array items =>
      cases texts : items.all fun item => (textOf? item).isSome with
      | true => simp [mapM_textOf?, texts, judged_of_fits h .list texts]
      | false => simp [mapM_textOf?, texts, judged_of_unfit h .list texts, Form.complaint]
    | _ => simp [judged_of_unfit h .list rfl, Form.complaint]

end Reading

/-- A table is judged key by key and then taken as a whole. -/
theorem ofTable_eq (withColors : Bool) (t : Table) : Options.ofTable withColors t =
    forM (keysFor withColors) (verdict t) >>= fun _ => pure (said withColors t) := by
  simp only [Options.ofTable, listAt_eq, textAt_eq, pathAt_eq, choiceAt_eq, flagAt_eq,
    lengthAt_eq, judged, bind_assoc, pure_bind, keysFor, settingKeys, colorKeys]
  cases withColors <;>
  · simp only [List.cons_append, List.nil_append, List.forM_cons, List.forM_nil, bind_assoc,
      pure_bind, Bool.false_eq_true, if_true, if_false]
    rfl

section Verdicts

variable {t : Table} {keys : List Key}

theorem verdict_of_fits {key : Key} (h : key.fits t = true) : verdict t key = .ok () := by
  rw [verdict]
  rw [Key.fits] at h
  cases found : t.get? key.name with
  | none => rfl
  | some v =>
    rw [found] at h
    exact if_pos h

theorem verdict_of_unfit {key : Key} (h : key.fits t = false) :
    ∃ v, t.get? key.name = some v ∧ key.form.fits v = false ∧
      verdict t key = .error (.invalidValue key.name (key.form.complaint v)) := by
  rw [verdict]
  rw [Key.fits] at h
  cases found : t.get? key.name with
  | none =>
    rw [found] at h
    cases h
  | some v =>
    rw [found] at h
    exact ⟨v, rfl, h, if_neg (Bool.eq_false_iff.mp h)⟩

/-- Judging stops at the first value that does not fit. -/
theorem verdicts_cases (t : Table) (keys : List Key) :
    (forM keys (verdict t) = .ok () ∧ ∀ key ∈ keys, key.fits t = true) ∨
    ∃ before key after v, keys = before ++ key :: after ∧
      (∀ earlier ∈ before, earlier.fits t = true) ∧ t.get? key.name = some v ∧
      key.form.fits v = false ∧
      forM keys (verdict t) = .error (.invalidValue key.name (key.form.complaint v)) := by
  induction keys with
  | nil => exact .inl ⟨rfl, List.forall_mem_nil _⟩
  | cons key rest ih =>
    rw [List.forM_cons]
    cases h : key.fits t with
    | false =>
      obtain ⟨v, found, unfit, judged⟩ := verdict_of_unfit h
      refine .inr ⟨[], key, rest, v, rfl, List.forall_mem_nil _, found, unfit, ?_⟩
      rw [judged]
      rfl
    | true =>
      rw [verdict_of_fits h]
      obtain ⟨judged, fits⟩ | ⟨before, bad, after, v, rfl, fits, found, unfit, judged⟩ := ih
      · exact .inl ⟨judged, List.forall_mem_cons.mpr ⟨h, fits⟩⟩
      · exact .inr ⟨key :: before, bad, after, v, rfl, List.forall_mem_cons.mpr ⟨h, fits⟩, found,
          unfit, judged⟩

end Verdicts

/-- A table is taken in if all that is looked at fits; otherwise the first value that does not is
named. -/
theorem withTable_cases (o : Options) (t : Table) :
    (o.withTable t = .ok (o.over (said (!o.hasColorFlag) t)) ∧
      ∀ key ∈ keysFor (!o.hasColorFlag), key.fits t = true) ∨
    ∃ before key after v, keysFor (!o.hasColorFlag) = before ++ key :: after ∧
      (∀ earlier ∈ before, earlier.fits t = true) ∧ t.get? key.name = some v ∧
      key.form.fits v = false ∧
      o.withTable t = .error (.invalidValue key.name (key.form.complaint v)) := by
  rw [Options.withTable, ofTable_eq]
  obtain ⟨judged, fits⟩ | ⟨before, key, after, v, listed, fits, found, unfit, judged⟩ :=
    verdicts_cases t (keysFor (!o.hasColorFlag))
  · exact .inl ⟨by rw [judged]; rfl, fits⟩
  · exact .inr ⟨before, key, after, v, listed, fits, found, unfit, by rw [judged]; rfl⟩

end ImportWeights.Settings
