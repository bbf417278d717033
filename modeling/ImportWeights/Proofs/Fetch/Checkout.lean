import ImportWeights.Fetch.Cloner
import ImportWeights.Proofs.Files.Joined
import ImportWeights.Proofs.Repository.Breaking

/-! # What a clone that succeeded stands for

A cloner that runs a program answers from three things: whether a checkout is at the destination,
how the program ended, and a phrase in its error text. The first two are facts. The phrase is
searched for in free text, which may hold it for other reasons, such as the URL that it quotes; so
a destination may be called present that is missing or empty, and that is the only way. -/

namespace ImportWeights.Fetch

open ImportWeights.Files

/-- The program, run for a clone, ends as it should. -/
def Program.Succeeds (program : Program) (files : FileTree) (url : String) (dest : Path) : Prop :=
  ∃ run, program.start files (cloneArguments url dest) = .ok run ∧ run.status = .code 0

/-- The program, run for a clone, fails, and its error text holds the phrase. -/
def Program.SaysPresent (program : Program) (files : FileTree) (url : String) (dest : Path) :
    Prop :=
  ∃ run, program.start files (cloneArguments url dest) = .ok run ∧ run.status ≠ .code 0 ∧
    existsPhrase <:+: (Text.trim (Text.Utf8.lossyString run.stderr)).toList

variable {program : Program} {files : FileTree} {url : String} {dest : Path}

theorem occursIn_iff {part cs : List Char} : occursIn part cs = true ↔ part <:+: cs :=
  Repository.isSome_breakAt_iff

theorem checkoutName_proper : ProperName checkoutName.bytes := by decide +kernel

/-- A destination with a checkout holds at least that. -/
theorem isOccupied_of_hasCheckout (hdest : dest.bytes ≠ [])
    (h : hasCheckout files dest = true) : files.isOccupied dest = true := by
  refine FileTree.isOccupied_of_pathExists hdest checkoutName_proper ?_
  have same : Path.ofNames [checkoutName.bytes] = checkoutName :=
    congrArg Files.Path.mk (Path.ofNames_singleton _)
  rw [same]
  exact h

theorem ProgramRun.answer_cloned_iff {run : ProgramRun} :
    run.answer = .done .cloned ↔ run.status = .code 0 := by
  unfold ProgramRun.answer
  split
  · simp [*]
  · dsimp only
    split <;> simp [*]

theorem ProgramRun.answer_present_iff {run : ProgramRun} :
    run.answer = .done .alreadyExists ↔ run.status ≠ .code 0 ∧
      existsPhrase <:+: (Text.trim (Text.Utf8.lossyString run.stderr)).toList := by
  unfold ProgramRun.answer
  split
  · simp [*]
  · dsimp only
    rw [← occursIn_iff]
    split <;> simp [*]

theorem clone_of_checkout (h : hasCheckout files dest = true) :
    ((programCloner program).clone files url dest).1 = .done .alreadyExists := by
  simp [programCloner, h]

theorem clone_of_unstarted (h : hasCheckout files dest = false) {e : OsError}
    (unstarted : program.start files (cloneArguments url dest) = .error e) :
    ((programCloner program).clone files url dest).1 = .failed (.spawn program.name e) := by
  simp [programCloner, h, unstarted]

theorem clone_of_run (h : hasCheckout files dest = false) {run : ProgramRun}
    (started : program.start files (cloneArguments url dest) = .ok run) :
    ((programCloner program).clone files url dest).1 = run.answer := by
  simp [programCloner, h, started]

/-- A clone was made if the program was run and ended as it should. -/
theorem clone_cloned_iff : ((programCloner program).clone files url dest).1 = .done .cloned ↔
    hasCheckout files dest = false ∧ program.Succeeds files url dest := by
  unfold Program.Succeeds
  cases checkout : hasCheckout files dest with
  | true => simp [clone_of_checkout checkout]
  | false =>
    cases started : program.start files (cloneArguments url dest) with
    | error e => simp [clone_of_unstarted checkout started]
    | ok run => simp [clone_of_run checkout started, ProgramRun.answer_cloned_iff]

/-- A destination is called present if it holds a checkout, or if the program says so. -/
theorem clone_present_iff :
    ((programCloner program).clone files url dest).1 = .done .alreadyExists ↔
      hasCheckout files dest = true ∨
        hasCheckout files dest = false ∧ program.SaysPresent files url dest := by
  unfold Program.SaysPresent
  cases checkout : hasCheckout files dest with
  | true => simp [clone_of_checkout checkout]
  | false =>
    cases started : program.start files (cloneArguments url dest) with
    | error e => simp [clone_of_unstarted checkout started]
    | ok run => simp [clone_of_run checkout started, ProgramRun.answer_present_iff]

/-- Success is answered if the program was run and ended as it should, if a checkout was at the
destination before, which then held an entry, or if the program failed with the phrase in its
error text. So success stands for a program that succeeded or for a destination that held an
entry, exactly if the phrase is only said of destinations that hold one; and so it is with
destinations that are called present. -/
theorem success_is_true_iff (program : Program) (files : FileTree) (url : String) (dest : Path)
    (hdest : dest.bytes ≠ []) :
    let answer := ((programCloner program).clone files url dest).1
    let occupied := files.isOccupied dest = true
    (answer = .done .cloned ↔
      hasCheckout files dest = false ∧ program.Succeeds files url dest) ∧
    (answer = .done .alreadyExists ↔ hasCheckout files dest = true ∨
      hasCheckout files dest = false ∧ program.SaysPresent files url dest) ∧
    (hasCheckout files dest = true → occupied) ∧
    (((∃ status, answer = .done status) → program.Succeeds files url dest ∨ occupied) ↔
      (program.SaysPresent files url dest → occupied)) ∧
    ((answer = .done .alreadyExists → occupied) ↔
      (program.SaysPresent files url dest → occupied)) := by
  intro answer occupied
  have held : hasCheckout files dest = true → occupied := isOccupied_of_hasCheckout hdest
  have apart : program.SaysPresent files url dest → ¬ program.Succeeds files url dest := by
    rintro ⟨run, started, failed, -⟩ ⟨other, same, succeeded⟩
    rw [started] at same
    cases same
    exact failed succeeded
  have said : program.SaysPresent files url dest → ¬ occupied → answer = .done .alreadyExists := by
    intro phrase vacant
    have unheld : hasCheckout files dest = false := by simpa using mt held vacant
    exact clone_present_iff.mpr (.inr ⟨unheld, phrase⟩)
  have present : answer = .done .alreadyExists → (program.SaysPresent files url dest → occupied) →
      occupied := by
    intro exists_ truthful
    rcases clone_present_iff.mp exists_ with checkout | ⟨-, phrase⟩
    · exact held checkout
    · exact truthful phrase
  refine ⟨clone_cloned_iff, clone_present_iff, held, ⟨?_, ?_⟩, ⟨?_, fun h e => present e h⟩⟩
  · intro honest phrase
    by_contra vacant
    exact (honest ⟨_, said phrase vacant⟩).elim (apart phrase) vacant
  · rintro truthful ⟨status, success⟩
    cases status with
    | cloned => exact .inl (clone_cloned_iff.mp success).2
    | alreadyExists => exact .inr (present success truthful)
  · intro honest phrase
    by_contra vacant
    exact vacant (honest (said phrase vacant))

/-! ## A truthful program and one that quotes -/

/-- A program that fails for whatever destination, and says that it is there. -/
def refusingProgram : Program :=
  ⟨"git", fun files _ => .ok ⟨.code 128,
    Text.Utf8.ofString "fatal: destination path already exists", files⟩⟩

/-- A program that finds no repository, and quotes the URL that it was given. -/
def quotingProgram : Program :=
  ⟨"git", fun files arguments => .ok ⟨.code 128,
    Text.Utf8.ofString ("fatal: repository '" ++ arguments[3]?.getD "" ++ "' not found"), files⟩⟩

/-- A directory `y` with a file in it, and none at all. -/
def leftoverFiles : FileTree := ⟨.dir [([121], .dir [([109], .file [])])], []⟩
def noFiles : FileTree := ⟨.dir [], []⟩

theorem leftoverFiles_occupied : leftoverFiles.isOccupied ⟨[47, 121]⟩ = true := by
  simp [leftoverFiles, FileTree.isOccupied, FileTree.node, FileTree.locate, FileTree.steps,
    FileTree.walk, Path.names, Path.separator, Path.isAbsolute, Path.currentName,
    Path.parentName, Text.pieces, Node.at?, Node.child?, Node.entries, maxPathLength,
    maxNameLength]

theorem noFiles_vacant : noFiles.isOccupied ⟨[47, 121]⟩ = false := by
  simp [noFiles, FileTree.isOccupied, FileTree.node, FileTree.locate, FileTree.steps,
    FileTree.walk, Path.names, Path.separator, Path.isAbsolute, Path.currentName,
    Path.parentName, Text.pieces, Node.at?, Node.child?, Node.entries, maxPathLength,
    maxNameLength]

/-- Of a directory with files in it the phrase is true, so success is, too. -/
theorem success_is_true_iff_leftover :
    let dest : Path := ⟨[47, 121]⟩
    let answer := ((programCloner refusingProgram).clone leftoverFiles "u" dest).1
    dest.bytes ≠ [] ∧ refusingProgram.SaysPresent leftoverFiles "u" dest ∧
      ((∃ status, answer = .done status) →
        refusingProgram.Succeeds leftoverFiles "u" dest ∨ leftoverFiles.isOccupied dest = true) := by
  intro dest answer
  have nonempty : dest.bytes ≠ [] := by decide
  obtain ⟨-, -, -, honest, -⟩ := success_is_true_iff refusingProgram leftoverFiles "u" dest nonempty
  have started : refusingProgram.start leftoverFiles (cloneArguments "u" dest) =
      .ok ⟨.code 128, Text.Utf8.ofString "fatal: destination path already exists",
        leftoverFiles⟩ := by
    rw [Program.start, if_neg (by decide)]
    rfl
  refine ⟨nonempty, ⟨_, started, by simp, ?_⟩, honest.mpr fun _ => leftoverFiles_occupied⟩
  rw [← occursIn_iff]
  decide +kernel

/-- A URL that holds the phrase makes a clone succeed that never came about. -/
theorem quoted_phrase_is_success :
    ¬ ∀ (program : Program) (files : FileTree) (url : String) (dest : Path), dest.bytes ≠ [] →
      (∃ status, ((programCloner program).clone files url dest).1 = .done status) →
        program.Succeeds files url dest ∨ files.isOccupied dest = true := by
  intro h
  have unheld : hasCheckout noFiles ⟨[47, 121]⟩ = false := by
    rw [← Bool.not_eq_true]
    intro held
    exact Bool.false_ne_true (noFiles_vacant.symm.trans (isOccupied_of_hasCheckout (by decide) held))
  have started : quotingProgram.start noFiles
      (cloneArguments "https://github.com/x/already exists" ⟨[47, 121]⟩) =
        .ok ⟨.code 128, Text.Utf8.ofString
          "fatal: repository 'https://github.com/x/already exists' not found", noFiles⟩ := by
    rw [Program.start, if_neg (by decide)]
    rfl
  have answer : ((programCloner quotingProgram).clone noFiles "https://github.com/x/already exists"
      ⟨[47, 121]⟩).1 = .done .alreadyExists := by
    rw [clone_of_run unheld started, ProgramRun.answer_present_iff, ← occursIn_iff]
    decide +kernel
  rcases h _ _ _ _ (by decide) ⟨_, answer⟩ with ⟨run, same, succeeded⟩ | occupied
  · rw [started] at same
    cases same
    cases succeeded
  · exact Bool.false_ne_true (noFiles_vacant.symm.trans occupied)

end ImportWeights.Fetch
