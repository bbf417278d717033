import ImportWeights.Proofs.Files.Joined
import ImportWeights.Proofs.Scan.Candidates
import ImportWeights.Proofs.Source.BoundedLine
import ImportWeights.Scan.Scanner

/-! # What one file does to a scan

A scan reads its candidates one after the other and keeps two lists. Each list is what the
files gave, file by file (`readAll_eq`), so a file that cannot be read takes nothing from the
others. Changing what one file holds changes neither the candidates nor what is read from a
file elsewhere. A link is read through, so a link to the changed file changes with it. -/

namespace ImportWeights.Scan

open ImportWeights.Files ImportWeights.Source

/-- What a scanner is to read. If it is refused a scan because there is nothing to be read, that
is nothing. -/
def Scanner.candidates (s : Scanner) (files : FileTree) (root : Path) :
    Except ScanError (List (List Name)) :=
  match collectCandidates s.filter files root with
  | .error (.noFilesFound _) => .ok []
  | answer => answer

/-- The record of a file with a closed import block. -/
def recordOf : Except FileError Outcome → Option PackageRecord
  | .ok (.complete record) => some record
  | _ => none

/-- What is told of a file that could not be read or whose import block is never closed. -/
def diagnosticOf (path : Path) : Except FileError Outcome → Option Diagnostic
  | .error e => some (.skipped e)
  | .ok (.unterminated package imports) => some (.unterminated path package imports)
  | .ok _ => none

/-- How reading files one by one ends, each file for itself. -/
def Scanner.readings (s : Scanner) (files : FileTree) (paths : List Path) :
    List (Path × Except FileError Outcome) :=
  paths.map fun path => (path, s.extractFile files path)

def recordsOf (readings : List (Path × Except FileError Outcome)) : List PackageRecord :=
  readings.filterMap fun reading => recordOf reading.2

def diagnosticsOf (readings : List (Path × Except FileError Outcome)) : List Diagnostic :=
  readings.filterMap fun reading => diagnosticOf reading.1 reading.2

variable {s : Scanner} {f : CandidateFilter} {files files' : FileTree} {root : Path} {n n' : Node}
  {place changed names : List Name} {found : List (List Name)}

theorem note_eq (sofar : Findings) (path : Path) (outcome : Except FileError Outcome) :
    sofar.note path outcome =
      ⟨sofar.packages ++ (recordOf outcome).toList,
        sofar.diagnostics ++ (diagnosticOf path outcome).toList⟩ := by
  cases outcome with
  | error e => simp [Findings.note, recordOf, diagnosticOf]
  | ok outcome => cases outcome <;> simp [Findings.note, recordOf, diagnosticOf]

theorem readings_cons (s : Scanner) (files : FileTree) (path : Path) (paths : List Path) :
    s.readings files (path :: paths) =
      (path, s.extractFile files path) :: s.readings files paths := rfl

theorem recordsOf_cons (reading : Path × Except FileError Outcome)
    (readings : List (Path × Except FileError Outcome)) :
    recordsOf (reading :: readings) = (recordOf reading.2).toList ++ recordsOf readings := by
  rw [recordsOf, List.filterMap_cons]
  cases recordOf reading.2 <;> rfl

theorem diagnosticsOf_cons (reading : Path × Except FileError Outcome)
    (readings : List (Path × Except FileError Outcome)) :
    diagnosticsOf (reading :: readings) =
      (diagnosticOf reading.1 reading.2).toList ++ diagnosticsOf readings := by
  rw [diagnosticsOf, List.filterMap_cons]
  cases diagnosticOf reading.1 reading.2 <;> rfl

/-- Nothing is carried from one file to the next but what was found before. -/
theorem readAll_eq (s : Scanner) (files : FileTree) (sofar : Findings) (paths : List Path) :
    s.readAll files sofar paths =
      ⟨sofar.packages ++ recordsOf (s.readings files paths),
        sofar.diagnostics ++ diagnosticsOf (s.readings files paths)⟩ := by
  induction paths generalizing sofar with
  | nil => simp [Scanner.readAll, Scanner.readings, recordsOf, diagnosticsOf]
  | cons path paths ih =>
    rw [Scanner.readAll, ih, note_eq, readings_cons, recordsOf_cons, diagnosticsOf_cons]
    simp only [List.append_assoc]

theorem collectCandidates_of_candidates (h : s.candidates files root = .ok found) :
    collectCandidates s.filter files root = .ok found ∧ found ≠ [] ∨
      found = [] ∧ ∃ e, collectCandidates s.filter files root = .error e := by
  rw [Scanner.candidates] at h
  split at h
  · rename_i refused
    exact .inr ⟨(Except.ok.inj h).symm, _, refused⟩
  · exact .inl ⟨h, ne_nil_of_collectCandidates h⟩

theorem scanTree_of_error {e : ScanError} (h : collectCandidates s.filter files root = .error e) :
    s.scanTree files root = ⟨.error e, [], [], []⟩ := by
  rw [Scanner.scanTree, h]

theorem scanTree_of_ok (h : collectCandidates s.filter files root = .ok found) :
    (s.scanTree files root).result =
        .ok ⟨recordsOf (s.readings files (found.map (pathBelow root))), found.length⟩ ∧
      (s.scanTree files root).diagnostics =
        diagnosticsOf (s.readings files (found.map (pathBelow root))) := by
  simp [Scanner.scanTree, h, readAll_eq, Findings.none]

/-! ## Another content -/

/-- What there is to meet is told by names and kinds alone. -/
theorem metBelow_sameBut (h : n.SameBut changed n') (f : CandidateFilter) (names : List Name) :
    metBelow f names n' = metBelow f names n := by
  induction h generalizing names with
  | file old new => rw [metBelow, metBelow]
  | @dir name rest n n' before after first below ih =>
    have hat : metAt f names (name, n') = metAt f names (name, n) := by
      rw [metAt, metAt, below.isDir_eq, ih]
    rw [metBelow, metBelow, metIn_eq_map, metIn_eq_map]
    simp only [List.map_append, List.map_cons, hat]

/-- And so is whether a directory can be listed. -/
theorem enter_sameBut (h : files.top.SameBut changed files'.top)
    (hcurrent : files'.current = files.current) (root : Path) (names : List Name) :
    enter files' root names = enter files root names := by
  have refused : ∀ cause, files'.list (walkPath root names) = .error cause ↔
      files.list (walkPath root names) = .error cause :=
    fun _ => FileTree.list_error_iff h hcurrent _
  rw [enter, enter]
  cases hlist : files.list (walkPath root names) with
  | error cause => rw [(refused cause).mpr hlist]
  | ok entries =>
    cases hlist' : files'.list (walkPath root names) with
    | error cause =>
      rw [(refused cause).mp hlist'] at hlist
      cases hlist
    | ok entries' => rfl

theorem walkBelow_sameBut (htop : files.top.SameBut changed files'.top)
    (hcurrent : files'.current = files.current) (f : CandidateFilter) (root : Path)
    (names : List Name) : walkBelow f files' root names n = walkBelow f files root names n := by
  have same : refusal? files' root = refusal? files root := by
    funext e
    rw [refusal?, refusal?, enter_sameBut htop hcurrent]
  rw [walkBelow_eq, walkBelow_eq, walkOver, walkOver, same]

theorem rootNode_cases (h : files.top.SameBut changed files'.top)
    (hcurrent : files'.current = files.current) (root : Path) :
    rootNode files' root = rootNode files root ∨ ∃ n n' rest,
      rootNode files root = .ok n ∧ rootNode files' root = .ok n' ∧ n.SameBut rest n' := by
  have hfollowed := FileTree.locate_cases h hcurrent root true
  unfold rootNode FileTree.nodeItself
  rcases FileTree.locate_cases h hcurrent root false with
    hsame | ⟨place, n, n', rest, hn, hn', -, hbelow⟩
  · rw [hsame]
    unfold FileTree.node
    rcases hfollowed with hsame' | ⟨place, n, n', rest, hn, hn', -, hbelow⟩
    · exact .inl (by rw [hsame'])
    · rw [hn, hn']
      split
      · exact .inl rfl
      · exact .inr ⟨n, n', rest, rfl, rfl, hbelow⟩
      · exact .inl rfl
  · rw [hn, hn']
    cases hbelow with
    | file old new => exact .inr ⟨_, _, _, rfl, rfl, .file old new⟩
    | dir after first below => exact .inr ⟨_, _, _, rfl, rfl, .dir after first below⟩

theorem collectCandidates_sameBut (h : files.top.SameBut changed files'.top)
    (hcurrent : files'.current = files.current) (f : CandidateFilter) (root : Path) :
    collectCandidates f files' root = collectCandidates f files root := by
  rw [collectCandidates, collectCandidates]
  simp only [walkBelow_sameBut h hcurrent]
  rcases rootNode_cases h hcurrent root with hsame | ⟨n, n', rest, hn, hn', hbelow⟩
  · rw [hsame]
  · have hwalk : walkBelow f files root [] n' = walkBelow f files root [] n := by
      rw [walkBelow_eq, walkBelow_eq, metBelow_sameBut hbelow]
    rw [hn, hn']
    change (walkBelow f files root [] n').bind _ = (walkBelow f files root [] n).bind _
    rw [hwalk]

/-- A candidate that is not the file at a place, nor a link that leads there. The names go down
from the node that the root of the scan leads to. -/
structure Apart (files : FileTree) (root : Path) (place changed : List Name) (top : Node)
    (names : List Name) : Prop where
  other : place ++ names ≠ changed
  unlinked : ∀ target, top.at? names = some (.link target) →
    ¬ files.LeadsTo (pathBelow root names) changed

theorem Apart.not_leadsTo {top : Node} (apart : Apart files root place changed top names)
    (hroot : files.locate root true = .ok (.found place top)) (hdir : top.isDir = true)
    (proper : top.Proper) (leaf : top.HasLeaf names) :
    ¬ files.LeadsTo (pathBelow root names) changed := by
  obtain ⟨node, hnode, hleaf⟩ := leaf
  by_cases linked : ∃ target, node = .link target
  · obtain ⟨target, rfl⟩ := linked
    exact apart.unlinked target hnode
  · intro hleads
    have hplace := FileTree.place_of_leadsTo_join hroot hdir (proper.properNames hnode) hnode
      (not_exists.mp linked) hleads
    exact apart.other hplace.symm

/-- Another content of one file leaves what is read of the candidates apart from it. -/
theorem readings_of_apart {top : Node} {others : List (List Name)} (proper : files.top.Proper)
    (hroot : files.locate root true = .ok (.found place top))
    (hsame : files.top.SameBut changed files'.top) (hcurrent : files'.current = files.current)
    (hfound : collectCandidates f files root = .ok found) (hothers : others.Sublist found)
    (hapart : ∀ names ∈ others, Apart files root place changed top names) :
    s.readings files' (others.map (pathBelow root)) =
      s.readings files (others.map (pathBelow root)) := by
  obtain ⟨hdir, rfl⟩ := eq_candidatesBelow (FileTree.node_ok_iff.mpr ⟨place, hroot⟩) hfound
  have htop : top.Proper := proper.at? (FileTree.at?_of_walk (FileTree.locate_ok_iff.mp hroot).2)
  rw [Scanner.readings, Scanner.readings, List.map_map, List.map_map]
  refine List.map_congr_left ?_
  intro names hnames
  have hread := (toRead_iff_mem htop).mpr (hothers.mem hnames)
  have hother := (hapart names hnames).not_leadsTo hroot hdir htop hread.entry
  rw [Function.comp_apply, Function.comp_apply, Scanner.extractFile, Scanner.extractFile,
    FileTree.read_eq_of_not_leadsTo hsame hcurrent hother]

/-- A scan fails exactly if there is nothing to read, and then it tells nothing. Otherwise its
records and what it tells are those of its candidates, each for itself and in their order.
Another content of one file leaves the candidates as they are, and with them all that the others
give, but for the links that lead to that file. -/
theorem scanTree_confines (s : Scanner) (files : FileTree) (root : Path) :
    (∀ e, (s.scanTree files root).result = .error e ↔
      collectCandidates s.filter files root = .error e) ∧
    (∀ e, (s.scanTree files root).result = .error e → (s.scanTree files root).diagnostics = []) ∧
    ∀ found, collectCandidates s.filter files root = .ok found →
      (s.scanTree files root).result =
        .ok ⟨recordsOf (s.readings files (found.map (pathBelow root))), found.length⟩ ∧
      (s.scanTree files root).diagnostics =
        diagnosticsOf (s.readings files (found.map (pathBelow root))) ∧
      ∀ (files' : FileTree) (place changed : List Name) (top : Node), files.top.Proper →
        files.locate root true = .ok (.found place top) →
        files.top.SameBut changed files'.top → files'.current = files.current →
        collectCandidates s.filter files' root = .ok found ∧
        ∀ others : List (List Name), others.Sublist found →
          (∀ names ∈ others, Apart files root place changed top names) →
          s.readings files' (others.map (pathBelow root)) =
            s.readings files (others.map (pathBelow root)) := by
  refine ⟨?_, ?_, ?_⟩
  · intro e
    cases hcollect : collectCandidates s.filter files root with
    | error e' => simp [scanTree_of_error hcollect]
    | ok found => simp [(scanTree_of_ok hcollect).1]
  · intro e he
    cases hcollect : collectCandidates s.filter files root with
    | error e' => rw [scanTree_of_error hcollect]
    | ok found =>
      rw [(scanTree_of_ok hcollect).1] at he
      cases he
  · intro found hfound
    obtain ⟨hresult, hdiagnostics⟩ := scanTree_of_ok hfound
    refine ⟨hresult, hdiagnostics, ?_⟩
    intro files' place changed top proper hroot hsame hcurrent
    refine ⟨(collectCandidates_sameBut hsame hcurrent s.filter root).trans hfound, ?_⟩
    intro others hothers hapart
    exact readings_of_apart proper hroot hsame hcurrent hfound hothers hapart

/-! ## Links in a checkout -/

/-- `a.go` with some content, `b.go`, a link to it, and `c.go`, whose block stays open. -/
def linkedCheckout (content : List UInt8) : FileTree :=
  ⟨.dir [([97, 46, 103, 111], .file content), ([98, 46, 103, 111], .link ⟨[97, 46, 103, 111]⟩),
    ([99, 46, 103, 111], .file (Text.Utf8.ofString "import ("))], []⟩

theorem linkedCheckout_proper (content : List UInt8) : (linkedCheckout content).top.Proper := by
  simp [linkedCheckout, properName_iff, Path.separator, Path.currentName, Path.parentName]

theorem linkedCheckout_sameBut (old new : List UInt8) :
    (linkedCheckout old).top.SameBut [[97, 46, 103, 111]] (linkedCheckout new).top :=
  @Node.SameBut.dir _ _ _ _ [] _ List.not_mem_nil (.file old new)

theorem linkedCheckout_current (old new : List UInt8) :
    (linkedCheckout new).current = (linkedCheckout old).current := rfl

theorem linkedCheckout_candidates (content : List UInt8) :
    collectCandidates ⟨[]⟩ (linkedCheckout content) ⟨[47]⟩ =
      .ok [[[97, 46, 103, 111]], [[98, 46, 103, 111]], [[99, 46, 103, 111]]] := by
  have hroot : (linkedCheckout content).node ⟨[47]⟩ = .ok (linkedCheckout content).top :=
    FileTree.node_ok_iff.mpr ⟨[], (linkedCheckout content).locate_separator true⟩
  exact collectCandidates_of_flat [[97, 46, 103, 111], [98, 46, 103, 111], [99, 46, 103, 111]]
    hroot (by simp [Node.isDir]) rfl (by decide)
    (by simp only [isCandidate_eq, isPruned_eq]; decide) (by simp)

theorem linkedCheckout_read (content : List UInt8) :
    (linkedCheckout content).read (pathBelow ⟨[47]⟩ [[98, 46, 103, 111]]) = .ok content ∧
      (linkedCheckout content).read (pathBelow ⟨[47]⟩ [[99, 46, 103, 111]]) =
        .ok (Text.Utf8.ofString "import (") := by
  constructor <;>
  simp [linkedCheckout, pathBelow, Path.join, Path.ofNames, FileTree.read, FileTree.node,
    FileTree.locate, FileTree.steps, FileTree.walk, Path.names, Path.separator, Path.isAbsolute,
    Text.pieces, Path.currentName, Path.parentName, Node.at?, Node.child?, Node.entries,
    maxPathLength, maxNameLength, maxLinks]

theorem scanTree_confines_linked :
    let s : Scanner := ⟨⟨[]⟩, 4096⟩
    let files := linkedCheckout (Text.Utf8.ofString "package x\nimport (\n)")
    let files' := linkedCheckout (Text.Utf8.ofString "package y\nimport (\n)")
    collectCandidates s.filter files' ⟨[47]⟩ =
        .ok [[[97, 46, 103, 111]], [[98, 46, 103, 111]], [[99, 46, 103, 111]]] ∧
      s.readings files' [pathBelow ⟨[47]⟩ [[99, 46, 103, 111]]] =
        s.readings files [pathBelow ⟨[47]⟩ [[99, 46, 103, 111]]] := by
  intro s files files'
  obtain ⟨-, -, hscan⟩ := scanTree_confines s files ⟨[47]⟩
  obtain ⟨-, -, hother⟩ := hscan _ (linkedCheckout_candidates _)
  obtain ⟨hsame, hothers⟩ := hother files' [] [[97, 46, 103, 111]] files.top
    (linkedCheckout_proper _) (FileTree.locate_separator _ _) (linkedCheckout_sameBut _ _)
    (linkedCheckout_current _ _)
  refine ⟨hsame, hothers [[[99, 46, 103, 111]]] (by simp) ?_⟩
  intro names hnames
  obtain rfl := List.mem_singleton.mp hnames
  exact ⟨by simp, by simp [files, linkedCheckout, Node.child?, Node.entries]⟩

/-- To leave the changed file apart is not enough: the record of a link that leads to it changes
as well. -/
theorem scanTree_reads_through_links :
    ¬ ∀ (s : Scanner) (files files' : FileTree) (root : Path) (place changed : List Name)
      (top : Node) (found : List (List Name)), files.top.Proper →
      files.locate root true = .ok (.found place top) →
      files.top.SameBut changed files'.top → files'.current = files.current →
      collectCandidates s.filter files root = .ok found →
      (∃ names ∈ found, place ++ names = changed) →
      let others := found.filter fun names => place ++ names ≠ changed
      recordsOf (s.readings files' (others.map (pathBelow root))) =
        recordsOf (s.readings files (others.map (pathBelow root))) := by
  intro h
  have hrecords := h ⟨⟨[]⟩, 4096⟩ (linkedCheckout (Text.Utf8.ofString "package x\nimport (\n)"))
    (linkedCheckout (Text.Utf8.ofString "package y\nimport (\n)")) ⟨[47]⟩ []
    [[97, 46, 103, 111]] _ _ (linkedCheckout_proper _)
    (FileTree.locate_separator _ _) (linkedCheckout_sameBut _ _) (linkedCheckout_current _ _)
    (linkedCheckout_candidates _)
    ⟨_, List.mem_cons_self, rfl⟩
  have hothers : ([[[97, 46, 103, 111]], [[98, 46, 103, 111]], [[99, 46, 103, 111]]] :
      List (List Name)).filter (fun names => [] ++ names ≠ [[97, 46, 103, 111]]) =
        [[[98, 46, 103, 111]], [[99, 46, 103, 111]]] := by decide
  have hopen : extract 4096 (Text.Utf8.ofString "import (") = .ok (.unterminated "" 0) :=
    (extract_eq_feedShort _ _).trans (by decide +kernel)
  have hold : extract 4096 (Text.Utf8.ofString "package x\nimport (\n)") =
      .ok (.complete ⟨"x", []⟩) :=
    (extract_eq_feedShort _ _).trans (by decide +kernel)
  have hnew : extract 4096 (Text.Utf8.ofString "package y\nimport (\n)") =
      .ok (.complete ⟨"y", []⟩) :=
    (extract_eq_feedShort _ _).trans (by decide +kernel)
  rw [hothers] at hrecords
  simp [Scanner.readings, recordsOf, Scanner.extractFile, linkedCheckout_read, outcomeOf, hopen,
    hold, hnew, recordOf] at hrecords

end ImportWeights.Scan
