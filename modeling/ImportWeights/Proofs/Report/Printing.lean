import ImportWeights.Proofs.Text.Ascii
import ImportWeights.Report.Table

/-! The characters of a report in text form. Nothing but its folder, its URL and its keys can bring
a control character into it, be it an escape character or a line break. -/

namespace ImportWeights.Report

/-- No control character is in a text. -/
def isPlain (s : String) : Bool := s.toList.all fun c => 32 ≤ c.toNat

def Lacks (c : Char) (s : String) : Prop := c ∉ s.toList

variable {c : Char} {s t : String} {columns : Columns} {r : ScanReport}

@[simp] theorem isPlain_append : isPlain (s ++ t) = (isPlain s && isPlain t) := by
  simp [isPlain]

@[simp] theorem isPlain_toString (n : Nat) : isPlain (toString n) = true := by
  refine List.all_eq_true.mpr ?_
  intro c hc
  have digit : Text.isDigit c = true := Text.isDigit_of_mem_toDigits (by simpa using hc)
  have code := (Text.isDigit_iff.mp digit).1
  exact decide_eq_true (by omega)

theorem isPlain_replicate (h : 32 ≤ c.toNat) (n : Nat) :
    isPlain (String.ofList (List.replicate n c)) = true := by
  refine List.all_eq_true.mpr ?_
  intro d hd
  rw [String.toList_ofList] at hd
  exact decide_eq_true (List.eq_of_mem_replicate hd ▸ h)

@[simp] theorem isPlain_spaces (n : Nat) : isPlain (spaces n) = true :=
  isPlain_replicate (by decide) n

@[simp] theorem isPlain_padEnd (width : Nat) : isPlain (padEnd width s) = isPlain s := by
  simp [padEnd]

@[simp] theorem isPlain_padStart (width : Nat) : isPlain (padStart width s) = isPlain s := by
  simp [padStart]

theorem isPlain_separator (columns : Columns) : isPlain columns.separator = true := by
  have rule (n : Nat) : isPlain (String.ofList (List.replicate n '-')) = true :=
    isPlain_replicate (by decide) n
  simp only [Columns.separator, isPlain_append, rule, Bool.and_true]
  rfl

theorem isPlain_totals (r : ScanReport) : isPlain r.totals = true := by
  simp only [ScanReport.totals, isPlain_append, isPlain_toString, Bool.and_true, Bool.true_and]
  rfl

theorem Lacks.append (h : Lacks c s) (h' : Lacks c t) : Lacks c (s ++ t) := by
  rw [Lacks, String.toList_append, List.mem_append]
  exact not_or.mpr ⟨h, h'⟩

theorem lacks_of_isPlain (control : c.toNat < 32) (h : isPlain s = true) : Lacks c s := by
  intro hc
  have code := of_decide_eq_true (List.all_eq_true.mp h c hc)
  omega

theorem lacks_padEnd (control : c.toNat < 32) (width : Nat) (h : Lacks c s) :
    Lacks c (padEnd width s) :=
  h.append (lacks_of_isPlain control (isPlain_spaces _))

theorem lacks_tableRow (control : c.toNat < 32) (left : Lacks c s) (right : Lacks c t) :
    Lacks c (tableRow s t) := by
  have front := lacks_of_isPlain (s := "| ") control rfl
  have between := lacks_of_isPlain (s := " | ") control rfl
  have last := lacks_of_isPlain (s := " |") control rfl
  exact (((front.append left).append between).append right).append last

theorem lacks_headline (control : c.toNat < 32) (folder : Lacks c r.job.folder)
    (url : Lacks c r.job.url) : Lacks c r.headline := by
  have sequence := lacks_of_isPlain control (isPlain_toString r.job.sequence)
  have front := lacks_of_isPlain (s := "Import weights for ") control rfl
  have number := lacks_of_isPlain (s := " (job #") control rfl
  have comma := lacks_of_isPlain (s := ", ") control rfl
  have last := lacks_of_isPlain (s := ")") control rfl
  exact (((((front.append folder).append number).append sequence).append comma).append url).append
    last

/-- A report with a bar inside a key, a character of two bytes, and two equal weights. -/
def barredReport : ScanReport where
  job := ⟨"dimago", "https://github.com/foae/dimago", 3⟩
  weights := ⟨[("a:x | 7 |", 2), ("a:é", 12), ("b:fmt", 2)]⟩
  packages := 2
  filesScanned := 4
  completedAt := ⟨0, 0⟩
  duration := ⟨1, 500000000⟩

end ImportWeights.Report
