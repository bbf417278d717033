import ImportWeights.Text.Blank

/-! Trimming at both ends. What is cut off is made of cuttable characters only,
and what is left neither begins nor ends with one. -/

namespace ImportWeights.Text

variable {α : Type}

def trimEnd (p : α → Bool) (xs : List α) : List α :=
  (xs.reverse.dropWhile p).reverse

def trimBoth (p : α → Bool) (xs : List α) : List α :=
  trimEnd p (xs.dropWhile p)

/-- The text without blanks at its ends. -/
def trim (s : String) : String :=
  String.ofList (trimBoth isBlank s.toList)

theorem trimEnd_append (p : α → Bool) (xs : List α) :
    trimEnd p xs ++ (xs.reverse.takeWhile p).reverse = xs := by
  rw [trimEnd, ← List.reverse_append, List.takeWhile_append_dropWhile, List.reverse_reverse]

@[simp] theorem trimBoth_nil (p : α → Bool) : trimBoth p [] = [] := rfl

end ImportWeights.Text
