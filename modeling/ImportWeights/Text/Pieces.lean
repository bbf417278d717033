/-! A list cut at a separator. Every separator ends a piece; what follows the last
one is a piece of its own only if it is not empty. The pieces, each followed by its
separator if it had one, concatenate to the list. -/

namespace ImportWeights.Text

variable {α : Type} [DecidableEq α]

/-- The pieces of a list, each with whether a separator ended it. -/
def pieces (separator : α) (xs : List α) : List (List α × Bool) :=
  xs.foldr (fun x rest =>
    if x = separator then ([], true) :: rest
    else match rest with
      | [] => [([x], false)]
      | (piece, ended) :: more => (x :: piece, ended) :: more) []

@[simp] theorem pieces_nil (separator : α) : pieces separator [] = [] := rfl

@[simp] theorem pieces_cons_self (separator : α) (xs : List α) :
    pieces separator (separator :: xs) = ([], true) :: pieces separator xs := by
  simp [pieces]

/-- The pieces between separators; there is always one. -/
def splitAt (separator : α) : List α → List (List α)
  | [] => [[]]
  | x :: rest =>
    if x = separator then [] :: splitAt separator rest
    else match splitAt separator rest with
      | [] => [[x]]
      | piece :: more => (x :: piece) :: more

/-- Without one `x` at its end. -/
def dropTrailing (x : α) (xs : List α) : List α :=
  if xs.getLast? = some x then xs.dropLast else xs

/-- The lines of a text: cut at line feeds, with one carriage return before a line feed
removed. -/
def lines (text : List Char) : List (List Char) :=
  (pieces '\n' text).map fun p => if p.2 then dropTrailing '\r' p.1 else p.1

end ImportWeights.Text
