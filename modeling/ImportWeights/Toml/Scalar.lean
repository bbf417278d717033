import ImportWeights.Text.Ascii
import ImportWeights.Text.Pieces
import ImportWeights.Toml.Value

/-! Values that are one unquoted word: truth values, numbers, dates and times. -/

namespace ImportWeights.Toml

open ImportWeights.Text

/-- The digits of a number, in which single underscores may stand between two of them. -/
def groupedDigits? (isDigit : Char → Bool) (cs : List Char) : Option (List Char) :=
  let groups := splitAt '_' cs
  if groups.all fun g => g ≠ [] && g.all isDigit then some groups.flatten else none

/-- The digits of a whole number: no zero in front of others. -/
def wholeDigits? (cs : List Char) : Option (List Char) :=
  match groupedDigits? isDigit cs with
  | some ('0' :: _ :: _) => none
  | digits => digits

/-- A sign, if there is one, and what follows. -/
def splitSign : List Char → Bool × List Char
  | '-' :: rest => (true, rest)
  | '+' :: rest => (false, rest)
  | cs => (false, cs)

private def isOctalDigit (c : Char) : Bool := '0' ≤ c && c ≤ '7'
private def isBinaryDigit (c : Char) : Bool := c = '0' || c = '1'

/-- The largest integer. -/
def maxInteger : Nat := Nat.pow 2 63 - 1

private def ranged (negative : Bool) (n : Nat) : Option Value :=
  if negative then (if n ≤ maxInteger + 1 then some (.integer (-(n : Int))) else none)
  else if n ≤ maxInteger then some (.integer n)
  else none

/-- An integer, in decimal or after a mark that names another base. -/
def integer? (cs : List Char) : Option Value :=
  match cs with
  | '0' :: 'x' :: rest => (groupedDigits? isHexDigit rest).bind fun d =>
      ranged false (digitsValue 16 d)
  | '0' :: 'o' :: rest => (groupedDigits? isOctalDigit rest).bind fun d =>
      ranged false (digitsValue 8 d)
  | '0' :: 'b' :: rest => (groupedDigits? isBinaryDigit rest).bind fun d =>
      ranged false (digitsValue 2 d)
  | _ =>
    let (negative, rest) := splitSign cs
    (wholeDigits? rest).bind fun d => ranged negative (digitsValue 10 d)

/-- From here on a number is nearer to the double after the largest one. -/
def floatBound : Nat := Nat.pow 2 1024 - Nat.pow 2 970

/-- Whether `digits * 10 ^ exponent` is small enough for a double. -/
def fitsFloat (digits : List Char) (exponent : Int) : Bool :=
  let n := digitsValue 10 digits
  let size := (digits.dropWhile (· = '0')).length + exponent
  if n = 0 || size < 300 then true
  else if 320 < size then false
  else if 0 ≤ exponent then n * Nat.pow 10 exponent.toNat < floatBound
  else n < floatBound * Nat.pow 10 (-exponent).toNat

/-- The exponent after its letter. -/
private def exponent? (cs : List Char) : Option Int :=
  let (negative, rest) := splitSign cs
  (groupedDigits? isDigit rest).map fun d =>
    let n : Int := digitsValue 10 d
    if negative then -n else n

private def isExponentMark (c : Char) : Bool := c = 'e' || c = 'E'

/-- A float: a fraction, an exponent, or both. -/
def float? (cs : List Char) : Option Value :=
  let unsigned := (splitSign cs).2
  if unsigned = "inf".toList || unsigned = "nan".toList then some (.float (String.ofList cs))
  else
    let mantissa := unsigned.takeWhile fun c => !isExponentMark c
    let exponent := match unsigned.dropWhile fun c => !isExponentMark c with
      | [] => some 0
      | _ :: rest => exponent? rest
    let digits := match splitAt '.' mantissa with
      | [whole] =>
        if mantissa.length = unsigned.length then none
        else (wholeDigits? whole).map fun d => (d, 0)
      | [whole, fraction] =>
        match wholeDigits? whole, groupedDigits? isDigit fraction with
        | some w, some f => some (w ++ f, f.length)
        | _, _ => none
      | _ => none
    match digits, exponent with
    | some (d, places), some e =>
      if fitsFloat d (e - places) then some (.float (String.ofList cs)) else none
    | _, _ => none

/-! Dates and times -/

/-- A number of so many digits, up to a limit, and what follows. -/
private def field? (width low high : Nat) (cs : List Char) : Option (Nat × List Char) :=
  let digits := cs.take width
  let n := digitsValue 10 digits
  if digits.length = width && digits.all isDigit && low ≤ n && n ≤ high then
    some (n, cs.drop width)
  else none

private def mark? (c : Char) : List Char → Option (List Char)
  | d :: rest => if d = c then some rest else none
  | [] => none

def daysInMonth (year month : Nat) : Nat :=
  if month = 2 then
    if year % 4 = 0 && (year % 100 ≠ 0 || year % 400 = 0) then 29 else 28
  else if month = 4 || month = 6 || month = 9 || month = 11 then 30
  else 31

/-- What follows a date. -/
def afterDate? (cs : List Char) : Option (List Char) := do
  let (year, cs) ← field? 4 0 9999 cs
  let (month, cs) ← field? 2 1 12 (← mark? '-' cs)
  let (_, cs) ← field? 2 1 (daysInMonth year month) (← mark? '-' cs)
  return cs

/-- What follows a time of day. The seconds may be left out, and may have a fraction. -/
def afterTime? (cs : List Char) : Option (List Char) := do
  let (_, cs) ← field? 2 0 23 cs
  let (_, cs) ← field? 2 0 59 (← mark? ':' cs)
  match cs with
  | ':' :: seconds =>
    let (_, cs) ← field? 2 0 60 seconds
    match cs with
    | '.' :: fraction =>
      if fraction.takeWhile isDigit = [] then none else some (fraction.dropWhile isDigit)
    | _ => some cs
  | _ => some cs

/-- Whether a text is a distance from universal time, or empty. -/
private def isOffset : List Char → Bool
  | [] => true
  | ['Z'] | ['z'] => true
  | c :: rest =>
    (c = '+' || c = '-') &&
      match (field? 2 0 23 rest).bind fun (_, cs) => mark? ':' cs with
      | some minutes => match field? 2 0 59 minutes with
        | some (_, []) => true
        | _ => false
      | none => false

def isDateTimeMark (c : Char) : Bool := c = 'T' || c = 't' || c = ' '

/-- A date, a time, or both. -/
def dateTime? (cs : List Char) : Option Value :=
  let fits := match afterDate? cs with
    | some [] => true
    | some (c :: time) =>
      isDateTimeMark c && match afterTime? time with
        | some rest => isOffset rest
        | none => false
    | none => afterTime? cs = some []
  if fits then some (.dateTime (String.ofList cs)) else none

/-- The value of one unquoted word. -/
def scalar? (cs : List Char) : Option Value :=
  if cs = "true".toList then some (.boolean true)
  else if cs = "false".toList then some (.boolean false)
  else (integer? cs).orElse fun _ => (float? cs).orElse fun _ => dateTime? cs

/-- The characters of an unquoted word. -/
def isScalarChar (c : Char) : Bool :=
  c.isAlphanum || c = '_' || c = '-' || c = '+' || c = '.' || c = ':'

/-- Cuts an unquoted word off a text. A date may have its time after one space. -/
def takeScalar (cs : List Char) : List Char × List Char :=
  let word := cs.takeWhile isScalarChar
  match afterDate? word, cs.dropWhile isScalarChar with
  | some [], ' ' :: c :: rest =>
    if isDigit c then
      (word ++ ' ' :: (c :: rest).takeWhile isScalarChar, (c :: rest).dropWhile isScalarChar)
    else (word, ' ' :: c :: rest)
  | _, rest => (word, rest)

end ImportWeights.Toml
