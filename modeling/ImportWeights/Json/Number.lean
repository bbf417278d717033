import ImportWeights.Decimal.Shortest

/-! Numbers in JSON. Whole numbers are kept exactly as long as they fit into 64 bits; all
others become doubles, digit by digit: those that no longer fit into 64 bits only move the
point. -/

namespace ImportWeights.Json

def isDigitByte (b : UInt8) : Bool := 48 ≤ b && b ≤ 57

def digitOf (b : UInt8) : Nat := b.toNat - 48

inductive Number where
  | natural (n : Nat)
  | negative (n : Nat)
  | double (x : Float)

/-- What a number is called when it stands where something else is wanted. -/
def Number.description : Number → String
  | natural n => "integer `" ++ toString n ++ "`"
  | negative n => "integer `-" ++ toString n ++ "`"
  | double x => "floating point `" ++ Decimal.floatText x ++ "`"

/-- The digits that fit into 64 bits, and how many were left out after them. -/
structure Significand where
  value : Nat
  dropped : Nat
deriving DecidableEq, Repr

/-- Takes up digits until one no longer fits; from there on all are left out. -/
def Significand.take (s : Significand) (digits : List UInt8) : Significand :=
  digits.foldl (fun s d =>
    let next := s.value * 10 + digitOf d
    if s.dropped = 0 && next < Nat.pow 2 64 then { s with value := next }
    else { s with dropped := s.dropped + 1 }) s

/-- `value * 10 ^ exponent`, unless it is too large. A power that has no double of its own is
reached in steps. -/
def scaled (value : Nat) (exponent : Int) : Option Float :=
  go 8 (Float.ofNat value) exponent
where
  go : Nat → Float → Int → Option Float
    | 0, x, _ => some x
    | fuel + 1, x, e =>
      if e.natAbs ≤ 308 then
        let power := Float.ofScientific 1 false e.natAbs
        let y := if 0 ≤ e then x * power else x / power
        if y.isInf then none else some y
      else if x == 0.0 then some x
      else if 0 ≤ e then none
      else go fuel (x / Float.ofScientific 1 false 308) (e + 308)

/-- The largest exponent that is read as a number. -/
def maxExponent : Nat := 2147483647

/-- An exponent: its sign, its digits, and what follows. -/
private def exponentDigits (input : List UInt8) : Option (Bool × List UInt8 × List UInt8) :=
  let (negative, rest) := match input with
    | 43 :: rest => (false, rest)
    | 45 :: rest => (true, rest)
    | _ => (false, input)
  let digits := rest.takeWhile isDigitByte
  if digits = [] then none else some (negative, digits, rest.dropWhile isDigitByte)

private def signed (isNegative : Bool) (x : Float) : Number :=
  .double (if isNegative then -x else x)

/-- A double from its digits, a power of ten, and an exponent if one follows. -/
private def finishDouble (isNegative : Bool) (value : Nat) (power : Int) (input : List UInt8) :
    Option (Number × List UInt8) :=
  match input with
  | b :: more =>
    if b = 101 || b = 69 then
      match exponentDigits more with
      | none => none
      | some (down, digits, rest) =>
        let e := digits.foldl (fun e d => min (e * 10 + digitOf d) (maxExponent + 1)) 0
        if maxExponent < e then
          if value ≠ 0 && !down then none else some (signed isNegative 0.0, rest)
        else
          (scaled value (if down then power - e else power + e)).map
            fun x => (signed isNegative x, rest)
    else (scaled value power).map fun x => (signed isNegative x, input)
  | [] => (scaled value power).map fun x => (signed isNegative x, input)

private def finishWhole (isNegative : Bool) (n : Nat) : Number :=
  if !isNegative then .natural n
  else if n = 0 || Nat.pow 2 63 < n then .double (-(Float.ofNat n))
  else .negative n

/-- Reads a number whose sign has been read. What follows it comes second. -/
def readNumber (isNegative : Bool) (input : List UInt8) : Option (Number × List UInt8) :=
  let digits := input.takeWhile isDigitByte
  let rest := input.dropWhile isDigitByte
  if digits = [] || (digits.head? = some 48 && 1 < digits.length) then none
  else
    let whole := Significand.take ⟨0, 0⟩ digits
    match rest with
    | 46 :: more =>
      let fraction := more.takeWhile isDigitByte
      if fraction = [] then none
      else
        let both := Significand.take ⟨whole.value, 0⟩ fraction
        let taken := fraction.length - both.dropped
        finishDouble isNegative both.value ((whole.dropped : Int) - taken)
          (more.dropWhile isDigitByte)
    | _ =>
      let hasExponent := match rest with
        | b :: _ => b = 101 || b = 69
        | [] => false
      if hasExponent || whole.dropped ≠ 0 then
        finishDouble isNegative whole.value whole.dropped rest
      else some (finishWhole isNegative whole.value, rest)

/-- What follows a number, if there is a well-formed one; its sign has been read. -/
def skipNumber (input : List UInt8) : Option (List UInt8) :=
  let digits := input.takeWhile isDigitByte
  let rest := input.dropWhile isDigitByte
  if digits = [] || (digits.head? = some 48 && 1 < digits.length) then none
  else
    let afterFraction := match rest with
      | 46 :: more =>
        if more.takeWhile isDigitByte = [] then none else some (more.dropWhile isDigitByte)
      | _ => some rest
    match afterFraction with
    | none => none
    | some [] => some []
    | some (b :: more) =>
      if b = 101 || b = 69 then (exponentDigits more).map fun (_, _, rest) => rest
      else some (b :: more)

end ImportWeights.Json
