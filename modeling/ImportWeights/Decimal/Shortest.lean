/-! The fewest decimal digits that read back as a given double.

A double stands for every real that lies nearest to it. The digits sought are the multiple
of the highest power of ten that has one in that interval, and of two such the nearer. -/

namespace ImportWeights.Decimal

/-- A positive double as an odd or even number of units: `mantissa * 2 ^ exponent`. The gap
below the first double of a power of two is half as wide as the one above. -/
structure Binary where
  mantissa : Nat
  exponent : Int
  narrowBelow : Bool
deriving DecidableEq, Repr

/-- The magnitude of a double that is neither infinite nor no number. -/
def Binary.ofBits (bits : UInt64) : Binary :=
  let fraction := bits.toNat % Nat.pow 2 52
  let field := bits.toNat / Nat.pow 2 52 % Nat.pow 2 11
  if field = 0 then ⟨fraction, -1074, false⟩
  else ⟨Nat.pow 2 52 + fraction, Int.ofNat field - 1075, fraction = 0 ∧ 1 < field⟩

/-- Digits with the power of ten that they count. -/
structure Scientific where
  digits : Nat
  exponent : Int
deriving DecidableEq, Repr

/-- An interval around a value, all three over one denominator. -/
structure Interval where
  low : Nat
  value : Nat
  high : Nat
  denominator : Nat
  closed : Bool
deriving DecidableEq, Repr

/-- The reals that lie nearest to a double. The ends belong to it if the mantissa is even. -/
def Binary.interval (b : Binary) : Interval :=
  let scale := Nat.pow 2 b.exponent.toNat
  { low := (4 * b.mantissa - if b.narrowBelow then 1 else 2) * scale
    value := 4 * b.mantissa * scale
    high := (4 * b.mantissa + 2) * scale
    denominator := 4 * Nat.pow 2 (-b.exponent).toNat
    closed := b.mantissa % 2 = 0 }

/-- Whether `n * 10 ^ k` lies in an interval. -/
def Interval.holds (i : Interval) (n : Nat) (k : Int) : Bool :=
  let x := n * Nat.pow 10 k.toNat * i.denominator
  let unit := Nat.pow 10 (-k).toNat
  if i.closed then i.low * unit ≤ x && x ≤ i.high * unit
  else i.low * unit < x && x < i.high * unit

/-- The multiple of `10 ^ k` next to the value, if it lies in the interval. -/
def Interval.hit? (i : Interval) (k : Int) : Option Nat :=
  let top := i.value * Nat.pow 10 (-k).toNat
  let bottom := i.denominator * Nat.pow 10 k.toNat
  let below := top / bottom
  let rest := top % bottom
  let lower := 0 < below && i.holds below k
  let upper := i.holds (below + 1) k
  if lower && (!upper || 2 * rest < bottom || (2 * rest = bottom && below % 2 = 0)) then some below
  else if upper then some (below + 1)
  else none

/-- Tries powers of ten from a highest one downwards. -/
def Interval.search (i : Interval) : Nat → Int → Scientific
  | 0, k => ⟨i.value / i.denominator, k⟩
  | fuel + 1, k =>
    match i.hit? k with
    | some n => ⟨n, k⟩
    | none => i.search fuel (k - 1)

/-- The shortest digits of a positive double. -/
def shortest (bits : UInt64) : Scientific :=
  (Binary.ofBits bits).interval.search 660 310

private def zeros (n : Nat) : String := String.ofList (List.replicate n '0')

/-- Values from a hundred-thousandth up to ten quadrillion stand as they are, with a point
and a digit on both sides of it; all others have an exponent. -/
def Scientific.text (d : Scientific) : String :=
  let digits := toString d.digits
  let length := digits.length
  let point : Int := (length : Int) + d.exponent
  if 0 ≤ d.exponent && point ≤ 16 then digits ++ zeros d.exponent.toNat ++ ".0"
  else if 0 < point && point ≤ 16 then
    String.ofList (digits.toList.take point.toNat) ++ "." ++
      String.ofList (digits.toList.drop point.toNat)
  else if -5 < point && point ≤ 0 then "0." ++ zeros (-point).toNat ++ digits
  else
    let tail := String.ofList (digits.toList.drop 1)
    String.ofList (digits.toList.take 1) ++ (if tail = "" then "" else "." ++ tail) ++ "e" ++
      toString (point - 1)

/-- The text of a double that is neither infinite nor no number. -/
def floatText (x : Float) : String :=
  let bits := x.toBits
  let sign := if Nat.pow 2 63 ≤ bits.toNat then "-" else ""
  if bits.toNat % Nat.pow 2 63 = 0 then sign ++ "0.0" else sign ++ (shortest bits).text

end ImportWeights.Decimal
