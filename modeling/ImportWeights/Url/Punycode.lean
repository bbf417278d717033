import ImportWeights.Text.Ascii

/-! International labels in their ASCII form, by RFC 3492: the characters of ASCII that a label
holds, and then, digit by digit, where the others go in. -/

namespace ImportWeights.Url.Punycode

def base : Nat := 36

/-- What the deltas and the code points are kept in. -/
def wordSize : Nat := 0x100000000

def digit? (c : Char) : Option Nat :=
  if Text.isDigit c then some (c.toNat - 22)
  else if 'a' ≤ c && c ≤ 'z' then some (c.toNat - 97)
  else none

/-- The smallest digit that is not the last one of its number. -/
def threshold (bias position : Nat) : Nat := min 26 (max 1 (position - bias))

/-- A number that starts at a position; what was read of it so far is `sum`, and its next digit
counts `weight` times. -/
def number (bias : Nat) : Nat → Nat → Nat → List Char → Option (Nat × List Char)
  | _, _, _, [] => none
  | position, weight, sum, c :: rest =>
    match digit? c with
    | none => none
    | some d =>
      let sum := sum + d * weight
      if wordSize ≤ sum then none
      else
        let least := threshold bias position
        if d < least then some (sum, rest)
        else number bias (position + base) (weight * (base - least)) sum rest

/-- How far the thresholds move for deltas of that size. -/
def skew (delta : Nat) : Nat :=
  if 455 < delta then base + skew (delta / 35) else base * delta / (delta + 38)
termination_by delta
decreasing_by omega

def adapt (delta count : Nat) (first : Bool) : Nat :=
  let delta := if first then delta / 700 else delta / 2
  skew (delta + delta / count)

/-- Puts code points in until nothing is left to read, each at or after the place where the one
before it went in. There are at most as many as characters. -/
def insertions : Nat → Nat → Nat → Nat → List Nat → List Char → Option (List Nat)
  | 0, _, _, _, _, _ => none
  | _, _, _, _, label, [] => some label
  | fuel + 1, bias, point, start, label, rest =>
    match number bias base 1 0 rest with
    | none => none
    | some (delta, rest) =>
      let count := label.length + 1
      let reached := start + delta
      let point := point + reached / count
      if wordSize ≤ reached || !(point.isValidChar) then none
      else
        let place := reached % count
        insertions fuel (adapt delta count (start == 0)) point (place + 1)
          (label.insertIdx place point) rest

/-- The code points of a label. What stands before the last dash is ASCII already. -/
def decode (label : List Char) : Option (List Nat) :=
  let tail := (label.reverse.takeWhile (· != '-')).reverse
  let plain := (label.take (label.length - tail.length)).dropLast
  let coded := if plain = [] then label else tail
  insertions (coded.length + 1) 72 0x80 0 (plain.map Char.toNat) coded

/-- Whether a label stands for one outside ASCII. -/
def isCoded (label : List Char) : Bool := (decode label).any fun points => points.any (0x80 ≤ ·)

end ImportWeights.Url.Punycode
