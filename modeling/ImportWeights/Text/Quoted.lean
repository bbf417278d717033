import ImportWeights.Text.Unprintable
import ImportWeights.Text.Utf8

/-! Quoted texts, in which everything that would not show by itself is written as an
escape. -/

namespace ImportWeights.Text

def hexDigit (upper : Bool) (n : Nat) : Char :=
  if n < 10 then Char.ofNat (48 + n)
  else Char.ofNat ((if upper then 55 else 87) + n)

/-- The hexadecimal digits of a number, without leading zeros. -/
def hexDigits (upper : Bool) (n : Nat) : List Char :=
  (Nat.toDigits 16 n).map fun c => if upper then c.toUpper else c

/-- Two hexadecimal digits. -/
def hexByte (upper : Bool) (b : UInt8) : List Char :=
  [hexDigit upper (b.toNat / 16), hexDigit upper (b.toNat % 16)]

/-- A character inside quotes. Whether a single quote is escaped depends on the format. -/
def quotedChar (escapeSingle : Bool) (c : Char) : List Char :=
  if c = '\x00' then ['\\', '0']
  else if c = '\t' then ['\\', 't']
  else if c = '\n' then ['\\', 'n']
  else if c = '\r' then ['\\', 'r']
  else if c = '\\' then ['\\', '\\']
  else if c = '"' then ['\\', '"']
  else if c = '\'' && escapeSingle then ['\\', '\'']
  else if isUnprintable c then "\\u\x7b".toList ++ hexDigits false c.toNat ++ ['}']
  else [c]

/-- A text in quotes. -/
def quoted (s : String) : String :=
  String.ofList ('"' :: s.toList.flatMap (quotedChar false) ++ ['"'])

/-- The controls that a byte string shows by their number. -/
def isNumberedControl (c : Char) : Bool :=
  let n := c.toNat
  (1 ≤ n && n ≤ 8) || n == 0x0b || n == 0x0c || (0x0e ≤ n && n ≤ 0x19) || n == 0x7f

/-- A text that may hold invalid parts, in quotes: the bytes of an invalid part, and the
characters that are numbered, are written as two hexadecimal digits. -/
def quotedParts (isNumbered : Char → Bool) (bytes : List UInt8) : String :=
  let chars := go bytes.length bytes
  String.ofList ('"' :: chars ++ ['"'])
where
  /-- One character or invalid part at a time, by the shortest beginning that ends one. -/
  go : Nat → List UInt8 → List Char
    | 0, _ => []
    | fuel + 1, rest =>
      match rest with
      | [] => []
      | _ =>
        let sizes := [1, 2, 3, 4].filter (· ≤ rest.length)
        match sizes.find? fun k => (Utf8.decode? (rest.take k)).isSome with
        | some k =>
          let c := ((Utf8.decode? (rest.take k)).bind (·.head?)).getD ' '
          let text := if isNumbered c then ['\\', 'x'] ++ hexByte false (UInt8.ofNat c.toNat)
            else quotedChar true c
          text ++ go fuel (rest.drop k)
        | none =>
          let k := ((sizes.filter fun k => (Utf8.parts (rest.take k)).length = 1).getLast?).getD 1
          (rest.take k).flatMap (fun b => ['\\', 'x'] ++ hexByte true b) ++ go fuel (rest.drop k)

/-- A byte string in quotes. -/
def quotedBytes (bytes : List UInt8) : String := quotedParts isNumberedControl bytes

/-- Texts in quotes, in brackets. -/
def quotedList (items : List String) : String :=
  "[" ++ ", ".intercalate (items.map quoted) ++ "]"

/-- A record of named values, shown in full. -/
def shownRecord (name : String) (fields : List (String × String)) : String :=
  name ++ " \x7b " ++ ", ".intercalate (fields.map fun f => f.1 ++ ": " ++ f.2) ++ " \x7d"

end ImportWeights.Text
