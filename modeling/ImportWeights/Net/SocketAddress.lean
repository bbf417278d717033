import ImportWeights.Url.Host

/-! Addresses to listen on: an address of four or of sixteen bytes, and a port. -/

namespace ImportWeights.Net

inductive SocketAddress where
  | v4 (address port : Nat)
  /-- The eight pieces of the address; the scope is zero if none is named. -/
  | v6 (pieces : List Nat) (scope port : Nat)
deriving DecidableEq, Repr

/-- What is left after a number was read off the front of a text. -/
abbrev Rest := Nat × List Char

/-- A number below a bound, in decimal. -/
def decimal? (bound : Nat) (cs : List Char) : Option Rest :=
  let digits := cs.takeWhile Text.isDigit
  let value := Text.digitsValue 10 digits
  if digits = [] || bound ≤ value then none else some (value, cs.dropWhile Text.isDigit)

/-- One byte of an address: at most three digits, and no zero in front of others. -/
def byte? (cs : List Char) : Option Rest :=
  let digits := (cs.take 4).takeWhile Text.isDigit
  if 3 < digits.length || (digits.head? = some '0' && 1 < digits.length) then none
  else decimal? 256 cs

def expect (c : Char) (cs : List Char) : Option (List Char) :=
  match cs with
  | d :: rest => if d = c then some rest else none
  | [] => none

/-- An address of four bytes. -/
def ipv4? (cs : List Char) : Option Rest := do
  let (a, cs) ← byte? cs
  let (b, cs) ← byte? (← expect '.' cs)
  let (c, cs) ← byte? (← expect '.' cs)
  let (d, cs) ← byte? (← expect '.' cs)
  return (((a * 256 + b) * 256 + c) * 256 + d, cs)

/-- Up to four hexadecimal digits; a fifth one is too many. -/
private def piece? (cs : List Char) : Option Rest :=
  let digits := (cs.take 5).takeWhile Text.isHexDigit
  if digits = [] || 4 < digits.length then none
  else some (Text.digitsValue 16 digits, cs.drop digits.length)

/-- Reads up to a number of pieces between colons. The last two may be written as four
bytes, which ends the pieces. -/
private def pieces (first : Bool) : Nat → List Char → List Nat × Bool × List Char
  | 0, cs => ([], false, cs)
  | limit + 1, cs =>
    let start := if first then some cs else expect ':' cs
    match start with
    | none => ([], false, cs)
    | some after =>
      match if 0 < limit then ipv4? after else none with
      | some (n, rest) => ([n / 65536, n % 65536], true, rest)
      | none =>
        match piece? after with
        | none => ([], false, cs)
        | some (n, rest) =>
          let (more, dotted, rest) := pieces false limit rest
          (n :: more, dotted, rest)

/-- An address of sixteen bytes; two colons stand for at least one piece that is zero. -/
def ipv6? (cs : List Char) : Option (List Nat × List Char) := do
  let (head, dotted, rest) := pieces true 8 cs
  if head.length = 8 then return (head, rest)
  if dotted then none
  let rest ← expect ':' (← expect ':' rest)
  let (tail, _, rest) := pieces true (7 - head.length) rest
  return (head ++ List.replicate (8 - head.length - tail.length) 0 ++ tail, rest)

private def v4? (cs : List Char) : Option (SocketAddress × List Char) := do
  let (address, cs) ← ipv4? cs
  let (port, cs) ← decimal? 65536 (← expect ':' cs)
  return (.v4 address port, cs)

private def v6? (cs : List Char) : Option (SocketAddress × List Char) := do
  let (address, cs) ← ipv6? (← expect '[' cs)
  let (scope, cs) ← match expect '%' cs with
    | some rest => decimal? (Nat.pow 2 32) rest
    | none => some (0, cs)
  let (port, cs) ← decimal? 65536 (← expect ':' (← expect ']' cs))
  return (.v6 address scope port, cs)

namespace SocketAddress

/-- Reads an address that is all of a text. -/
def parse? (text : String) : Option SocketAddress :=
  match v4? text.toList with
  | some (address, []) => some address
  | _ =>
    match v6? text.toList with
    | some (address, []) => some address
    | _ => none

/-- The text of the sixteen bytes. Those that stand for four are written so. -/
private def ipv6Display (pieces : List Nat) : List Char :=
  match pieces with
  | [0, 0, 0, 0, 0, 65535, high, low] =>
    "::ffff:".toList ++ Url.ipv4Text (high * 65536 + low)
  | _ => ((Url.ipv6Text pieces).drop 1).dropLast

def display : SocketAddress → String
  | v4 address port => String.ofList (Url.ipv4Text address) ++ ":" ++ toString port
  | v6 pieces scope port =>
    "[" ++ String.ofList (ipv6Display pieces) ++ (if scope = 0 then "" else "%" ++ toString scope) ++
      "]:" ++ toString port

def port : SocketAddress → Nat
  | v4 _ port => port
  | v6 _ _ port => port

end SocketAddress

end ImportWeights.Net
