import ImportWeights.Text.Pieces
import ImportWeights.Url.Percent
import ImportWeights.Url.Punycode

/-! The host of a URL: a name, or an address of four or of sixteen bytes in its shortest
written form. -/

namespace ImportWeights.Url

open ImportWeights.Text

inductive UrlError where
  | emptyHost
  | domainName
  | port
  | ipv4Address
  | ipv6Address
  | domainCharacter
  | relativeWithoutBase
deriving DecidableEq, Repr

def UrlError.message : UrlError → String
  | emptyHost => "empty host"
  | domainName => "invalid international domain name"
  | port => "invalid port number"
  | ipv4Address => "invalid IPv4 address"
  | ipv6Address => "invalid IPv6 address"
  | domainCharacter => "invalid domain character"
  | relativeWithoutBase => "relative URL without a base"

/-- One part of an address in the four-byte form, in decimal, octal or hexadecimal; `none`
inside if it does not fit thirty-two bits. -/
def ipv4Number? (cs : List Char) : Option (Option Nat) :=
  let (base, digits) := match cs with
    | '0' :: 'x' :: rest => (16, rest)
    | '0' :: 'X' :: rest => (16, rest)
    | '0' :: d :: rest => (8, d :: rest)
    | _ => (10, cs)
  if cs = [] then none
  else if digits = [] then some (some 0)
  else if !digits.all (fun c => isHexDigit c && (hexValue? c.toNat).getD 16 < base) then none
  else
    let n := digitsValue base digits
    some (if n < Nat.pow 2 32 then some n else none)

/-- Whether the last label makes the host an address. -/
def endsInNumber (domain : List Char) : Bool :=
  let labels := (splitAt '.' domain).reverse
  let last := match labels with
    | [] :: more => more.head?
    | label :: _ => some label
    | [] => none
  match last with
  | none => false
  | some label => (label != [] && label.all isDigit) || (ipv4Number? label).isSome

/-- The four-byte address that the labels give. All but the last are one byte each, the
last fills what is left. -/
def ipv4Address (domain : List Char) : Except UrlError Nat :=
  let labels := splitAt '.' domain
  let labels := if labels.getLast? = some [] then labels.dropLast else labels
  if 4 < labels.length then .error .ipv4Address
  else
    let numbers := labels.map ipv4Number?
    if numbers.any fun n => n.join.isNone then .error .ipv4Address
    else
      let values := numbers.map fun n => n.join.getD 0
      let heads := values.dropLast
      let last := values.getLast?.getD 0
      if Nat.pow 256 (4 - heads.length) ≤ last || heads.any (255 < ·) then .error .ipv4Address
      else .ok (last + (heads.zipIdx.map fun (n, i) => n * Nat.pow 256 (3 - i)).foldr (· + ·) 0)

def ipv4Text (n : Nat) : List Char :=
  (".".intercalate ([n / 0x1000000, n / 0x10000 % 256, n / 0x100 % 256, n % 256].map toString)).toList

/-- Up to `limit` hexadecimal digits: their value, how many there are, and what follows. -/
private def takeHex : Nat → Nat → Nat → List Char → Nat × Nat × List Char
  | 0, value, count, cs => (value, count, cs)
  | _ + 1, value, count, [] => (value, count, [])
  | limit + 1, value, count, c :: rest =>
    match hexValue? c.toNat with
    | some d => takeHex limit (value * 16 + d) (count + 1) rest
    | none => (value, count, c :: rest)

/-- The pieces read so far and where the run of left-out zeros stands. -/
private structure Ipv6Reader where
  pieces : List Nat
  gap : Option Nat

/-- The four decimal bytes at the end of a sixteen-byte address. -/
private def trailingIpv4 (cs : List Char) : Option (Nat × Nat) :=
  let parts := splitAt '.' cs
  let ok := parts.length == 4 && parts.all fun p =>
    p != [] && p.all isDigit && (p.length == 1 || p.head? != some '0') &&
      p.length ≤ 3 && digitsValue 10 p ≤ 255
  if ok then
    match parts.map (digitsValue 10) with
    | [a, b, c, d] => some (a * 256 + b, c * 256 + d)
    | _ => none
  else none

private def ipv6Pieces (fuel : Nat) (r : Ipv6Reader) (cs : List Char) :
    Except UrlError Ipv6Reader :=
  match fuel with
  | 0 => .error .ipv6Address
  | fuel + 1 =>
    match cs with
    | [] => .ok r
    | ':' :: rest =>
      if r.pieces.length = 8 || r.gap.isSome then .error .ipv6Address
      else ipv6Pieces fuel ⟨r.pieces ++ [0], some (r.pieces.length + 1)⟩ rest
    | _ =>
      if r.pieces.length = 8 then .error .ipv6Address
      else
        let (value, count, rest) := takeHex 4 0 0 cs
        match rest with
        | [] => .ok { r with pieces := r.pieces ++ [value] }
        | '.' :: _ =>
          if count = 0 || 6 < r.pieces.length then .error .ipv6Address
          else match trailingIpv4 cs with
            | some (high, low) => .ok { r with pieces := r.pieces ++ [high, low] }
            | none => .error .ipv6Address
        | ':' :: [] => .error .ipv6Address
        | ':' :: more => ipv6Pieces fuel { r with pieces := r.pieces ++ [value] } more
        | _ => .error .ipv6Address

/-- The eight pieces of a sixteen-byte address. Two colons stand for the zeros that are
left out; a slot of their own is counted for them. -/
def ipv6Address (cs : List Char) : Except UrlError (List Nat) :=
  let start : Except UrlError (Ipv6Reader × List Char) :=
    match cs with
    | [] | [_] => .error .ipv6Address
    | ':' :: ':' :: rest => .ok (⟨[0], some 1⟩, rest)
    | ':' :: _ => .error .ipv6Address
    | _ => .ok (⟨[], none⟩, cs)
  match start with
  | .error e => .error e
  | .ok (r, rest) =>
    match ipv6Pieces (cs.length + 1) r rest with
    | .error e => .error e
    | .ok r =>
      match r.gap with
      | none => if r.pieces.length = 8 then .ok r.pieces else .error .ipv6Address
      | some gap =>
        let tail := r.pieces.drop gap
        .ok (r.pieces.take gap ++ List.replicate (8 - r.pieces.length) 0 ++ tail)

/-- Where the first of the longest runs of zeros begins, and how long it is. -/
private def longestZeros (pieces : List Nat) : Nat × Nat :=
  let runs := (List.range pieces.length).map fun i =>
    (i, ((pieces.drop i).takeWhile (· == 0)).length)
  runs.foldl (fun best run => if best.2 < run.2 then run else best) (0, 0)

/-- The shortest written form: the longest run of two or more zeros is left out. -/
def ipv6Text (pieces : List Nat) : List Char :=
  let written (ps : List Nat) := List.intercalate [':'] (ps.map (Text.hexDigits false))
  let (at_, count) := longestZeros pieces
  if count < 2 then '[' :: written pieces ++ [']']
  else '[' :: written (pieces.take at_) ++ [':', ':'] ++ written (pieces.drop (at_ + count)) ++
    [']']

/-- The characters that no name may hold. -/
def isForbiddenInDomain (c : Char) : Bool :=
  isControl c || " #/:<>?@[\\]^|%".toList.contains c

/-- Whether a label announces an international one. -/
def isNational (label : List Char) : Bool := "xn--".toList.isPrefixOf label

/-- A name in lower case. A label that announces an international one has to stand for one.
What would take the tables of Unicode is left out: a name that holds characters outside ASCII is
refused, and those that a label stands for are not looked up. -/
def asciiDomain (bytes : List UInt8) : Except UrlError (List Char) :=
  match Text.Utf8.decode? bytes with
  | none => .error .domainName
  | some cs =>
    let lower := cs.map lowerAscii
    let labels := splitAt '.' lower
    if cs.any fun c => 0x80 ≤ c.toNat || isForbiddenInDomain c then .error .domainName
    else if labels.any fun label => isNational label && !Punycode.isCoded (label.drop 4) then
      .error .domainName
    else .ok lower

def bracketed? (cs : List Char) : Option (Except UrlError (List Char)) :=
  match cs with
  | '[' :: rest =>
    some (if rest.getLast? = some ']' then (ipv6Address rest.dropLast).map ipv6Text
      else .error .ipv6Address)
  | _ => none

/-- The host of a URL whose scheme is a special one. -/
def specialHost (cs : List Char) : Except UrlError (List Char) :=
  match bracketed? cs with
  | some host => host
  | none =>
    match asciiDomain (unescapeText cs) with
    | .error e => .error e
    | .ok domain =>
      if domain = [] then .error .emptyHost
      else if endsInNumber domain then (ipv4Address domain).map ipv4Text
      else .ok domain

/-- The characters that no host may hold. -/
def isForbiddenInHost (c : Char) : Bool :=
  "\x00\t\n\r #/:<>?@[\\]^|".toList.contains c

/-- The host of any other URL, which is taken as it is written. -/
def plainHost (cs : List Char) : Except UrlError (List Char) :=
  match bracketed? cs with
  | some host => host
  | none => if cs.any isForbiddenInHost then .error .domainCharacter else .ok (escape inNone cs)

end ImportWeights.Url
