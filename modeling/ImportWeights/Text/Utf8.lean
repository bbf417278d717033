/-! Decoding bytes as UTF-8, one byte at a time.

A byte that cannot go on with the sequence begun before it ends that sequence as one
invalid part and is then read afresh, so every maximal invalid part is found, and a byte
below 128 always stands for itself: no replacement reaches across it. -/

namespace ImportWeights.Text.Utf8

/-- A sequence that has begun: the bits read, the number of bytes still to come, and the
range in which the next one has to lie. -/
structure Partial where
  bits : Nat
  missing : Nat
  low : UInt8
  high : UInt8
deriving DecidableEq, Repr

/-- What has been read: `none` stands for an invalid part. The newest piece comes first. -/
structure Decoder where
  pending : Option Partial
  pieces : List (Option Char)
deriving DecidableEq, Repr

def Decoder.fresh : Decoder := ⟨none, []⟩

/-- Reads a byte with no sequence begun. -/
def Decoder.first (done : List (Option Char)) (b : UInt8) : Decoder :=
  let n := b.toNat
  if n < 0x80 then ⟨none, some (Char.ofNat n) :: done⟩
  else if n < 0xc2 then ⟨none, none :: done⟩
  else if n < 0xe0 then ⟨some ⟨n - 0xc0, 1, 0x80, 0xbf⟩, done⟩
  else if n < 0xf0 then
    let low := if n = 0xe0 then 0xa0 else 0x80
    let high := if n = 0xed then 0x9f else 0xbf
    ⟨some ⟨n - 0xe0, 2, low, high⟩, done⟩
  else if n < 0xf5 then
    let low := if n = 0xf0 then 0x90 else 0x80
    let high := if n = 0xf4 then 0x8f else 0xbf
    ⟨some ⟨n - 0xf0, 3, low, high⟩, done⟩
  else ⟨none, none :: done⟩

def Decoder.step (d : Decoder) (b : UInt8) : Decoder :=
  match d.pending with
  | none => Decoder.first d.pieces b
  | some p =>
    if p.low ≤ b ∧ b ≤ p.high then
      let bits := p.bits * 64 + (b.toNat - 0x80)
      if p.missing ≤ 1 then ⟨none, some (Char.ofNat bits) :: d.pieces⟩
      else ⟨some ⟨bits, p.missing - 1, 0x80, 0xbf⟩, d.pieces⟩
    else Decoder.first (none :: d.pieces) b

/-- A sequence still open at the end is an invalid part. -/
def Decoder.finish (d : Decoder) : List (Option Char) :=
  (if d.pending.isSome then none :: d.pieces else d.pieces).reverse

/-- The characters and invalid parts of a byte string, in order. -/
def parts (bytes : List UInt8) : List (Option Char) :=
  (bytes.foldl Decoder.step Decoder.fresh).finish

/-- Every maximal invalid part becomes one U+FFFD. -/
def decodeLossy (bytes : List UInt8) : List Char :=
  (parts bytes).map (·.getD '\uFFFD')

/-- The characters, unless some part is invalid. -/
def decode? (bytes : List UInt8) : Option (List Char) :=
  if (parts bytes).contains none then none else some ((parts bytes).filterMap id)

def encode (text : List Char) : List UInt8 :=
  text.flatMap String.utf8EncodeChar

def lossyString (bytes : List UInt8) : String :=
  String.ofList (decodeLossy bytes)

def string? (bytes : List UInt8) : Option String :=
  (decode? bytes).map String.ofList

def ofString (s : String) : List UInt8 :=
  s.toUTF8.toList

end ImportWeights.Text.Utf8
