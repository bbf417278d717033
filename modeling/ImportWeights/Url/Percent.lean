import ImportWeights.Text.Ascii
import ImportWeights.Text.Quoted

/-! Percent encoding. Which characters a part of a URL escapes is a predicate; controls
and everything outside ASCII are escaped in every part. -/

namespace ImportWeights.Url

def isControl (c : Char) : Bool := c.toNat < 0x20 || c.toNat == 0x7f

/-- The escapes of a character: one for each of its bytes. -/
def escapeChar (c : Char) : List Char :=
  (String.utf8EncodeChar c).flatMap fun b => '%' :: Text.hexByte true b

/-- Escapes what lies outside ASCII, controls, and the characters of a set. -/
def escape (set : Char → Bool) (cs : List Char) : List Char :=
  cs.flatMap fun c => if isControl c || 0x80 ≤ c.toNat || set c then escapeChar c else [c]

def inNone (_ : Char) : Bool := false
def inFragment (c : Char) : Bool := " \"<>`".toList.contains c
def inPath (c : Char) : Bool := inFragment c || "#?\x7b\x7d".toList.contains c
def inUserinfo (c : Char) : Bool := inPath c || "/:;=@[\\]^|".toList.contains c
def inQuery (c : Char) : Bool := " \"#<>".toList.contains c
def inSpecialQuery (c : Char) : Bool := inQuery c || c == '\''

/-- The bytes that a text with escapes stands for; a percent sign that begins no escape
stands for itself. -/
def unescape : List UInt8 → List UInt8
  | b :: h :: l :: rest =>
    if b = 37 then
      match Text.hexValue? h.toNat, Text.hexValue? l.toNat with
      | some x, some y => UInt8.ofNat (16 * x + y) :: unescape rest
      | _, _ => b :: unescape (h :: l :: rest)
    else b :: unescape (h :: l :: rest)
  | b :: rest => b :: unescape rest
  | [] => []

def unescapeText (cs : List Char) : List UInt8 := unescape (Text.Utf8.encode cs)

end ImportWeights.Url
