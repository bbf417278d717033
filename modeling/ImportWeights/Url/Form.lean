import ImportWeights.Text.Pieces
import ImportWeights.Url.Percent

/-! Form encoding of name and value pairs, as it stands in a URL's query: a space becomes
a plus sign, and all but a few ASCII characters become escapes. -/

namespace ImportWeights.Url

/-- The bytes that stand for themselves in a form. -/
def isFormSafe (b : UInt8) : Bool :=
  let n := b.toNat
  (48 ≤ n && n ≤ 57) || (65 ≤ n && n ≤ 90) || (97 ≤ n && n ≤ 122) ||
    n == 42 || n == 45 || n == 46 || n == 95

def formByte (b : UInt8) : List Char :=
  if b = 32 then ['+']
  else if isFormSafe b then [Char.ofNat b.toNat]
  else '%' :: Text.hexByte true b

def formText (s : String) : List Char :=
  (Text.Utf8.ofString s).flatMap formByte

def formPair (pair : String × String) : List Char :=
  formText pair.1 ++ '=' :: formText pair.2

/-- The pairs in order, joined by ampersands. -/
def formPairs (pairs : List (String × String)) : List Char :=
  List.intercalate ['&'] (pairs.map formPair)

/-- The text that a form name or value stands for. -/
def readFormText (cs : List Char) : String :=
  Text.Utf8.lossyString (unescapeText (cs.map fun c => if c = '+' then ' ' else c))

/-- A pair; without an equals sign the value is empty. -/
def readFormPair (cs : List Char) : String × String :=
  (readFormText (cs.takeWhile (· != '=')), readFormText ((cs.dropWhile (· != '=')).drop 1))

/-- The pairs that a query stands for; empty pieces stand for none. -/
def readFormPairs (cs : List Char) : List (String × String) :=
  (((Text.pieces '&' cs).map (·.1)).filter (· != [])).map readFormPair

end ImportWeights.Url
