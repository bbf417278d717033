import ImportWeights.Text.Ascii

/-! Media types, as far as it takes to tell JSON from everything else. -/

namespace ImportWeights.Http

/-- The characters of a name in a header. -/
def isTokenChar (c : Char) : Bool :=
  Text.isAsciiAlpha c || Text.isDigit c || "!#$%&'+-.^_`|~".toList.contains c

/-- The characters that a header is read with; one that holds any other is read as none. -/
def isVisible (c : Char) : Bool := c == '\t' || (32 ≤ c.toNat && c.toNat < 127)

/-- The characters that may stand in quotes. -/
private def isQuotable (c : Char) : Bool := 31 < c.toNat && c.toNat ≠ 127

/-- What follows a value in quotes after its opening quote. The first character is never
taken for the closing quote. -/
private def afterQuoted (cs : List Char) : Option (List Char) :=
  match cs with
  | [] => none
  | c :: rest =>
    let inside := rest.takeWhile (· != '"')
    match rest.dropWhile (· != '"') with
    | [] => none
    | _ :: after => if isQuotable c && inside.all isQuotable then some after else none

/-- The parameters that come next, each a name, an equals sign and a value. -/
private def parametersFit : Nat → List Char → Bool
  | 0, _ => false
  | fuel + 1, cs =>
    match cs.dropWhile (· == ' ') with
    | [] => true
    | start =>
      match start.dropWhile isTokenChar with
      | '=' :: value =>
        if (start.takeWhile isTokenChar).isEmpty then false
        else match value with
          | '"' :: quoted =>
            match (afterQuoted quoted).map (·.dropWhile (· == ' ')) with
            | some [] => true
            | some (';' :: more) => parametersFit fuel more
            | _ => false
          | _ =>
            match value.dropWhile isTokenChar with
            | [] => true
            | ';' :: more => !(value.takeWhile isTokenChar).isEmpty && parametersFit fuel more
            | _ => false
      | _ => false

/-- What stands before and after the last plus sign that is not the first character. -/
private def splitSuffix (subtype : List Char) : List Char × Option (List Char) :=
  let suffix := (subtype.reverse.takeWhile (· != '+')).reverse
  if suffix.length + 1 < subtype.length && suffix.length < subtype.length then
    (subtype.take (subtype.length - suffix.length - 1), some suffix)
  else (subtype, none)

/-- Whether a well-formed media type stands for JSON: the application type of that name, or
one with that suffix. -/
def isJsonType (value : String) : Bool :=
  let cs := value.toList
  let json := "json".toList
  let lower (cs : List Char) : List Char := cs.map Text.lowerAscii
  match cs.dropWhile isTokenChar with
  | '/' :: rest =>
    let subtype := rest.takeWhile (· != ';')
    let (name, suffix) := splitSuffix subtype
    cs.all isVisible && lower (cs.takeWhile isTokenChar) = "application".toList &&
      !subtype.isEmpty && subtype.all isTokenChar &&
      parametersFit (cs.length + 1) ((rest.dropWhile (· != ';')).drop 1) &&
      (lower name = json || suffix.map lower = some json)
  | _ => false

end ImportWeights.Http
