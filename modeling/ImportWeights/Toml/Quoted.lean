import ImportWeights.Text.Ascii

/-! Texts in quotes: with escapes or without, on one line or on several. -/

namespace ImportWeights.Toml

/-- The form of a text in quotes. -/
structure QuoteStyle where
  quote : Char
  escapes : Bool
  multiline : Bool
deriving DecidableEq, Repr

/-- Where a reader stands inside quotes. -/
inductive QuoteState where
  | plain
  /-- After a backslash. -/
  | escape
  /-- Inside an escape in numbers: the digits still missing and the value so far. -/
  | code (missing value : Nat)
  /-- After a backslash at the end of a line: blanks and line breaks are left out. -/
  | fold (brokeLine : Bool)
deriving DecidableEq, Repr

/-- Controls that a text or a comment must not hold. -/
def isForbidden (c : Char) : Bool := (c.toNat < 0x20 && c ≠ '\t') || c.toNat = 0x7f

/-- What follows a line break. -/
def afterLineBreak? : List Char → Option (List Char)
  | '\n' :: rest => some rest
  | '\r' :: '\n' :: rest => some rest
  | _ => none

/-- The character of an escape of one letter. -/
def letterEscape? : Char → Option Char
  | 'b' => some '\x08'
  | 't' => some '\t'
  | 'n' => some '\n'
  | 'f' => some '\x0c'
  | 'r' => some '\r'
  | 'e' => some '\x1b'
  | '"' => some '"'
  | '\\' => some '\\'
  | _ => none

/-- How many digits follow the letter of an escape in numbers. -/
def codeLength? : Char → Option Nat
  | 'x' => some 2
  | 'u' => some 4
  | 'U' => some 8
  | _ => none

def charOfCode? (n : Nat) : Option Char := if n.isValidChar then some (Char.ofNat n) else none

/-- The quotes that belong to a text on several lines at its end, and what follows it. Up
to two quotes may stand before the three that end it. -/
def closing? (quote : Char) (cs : List Char) : Option (List Char × List Char) :=
  let run := min 5 (cs.takeWhile (· = quote)).length
  if run < 3 then none else some (List.replicate (run - 3) quote, cs.drop run)

/-- Reads up to the end of a text in quotes. `done` is what has been read, last first. -/
def readQuoted (style : QuoteStyle) : QuoteState → List Char → List Char →
    Option (List Char × List Char)
  | _, _, [] => none
  | state, done, c :: rest =>
    let blank := c = ' ' || c = '\t' || c = '\n' || c = '\r'
    match (if state = .fold true && !blank then QuoteState.plain else state) with
    | .code missing value =>
      match Text.hexValue? c.toNat with
      | none => none
      | some d =>
        let value := value * 16 + d
        if 1 < missing then readQuoted style (.code (missing - 1) value) done rest
        else (charOfCode? value).bind fun x => readQuoted style .plain (x :: done) rest
    | .escape =>
      match codeLength? c, letterEscape? c with
      | some n, _ => readQuoted style (.code n 0) done rest
      | none, some x => readQuoted style .plain (x :: done) rest
      | none, none =>
        if style.multiline && blank then
          if c = '\r' && rest.head? ≠ some '\n' then none
          else readQuoted style (.fold (c = '\n')) done rest
        else none
    | .fold brokeLine =>
      if !blank || (c = '\r' && rest.head? ≠ some '\n') then none
      else readQuoted style (.fold (brokeLine || c = '\n')) done rest
    | .plain =>
      if c = style.quote then
        if style.multiline then
          match closing? c (c :: rest) with
          | some (quotes, after) => some (done.reverse ++ quotes, after)
          | none => readQuoted style .plain (c :: done) rest
        else some (done.reverse, rest)
      else if c = '\\' && style.escapes then readQuoted style .escape done rest
      else if c = '\n' && style.multiline then readQuoted style .plain (c :: done) rest
      else if c = '\r' && style.multiline && rest.head? = some '\n' then
        readQuoted style .plain done rest
      else if isForbidden c then none
      else readQuoted style .plain (c :: done) rest

private def readText (style : QuoteStyle) (cs : List Char) : Option (String × List Char) :=
  (readQuoted style .plain [] cs).map fun (text, rest) => (String.ofList text, rest)

/-- Reads a text on one line, if one begins here. -/
def quotedLine? : List Char → Option (String × List Char)
  | '"' :: rest => readText ⟨'"', true, false⟩ rest
  | '\'' :: rest => readText ⟨'\'', false, false⟩ rest
  | _ => none

/-- Reads a text of any form, if one begins here. A line break after three opening quotes is
not part of it. -/
def quoted? : List Char → Option (String × List Char)
  | '"' :: '"' :: '"' :: rest =>
    readText ⟨'"', true, true⟩ ((afterLineBreak? rest).getD rest)
  | '\'' :: '\'' :: '\'' :: rest =>
    readText ⟨'\'', false, true⟩ ((afterLineBreak? rest).getD rest)
  | cs => quotedLine? cs

end ImportWeights.Toml
