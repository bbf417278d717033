import ImportWeights.Toml.Quoted
import ImportWeights.Toml.Scalar

/-! Reading a TOML document. There is one answer to everything that is wrong with a
document: it is none. -/

namespace ImportWeights.Toml

def isSpace (c : Char) : Bool := c = ' ' || c = '\t'

def skipSpaces (cs : List Char) : List Char := cs.dropWhile isSpace

/-- What follows blanks, line breaks and comments. -/
def skipLayout? (inComment : Bool) : List Char → Option (List Char)
  | [] => some []
  | '\n' :: rest => skipLayout? false rest
  | '\r' :: '\n' :: rest => skipLayout? false rest
  | c :: rest =>
    if inComment then if isForbidden c then none else skipLayout? true rest
    else if isSpace c then skipLayout? false rest
    else if c = '#' then skipLayout? true rest
    else some (c :: rest)

/-- What follows the line break, or nothing at the end of the document; there may be blanks
and a comment in front. -/
def endLine? (cs : List Char) : Option (List Char) :=
  let after := skipSpaces cs
  let rest := match after with
    | '#' :: comment => comment.dropWhile fun c => !isForbidden c
    | _ => after
  if rest = [] then some [] else afterLineBreak? rest

def isBareKeyChar (c : Char) : Bool := c.isAlphanum || c = '_' || c = '-'

/-- One key: quoted, or bare. -/
def key? (cs : List Char) : Option (String × List Char) :=
  (quotedLine? cs).orElse fun _ =>
    let bare := cs.takeWhile isBareKeyChar
    if bare = [] then none else some (String.ofList bare, cs.dropWhile isBareKeyChar)

/-- Keys between dots, with the blanks around them. -/
def keyPath? : Nat → List Char → Option (KeyPath × List Char)
  | 0, _ => none
  | fuel + 1, cs =>
    match key? (skipSpaces cs) with
    | none => none
    | some (key, rest) =>
      match skipSpaces rest with
      | '.' :: more => (keyPath? fuel more).map fun (path, rest) => (key :: path, rest)
      | rest => some ([key], rest)

/-- Keys up to the sign before their value. -/
def keyAndSign? (cs : List Char) : Option (KeyPath × List Char) :=
  match keyPath? (cs.length + 1) cs with
  | some (path, '=' :: rest) => some (path, skipSpaces rest)
  | _ => none

/-- A value that is no array and no table. -/
def simpleValue? (cs : List Char) : Option (Value × List Char) :=
  match cs.head? with
  | some '"' | some '\'' => (quoted? cs).map fun (text, rest) => (.text text, rest)
  | _ =>
    let (word, rest) := takeScalar cs
    (scalar? word).map fun v => (v, rest)

mutual

/-- A value. Every call but those that lead from an item to its value takes up a character,
so twice the length is fuel enough. -/
def value? : Nat → List Char → Option (Value × List Char)
  | 0, _ => none
  | fuel + 1, cs =>
    match cs with
    | '[' :: rest => (skipLayout? false rest).bind (items? fuel [])
    | '{' :: rest => (skipLayout? false rest).bind (entries? fuel [])
    | _ => simpleValue? cs

/-- The items of an array; the last one may have a comma after it. -/
def items? : Nat → List Value → List Char → Option (Value × List Char)
  | 0, _, _ => none
  | fuel + 1, done, cs =>
    match cs with
    | ']' :: rest => some (.array done, rest)
    | _ =>
      match value? fuel cs with
      | none => none
      | some (v, rest) =>
        match skipLayout? false rest with
        | some (',' :: more) => (skipLayout? false more).bind (items? fuel (done ++ [v]))
        | some (']' :: more) => some (.array (done ++ [v]), more)
        | _ => none

/-- The entries of a table in braces; the last one may have a comma after it. -/
def entries? : Nat → Table → List Char → Option (Value × List Char)
  | 0, _, _ => none
  | fuel + 1, done, cs =>
    match cs with
    | '}' :: rest => some (.table .braced done, rest)
    | _ =>
      match keyAndSign? cs with
      | none => none
      | some (path, rest) =>
        match value? fuel rest with
        | none => none
        | some (v, rest) =>
          match Document.insert? path v done, skipLayout? false rest with
          | some t, some (',' :: more) => (skipLayout? false more).bind (entries? fuel t)
          | some t, some ('}' :: more) => some (.table .braced t, more)
          | _, _ => none

end

/-- A header up to the end of its brackets. -/
private def header? (closing : List Char) (cs : List Char) : Option (KeyPath × List Char) :=
  match keyPath? (cs.length + 1) cs with
  | some (path, rest) =>
    if closing.isPrefixOf rest then some (path, rest.drop closing.length) else none
  | none => none

/-- One statement: a header, or a key with its value. -/
def statement? (d : Document) (cs : List Char) : Option (Document × List Char) :=
  match cs with
  | '[' :: '[' :: rest => (header? [']', ']'] rest).bind fun (path, rest) =>
      (d.openNext? path).map fun d => (d, rest)
  | '[' :: rest => (header? [']'] rest).bind fun (path, rest) =>
      (d.openTable? path).map fun d => (d, rest)
  | _ => (keyAndSign? cs).bind fun (path, rest) =>
      (value? (2 * rest.length + 2) rest).bind fun (v, rest) =>
        (d.setValue? path v).map fun d => (d, rest)

private def statements? : Nat → Document → List Char → Option Document
  | 0, _, _ => none
  | fuel + 1, d, cs =>
    match skipLayout? false cs with
    | none => none
    | some [] => some d
    | some rest =>
      match statement? d rest with
      | none => none
      | some (d, rest) => (endLine? rest).bind (statements? fuel d)

/-- Reads a document, which may begin with a byte order mark. -/
def parse? (text : String) : Option Table :=
  let cs := match text.toList with
    | '\uFEFF' :: rest => rest
    | cs => cs
  (statements? (cs.length + 1) Document.empty cs).map (·.root)

end ImportWeights.Toml
