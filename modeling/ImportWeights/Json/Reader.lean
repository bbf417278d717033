import ImportWeights.Json.Number
import ImportWeights.Text.Ascii
import ImportWeights.Text.Quoted

/-! Reading a record of texts from JSON. The input is read once, from left to right, and
the first thing wrong with it ends the reading: a value of the wrong type is told even if
the text breaks off later. Fields that are not asked for are only checked for form. -/

namespace ImportWeights.Json

/-- Why reading ended: the input is no JSON, or not JSON of the shape asked for. -/
inductive ReadFault where
  | malformed
  | mistyped (message : String)
deriving DecidableEq, Repr

abbrev Reading (α : Type) := Except ReadFault (α × List UInt8)

private def isBlankByte (b : UInt8) : Bool := b = 32 || b = 10 || b = 9 || b = 13

def skipBlanks (input : List UInt8) : List UInt8 := input.dropWhile isBlankByte

/-- The number that four hexadecimal digits stand for, and what follows them. -/
def fourDigits : List UInt8 → Option (Nat × List UInt8)
  | a :: b :: c :: d :: rest =>
    match Text.hexValue? a.toNat, Text.hexValue? b.toNat, Text.hexValue? c.toNat,
        Text.hexValue? d.toNat with
    | some w, some x, some y, some z => some (((w * 16 + x) * 16 + y) * 16 + z, rest)
    | _, _, _, _ => none
  | _ => none

/-- The character of an escape of one letter. -/
def plainEscape? (b : UInt8) : Option UInt8 :=
  if b = 34 || b = 92 || b = 47 then some b
  else if b = 98 then some 8
  else if b = 102 then some 12
  else if b = 110 then some 10
  else if b = 114 then some 13
  else if b = 116 then some 9
  else none

/-- The code point of an escape in numbers, after its first letter. A high surrogate has to
be followed by a low one. -/
def codeEscape (input : List UInt8) : Option (Nat × List UInt8) :=
  match fourDigits input with
  | none => none
  | some (n, rest) =>
    if 0xdc00 ≤ n && n ≤ 0xdfff then none
    else if 0xd800 ≤ n && n ≤ 0xdbff then
      match rest with
      | 92 :: 117 :: more =>
        match fourDigits more with
        | some (low, rest) =>
          if 0xdc00 ≤ low && low ≤ 0xdfff then
            some (0x10000 + (n - 0xd800) * 1024 + (low - 0xdc00), rest)
          else none
        | none => none
      | _ => none
    else some (n, rest)

/-- One step inside a text: `none` if it is malformed, `some none` at its end. -/
def textStep (input : List UInt8) : Option (Option (List UInt8) × List UInt8) :=
  match input with
  | [] => none
  | b :: rest =>
    if b = 34 then some (none, rest)
    else if b = 92 then
      match rest with
      | [] => none
      | e :: more =>
        if e = 117 then
          (codeEscape more).map fun (n, rest) =>
            (some (String.utf8EncodeChar (Char.ofNat n)), rest)
        else (plainEscape? e).map fun c => (some [c], more)
    else if b < 32 then none
    else some (some [b], rest)

/-- The bytes of a text after its opening quote. -/
def textBytes : Nat → List UInt8 → List UInt8 → Option (List UInt8 × List UInt8)
  | 0, _, _ => none
  | fuel + 1, done, input =>
    match textStep input with
    | none => none
    | some (none, rest) => some (done.reverse, rest)
    | some (some bytes, rest) => textBytes fuel (bytes.reverse ++ done) rest

/-- A text after its opening quote; it has to be valid. -/
def readText (input : List UInt8) : Reading String :=
  match textBytes (input.length + 1) [] input with
  | none => .error .malformed
  | some (bytes, rest) =>
    match Text.Utf8.string? bytes with
    | some s => .ok (s, rest)
    | none => .error .malformed

/-- What follows a text of which only the form is checked. -/
def skipText : Nat → List UInt8 → Option (List UInt8)
  | 0, _ => none
  | fuel + 1, input =>
    match input with
    | [] => none
    | b :: rest =>
      if b = 34 then some rest
      else if b = 92 then
        match rest with
        | [] => none
        | e :: more =>
          if e = 117 then
            match fourDigits more with
            | some (_, rest) => skipText fuel rest
            | none => none
          else if (plainEscape? e).isSome then skipText fuel more
          else none
      else if b < 32 then none
      else skipText fuel rest

/-- What follows a fixed word. -/
def skipWord (word : String) (input : List UInt8) : Option (List UInt8) :=
  let bytes := Text.Utf8.ofString word
  if bytes.isPrefixOf input then some (input.drop bytes.length) else none

/-- What may come next while a value is skipped. -/
inductive Awaited where
  | value
  | valueOrEnd
  | name
  | nameOrEnd
  /-- A value has ended: more of what is around it, or the end of that. -/
  | more
deriving DecidableEq, Repr

/-- What is open around a place. -/
inductive Container where
  | array
  | object
deriving DecidableEq, Repr

private structure SkipState where
  awaited : Awaited
  inside : List Container
  rest : List UInt8

private def scalarEnd (b : UInt8) (rest : List UInt8) : Option (List UInt8) :=
  if b = 110 then skipWord "ull" rest
  else if b = 116 then skipWord "rue" rest
  else if b = 102 then skipWord "alse" rest
  else if b = 34 then skipText (rest.length + 1) rest
  else if b = 45 then skipNumber rest
  else if isDigitByte b then skipNumber (b :: rest)
  else none

private def startValue (inside : List Container) (b : UInt8) (rest : List UInt8) :
    Option SkipState :=
  if b = 91 then some ⟨.valueOrEnd, .array :: inside, rest⟩
  else if b = 123 then some ⟨.nameOrEnd, .object :: inside, rest⟩
  else (scalarEnd b rest).map (SkipState.mk .more inside)

private def startName (inside : List Container) (b : UInt8) (rest : List UInt8) :
    Option SkipState :=
  if b = 34 then
    match (skipText (rest.length + 1) rest).map skipBlanks with
    | some (58 :: after) => some ⟨.value, inside, after⟩
    | _ => none
  else none

private def skipStep (s : SkipState) : Option SkipState :=
  match skipBlanks s.rest with
  | [] => none
  | b :: rest =>
    match s.awaited with
    | .value => startValue s.inside b rest
    | .valueOrEnd =>
      if b = 93 then some ⟨.more, s.inside.drop 1, rest⟩ else startValue s.inside b rest
    | .name => startName s.inside b rest
    | .nameOrEnd =>
      if b = 125 then some ⟨.more, s.inside.drop 1, rest⟩ else startName s.inside b rest
    | .more =>
      match s.inside with
      | .array :: outer =>
        if b = 44 then some ⟨.value, s.inside, rest⟩
        else if b = 93 then some ⟨.more, outer, rest⟩
        else none
      | .object :: outer =>
        if b = 44 then some ⟨.name, s.inside, rest⟩
        else if b = 125 then some ⟨.more, outer, rest⟩
        else none
      | [] => none

private def skipFrom : Nat → SkipState → Option (List UInt8)
  | 0, _ => none
  | fuel + 1, s =>
    if s.awaited = .more && s.inside.isEmpty then some s.rest
    else match skipStep s with
      | none => none
      | some next => skipFrom fuel next

/-- What follows a value of which only the form is checked. -/
def skipValue (input : List UInt8) : Option (List UInt8) :=
  skipFrom (input.length + 1) ⟨.value, [], input⟩

/-- A name between grave accents. -/
def accented (s : String) : String := "`" ++ s ++ "`"

/-- What a value that is not wanted is called. -/
def describeValue (input : List UInt8) : Except ReadFault String :=
  let named (name : String) : Option (List UInt8) → Except ReadFault String
    | some _ => .ok name
    | none => .error .malformed
  let number : Option (Number × List UInt8) → Except ReadFault String
    | some (n, _) => .ok n.description
    | none => .error .malformed
  match input with
  | [] => .error .malformed
  | b :: rest =>
    if b = 110 then named "null" (skipWord "ull" rest)
    else if b = 116 then named ("boolean " ++ accented "true") (skipWord "rue" rest)
    else if b = 102 then named ("boolean " ++ accented "false") (skipWord "alse" rest)
    else if b = 45 then number (readNumber true rest)
    else if isDigitByte b then number (readNumber false input)
    else if b = 34 then
      match readText rest with
      | .ok (s, _) => .ok ("string " ++ Text.quoted s)
      | .error e => .error e
    else if b = 91 then .ok "sequence"
    else if b = 123 then .ok "map"
    else .error .malformed

/-- The fault of a value of the wrong type, unless it is malformed. -/
def mistyped (place : String) (input : List UInt8) (wanted : String) : ReadFault :=
  match describeValue input with
  | .error e => e
  | .ok name => .mistyped (place ++ "invalid type: " ++ name ++ ", expected " ++ wanted)

/-- A field of a record; one that is not required is empty where it is left out. -/
structure TextField where
  name : String
  required : Bool
deriving DecidableEq, Repr

/-- A record of texts: an object with these fields, or an array in their order. -/
structure RecordShape where
  name : String
  fields : List TextField
deriving DecidableEq, Repr

namespace RecordShape

/-- Reads a value that has to be a text. -/
private def textValue (place : String) (input : List UInt8) : Reading String :=
  match skipBlanks input with
  | 34 :: rest => readText rest
  | other => .error (mistyped place other "a string")

private def lengthFault (shape : RecordShape) (found : Nat) : ReadFault :=
  let n := shape.fields.length
  .mistyped ("invalid length " ++ toString found ++ ", expected struct " ++ shape.name ++ " with " ++
    toString n ++ if n = 1 then " element" else " elements")

/-- The texts of an array for the fields from a position on. -/
private def arrayFields (shape : RecordShape) (position : Nat) :
    List TextField → List UInt8 → Reading (List String)
  | [], input =>
    match skipBlanks input with
    | 93 :: rest => .ok ([], rest)
    | _ => .error .malformed
  | field :: fields, input =>
    let element (input : List UInt8) : Reading (List String) :=
      match textValue ("[" ++ toString position ++ "]: ") input with
      | .error e => .error e
      | .ok (s, rest) =>
        match arrayFields shape (position + 1) fields rest with
        | .error e => .error e
        | .ok (more, rest) => .ok (s :: more, rest)
    match skipBlanks input with
    | [] => .error .malformed
    | b :: rest =>
      if b = 93 then
        if field.required then .error (shape.lengthFault position)
        else match arrayFields shape (position + 1) fields input with
          | .error e => .error e
          | .ok (more, rest) => .ok ("" :: more, rest)
      else if position = 0 then element (b :: rest)
      else if b = 44 then
        match skipBlanks rest with
        | 93 :: _ => .error .malformed
        | next => element next
      else .error .malformed

/-- The texts for the fields, once an object has been read. -/
private def collect (found : List (String × String)) :
    List TextField → Except ReadFault (List String)
  | [] => .ok []
  | field :: fields =>
    match found.lookup field.name with
    | none =>
      if field.required then .error (.mistyped ("missing field " ++ accented field.name))
      else (collect found fields).map ("" :: ·)
    | some s => (collect found fields).map (s :: ·)

/-- Reads one member of an object, after the quote that opens its name. -/
private def member (shape : RecordShape) (found : List (String × String)) (input : List UInt8) :
    Reading (List (String × String)) :=
  match readText input with
  | .error e => .error e
  | .ok (name, rest) =>
    let known := shape.fields.any (·.name = name)
    if known && (found.lookup name).isSome then
      .error (.mistyped ("duplicate field " ++ accented name))
    else match skipBlanks rest with
      | 58 :: value =>
        if known then
          match textValue (name ++ ": ") value with
          | .error e => .error e
          | .ok (s, rest) => .ok ((name, s) :: found, rest)
        else match skipValue value with
          | some rest => .ok (found, rest)
          | none => .error .malformed
      | _ => .error .malformed

/-- Reads the next member of an object, or its end. The flag tells which. -/
private def nextMember (shape : RecordShape) (first : Bool) (found : List (String × String))
    (input : List UInt8) : Reading (Bool × List (String × String)) :=
  let named (input : List UInt8) : Reading (Bool × List (String × String)) :=
    match input with
    | 34 :: rest => (shape.member found rest).map fun (found, rest) => ((false, found), rest)
    | _ => .error .malformed
  match skipBlanks input with
  | [] => .error .malformed
  | b :: rest =>
    if b = 125 then .ok ((true, found), rest)
    else if first then named (b :: rest)
    else if b = 44 then named (skipBlanks rest)
    else .error .malformed

/-- Reads the members of an object up to its end. -/
private def objectFields (shape : RecordShape) :
    Nat → Bool → List (String × String) → List UInt8 → Reading (List (String × String))
  | 0, _, _, _ => .error .malformed
  | fuel + 1, first, found, input =>
    match shape.nextMember first found input with
    | .error e => .error e
    | .ok ((true, found), rest) => .ok (found, rest)
    | .ok ((false, found), rest) => objectFields shape fuel false found rest

/-- Reads a record, and what follows it. -/
private def value (shape : RecordShape) (input : List UInt8) : Reading (List String) :=
  match skipBlanks input with
  | 91 :: rest => shape.arrayFields 0 shape.fields rest
  | 123 :: rest =>
    match shape.objectFields (rest.length + 1) true [] rest with
    | .error e => .error e
    | .ok (found, rest) => (collect found shape.fields).map fun texts => (texts, rest)
  | other => .error (mistyped "" other ("struct " ++ shape.name))

/-- The texts of a record that is all of the input, in the order of the fields. -/
def read (shape : RecordShape) (input : List UInt8) : Except ReadFault (List String) :=
  match shape.value input with
  | .error e => .error e
  | .ok (texts, rest) => if skipBlanks rest = [] then .ok texts else .error .malformed

end RecordShape

end ImportWeights.Json
