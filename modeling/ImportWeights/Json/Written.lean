import ImportWeights.Text.Quoted

/-! Texts as they are written in JSON: quotes, backslashes and controls are escaped,
everything else stands for itself. -/

namespace ImportWeights.Json

def writtenChar (c : Char) : List Char :=
  if c = '"' then ['\\', '"']
  else if c = '\\' then ['\\', '\\']
  else if c = '\x08' then ['\\', 'b']
  else if c = '\x0c' then ['\\', 'f']
  else if c = '\n' then ['\\', 'n']
  else if c = '\r' then ['\\', 'r']
  else if c = '\t' then ['\\', 't']
  else if c.toNat < 0x20 then
    ['\\', 'u', '0', '0'] ++ Text.hexByte false (UInt8.ofNat c.toNat)
  else [c]

/-- A text in quotes. -/
def written (s : String) : String :=
  String.ofList ('"' :: s.toList.flatMap writtenChar ++ ['"'])

/-- An object of numbers on one line. -/
def writtenCounts (entries : List (String × Nat)) : String :=
  let members := entries.map fun (key, n) => written key ++ ":" ++ toString n
  "\x7b" ++ ",".intercalate members ++ "\x7d"

/-- An object of already written members, each on a line of its own. An empty one has no
lines. -/
def writtenObject (indent : Nat) (members : List (String × String)) : String :=
  let space (n : Nat) : String := String.ofList (List.replicate n ' ')
  if members.isEmpty then "\x7b\x7d"
  else
    let lines := members.map fun (key, value) => space (indent + 2) ++ written key ++ ": " ++ value
    "\x7b\n" ++ ",\n".intercalate lines ++ "\n" ++ space indent ++ "\x7d"

end ImportWeights.Json
