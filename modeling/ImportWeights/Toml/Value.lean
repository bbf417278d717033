/-! TOML values. A table remembers how it was begun, because that decides what a later
line may still add to it: no line ever says the same thing twice. -/

namespace ImportWeights.Toml

inductive TableKind where
  /-- Only named on the way to a table below it. -/
  | implied
  /-- Begun by a dotted key. -/
  | dotted
  /-- Under a header of its own. -/
  | headed
  /-- Written in braces; nothing is ever added. -/
  | braced
deriving DecidableEq, Repr

inductive Value where
  | text (s : String)
  | integer (n : Int)
  /-- The digits of a float as they were written. -/
  | float (written : String)
  | boolean (b : Bool)
  | dateTime (written : String)
  | array (items : List Value)
  | table (kind : TableKind) (entries : List (String × Value))
  /-- An array of tables, each begun by a header. -/
  | tables (items : List (List (String × Value)))
deriving Repr

abbrev Table := List (String × Value)

namespace Table

def get? (t : Table) (key : String) : Option Value := t.lookup key

/-- Puts a value under a key, in place of one that is there. -/
def put (t : Table) (key : String) (v : Value) : Table :=
  if (t.lookup key).isSome then t.map fun e => if e.1 = key then (key, v) else e
  else t ++ [(key, v)]

/-- Adds a value under a key that is not there yet. -/
def add? (key : String) (v : Value) (t : Table) : Option Table :=
  if (t.lookup key).isSome then none else some (t ++ [(key, v)])

/-- Changes the table at the end of a path. Tables missing on the way are begun. A dotted
key passes only through tables that no header began, a header also through the last one of
an array of tables. -/
def within? (byDots : Bool) (change : Table → Option Table) : List String → Table → Option Table
  | [], t => change t
  | key :: rest, t =>
    match t.get? key with
    | none => (within? byDots change rest []).map fun below =>
        t ++ [(key, .table (if byDots then .dotted else .implied) below)]
    | some (.table kind entries) =>
      if kind = .braced || (byDots && kind = .headed) then none
      else (within? byDots change rest entries).map fun below => t.put key (.table kind below)
    | some (.tables items) =>
      match items.getLast? with
      | none => none
      | some last => (within? byDots change rest last).map fun below =>
          t.put key (.tables (items.dropLast ++ [below]))
    | some _ => none

/-- Begins the table of a header. One that was only named on the way is taken up. -/
def begin? (key : String) (t : Table) : Option Table :=
  match t.get? key with
  | none => some (t ++ [(key, .table .headed [])])
  | some (.table .implied entries) => some (t.put key (.table .headed entries))
  | some _ => none

/-- Begins one more table of an array of tables. -/
def beginNext? (key : String) (t : Table) : Option Table :=
  match t.get? key with
  | none => some (t ++ [(key, .tables [[]])])
  | some (.tables items) => some (t.put key (.tables (items ++ [[]])))
  | some _ => none

end Table

/-- A place in a document: the keys on the way down. -/
abbrev KeyPath := List String

/-- What a document says so far, and the table that its next lines speak of. -/
structure Document where
  root : Table
  current : KeyPath

namespace Document

def empty : Document := ⟨[], []⟩

/-- Does something with the last key of a path, in the table above it. -/
private def atLast (byDots : Bool) (change : String → Table → Option Table) (path : KeyPath)
    (t : Table) : Option Table :=
  match path.getLast? with
  | none => none
  | some key => t.within? byDots (change key) path.dropLast

/-- Adds a value under a dotted key, below a table. -/
def insert? (path : KeyPath) (v : Value) (t : Table) : Option Table :=
  atLast true (fun key => Table.add? key v) path t

def setValue? (d : Document) (path : KeyPath) (v : Value) : Option Document :=
  (d.root.within? false (insert? path v) d.current).map fun root => { d with root }

def openTable? (d : Document) (path : KeyPath) : Option Document :=
  (atLast false Table.begin? path d.root).map fun root => ⟨root, path⟩

def openNext? (d : Document) (path : KeyPath) : Option Document :=
  (atLast false Table.beginNext? path d.root).map fun root => ⟨root, path⟩

end Document

end ImportWeights.Toml
