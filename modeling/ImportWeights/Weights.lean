import ImportWeights.Source.Record

/-! How often each package imports each path: the records of one scan, counted by edge.
A weight map is the list of its entries in the order of their keys. -/

namespace ImportWeights

open ImportWeights.Source

/-- A package and one thing it imports. -/
structure Edge where
  package : String
  path : String
deriving DecidableEq, Repr

def Edge.key (e : Edge) : String := e.package ++ ":" ++ e.path

structure WeightMap where
  entries : List (String × Nat)
deriving DecidableEq, Repr

namespace WeightMap

def empty : WeightMap := ⟨[]⟩

/-- Adds one to a key's count, in entries that are in the order of their keys. -/
def bump (key : String) : List (String × Nat) → List (String × Nat)
  | [] => [(key, 1)]
  | (k, n) :: rest =>
    if key = k then (k, n + 1) :: rest
    else if key < k then (key, 1) :: (k, n) :: rest
    else (k, n) :: bump key rest

def increment (m : WeightMap) (e : Edge) : WeightMap := ⟨bump e.key m.entries⟩

def get? (m : WeightMap) (key : String) : Option Nat := m.entries.lookup key

def size (m : WeightMap) : Nat := m.entries.length

def isEmpty (m : WeightMap) : Bool := m.entries.isEmpty

/-- The sum of all weights. -/
def total (m : WeightMap) : Nat := (m.entries.map (·.2)).foldr (· + ·) 0

/-- Heavier entries come first; of two equal ones, the one with the lower key. -/
def heavierFirst (a b : String × Nat) : Bool :=
  b.2 < a.2 || (a.2 == b.2 && a.1 ≤ b.1)

/-- The entries by falling weight, and by key where weights are equal. -/
def heaviest (m : WeightMap) : List (String × Nat) := m.entries.mergeSort heavierFirst

/-- The edges that a list of records counts; an empty import is none. -/
def edges (records : List PackageRecord) : List Edge :=
  records.flatMap fun r => (r.imports.filter (· ≠ "")).map (Edge.mk r.name)

def ofEdges (es : List Edge) : WeightMap := es.foldl increment empty

/-- The weights of a list of records. -/
def ofRecords (records : List PackageRecord) : WeightMap := ofEdges (edges records)

end WeightMap

end ImportWeights
