import ImportWeights.Text.Pieces

/-! Glob patterns over paths.

A single wildcard, a question mark and a character class match separators as well. A
double wildcard has to be a whole path component: it stands for any number of components,
and at the end of a pattern for anything at all. -/

namespace ImportWeights.Scan

/-- A member of a character class. -/
inductive CharRange where
  | single (c : Char)
  | span (first last : Char)
deriving DecidableEq, Repr

def CharRange.holds (r : CharRange) (c : Char) : Bool :=
  match r with
  | .single d => c == d
  | .span first last => first ≤ c && c ≤ last

inductive Token where
  | char (c : Char)
  | anyChar
  | anySequence
  | anyComponents
  | within (ranges : List CharRange)
  | except (ranges : List CharRange)
deriving DecidableEq, Repr

structure Pattern where
  tokens : List Token
deriving DecidableEq, Repr

inductive PatternFault where
  | wildcards
  | recursiveWildcards
  | range
deriving DecidableEq, Repr

/-- A fault and the number of characters before the place where it shows. -/
structure PatternError where
  position : Nat
  fault : PatternFault
deriving DecidableEq, Repr

def PatternFault.message : PatternFault → String
  | wildcards => "wildcards are either regular `*` or recursive `**`"
  | recursiveWildcards => "recursive wildcards must form a single path component"
  | range => "invalid range pattern"

def PatternError.message (e : PatternError) : String :=
  "Pattern syntax error near position " ++ toString e.position ++ ": " ++ e.fault.message

namespace Pattern

/-- Reads the inside of a character class. -/
def ranges : List Char → List CharRange
  | first :: '-' :: last :: rest => .span first last :: ranges rest
  | c :: rest => .single c :: ranges rest
  | [] => []

/-- A class whose first member may be the closing bracket: the members and what follows. -/
private def classAfter (cs : List Char) : Option (List Char × List Char) :=
  match cs with
  | [] => none
  | first :: rest =>
    match rest.dropWhile (· != ']') with
    | [] => none
    | _ :: after => some (first :: rest.takeWhile (· != ']'), after)

/-- Reads a bracketed class; what follows it is shorter than what was given. -/
private def classToken (cs : List Char) : Option (Token × List Char) :=
  match cs with
  | '!' :: rest => (classAfter rest).map fun (members, after) => (.except (ranges members), after)
  | _ => (classAfter cs).map fun (members, after) => (.within (ranges members), after)

private theorem classAfter_shorter {cs members after : List Char}
    (h : classAfter cs = some (members, after)) : after.length < cs.length := by
  cases cs with
  | nil => simp [classAfter] at h
  | cons first rest =>
    simp only [classAfter] at h
    split at h
    · contradiction
    · rename_i b tail hd
      injection h with h
      injection h with _ ha
      have hl := (List.dropWhile_sublist (· != ']') (l := rest)).length_le
      rw [hd] at hl
      subst ha
      simp only [List.length_cons] at hl ⊢
      omega

private theorem classToken_shorter {cs after : List Char} {t : Token}
    (h : classToken cs = some (t, after)) : after.length < cs.length := by
  unfold classToken at h
  split at h
  · obtain ⟨⟨members, rest⟩, hc, he⟩ := Option.map_eq_some_iff.1 h
    injection he with _ ha
    subst ha
    exact Nat.lt_succ_of_lt (classAfter_shorter hc)
  · obtain ⟨⟨members, rest⟩, hc, he⟩ := Option.map_eq_some_iff.1 h
    injection he with _ ha
    subst ha
    exact classAfter_shorter hc

/-- Adds a double wildcard; one right after another says nothing new. -/
private def pushComponents (done : List Token) : List Token :=
  match done with
  | .anyComponents :: _ :: _ => done
  | _ => .anyComponents :: done

/-- Reads the tokens from a position on. `before` is the character in front of it and
`done` holds the tokens so far, newest first. -/
private def tokensFrom (position : Nat) (before : Option Char) (done : List Token)
    (cs : List Char) : Except PatternError (List Token) :=
  match cs with
  | [] => .ok done.reverse
  | '?' :: rest => tokensFrom (position + 1) (some '?') (.anyChar :: done) rest
  | '*' :: '*' :: '*' :: _ => .error ⟨position + 2, .wildcards⟩
  | '*' :: '*' :: rest =>
    if before.all (· == '/') then
      match rest with
      | [] => .ok (pushComponents done).reverse
      | '/' :: after => tokensFrom (position + 3) (some '/') (pushComponents done) after
      | _ => .error ⟨position + 2, .recursiveWildcards⟩
    else .error ⟨position - 1, .recursiveWildcards⟩
  | '*' :: rest => tokensFrom (position + 1) (some '*') (.anySequence :: done) rest
  | '[' :: rest =>
    match h : classToken rest with
    | none => .error ⟨position, .range⟩
    | some (token, after) =>
      have := classToken_shorter h
      tokensFrom (position + 1 + (rest.length - after.length)) (some ']') (token :: done) after
  | c :: rest => tokensFrom (position + 1) (some c) (.char c :: done) rest
termination_by cs.length

def parse (text : String) : Except PatternError Pattern :=
  (tokensFrom 0 none [] text.toList).map Pattern.mk

/-- What is left after each separator. -/
def afterSeparators : List Char → List (List Char)
  | [] => []
  | c :: rest => if c = '/' then rest :: afterSeparators rest else afterSeparators rest

/-- What is left after any number of characters. -/
def suffixes : List Char → List (List Char)
  | [] => [[]]
  | c :: rest => (c :: rest) :: suffixes rest

def Token.accepts (t : Token) (c : Char) : Bool :=
  match t with
  | .char d => c == d
  | .anyChar => true
  | .within rs => rs.any (·.holds c)
  | .except rs => !rs.any (·.holds c)
  | .anySequence => false
  | .anyComponents => false

def matchTokens : List Token → List Char → Bool
  | [], cs => cs.isEmpty
  | .anySequence :: ts, cs => (suffixes cs).any (matchTokens ts)
  | .anyComponents :: ts, cs => (cs :: afterSeparators cs ++ [[]]).any (matchTokens ts)
  | t :: ts, cs =>
    match cs with
    | [] => false
    | c :: rest => Token.accepts t c && matchTokens ts rest

def accepts (p : Pattern) (text : String) : Bool :=
  matchTokens p.tokens text.toList

end Pattern

end ImportWeights.Scan
