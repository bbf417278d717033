import ImportWeights.Source.FileParser
import ImportWeights.Text.Utf8

/-! Reading a file's bytes line by line without ever holding more than one line and two
bytes: enough room for a line of the longest accepted length and its terminator. -/

namespace ImportWeights.Source

def lineFeed : UInt8 := 10
def carriageReturn : UInt8 := 13

/-- What one bounded read gives. -/
inductive LineRead where
  | finished
  | tooLong
  | line (text rest : List UInt8)
deriving DecidableEq, Repr

/-- Takes the next line off the bytes. At most `max + 2` bytes are looked at, a number that has
to fit sixty-four bits: for the two largest limits of that width it does not, and these are not
meant here. One carriage return at the end of the line goes with the terminator, also at the end
of the file. -/
def readLine (max : Nat) (bytes : List UInt8) : LineRead :=
  match bytes with
  | [] => .finished
  | b :: more =>
    let whole := (b :: more).takeWhile (· != lineFeed)
    let taken := whole.take (max + 2)
    let terminated := whole.length < max + 2 && whole.length < (b :: more).length
    let text := Text.dropTrailing carriageReturn taken
    if max < text.length || (!terminated && taken.length == max + 2) then .tooLong
    else .line text ((b :: more).drop (whole.length + 1))

theorem readLine_shorter {max : Nat} {bytes text rest : List UInt8}
    (h : readLine max bytes = .line text rest) : rest.length < bytes.length := by
  cases bytes with
  | nil => simp [readLine] at h
  | cons b more =>
    simp only [readLine] at h
    split at h
    · contradiction
    · injection h with _ hr
      rw [← hr, List.length_drop, List.length_cons]
      omega

/-- A line longer than the limit, counted from 1. -/
structure OverlongLine where
  line : Nat
  limit : Nat
deriving DecidableEq, Repr

/-- Feeds the lines of the bytes to a parser; `line` is the number of the next one. -/
def extractFrom (max : Nat) (parser : FileParser) (line : Nat) (bytes : List UInt8) :
    Except OverlongLine Outcome :=
  match h : readLine max bytes with
  | .finished => .ok parser.finish
  | .tooLong => .error ⟨line, max⟩
  | .line text rest =>
    have := readLine_shorter h
    let fed := parser.feed (Text.Utf8.lossyString text)
    if fed.closed then .ok fed.finish else extractFrom max fed (line + 1) rest
termination_by bytes.length

/-- The outcome of a file with the given content. -/
def extract (max : Nat) (bytes : List UInt8) : Except OverlongLine Outcome :=
  extractFrom max FileParser.fresh 1 bytes

end ImportWeights.Source
