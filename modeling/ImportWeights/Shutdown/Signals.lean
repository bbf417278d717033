import ImportWeights.Logging.Entry
import ImportWeights.Shutdown.Coordinator

/-! Signals to the process: the first one asks for a shutdown, the second one ends the
process at once. -/

namespace ImportWeights.Shutdown

open ImportWeights.Logging

/-- The exit code after a second signal. -/
def forcedExitCode : Nat := 130

/-- The coordinator with the number of signals that have come so far. -/
structure SignalState where
  coordinator : Coordinator
  received : Nat
deriving DecidableEq, Repr

def SignalState.fresh : SignalState := ⟨.fresh, 0⟩

/-- What a signal does: an exit code if it ends the process. -/
structure SignalOutcome where
  exit : Option Nat
  state : SignalState
  log : Log

def SignalState.onSignal (s : SignalState) : SignalOutcome :=
  if 1 ≤ s.received then
    ⟨some forcedExitCode, { s with received := s.received + 1 },
      [warn (.shutdown 106) "Second shutdown signal received; exiting immediately"]⟩
  else
    ⟨none, ⟨s.coordinator.trigger, s.received + 1⟩,
      [info (.shutdown 109) "Shutdown signal received"]⟩

/-- The signals in turn, up to the one that ends the process. -/
def SignalState.onSignals (s : SignalState) : Nat → SignalOutcome
  | 0 => ⟨none, s, []⟩
  | n + 1 =>
    let first := s.onSignal
    match first.exit with
    | some code => ⟨some code, first.state, first.log⟩
    | none =>
      let rest := first.state.onSignals n
      { rest with log := first.log ++ rest.log }

end ImportWeights.Shutdown
