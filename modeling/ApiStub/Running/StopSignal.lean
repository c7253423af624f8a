/-!
# Asking for a stop

A stop is asked for by a signal to everybody who listens. Only the last signal is kept: a listener
who missed earlier ones is told how many first. A signal that nobody listens for is lost, and a
listener hears only what is sent after it began to listen.
-/

namespace ApiStub.Running

/-- The state of the signals: a listener is the number of signals it has been told of. -/
structure StopSignal where
  /-- How many signals were sent. -/
  sent : Nat := 0
  /-- The listeners in the order they began to listen; one who is gone is none. -/
  listeners : List (Option Nat) := []
  /-- How many can send. -/
  senders : Nat := 1
  deriving DecidableEq, Repr, Inhabited

/-- What a listener is told. -/
inductive Notice where
  /-- A stop is asked for. -/
  | signal
  /-- Nothing new. -/
  | nothing
  /-- So many signals were missed. -/
  | missed (count : Nat)
  /-- Nothing new, and nobody is left to send. -/
  | closed
  deriving DecidableEq, Repr

namespace StopSignal

/-- How many listen. -/
def listening (signals : StopSignal) : Nat := (signals.listeners.filterMap id).length

/-- One more listens. -/
def listen (signals : StopSignal) : StopSignal :=
  { signals with listeners := signals.listeners ++ [some signals.sent] }

/-- One more can send. -/
def share (signals : StopSignal) : StopSignal :=
  { signals with senders := signals.senders + 1 }

/-- One fewer can send. -/
def release (signals : StopSignal) : StopSignal :=
  { signals with senders := signals.senders - 1 }

/-- Asks for a stop. -/
def send (signals : StopSignal) : StopSignal :=
  if signals.listening == 0 then signals else { signals with sent := signals.sent + 1 }

/-- A listener goes. -/
def leave (signals : StopSignal) (index : Nat) : StopSignal :=
  { signals with listeners := signals.listeners.set index none }

/-- How many signals a listener has been told of, if it is there. -/
def told? (signals : StopSignal) (index : Nat) : Option Nat :=
  signals.listeners[index]?.join

/-- What a listener who has been told of so many signals is told next. -/
def noticeAfter (signals : StopSignal) (told : Nat) : Notice :=
  if told == signals.sent then if signals.senders == 0 then .closed else .nothing
  else if told + 1 == signals.sent then .signal
  else .missed (signals.sent - 1 - told)

/-- How many signals a listener has been told of after a notice. -/
def toldAfter (signals : StopSignal) : Notice → Nat
  | .missed _ => signals.sent - 1
  | _ => signals.sent

/-- Tells a listener what is new, if it is there. -/
def receive (signals : StopSignal) (index : Nat) : Option Notice × StopSignal :=
  match signals.told? index with
  | none => (none, signals)
  | some told =>
    let notice := signals.noticeAfter told
    (some notice,
      { signals with
        listeners := signals.listeners.set index (some (signals.toldAfter notice)) })

end StopSignal

end ApiStub.Running
