import DumpCheck.Log.Record

/-!
# Console

What a run does to the world outside is a list of actions. `Console.play` carries them out on two
sinks, which may take a limited number of bytes only. What a sink has no room for is lost, and ends
the run unless it is a mere warning.
-/

namespace DumpCheck

inductive Action
  | log (r : Record)
  | out (t : Text)
  | err (t : Text)
  /-- Writes to the error output, and goes on even if that fails. -/
  | warn (t : Text)
  /-- Makes sure that the output has arrived. -/
  | flush
  deriving Repr, DecidableEq

inductive WriteFailure
  | full
  | flush
  deriving Repr, DecidableEq

def WriteFailure.message : WriteFailure → Text
  | full => "writer is full".toList
  | flush => "flush failed".toList

/-- Something that takes bytes, possibly only so many. -/
structure Sink where
  /-- The bytes that it has room for; without a limit there is always room. -/
  room : Option Nat
  received : List UInt8
  deriving Repr, DecidableEq

namespace Sink

def empty (room : Option Nat) : Sink := ⟨room, []⟩

/-- Takes the bytes there is room for. -/
def write (s : Sink) (t : Text) : Sink :=
  match s.room with
  | none => { s with received := s.received ++ t.utf8 }
  | some n => ⟨some (n - t.utf8.length), s.received ++ t.utf8.take n⟩

def fits (s : Sink) (t : Text) : Bool :=
  match s.room with
  | none => true
  | some n => t.utf8.length ≤ n

end Sink

structure Console where
  out : Sink
  err : Sink
  /-- The output can be made to arrive. -/
  flushes : Bool
  /-- The records so far, latest first. -/
  log : List Record
  deriving Repr, DecidableEq

namespace Console

def act (c : Console) : Action → Console × Except WriteFailure Unit
  | .log r => ({ c with log := r :: c.log }, .ok ())
  | .out t => ({ c with out := c.out.write t }, if c.out.fits t then .ok () else .error .full)
  | .err t => ({ c with err := c.err.write t }, if c.err.fits t then .ok () else .error .full)
  | .warn t => ({ c with err := c.err.write t }, .ok ())
  | .flush => (c, if c.flushes then .ok () else .error .flush)

/-- Carries out actions up to the first that fails. -/
def play (c : Console) : List Action → Console × Except WriteFailure Unit
  | [] => (c, .ok ())
  | a :: rest =>
    match c.act a with
    | (c, .ok ()) => c.play rest
    | (c, .error e) => (c, .error e)

end Console
end DumpCheck
