/-!
# Failures of input and output

A port or pipe reports a kind of failure, and sometimes a text of its own that replaces
the description of the kind.
-/

namespace PeripheralBridge

inductive IoFailure.Kind where
  | notFound
  | permissionDenied
  | connectionRefused
  | connectionReset
  | connectionAborted
  | notConnected
  | brokenPipe
  | alreadyExists
  | wouldBlock
  | invalidInput
  | invalidData
  | timedOut
  | writeZero
  | interrupted
  | unsupported
  | unexpectedEof
  | outOfMemory
  /-- Any further kind: none of them is told from the others. -/
  | other
  deriving DecidableEq, Repr

namespace IoFailure.Kind

def description : Kind → String
  | notFound => "entity not found"
  | permissionDenied => "permission denied"
  | connectionRefused => "connection refused"
  | connectionReset => "connection reset"
  | connectionAborted => "connection aborted"
  | notConnected => "not connected"
  | brokenPipe => "broken pipe"
  | alreadyExists => "entity already exists"
  | wouldBlock => "operation would block"
  | invalidInput => "invalid input parameter"
  | invalidData => "invalid data"
  | timedOut => "timed out"
  | writeZero => "write zero"
  | interrupted => "operation interrupted"
  | unsupported => "unsupported"
  | unexpectedEof => "unexpected end of file"
  | outOfMemory => "out of memory"
  | other => "other error"

end IoFailure.Kind

structure IoFailure where
  kind : IoFailure.Kind
  detail : Option String := none
  deriving DecidableEq, Repr

namespace IoFailure

def message (f : IoFailure) : String := f.detail.getD f.kind.description

/-- The operation stopped for a reason that says nothing about the port. -/
def Transient (f : IoFailure) : Prop := f.kind = .interrupted

instance (f : IoFailure) : Decidable f.Transient := inferInstanceAs (Decidable (_ = _))

/-- Nothing came, or could be sent, in the time allowed. -/
def timedOut : IoFailure := ⟨.timedOut, none⟩

/-- The other end is gone. -/
def brokenPipe : IoFailure := ⟨.brokenPipe, none⟩

/-- A port took none of the octets offered to it. -/
def wroteNothing : IoFailure := ⟨.writeZero, some "failed to write whole buffer"⟩

end IoFailure

end PeripheralBridge
