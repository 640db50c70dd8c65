import PeripheralBridge.Device.Call

/-!
# How the program ends

The exit code says what kind of failure ended the program, so that a script can tell a
slow device from an absent one or from one that refused. The classification follows
the failure down to its cause: a failed call that failed in its link is judged by the
link, and a link that failed in input or output by the failure of the port.
-/

namespace PeripheralBridge.CommandLine

inductive ExitCode where
  | success
  | failure
  /-- The device reported a fault. -/
  | device
  /-- The link is unusable. -/
  | link
  /-- A check of the program's own failed. -/
  | unhealthy
  | permissionDenied
  /-- What came back is not what was asked for. -/
  | invalidData
  /-- The request cannot be made. -/
  | usage
  | timeout
  | internal
  deriving DecidableEq, Repr

def ExitCode.toNat : ExitCode → Nat
  | success => 0
  | failure => 1
  | device => 2
  | link => 3
  | unhealthy => 30
  | permissionDenied => 50
  | invalidData => 60
  | usage => 64
  | timeout => 124
  | internal => 125

structure Failure where
  exit : ExitCode
  message : String
  deriving DecidableEq, Repr

namespace Failure

/-- A failure with the step in which it happened. -/
def during (context : String) (exit : ExitCode) (message : String) : Failure :=
  ⟨exit, context ++ ": " ++ message⟩

def ioExit (f : IoFailure) : ExitCode :=
  match f.kind with
  | .permissionDenied => .permissionDenied
  | .timedOut | .wouldBlock => .timeout
  | .notFound | .notConnected => .link
  | _ => .internal

def ofIo (context : String) (f : IoFailure) : Failure := during context (ioExit f) f.message

def ofLink (context : String) (e : LinkError) : Failure :=
  match e with
  | .io _ f => ofIo context f
  | .timeout .. => during context .timeout e.message
  | .malformed _ | .shortWrite .. => during context .invalidData e.message
  | .cannotOpen .. | .closed => during context .link e.message

def ofCall (context : String) (e : CallError) : Failure :=
  match e with
  | .link e => ofLink context e
  | .device _ => during context .device e.message
  | .requestTooLarge .. => during context .usage e.message
  | .responseTooLarge .. | .unexpectedResponse .. => during context .invalidData e.message
  | .insufficientLimits _ => during context .failure e.message

end Failure

end PeripheralBridge.CommandLine
