import PeripheralBridge.Duration
import PeripheralBridge.IoFailure
import PeripheralBridge.Message.Basic

/-!
# Failures of an exchange

An exchange has stages, and a failure of input or output is classified by what it says
about the link: it was too slow, it is closed, or something else broke at that stage.
-/

namespace PeripheralBridge

inductive ExchangeStage where
  | request
  | zeroLengthPacket
  | response
  | responseHeader
  | responsePayload
  | reset
  deriving DecidableEq, Repr

namespace ExchangeStage

def name : ExchangeStage → String
  | request => "request"
  | zeroLengthPacket => "zero-length packet"
  | response => "response"
  | responseHeader => "response header"
  | responsePayload => "response payload"
  | reset => "reset"

end ExchangeStage

inductive LinkError where
  /-- The link could not be opened. -/
  | cannotOpen (target reason : String)
  /-- Input or output broke at a stage. -/
  | io (stage : ExchangeStage) (failure : IoFailure)
  /-- A stage took too long. -/
  | timeout (stage : ExchangeStage) (after : Duration)
  /-- The link took only part of a message. -/
  | shortWrite (written expected : Nat)
  /-- What was received is no acceptable response. -/
  | malformed (error : MessageError)
  /-- The other end closed the link. -/
  | closed
  deriving DecidableEq, Repr

namespace LinkError

/-- What a failure of input or output at a stage says about the link. -/
def ofIo (stage : ExchangeStage) (timeout : Duration) (failure : IoFailure) : LinkError :=
  match failure.kind with
  | .timedOut | .wouldBlock => .timeout stage timeout
  | .brokenPipe | .notConnected | .unexpectedEof => .closed
  | _ => .io stage failure

def isTimeout : LinkError → Bool
  | timeout .. => true
  | _ => false

def message : LinkError → String
  | cannotOpen target reason => "failed to open " ++ target ++ ": " ++ reason
  | io stage failure => "transport I/O error during " ++ stage.name ++ ": " ++ failure.message
  | timeout stage after => "timed out during " ++ stage.name ++ " after " ++ after.text
  | shortWrite written expected =>
    "short write (" ++ toString written ++ " of " ++ toString expected ++ " bytes)"
  | malformed error => "malformed envelope: " ++ error.message
  | closed => "link closed"

end LinkError

end PeripheralBridge
