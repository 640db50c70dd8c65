import PeripheralBridge.Duration
import PeripheralBridge.IoFailure
import PeripheralBridge.Message.Basic

/-!
# Failures of an interface

What can go wrong while a device receives a request or sends a response. All but two
failures concern one message, and the device goes on serving after them.
-/

namespace PeripheralBridge

inductive InterfaceError where
  /-- The interface could not be brought up. -/
  | init (reason : String)
  /-- The link went silent in the middle of a message. -/
  | timeout (silence : Duration)
  /-- What was received is no acceptable request. -/
  | malformed (error : MessageError)
  /-- A response was longer than promised and was not sent. -/
  | responseTooLarge (size max : Nat)
  /-- Input or output broke. -/
  | io (failure : IoFailure)
  /-- The other end of the link is gone. -/
  | closed
  deriving DecidableEq, Repr

namespace InterfaceError

/-- Serving goes on after this failure. -/
def recoverable : InterfaceError → Bool
  | init _ | closed => false
  | _ => true

def message : InterfaceError → String
  | init reason => "interface init failed: " ++ reason
  | timeout silence => "timed out after " ++ silence.text ++ " of silence"
  | malformed error => "malformed request: " ++ error.message
  | responseTooLarge size max =>
    "response of " ++ toString size ++ " bytes exceeds maximum " ++ toString max
  | io failure => "interface I/O error: " ++ failure.message
  | closed => "interface closed"

end InterfaceError

end PeripheralBridge
