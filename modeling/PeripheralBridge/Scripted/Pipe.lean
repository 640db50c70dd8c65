import PeripheralBridge.Link.Packet
import PeripheralBridge.Service.RxQueue

/-!
# A scripted pipe

A pipe whose results are laid down beforehand, step by step. Where a script has ended,
writes succeed, reads time out and resets succeed. A record of what was asked of the
pipe is kept beside the script.
-/

namespace PeripheralBridge

structure ScriptedPipe where
  packetSize : Nat := 64
  /-- For each write, a failure or the number of octets it falls short by. -/
  writes : List (Except IoFailure Nat) := []
  reads : List ReadResult := []
  resets : List (Except IoFailure Unit) := []
  /-- What can be read once the pipe has been reset. -/
  afterReset : List ReadResult := []
  /-- How often the pipe has been reset. -/
  resetCount : Nat := 0
  /-- What was written. -/
  written : List Bytes := []
  /-- The sizes of the buffers that were read into. -/
  buffers : List Nat := []
  deriving Repr

namespace ScriptedPipe

def write (data : Bytes) : Attempt ScriptedPipe IoFailure Nat := fun p =>
  let p := { p with written := p.written ++ [data] }
  match p.writes with
  | [] => (.ok data.length, p)
  | .error e :: rest => (.error e, { p with writes := rest })
  | .ok short :: rest => (.ok (data.length - short), { p with writes := rest })

def read (capacity : Nat) : Attempt ScriptedPipe IoFailure Bytes := fun p =>
  let p := { p with buffers := p.buffers ++ [capacity] }
  match p.reads with
  | [] => (.error .timedOut, p)
  | r :: rest => (r.map (·.take capacity), { p with reads := rest })

def reset : Attempt ScriptedPipe IoFailure Unit := fun p =>
  let renewed (rest : List (Except IoFailure Unit)) : ScriptedPipe :=
    { p with
      resets := rest
      resetCount := p.resetCount + 1
      reads := p.afterReset
      afterReset := [] }
  match p.resets with
  | [] => (.ok (), renewed [])
  | .ok () :: rest => (.ok (), renewed rest)
  | .error e :: rest => (.error e, { p with resets := rest })

def pipe : BulkPipe ScriptedPipe where
  packetSize := packetSize
  write := write
  read := read
  reset := reset

/-- Start a new record. -/
def forget (p : ScriptedPipe) : ScriptedPipe := { p with written := [], buffers := [] }

end ScriptedPipe

end PeripheralBridge
