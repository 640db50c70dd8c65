import PeripheralBridge.Link.Stream
import PeripheralBridge.Service.RxQueue

/-!
# A scripted port

A byte port whose results are laid down beforehand. Each flush makes the next scripted
reply readable. Where a script has ended, steps succeed in full and reads time out.
-/

namespace PeripheralBridge

structure ScriptedPort where
  /-- Why the timeout cannot be set. -/
  timeoutFailure : Option IoFailure := none
  /-- For each write, a failure or the octets it takes at most, all where none are given. -/
  writes : List (Except IoFailure (Option Nat)) := []
  flushes : List (Except IoFailure Unit) := []
  purges : List (Except IoFailure Unit) := []
  /-- What can be read now. -/
  input : List ReadResult := []
  /-- What each flush makes readable. -/
  replies : List (List ReadResult) := []
  flushCount : Nat := 0
  purgeCount : Nat := 0
  /-- What was written. -/
  written : Bytes := []
  deriving Repr

namespace ScriptedPort

def setTimeout (_ : Duration) : Attempt ScriptedPort IoFailure Unit := fun p =>
  match p.timeoutFailure with
  | some e => (.error e, p)
  | none => (.ok (), p)

def write (data : Bytes) : Attempt ScriptedPort IoFailure Nat := fun p =>
  let taking (count : Nat) (rest : List (Except IoFailure (Option Nat))) : ScriptedPort :=
    { p with writes := rest, written := p.written ++ data.take count }
  match p.writes with
  | [] => (.ok data.length, taking data.length [])
  | .error e :: rest => (.error e, { p with writes := rest })
  | .ok none :: rest => (.ok data.length, taking data.length rest)
  | .ok (some count) :: rest => (.ok (min count data.length), taking count rest)

def flush : Attempt ScriptedPort IoFailure Unit := fun p =>
  let flushed (rest : List (Except IoFailure Unit)) : ScriptedPort :=
    { p with
      flushes := rest
      flushCount := p.flushCount + 1
      input := p.input ++ p.replies.headD []
      replies := p.replies.tail }
  match p.flushes with
  | [] => (.ok (), flushed [])
  | .ok () :: rest => (.ok (), flushed rest)
  | .error e :: rest => (.error e, { p with flushes := rest })

def read (count : Nat) : Attempt ScriptedPort IoFailure Bytes := fun p =>
  match p.input with
  | [] => (.error .timedOut, p)
  | .error e :: rest => (.error e, { p with input := rest })
  | .ok data :: rest =>
    let left := data.drop count
    (.ok (data.take count), { p with input := if left = [] then rest else .ok left :: rest })

def purge : Attempt ScriptedPort IoFailure Unit := fun p =>
  let purged (rest : List (Except IoFailure Unit)) : ScriptedPort :=
    { p with purges := rest, purgeCount := p.purgeCount + 1, input := [] }
  match p.purges with
  | [] => (.ok (), purged [])
  | .ok () :: rest => (.ok (), purged rest)
  | .error e :: rest => (.error e, { p with purges := rest })

/-- The octets that are readable now. -/
def unread (p : ScriptedPort) : Nat :=
  (p.input.filterMap Except.toOption).flatten.length

theorem write_shortens (data : Bytes) (p p' : ScriptedPort) (e : IoFailure)
    (h : write data p = (.error e, p')) :
    p'.writes.length + p'.input.length < p.writes.length + p.input.length := by
  unfold write at h
  dsimp only at h
  split at h
  · exact absurd h (by simp)
  · rename_i e' rest hw
    injection h with _ h
    subst h
    simp only [hw, List.length_cons]
    omega
  · exact absurd h (by simp)
  · exact absurd h (by simp)

theorem read_shortens (count : Nat) (p p' : ScriptedPort) (e : IoFailure)
    (h : read count p = (.error e, p')) (ht : e.Transient) :
    p'.writes.length + p'.input.length < p.writes.length + p.input.length := by
  unfold read at h
  split at h
  · injection h with h _
    injection h with h
    subst h
    exact absurd ht (by decide)
  · rename_i e' rest hi
    injection h with _ h
    subst h
    simp only [hi, List.length_cons]
    omega
  · exact absurd h (by simp)

def sink : ByteSink ScriptedPort where
  write := write
  flush := flush
  interruptions p := p.writes.length + p.input.length
  write_interrupted := fun data p p' e h _ => write_shortens data p p' e h

def port : BytePort ScriptedPort where
  toByteSink := sink
  setTimeout := setTimeout
  read := read
  purge := purge
  read_interrupted := read_shortens

/-- Start a new record. -/
def forget (p : ScriptedPort) : ScriptedPort := { p with written := [] }

end ScriptedPort

end PeripheralBridge
