import PeripheralBridge.Queue
import PeripheralBridge.Service.Packet

/-!
# Scripted interfaces

An interface, and the device end of a pair of endpoints, whose results are laid down
beforehand. Where what they receive has ended they are closed; where the results of
sending have ended, sending succeeds.
-/

namespace PeripheralBridge

structure ScriptedInterface where
  /-- Why the interface cannot be brought up. -/
  initFailure : Option InterfaceError := none
  incoming : List (Except InterfaceError Request) := []
  sends : List (Except InterfaceError Unit) := []
  /-- The responses that were sent. -/
  sent : List Response := []
  deriving Repr

namespace ScriptedInterface

def init : Attempt ScriptedInterface InterfaceError Unit := fun s =>
  match s.initFailure with
  | some e => (.error e, s)
  | none => (.ok (), s)

def receive (s : ScriptedInterface) :
    Option (Except InterfaceError Request × ScriptedInterface) :=
  match s.incoming with
  | [] => some (.error .closed, s)
  | r :: rest => some (r, { s with incoming := rest })

def send (r : Response) : Attempt ScriptedInterface InterfaceError Unit := fun s =>
  match s.sends with
  | [] => (.ok (), { s with sent := s.sent ++ [r] })
  | .ok () :: rest => (.ok (), { s with sends := rest, sent := s.sent ++ [r] })
  | .error e :: rest => (.error e, { s with sends := rest })

def interface : Interface ScriptedInterface where
  name := "scripted"
  init := init
  receive := receive
  send := send
  arrived s := s.incoming.length
  receive_arrived := by
    intro s s' r h hr
    unfold receive at h
    split at h
    · injection h with h
      injection h with h _
      exact absurd h.symm hr
    · rename_i hi
      injection h with h
      injection h with _ h
      subst h
      simp [hi]
  send_arrived := by
    intro r s
    unfold send
    split <;> exact Nat.le_refl _

end ScriptedInterface

structure ScriptedPacketPort where
  packetSize : Nat := 64
  reads : List (Except InterfaceError Bytes) := []
  writes : List (Except InterfaceError Unit) := []
  /-- The packets that were sent. -/
  written : Queue Bytes := {}
  deriving Repr

namespace ScriptedPacketPort

/-- A packet is longer than the buffer it was read into. -/
def packetOverflow : IoFailure := ⟨.other, some "packet exceeds buffer"⟩

def read (capacity : Nat) (p : ScriptedPacketPort) :
    Option (Except InterfaceError Bytes × ScriptedPacketPort) :=
  match p.reads with
  | [] => some (.error .closed, p)
  | .ok data :: rest =>
    some (if capacity < data.length then .error (.io packetOverflow) else .ok data,
      { p with reads := rest })
  | .error e :: rest => some (.error e, { p with reads := rest })

def write (data : Bytes) : Attempt ScriptedPacketPort InterfaceError Unit := fun p =>
  match p.writes with
  | [] => (.ok (), { p with written := p.written.push data })
  | .ok () :: rest => (.ok (), { p with writes := rest, written := p.written.push data })
  | .error e :: rest => (.error e, { p with writes := rest })

def port : PacketPort ScriptedPacketPort where
  packetSize := packetSize
  read := read
  write := write
  arrived p := p.reads.length
  read_arrived := by
    intro capacity p p' r h hr
    unfold read at h
    split at h
    · injection h with h
      injection h with h _
      exact absurd h.symm hr
    all_goals
      rename_i hq
      injection h with h
      injection h with _ h
      subst h
      simp [hq]
  write_arrived := by
    intro data p
    unfold write
    split <;> exact Nat.le_refl _

/-- Start a new record. -/
def forget (p : ScriptedPacketPort) : ScriptedPacketPort := { p with written := {} }

end ScriptedPacketPort

end PeripheralBridge
