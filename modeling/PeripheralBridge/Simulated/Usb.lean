import PeripheralBridge.Link.Packet
import PeripheralBridge.Queue
import PeripheralBridge.Service.Packet

/-!
# A simulated USB link

Packets travel through one queue in each direction and keep their boundaries. A reset
discards what is under way to the host and leaves requests alone.
-/

namespace PeripheralBridge

structure UsbLink where
  packetSize : Nat
  toDevice : List Bytes := []
  toHost : Queue Bytes := {}
  /-- How often the host has reset the link. -/
  resets : Nat := 0
  hostOpen : Bool := true
  deviceOpen : Bool := true
  deriving Repr

namespace UsbLink

/-- A transfer ran past the end of the buffer it was read into. -/
def transferOverflow : IoFailure := ⟨.other, some "transfer overflow"⟩

/-- A packet is longer than the buffer it was read into. -/
def packetOverflow : IoFailure := ⟨.other, some "packet exceeds buffer"⟩

/-- Why the host gets nothing more. -/
def nothingToHost (l : UsbLink) : IoFailure := if l.deviceOpen then .timedOut else .brokenPipe

/-- Send one transfer to the device, an empty one as an empty packet. -/
def hostWrite (data : Bytes) : Attempt UsbLink IoFailure Nat := fun l =>
  if !l.deviceOpen then (.error .brokenPipe, l)
  else
    let sent := if data = [] then [[]] else packets l.packetSize data
    (.ok data.length, { l with toDevice := l.toDevice ++ sent })

/-- Take packets up to the first that is not full, or until `room` octets are taken.
The result says what is left when the transfer is over; without an end of the transfer
it is none, and everything has been taken. -/
def gather (size room : Nat) : List Bytes → Option (Except IoFailure Bytes) × List Bytes
  | [] => (none, [])
  | p :: rest =>
    if room < p.length then (some (.error transferOverflow), rest)
    else if p.length < size ∨ p.length = room then (some (.ok p), rest)
    else
      match gather size (room - p.length) rest with
      | (some (.ok more), left) => (some (.ok (p ++ more)), left)
      | other => other

def hostRead (capacity : Nat) : Attempt UsbLink IoFailure Bytes := fun l =>
  let (r, left) := gather l.packetSize capacity l.toHost.toList
  (r.getD (.error l.nothingToHost), { l with toHost := .ofList left })

def hostReset : Attempt UsbLink IoFailure Unit := fun l =>
  (.ok (), { l with resets := l.resets + 1, toHost := {} })

/-- Take the next packet; none while the host may still send one. -/
def deviceRead (capacity : Nat) (l : UsbLink) : Option (Except InterfaceError Bytes × UsbLink) :=
  match l.toDevice with
  | [] => if l.hostOpen then none else some (.error .closed, l)
  | p :: rest =>
    let l := { l with toDevice := rest }
    some (if capacity < p.length then .error (.io packetOverflow) else .ok p, l)

def deviceWrite (p : Bytes) : Attempt UsbLink InterfaceError Unit := fun l =>
  if l.hostOpen then (.ok (), { l with toHost := l.toHost.push p }) else (.error .closed, l)

def pipe : BulkPipe UsbLink where
  packetSize := packetSize
  write := hostWrite
  read := hostRead
  reset := hostReset

def port : PacketPort UsbLink where
  packetSize := packetSize
  read := deviceRead
  write := deviceWrite
  arrived l := l.toDevice.length
  read_arrived := by
    intro capacity l l' r h hr
    unfold deviceRead at h
    split at h
    · split at h
      · exact absurd h (by simp)
      · injection h with h
        injection h with h₁ h₂
        exact absurd h₁.symm hr
    · rename_i p rest hq
      injection h with h
      injection h with h₁ h₂
      subst h₂
      simp [hq]
  write_arrived := by
    intro p l
    unfold deviceWrite
    split <;> exact Nat.le_refl _

end UsbLink

end PeripheralBridge
