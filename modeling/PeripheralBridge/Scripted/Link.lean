import PeripheralBridge.Link.Basic

/-!
# A scripted link

A link whose responses are laid down beforehand. Where the script has ended the link is
closed, and resets succeed.
-/

namespace PeripheralBridge

structure ScriptedLink where
  kind : LinkKind := .packet
  limits : PayloadLimits := .protocolMinimum
  replies : List (Except LinkError Response) := []
  resets : List (Except LinkError Unit) := []
  /-- The replies that take the place of the others at the next reset, if there are any. -/
  afterReset : List (Except LinkError Response) := []
  /-- How often the link has been reset. -/
  resetCount : Nat := 0
  /-- The requests that were sent. -/
  sent : List (RequestHeader × Bytes) := []
  deriving Repr

namespace ScriptedLink

def exchange (header : RequestHeader) (payload : Bytes) :
    Attempt ScriptedLink LinkError Response := fun l =>
  let l := { l with sent := l.sent ++ [(header, payload)] }
  match l.replies with
  | [] => (.error .closed, l)
  | r :: rest => (r, { l with replies := rest })

def reset : Attempt ScriptedLink LinkError Unit := fun l =>
  let renewed (rest : List (Except LinkError Unit)) : ScriptedLink :=
    { l with
      resets := rest
      resetCount := l.resetCount + 1
      replies := if l.afterReset.isEmpty then l.replies else l.afterReset
      afterReset := [] }
  match l.resets with
  | [] => (.ok (), renewed [])
  | .ok () :: rest => (.ok (), renewed rest)
  | .error e :: rest => (.error e, { l with resets := rest })

def link : Link ScriptedLink where
  kind := kind
  limits := limits
  setLimits limits l := { l with limits }
  exchange := exchange
  reset := reset

/-- Start a new record. -/
def forget (l : ScriptedLink) : ScriptedLink := { l with sent := [] }

end ScriptedLink

end PeripheralBridge
