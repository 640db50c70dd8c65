import PeripheralBridge.CommandLine.Word

/-!
# Switches

A command collects its settings from switches. Reading goes word by word, and the first
thing wrong ends it. A value given as a word of its own is looked at only when the next
switch is found or the words end, so that a later word that is no argument at all is
reported before an earlier value that cannot be read.
-/

namespace PeripheralBridge.CommandLine

inductive Halt where
  /-- Help was asked for. -/
  | help
  /-- The version was asked for. -/
  | version
  | noCommand
  | unknownCommand
  | unknownArgument
  /-- A switch that takes a value has none. -/
  | missingValue
  /-- A switch that takes no value has one. -/
  | unexpectedValue
  /-- A value cannot be read or is out of range. -/
  | badValue
  /-- A value is none of the choices there are. -/
  | badChoice
  /-- A switch is repeated, or given along with another that excludes it. -/
  | conflict
  | missingArgument
  deriving DecidableEq, Repr

/-- What a switch does to the settings that are being collected. -/
inductive Switch.Effect (σ : Type) where
  /-- It ends the reading. A letter stands for it as well as its name. -/
  | stop (letter : Char) (why : Halt)
  /-- It stands alone. -/
  | alone (apply : σ → Except Halt σ)
  /-- It takes a value. -/
  | valued (apply : String → σ → Except Halt σ)

structure Switch (σ : Type) where
  name : String
  effect : Switch.Effect σ

namespace Switch

variable {σ τ α : Type}

def mark (name : String) (get : σ → Bool) (set : σ → σ) : Switch σ where
  name
  effect := .alone fun s => if get s then .error .conflict else .ok (set s)

def keep (name : String) (read : String → Except Halt α) (get : σ → Option α) (set : α → σ → σ) :
    Switch σ where
  name
  effect := .valued fun text s =>
    if (get s).isSome then .error .conflict else (read text).map (set · s)

/-- Use a switch on one part of larger settings. -/
def onPart (get : τ → σ) (set : σ → τ → τ) (switch : Switch σ) : Switch τ where
  name := switch.name
  effect :=
    match switch.effect with
    | .stop letter why => .stop letter why
    | .alone apply => .alone fun t => (apply (get t)).map (set · t)
    | .valued apply => .valued fun text t => (apply text (get t)).map (set · t)

def help : Switch σ := ⟨"help", .stop 'h' .help⟩

def version : Switch σ := ⟨"version", .stop 'V' .version⟩

/-- What the first letter of a cluster asks for. Only a switch that ends the reading has a
letter, so the rest of the cluster is never looked at. -/
def stopOf? (switches : List (Switch σ)) (letter : Char) : Option Halt :=
  switches.findSome? fun switch =>
    match switch.effect with
    | .stop l why => if l = letter then some why else none
    | _ => none

end Switch

/-- What the last switch still has to do. -/
inductive Owed (σ : Type) where
  | nothing
  /-- It waits for its value. -/
  | value (apply : String → σ → Except Halt σ)
  /-- It has its value, which has not been looked at. -/
  | effect (apply : σ → Except Halt σ)

/-- Let the last switch have its effect. -/
def Owed.settle {σ : Type} : Owed σ → σ → Except Halt σ
  | nothing, s => .ok s
  | value _, _ => .error .missingValue
  | effect apply, s => apply s

structure Scanned (σ κ : Type) where
  owed : Owed σ
  settings : σ
  /-- A command that was named, and the words after its name. -/
  command? : Option (κ × List String) := none

/-- Read words up to the name of a command. A plain word that is neither a value nor such a
name is a `stray`. -/
def scan {σ κ : Type} (switches : List (Switch σ)) (command? : String → Option κ) (stray : Halt) :
    Owed σ → σ → List String → Except Halt (Scanned σ κ)
  | owed, s, [] => .ok { owed, settings := s }
  | owed, s, word :: rest =>
    match Word.ofString word with
    | .terminator =>
      match rest with
      | [] => .ok { owed, settings := s }
      | next :: _ => .error (if (command? next).isSome then .unknownArgument else stray)
    | .long name value? =>
      match (switches.find? (·.name = name)).map Switch.effect, value? with
      | none, _ => .error .unknownArgument
      | some (.stop _ why), none => do
        let _ ← owed.settle s
        .error why
      | some (.alone apply), none => do
        scan switches command? stray .nothing (← apply (← owed.settle s)) rest
      | some (.valued apply), none => do
        scan switches command? stray (.value apply) (← owed.settle s) rest
      | some (.valued apply), some value => do
        scan switches command? stray .nothing (← apply value (← owed.settle s)) rest
      | some _, some _ => .error .unexpectedValue
    | .short letter =>
      match Switch.stopOf? switches letter with
      | none => .error .unknownArgument
      | some why => do
        let _ ← owed.settle s
        .error why
    | .plain =>
      match owed, command? word with
      | .value apply, _ => scan switches command? stray (.effect (apply word)) s rest
      | owed, some command => .ok { owed, settings := s, command? := some (command, rest) }
      | _, none => .error stray

end PeripheralBridge.CommandLine
