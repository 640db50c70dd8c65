import PeripheralBridge.CommandLine.Exit
import PeripheralBridge.CommandLine.PayloadView
import PeripheralBridge.Device.Metadata

/-!
# The inventory of a device

A device is asked for its serial string and for the instances of every class. The limits
shown are the ones in force once the serial string has come.
-/

namespace PeripheralBridge.CommandLine

structure Inventory where
  serial : String
  kind : LinkKind
  limits : PayloadLimits
  /-- Every class with the number of its instances. -/
  classes : List (PeripheralClass × UInt16)
  deriving DecidableEq, Repr

namespace Inventory

variable {σ : Type}

def count (link : Link σ) (c : PeripheralClass) : Attempt σ Failure (PeripheralClass × UInt16) := do
  let instances ←
    (Device.instanceCount link c.id).mapError (Failure.ofCall ("num_inst " ++ c.name))
  return (c, instances)

def ofDevice (link : Link σ) : Attempt σ Failure Inventory := do
  let serial ← (Device.serial link).mapError (Failure.ofCall "serial")
  let limits ← Attempt.read link.limits
  let classes ← PeripheralClass.all.mapM (count link)
  let kind ← Attempt.read link.kind
  return { serial, kind, limits, classes }

def classJson (row : PeripheralClass × UInt16) : String :=
  JsonText.object [
    ("id", JsonText.number row.1.id.toNat),
    ("name", JsonText.quoted row.1.name),
    ("instances", JsonText.number row.2.toNat)]

def json (i : Inventory) : String :=
  JsonText.object [
    ("serial", JsonText.quoted i.serial),
    ("transport", JsonText.quoted i.kind.name),
    ("req_max_size", JsonText.number i.limits.request),
    ("resp_max_size", JsonText.number i.limits.response),
    ("peripherals", JsonText.array (i.classes.map classJson))]

def heading (i : Inventory) : String :=
  i.serial ++ " via " ++ i.kind.name ++ " (req " ++ toString i.limits.request ++ " / resp "
    ++ toString i.limits.response ++ ")"

def table (i : Inventory) : Table :=
  let cells (row : PeripheralClass × UInt16) : List String :=
    [toString row.1.id.toNat, row.1.name, toString row.2.toNat]
  ⟨["ID", "CLASS", "INSTANCES"], i.classes.map cells⟩

/-- The classes that have instances, each on a line. -/
def present (i : Inventory) : List String :=
  let entry (row : PeripheralClass × UInt16) : String :=
    "  " ++ Padding.after 10 row.1.name ++ " x" ++ toString row.2.toNat
  (i.classes.filter fun row => row.2 ≠ 0).map entry

def summary (i : Inventory) : List String :=
  ["serial:    " ++ i.serial,
    "transport: " ++ i.kind.name,
    "req max:   " ++ toString i.limits.request,
    "resp max:  " ++ toString i.limits.response] ++ i.present

def lines (arrange : Table.Arrangement) (i : Inventory) : OutputFormat → List String
  | .json => [i.json]
  | .table => [i.heading, i.table.text arrange]
  | .pretty => i.summary
  | .raw => [i.serial]

def text (arrange : Table.Arrangement) (i : Inventory) (format : OutputFormat) : String :=
  String.join ((i.lines arrange format).map line)

end Inventory

end PeripheralBridge.CommandLine
