/-!
# Choices

Some settings are one of a few named values. A name has to be given exactly as it is
written here.
-/

namespace PeripheralBridge.CommandLine

/-- The choice of a name, or the complaint that there is none. -/
def choose {α : Type} (choices : List α) (name : α → String) (text : String) : Except String α :=
  match choices.find? (name · = text) with
  | some a => .ok a
  | none => .error ("invalid variant: " ++ text)

inductive OutputFormat where
  | json | table | pretty | raw
  deriving DecidableEq, Repr

namespace OutputFormat

def all : List OutputFormat := [json, table, pretty, raw]

def name : OutputFormat → String
  | json => "json"
  | table => "table"
  | pretty => "pretty"
  | raw => "raw"

def read (text : String) : Except String OutputFormat := choose all name text

end OutputFormat

inductive LogFormat where
  | text | json
  deriving DecidableEq, Repr

namespace LogFormat

def all : List LogFormat := [text, json]

def name : LogFormat → String
  | text => "text"
  | json => "json"

def read (text : String) : Except String LogFormat := choose all name text

end LogFormat

inductive LogLevel where
  | error | warn | info | debug | trace
  deriving DecidableEq, Repr

namespace LogLevel

def all : List LogLevel := [error, warn, info, debug, trace]

def name : LogLevel → String
  | error => "error"
  | warn => "warn"
  | info => "info"
  | debug => "debug"
  | trace => "trace"

def read (text : String) : Except String LogLevel := choose all name text

end LogLevel

end PeripheralBridge.CommandLine
