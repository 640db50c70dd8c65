import PeripheralBridge.Text.Alphanumeric
import PeripheralBridge.Text.Blank
import PeripheralBridge.Text.Decimal
import PeripheralBridge.Text.Quoted

/-!
# The log filter

A variable of the environment may say what is logged, in place of the level on the command
line. It holds directives between commas: a level, the name of a part of the program, or
such a name with a level after an equals sign. A filter that cannot be read is ignored,
and the program says so.
-/

namespace PeripheralBridge.CommandLine.LogFilter

/-- The variable that holds the filter. -/
def variableName : String := "BUSLINK_LOG"

inductive Fault where
  /-- A directive names no part of the program. -/
  | noName
  /-- There is no such level. -/
  | unknownLevel
  deriving DecidableEq, Repr

def Fault.message : Fault → String
  | noName => "invalid filter directive"
  | unknownLevel =>
    "error parsing level filter: expected one of \"off\", \"error\", \"warn\", \"info\", "
      ++ "\"debug\", \"trace\", or a number 0-5"

/-- A level is a name in any case or a number up to five. -/
def isLevel (text : List Char) : Bool :=
  let name := String.ofList (text.map Char.toLower)
  ["off", "error", "warn", "info", "debug", "trace"].contains name || (Decimal.natural? text).any (· ≤ 5)

/-- A name may start with a character like this. -/
def startsName (c : Char) : Bool :=
  Alphanumeric.isAlphanumeric c || ['-', ':', '_', '['].contains c

/-- What is wrong with a directive. A level stands right after the equals sign, and no blank may
precede the name that it is for. -/
def directiveFault? (directive : List Char) : Option Fault :=
  match directive.dropWhile Blank.isBlank with
  | [] => some .noName
  | first :: _ =>
    if !startsName first then some .noName
    else
      match directive.dropWhile (· ≠ '=') with
      | '=' :: level =>
        if directive.head?.any Blank.isBlank then some .unknownLevel
        else if level = [] ∨ isLevel level then none
        else some .unknownLevel
      | _ => none

def fault? (filter : List Char) : Option Fault :=
  (filter.splitOn ',').filter (· ≠ []) |>.findSome? directiveFault?

/-- What the program says about a filter it cannot use. An empty filter is none at all. -/
def complaint (filter? : Option String) : String :=
  let filter := Blank.trim ((filter?.getD "").toList)
  match fault? filter with
  | none => ""
  | some fault =>
    "ignoring " ++ variableName ++ "=" ++ Quoted.text (String.ofList filter) ++ ": "
      ++ fault.message ++ "\n"

end PeripheralBridge.CommandLine.LogFilter
