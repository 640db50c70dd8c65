import PeripheralBridge.CommandLine.Program

/-!
# The command line

Hands the words and the environment to the program, and its outcome to the system. The width
of a terminal is not asked for.
-/

open PeripheralBridge PeripheralBridge.CommandLine

def main (words : List String) : IO UInt32 := do
  let filter? ← IO.getEnv LogFilter.variableName
  let output ← IO.getStdout
  let errors ← IO.getStderr
  let form := if ← output.isTty then OutputFormat.table else .json
  match runProgram Table.unbounded form filter? words with
  | .error why =>
    let stream := if why.exit = 0 then output else errors
    stream.putStrLn why.message
    return UInt32.ofNat why.exit
  | .ok outcome =>
    errors.putStr outcome.errors
    output.write (ByteArray.mk outcome.output.toArray)
    output.flush
    return UInt32.ofNat outcome.exit.toNat
