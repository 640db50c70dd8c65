/-!
# Status codes

Each response carries a signed 16-bit status. Zero is success, and every other code
names a fault the device reports. A code is read back from the fault it names
(`code_of_ofCode?`).
-/

namespace PeripheralBridge

def successCode : Int16 := 0

inductive DeviceFault where
  /-- No such class, instance or function. -/
  | notSupported
  /-- The request payload has the wrong shape. -/
  | invalidArgsFormat
  /-- The instance has not been configured yet. -/
  | uninitialized
  /-- The hardware behind the instance failed. -/
  | peripheral
  /-- The payload has the right shape and a value out of range. -/
  | invalidArgs
  /-- The hardware is occupied. -/
  | busy
  /-- A hardware event did not come in time. -/
  | timeout
  /-- A code without a name. -/
  | unknown (code : Int16)
  deriving DecidableEq, Repr

namespace DeviceFault

def code : DeviceFault → Int16
  | notSupported => 1
  | invalidArgsFormat => 2
  | uninitialized => 3
  | peripheral => 4
  | invalidArgs => 5
  | busy => 6
  | timeout => 7
  | unknown c => c

/-- The fault a status code stands for, none for success. -/
def ofCode? (c : Int16) : Option DeviceFault :=
  if c = successCode then none
  else if c = 1 then some notSupported
  else if c = 2 then some invalidArgsFormat
  else if c = 3 then some uninitialized
  else if c = 4 then some peripheral
  else if c = 5 then some invalidArgs
  else if c = 6 then some busy
  else if c = 7 then some timeout
  else some (unknown c)

def message : DeviceFault → String
  | notSupported => "not supported"
  | invalidArgsFormat => "invalid argument format"
  | uninitialized => "peripheral uninitialized"
  | peripheral => "peripheral error"
  | invalidArgs => "invalid arguments"
  | busy => "busy"
  | timeout => "device timeout"
  | unknown c => "unknown device error " ++ toString c.toInt

theorem code_of_ofCode? {c : Int16} {f : DeviceFault} (h : ofCode? c = some f) : f.code = c := by
  by_cases h0 : c = successCode
  · simp [ofCode?, h0] at h
  · rw [ofCode?, if_neg h0] at h
    repeat' split at h
    all_goals
      injection h with h
      subst h
      simp_all [code]

end DeviceFault

end PeripheralBridge
