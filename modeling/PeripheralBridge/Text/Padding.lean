/-!
# Padding

Text is brought to a number of characters with spaces before or after it. Text that is
long enough already stays as it is.
-/

namespace PeripheralBridge.Padding

def spaces (n : Nat) : String := String.ofList (List.replicate n ' ')

def before (columns : Nat) (s : String) : String := spaces (columns - s.length) ++ s

def after (columns : Nat) (s : String) : String := s ++ spaces (columns - s.length)

end PeripheralBridge.Padding
