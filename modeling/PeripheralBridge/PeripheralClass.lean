/-!
# Peripheral classes

The protocol knows ten classes of peripherals, numbered densely from zero. Class zero
describes the device itself and answers the metadata functions.
-/

namespace PeripheralBridge

inductive PeripheralClass where
  | metadata | can | i2c | gpio | pwm | adc | dac | spi | uart | lin
  deriving DecidableEq, Repr

namespace PeripheralClass

/-- Every class, in the order of the numbers. -/
def all : List PeripheralClass :=
  [metadata, can, i2c, gpio, pwm, adc, dac, spi, uart, lin]

def id : PeripheralClass → UInt16
  | metadata => 0
  | can => 1
  | i2c => 2
  | gpio => 3
  | pwm => 4
  | adc => 5
  | dac => 6
  | spi => 7
  | uart => 8
  | lin => 9

def ofId? (n : UInt16) : Option PeripheralClass := all[n.toNat]?

def name : PeripheralClass → String
  | metadata => "metadata"
  | can => "can"
  | i2c => "i2c"
  | gpio => "gpio"
  | pwm => "pwm"
  | adc => "adc"
  | dac => "dac"
  | spi => "spi"
  | uart => "uart"
  | lin => "lin"

theorem ofId?_id (c : PeripheralClass) : ofId? c.id = some c := by
  cases c <;> rfl

end PeripheralClass

inductive MetadataFunction where
  /-- The serial string of the device. -/
  | serial
  /-- How many instances a class has. -/
  | instanceCount
  /-- The request payload, unchanged. -/
  | echo
  /-- The largest request payload the device takes. -/
  | requestLimit
  /-- The largest response payload the device sends. -/
  | responseLimit
  /-- Whatever the application has installed. -/
  | custom
  deriving DecidableEq, Repr

namespace MetadataFunction

def id : MetadataFunction → UInt16
  | serial => 0
  | instanceCount => 1
  | echo => 2
  | requestLimit => 3
  | responseLimit => 4
  | custom => 5

end MetadataFunction

end PeripheralBridge
