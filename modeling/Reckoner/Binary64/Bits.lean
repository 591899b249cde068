import Reckoner.Binary64.Round

namespace Reckoner.Binary64

-- A magnitude's exponent and fraction fields, read as one number.
def Magnitude.fields (size : Magnitude) : Nat :=
  let place := size.units.log2 - 52
  place * 1 <<< 52 + size.units / 1 <<< place

def signField : Sign → Nat
  | .plus => 0
  | .minus => 1 <<< 63

def toBits : Binary64 → UInt64
  | .nan => UInt64.ofNat (2047 * 1 <<< 52 + 1 <<< 51)
  | .infinity sign => UInt64.ofNat (signField sign + 2047 * 1 <<< 52)
  | .finite sign size => UInt64.ofNat (signField sign + size.fields)

def ofBits (bits : UInt64) : Binary64 :=
  let sign : Sign := if bits.toNat < 1 <<< 63 then .plus else .minus
  let exponent := bits.toNat / 1 <<< 52 % 1 <<< 11
  let fraction := bits.toNat % 1 <<< 52
  if exponent = 2047 then (if fraction = 0 then .infinity sign else .nan)
  else if exponent = 0 then round sign fraction 1
  else round sign ((1 <<< 52 + fraction) * 1 <<< (exponent - 1)) 1

def toFloat (x : Binary64) : Float := Float.ofBits x.toBits

def ofFloat (x : Float) : Binary64 := ofBits x.toBits

end Reckoner.Binary64
