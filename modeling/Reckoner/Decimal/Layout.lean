import Reckoner.Decimal.Shortest

namespace Reckoner.Decimal

-- How a number is laid out: exponents of the first digit from `fixedFrom` up to
-- `fixedTo` are written by position, all others by a power of ten whose
-- exponent has a sign and at least `exponentWidth` digits.
structure Layout where
  fixedFrom : Int
  fixedTo : Int
  exponentWidth : Nat

-- Results are written by position from 0.0001 up to sixteen digits.
def Layout.result : Layout := ⟨-4, 15, 2⟩

def zeros (count : Nat) : String := String.ofList (List.replicate count '0')

def padded (width n : Nat) : String :=
  let digits := toString n
  zeros (width - digits.length) ++ digits

-- `point` is the number of digits before the point, and negative when zeros
-- stand between the point and the first digit. A point always has a digit on
-- both sides.
def positional (digits : List Char) (point : Int) : String :=
  if point ≤ 0 then "0." ++ zeros (-point).toNat ++ String.ofList digits
  else if digits.length ≤ point then
    String.ofList digits ++ zeros (point.toNat - digits.length) ++ ".0"
  else
    String.ofList (digits.take point.toNat) ++ "." ++ String.ofList (digits.drop point.toNat)

def scientific (layout : Layout) (digits : List Char) (exponent : Int) : String :=
  let rest := digits.drop 1
  String.ofList (digits.take 1) ++ (if rest.isEmpty then "" else "." ++ String.ofList rest) ++
    "e" ++ (if exponent < 0 then "-" else "+") ++ padded layout.exponentWidth exponent.natAbs

def Layout.write (layout : Layout) (value : Decimal) : String :=
  let digits := (toString value.digits).toList
  let point := value.exponent + digits.length
  if value.digits = 0 then "0.0"
  else if layout.fixedFrom ≤ point - 1 && point - 1 ≤ layout.fixedTo then positional digits point
  else scientific layout digits (point - 1)

end Reckoner.Decimal

namespace Reckoner.Binary64

def Magnitude.text (size : Magnitude) : String :=
  Decimal.Layout.result.write (Decimal.shortest size)

def signText : Sign → String
  | .plus => ""
  | .minus => "-"

def text : Binary64 → String
  | .nan => "nan"
  | .infinity sign => signText sign ++ "inf"
  | .finite sign size => signText sign ++ size.text

end Reckoner.Binary64
