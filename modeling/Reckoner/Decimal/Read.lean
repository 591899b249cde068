import Reckoner.Decimal.Basic
import Reckoner.Text.Blank
import Reckoner.Text.Digit

namespace Reckoner.Decimal

-- Digits of every script are read by their values. Beyond the ASCII characters
-- a blank is a space, and what is neither can stand in no number.
def plain (c : Char) : Char :=
  if c.toNat < 127 then c
  else if Text.isBlank c then ' '
  else match Text.decimalValue? c with
    | some value => Nat.digitChar value
    | none => '?'

def isSpace (c : Char) : Bool := (0x09 ≤ c.toNat && c.toNat ≤ 0x0D) || c == ' '

def trimSpaces (text : List Char) : List Char :=
  ((text.dropWhile isSpace).reverse.dropWhile isSpace).reverse

-- An underscore stands between two digits and is left out.
def joinGroups (previous : Char) : List Char → Option (List Char)
  | [] => if previous = '_' then none else some []
  | c :: rest =>
      if c = '_' then (if previous.isDigit then joinGroups c rest else none)
      else if previous = '_' && !c.isDigit then none
      else (joinGroups c rest).map (c :: ·)

def valueOf (digits : List Char) : Nat :=
  digits.foldl (fun value c => value * 10 + (c.toNat - '0'.toNat)) 0

def readSign : List Char → Sign × List Char
  | '-' :: rest => (.minus, rest)
  | '+' :: rest => (.plus, rest)
  | text => (.plus, text)

-- What follows the mark of an exponent: a sign, if any, and digits to the end.
def readExponent? (text : List Char) : Option Int :=
  let (sign, digits) := readSign text
  if digits.isEmpty || !digits.all Char.isDigit then none
  else match sign with
    | .plus => some (valueOf digits)
    | .minus => some (-(valueOf digits : Int))

def readTail? : List Char → Option Int
  | [] => some 0
  | c :: rest => if c = 'e' || c = 'E' then readExponent? rest else none

def readFraction : List Char → List Char × List Char
  | '.' :: rest => (rest.takeWhile Char.isDigit, rest.dropWhile Char.isDigit)
  | text => ([], text)

def readUnsigned? (text : List Char) : Option Decimal :=
  let whole := text.takeWhile Char.isDigit
  let (fraction, tail) := readFraction (text.dropWhile Char.isDigit)
  if whole.isEmpty && fraction.isEmpty then none
  else (readTail? tail).map fun exponent =>
    ⟨valueOf (whole ++ fraction), exponent - fraction.length⟩

def readSigned? (sign : Sign) (text : List Char) : Option Binary64 :=
  let word := String.ofList (text.map Char.toLower)
  if word = "inf" || word = "infinity" then some (.infinity sign)
  else if word = "nan" then some .nan
  else (readUnsigned? text).map (round sign)

def readChars? (text : List Char) : Option Binary64 :=
  (joinGroups ' ' (trimSpaces (text.map plain))).bind fun text =>
    let (sign, rest) := readSign text
    readSigned? sign rest

-- A decimal number, an infinity or an invalid value, with spaces around it.
def read? (text : String) : Option Binary64 := readChars? text.toList

end Reckoner.Decimal
