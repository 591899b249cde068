namespace Reckoner.Text.Case

-- Every `stride`-th code from `first` to `last` moves by `shift`.
structure Run where
  first : Nat
  last : Nat
  stride : Nat
  shift : Int

def Run.holds (run : Run) (code : Nat) : Bool :=
  run.first ≤ code && code ≤ run.last && (code - run.first) % run.stride == 0

-- Runs are in the order of their first codes. A code that no run holds stays.
def shiftBy : List Run → Nat → Nat
  | [], code => code
  | run :: rest, code =>
      if code < run.first then code
      else if run.holds code then (code + run.shift).toNat
      else shiftBy rest code

-- Codes whose image is not one code, in increasing order.
abbrev Expansions := List (Nat × List Nat)

def Expansions.find? : Expansions → Nat → Option (List Nat)
  | [], _ => none
  | (source, image) :: rest, code =>
      if code < source then none
      else if code = source then some image
      else find? rest code

def apply (expansions : Expansions) (runs : List Run) (c : Char) : List Char :=
  match expansions.find? c.toNat with
  | some image => image.map Char.ofNat
  | none => [Char.ofNat (shiftBy runs c.toNat)]

end Reckoner.Text.Case
