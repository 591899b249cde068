import Reckoner.Text.Quoted

namespace Reckoner.Text.Utf8

-- The bytes that spell a text.
def encode (text : List Char) : List UInt8 := text.flatMap String.utf8EncodeChar

inductive Reason
  | invalidStart
  | invalidContinuation
  | endOfData
  deriving DecidableEq, Repr

def Reason.message : Reason → String
  | .invalidStart => "invalid start byte"
  | .invalidContinuation => "invalid continuation byte"
  | .endOfData => "unexpected end of data"

-- `bytes` are the bytes that could not be read, from `position` on.
structure Malformed where
  position : Nat
  bytes : List UInt8
  reason : Reason
  deriving DecidableEq, Repr

def Malformed.message (fault : Malformed) : String :=
  let subject := match fault.bytes with
    | [byte] => "byte 0x" ++ String.ofList (Quoted.hexDigits 2 byte.toNat) ++
        " in position " ++ toString fault.position
    | bytes => "bytes in position " ++ toString fault.position ++ "-" ++
        toString (fault.position + bytes.length - 1)
  "'utf-8' codec can't decode " ++ subject ++ ": " ++ fault.reason.message

-- How many continuation bytes follow a start byte, and which values the first
-- of them may take: the bounds keep out overlong forms, surrogates and codes
-- beyond the last one.
structure Lead where
  payload : Nat
  more : Nat
  low : Nat
  high : Nat

def lead? (byte : Nat) : Option Lead :=
  if byte < 0x80 then some ⟨byte, 0, 0, 0⟩
  else if byte < 0xC2 then none
  else if byte < 0xE0 then some ⟨byte - 0xC0, 1, 0x80, 0xBF⟩
  else if byte < 0xF0 then
    some ⟨byte - 0xE0, 2, if byte = 0xE0 then 0xA0 else 0x80, if byte = 0xED then 0x9F else 0xBF⟩
  else if byte < 0xF5 then
    some ⟨byte - 0xF0, 3, if byte = 0xF0 then 0x90 else 0x80, if byte = 0xF4 then 0x8F else 0xBF⟩
  else none

-- Reads `more` continuation bytes. A failure tells how many were good.
def continuations (code : Nat) : (more : Nat) → (low high good : Nat) → List UInt8 →
    Except (Nat × Reason) Nat
  | 0, _, _, _, _ => .ok code
  | _ + 1, _, _, good, [] => .error (good, .endOfData)
  | more + 1, low, high, good, byte :: rest =>
      if low ≤ byte.toNat && byte.toNat ≤ high then
        continuations (code * 64 + (byte.toNat - 0x80)) more 0x80 0xBF (good + 1) rest
      else .error (good, .invalidContinuation)

-- The first malformed sequence is the fault of the whole text.
def decodeFrom (position : Nat) (bytes : List UInt8) : Except Malformed (List Char) :=
  match bytes with
  | [] => .ok []
  | byte :: rest =>
      match lead? byte.toNat with
      | none => .error ⟨position, [byte], .invalidStart⟩
      | some start =>
          match continuations start.payload start.more start.low start.high 0 rest with
          | .error (good, reason) => .error ⟨position, byte :: rest.take good, reason⟩
          | .ok code =>
              (decodeFrom (position + start.more + 1) (rest.drop start.more)).map
                (Char.ofNat code :: ·)
  termination_by bytes.length
  decreasing_by simp only [List.length_cons, List.length_drop]; omega

def decode (bytes : List UInt8) : Except Malformed (List Char) := decodeFrom 0 bytes

end Reckoner.Text.Utf8
