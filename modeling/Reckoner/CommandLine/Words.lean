import Reckoner.Text.Digit

namespace Reckoner.CommandLine

inductive Switch
  | help
  | logLevel
  | output
  deriving DecidableEq, Repr

-- The options that a command knows, by all their names.
abbrev Names := List (String × Switch)

def topNames : Names := [("-h", .help), ("--help", .help), ("--log-level", .logLevel)]

def batchNames : Names :=
  [("-h", .help), ("--help", .help), ("-o", .output), ("--output", .output)]

-- How a command line that starts nothing ends: with the help text, or with a complaint.
inductive Exit
  | help
  | usage
  deriving DecidableEq, Repr

def Exit.status : Exit → Nat
  | .help => 0
  | .usage => 2

-- What a word on the command line is taken for. An option may have text
-- attached; only a short one may have it without an equals sign.
inductive Role
  | separator
  | plain
  | option (switch : Switch) (short : Bool) (attached : Option (List Char))
  | unknown
  deriving DecidableEq, Repr

structure Word where
  text : String
  role : Role
  deriving DecidableEq, Repr

-- The text before the first equals sign, and what is attached by it.
def cutEquals (text : List Char) : List Char × Option (List Char) :=
  match text.dropWhile (· ≠ '=') with
  | [] => (text, none)
  | _ :: attached => (text.takeWhile (· ≠ '='), some attached)

-- Minus, digits, and at most one point with digits after it. One line feed at
-- the end does no harm.
def isNegativeNumber : List Char → Bool
  | '-' :: rest =>
      let rest := if rest.getLast? = some '\n' then rest.dropLast else rest
      let isDecimal := fun c => (Text.decimalValue? c).isSome
      match rest.dropWhile isDecimal with
      | [] => !rest.isEmpty
      | '.' :: fraction => !fraction.isEmpty && fraction.all isDecimal
      | _ => false
  | _ => false

-- A long option may be cut short. A short one is known by its letter, and what
-- follows the letter is attached.
def candidates (names : Names) (text : List Char) : List (Switch × Bool × Option (List Char)) :=
  if text.take 2 = ['-', '-'] then
    let (stem, attached) := cutEquals text
    (names.filter fun (name, _) => stem.isPrefixOf name.toList).map
      fun (_, switch) => (switch, false, attached)
  else
    (names.filter fun (name, _) => name.toList = text.take 2).map
      fun (_, switch) => (switch, true, some (text.drop 2))

def isShort (text : List Char) : Bool := text.take 2 ≠ ['-', '-']

def lookup (names : Names) (text : List Char) : Option Switch := names.lookup (String.ofList text)

-- What is cut short in more than one way is refused at once.
def role (names : Names) (text : List Char) : Except Exit Role :=
  match text with
  | [] => .ok .plain
  | first :: rest =>
      if first ≠ '-' then .ok .plain
      else match lookup names text with
        | some switch => .ok (.option switch (isShort text) none)
        | none =>
            if rest.isEmpty then .ok .plain
            else
              let (stem, attached) := cutEquals text
              match attached, lookup names stem with
              | some attached, some switch => .ok (.option switch (isShort text) (some attached))
              | _, _ =>
                  match candidates names text with
                  | [(switch, short, attached)] => .ok (.option switch short attached)
                  | _ :: _ :: _ => .error .usage
                  | [] =>
                      if isNegativeNumber text || text.contains ' ' then .ok .plain
                      else .ok .unknown

-- After two dashes alone every word is plain.
def words (names : Names) : List String → Except Exit (List Word)
  | [] => .ok []
  | text :: rest =>
      if text = "--" then .ok (⟨text, .separator⟩ :: rest.map (⟨·, .plain⟩))
      else match role names text.toList with
        | .error exit => .error exit
        | .ok role => (words names rest).map (⟨text, role⟩ :: ·)

-- Short options without a value may stand together behind one dash. The help
-- text is shown if all that stands with it can be understood.
def helpExit (names : Names) (short : Bool) (rest : List Word) : Option (List Char) → Exit
  | none => .help
  | some [] => .usage
  | some (letter :: more) =>
      if !short then .usage
      else match lookup names ['-', letter] with
        | none => .usage
        | some .help =>
            if more.isEmpty then .help else helpExit names short rest (some more)
        | some _ =>
            if !more.isEmpty then .help
            else match rest with
              | ⟨_, .plain⟩ :: _ => .help
              | _ => .usage

end Reckoner.CommandLine
