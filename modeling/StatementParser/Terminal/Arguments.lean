import StatementParser.Command.Interface

/-!
Matching arguments against an interface. They are read from left to right, and the first one that
asks for help or cannot be read decides; what is missing is told at the end.
-/
namespace StatementParser.Terminal

open Command (Interface Operand Shape Matches)

inductive Topic where
  | usage (interface : Interface)
  | help (parent : Interface)

inductive Misuse where
  | nothingGiven (interface : Interface)
  | missingChoice
  | unknownChoice
  | missingOperand
  | unknownArgument
  | unwantedValue

inductive Halt where
  | help (topic : Topic)
  | version (interface : Interface)
  | misuse (cause : Misuse)

/-- What a flag does: one is counted, the other two end the reading. -/
inductive Meaning where
  | count
  | help
  | version
  deriving DecidableEq, Repr

/-- An argument by its hyphens: two alone, two with a name and perhaps a value, one with letters, or
neither. -/
inductive Word where
  | separator
  | long (name : List Char) (hasValue : Bool)
  | letters (letters : List Char)
  | plain
  deriving DecidableEq, Repr

def Word.ofChars : List Char → Word
  | ['-', '-'] => .separator
  | '-' :: '-' :: rest => .long (rest.takeWhile (· != '=')) (rest.contains '=')
  | '-' :: letter :: rest => .letters (letter :: rest)
  | _ => .plain

def Word.of (argument : String) : Word :=
  .ofChars argument.toList

namespace Arguments

variable (interface : Interface)

/-- The version is told only where there is one. -/
def accepts (meaning : Meaning) : Bool :=
  meaning != .version || interface.version.isSome

def longFlag? (name : List Char) : Option Meaning :=
  let meaning :=
    if name = interface.flag.name.toList then some .count
    else if name = "help".toList then some .help
    else if name = "version".toList then some .version
    else none
  meaning.filter (accepts interface)

def letterFlag? (letter : Char) : Option Meaning :=
  let meaning :=
    if letter = interface.flag.letter then some .count
    else if letter = 'h' then some .help
    else if letter = 'V' then some .version
    else none
  meaning.filter (accepts interface)

def readFlag : Option Meaning → Except Halt Unit
  | some .count => .ok ()
  | some .help => .error (.help (.usage interface))
  | some .version => .error (.version interface)
  | none => .error (.misuse .unknownArgument)

def readLetters : List Char → Except Halt Unit
  | [] => .ok ()
  | letter :: rest => do
    readFlag interface (letterFlag? interface letter)
    readLetters rest

def readLong (name : List Char) (hasValue : Bool) : Except Halt Unit :=
  let meaning := longFlag? interface name
  if meaning.isSome && hasValue then .error (.misuse .unwantedValue)
  else readFlag interface meaning

def missing (first : Bool) : Misuse :=
  if first then .nothingGiven interface else .missingChoice

def finish (first : Bool) : Shape → Except Halt Matches
  | .operands [] => .ok (.operands 0 [])
  | .operands (_ :: _) => .error (.misuse .missingOperand)
  | .choices _ => .error (.misuse (missing interface first))

def readOperands : List Operand → List String → Except Halt Matches
  | [], [] => .ok (.operands 0 [])
  | [], _ :: _ => .error (.misuse .unknownArgument)
  | _ :: _, [] => .error (.misuse .missingOperand)
  | _ :: required, word :: rest => do
    let found ← readOperands required rest
    pure (found.give word)

def isOffered (offered : List (String × String × Shape)) (word : String) : Bool :=
  word = "help" || (offered.lookup word).isSome

def close (first : Bool) (shape : Shape) (rest : List String) : Except Halt Matches :=
  match shape, rest with
  | .operands required, rest => readOperands required rest
  | .choices _, [] => .error (.misuse (missing interface first))
  | .choices offered, word :: _ =>
    .error (.misuse (if isOffered offered word then .unknownArgument else .unknownChoice))

def readHelp (offered : List (String × String × Shape)) : List String → Halt
  | [] => .help (.usage interface)
  | ["help"] => .help (.help interface)
  | [name] =>
    match interface.choose? offered name with
    | some chosen => .help (.usage chosen)
    | none => .misuse .unknownChoice
  | _ => .misuse .unknownChoice

/-- Read arguments; before the first one nothing was read on this side of a choice. The shape is
what is still expected. -/
def readFrom : Interface → Bool → Shape → List String → Except Halt Matches
  | interface, first, shape, [] => finish interface first shape
  | interface, first, shape, word :: rest =>
    match Word.of word with
    | .separator => close interface first shape rest
    | .long name hasValue => do
      readLong interface name hasValue
      let found ← readFrom interface false shape rest
      pure (found.raise 1)
    | .letters letters => do
      readLetters interface letters
      let found ← readFrom interface false shape rest
      pure (found.raise letters.length)
    | .plain =>
      match shape with
      | .operands [] => .error (.misuse .unknownArgument)
      | .operands (_ :: required) => do
        let found ← readFrom interface false (.operands required) rest
        pure (found.give word)
      | .choices offered =>
        match interface.choose? offered word with
        | none =>
          .error (if word = "help" then readHelp interface offered rest else .misuse .unknownChoice)
        | some chosen => do
          let inner ← readFrom chosen true chosen.shape rest
          pure (.choice 0 word inner)

def read (arguments : List String) : Except Halt Matches :=
  readFrom interface true interface.shape arguments

def count : Matches → Nat
  | .operands count _ => min 255 count
  | .choice before _ inner => if count inner = 0 then min 255 before else count inner

end Arguments
end StatementParser.Terminal
