import StatementParser.Text.Blank
import StatementParser.Token

/-!
A listing gives one token a line: the name of its kind, then its text, which may be left out where
the kind has a text of its own. Blank lines and lines that begin with a number sign are skipped but
counted. Nothing may follow an `eof`, and a missing one is supplied.
-/
namespace StatementParser.Listing

inductive Fault where
  | afterEof
  | unknownKind (name : String)
  | missingText (kind : Kind)
  deriving DecidableEq, Repr

def Fault.message : Fault → String
  | .afterEof => "Token after 'eof'"
  | .unknownKind name => Kind.unknownMessage name
  | .missingText kind => "Missing text for '" ++ kind.name ++ "' token"

structure Error where
  fault : Fault
  line : Nat
  deriving DecidableEq, Repr

def Error.message (error : Error) : String :=
  "Listing error at line " ++ toString error.line ++ ": " ++ error.fault.message

/-- A line counts when it holds something besides blanks and is no comment. -/
def significant (line : List Char) : Bool :=
  match Text.trim line with
  | [] => false
  | first :: _ => first != '#'

def complete (kind : Kind) (text : List Char) : Except Fault Token :=
  if text.isEmpty then
    match kind.lexeme? with
    | some lexeme => .ok ⟨kind, lexeme⟩
    | none => .error (.missingText kind)
  else .ok ⟨kind, String.ofList text⟩

def readLine (line : List Char) : Except Fault Token :=
  let entry := Text.trim line
  let name := String.ofList (Text.firstWord entry)
  match Kind.ofName? name with
  | some kind => complete kind (Text.remainder entry)
  | none => .error (.unknownKind name)

/-- The latest token read, kept in front, ends the listing. -/
def ended (done : List Token) : Bool :=
  done.head?.any Token.isEof

def finish (done : List Token) : List Token :=
  (if ended done then done else Token.eof :: done).reverse

/-- Read lines from the given number on, after the tokens already read, latest first. -/
def readLines : Nat → List Token → List (List Char) → Except Error (List Token)
  | _, done, [] => .ok (finish done)
  | number, done, line :: rest =>
    if significant line then
      if ended done then .error ⟨.afterEof, number⟩
      else
        match readLine line with
        | .ok token => readLines (number + 1) (token :: done) rest
        | .error fault => .error ⟨fault, number⟩
    else readLines (number + 1) done rest

def read (text : String) : Except Error (List Token) :=
  readLines 1 [] (Text.lines text.toList)

def writeToken (token : Token) : String :=
  if token.text.isEmpty then token.kind.name else token.kind.name ++ " " ++ token.text

def write (tokens : List Token) : String :=
  "\n".intercalate (tokens.map writeToken)

end StatementParser.Listing
