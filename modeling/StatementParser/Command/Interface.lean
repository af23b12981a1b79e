/-!
The command line as it is declared: a flag that is counted, and one of two actions with the path of
a listing. Arguments are matched against this declaration by a matcher, and what it finds is an
invocation.
-/
namespace StatementParser.Command

inductive Action where
  | parse
  | check
  deriving DecidableEq, Repr

namespace Action

def all : List Action :=
  [.parse, .check]

def name : Action → String
  | .parse => "parse"
  | .check => "check"

def about : Action → String
  | .parse => "Parse a token listing and print the syntax tree as an s-expression"
  | .check => "Check a token listing for syntax errors without printing the tree"

def ofName? (name : String) : Option Action :=
  if name = "parse" then some .parse else if name = "check" then some .check else none

end Action

/-- A flag is given by its name behind two hyphens or by its letter behind one, and counted. -/
structure Flag where
  letter : Char
  name : String
  about : String
  letter_ne : letter ≠ '-' := by decide
  name_ne : name ≠ "" := by decide
  name_plain : '=' ∉ name.toList := by decide

structure Operand where
  name : String
  about : String
  deriving DecidableEq, Repr

/-- Next to flags there are operands, or there is the name of a choice with a shape of its own
behind it. -/
inductive Shape where
  | operands (required : List Operand)
  | choices (offered : List (String × String × Shape))

structure Interface where
  name : String
  about : String
  version : Option String
  flag : Flag
  shape : Shape

def Interface.choose? (interface : Interface) (offered : List (String × String × Shape))
    (word : String) : Option Interface :=
  (offered.lookup word).map fun choice =>
    ⟨interface.name ++ " " ++ word, choice.1, none, interface.flag, choice.2⟩

def interface : Interface where
  name := "tinyc"
  about := "TinyC parser: turns a token listing into a syntax tree"
  version := some "0.1.0"
  flag := {
    letter := 'v'
    name := "verbose"
    about := "Raise log verbosity (-v info, -vv debug, -vvv trace)" }
  shape := .choices (Action.all.map fun action =>
    (action.name, action.about, .operands [⟨"PATH", "Input token listing"⟩]))

/-- What arguments give: how often the flag stands next to the operands or in front of a choice, and
the operands or what follows the choice. -/
inductive Matches where
  | operands (count : Nat) (values : List String)
  | choice (count : Nat) (name : String) (inner : Matches)
  deriving DecidableEq, Repr

namespace Matches

def raise (more : Nat) : Matches → Matches
  | .operands count values => .operands (more + count) values
  | .choice count name inner => .choice (more + count) name inner

def give (value : String) : Matches → Matches
  | .operands count values => .operands count (value :: values)
  | .choice count name inner => .choice count name inner

end Matches

structure Refusal where
  code : Nat
  output : String
  diagnostics : String
  deriving DecidableEq, Repr

/-- A matcher finds what arguments give, or refuses them. The count of the flag is told from both
sides of a choice. A refusal is kept for what does not fit the interface. -/
structure Matcher where
  run : Interface → List String → Except Refusal Matches
  count : Matches → Nat
  unfit : Refusal

structure Invocation where
  verbosity : Nat
  action : Action
  path : String
  deriving DecidableEq, Repr

def Invocation.ofMatches? (verbosity : Nat) : Matches → Option Invocation
  | .choice _ name (.operands _ [path]) =>
    (Action.ofName? name).map fun action => ⟨verbosity, action, path⟩
  | _ => none

namespace Matcher

variable (matcher : Matcher)

def invocation (arguments : List String) : Except Refusal Invocation :=
  match matcher.run interface arguments with
  | .error refusal => .error refusal
  | .ok found =>
    match Invocation.ofMatches? (matcher.count found) found with
    | some invocation => .ok invocation
    | none => .error matcher.unfit

end Matcher
end StatementParser.Command
