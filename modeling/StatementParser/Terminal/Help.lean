import StatementParser.Terminal.Arguments

/-!
The texts that describe an interface, each closed by a line feed, and how a process ends that shows
one of them or was given arguments it cannot use.
-/
namespace StatementParser.Terminal

open Command (Interface Matcher Operand Refusal Shape)

namespace Help

def rows (entries : List (String × String)) : String :=
  let width := (entries.map fun entry => entry.1.length).foldl max 0
  String.join (entries.map fun entry =>
    "  " ++ entry.1 ++ "".pushn ' ' (width - entry.1.length + 2) ++ entry.2 ++ "\n")

def part (title : String) (entries : List (String × String)) : String :=
  if entries.isEmpty then "" else "\n" ++ title ++ ":\n" ++ rows entries

def about : String :=
  "Print this message or the help of the given subcommand(s)"

def choices : Shape → List (String × String)
  | .operands _ => []
  | .choices offered =>
    offered.map (fun choice => (choice.1, choice.2.1)) ++ [("help", about)]

def operands : Shape → List (String × String)
  | .operands required => required.map fun operand => ("<" ++ operand.name ++ ">", operand.about)
  | .choices _ => []

def options (interface : Interface) : List (String × String) :=
  ("-" ++ interface.flag.letter.toString ++ ", --" ++ interface.flag.name ++ "...",
      interface.flag.about) ::
    ("-h, --help", "Print help") ::
    if interface.version.isSome then [("-V, --version", "Print version")] else []

def usage : Shape → String
  | .operands required => String.join (required.map fun operand => " <" ++ operand.name ++ ">")
  | .choices _ => " <COMMAND>"

def ofInterface (interface : Interface) : String :=
  interface.about ++ "\n" ++
  "\n" ++
  "Usage: " ++ interface.name ++ " [OPTIONS]" ++ usage interface.shape ++ "\n" ++
  part "Commands" (choices interface.shape) ++
  part "Arguments" (operands interface.shape) ++
  part "Options" (options interface)

def ofHelp (parent : Interface) : String :=
  about ++ "\n" ++
  "\n" ++
  "Usage: " ++ parent.name ++ " help [COMMAND]...\n" ++
  part "Arguments" [("[COMMAND]...", "Print help for the subcommand(s)")]

end Help

def Topic.text : Topic → String
  | .usage interface => Help.ofInterface interface
  | .help parent => Help.ofHelp parent

def versionText (interface : Interface) : String :=
  interface.name ++ " " ++ interface.version.getD "" ++ "\n"

def Misuse.message : Misuse → String
  | .nothingGiven interface => Help.ofInterface interface
  | .missingChoice => "error: a subcommand is required\n"
  | .unknownChoice => "error: there is no such subcommand\n"
  | .missingOperand => "error: a path is required\n"
  | .unknownArgument => "error: unexpected argument\n"
  | .unwantedValue => "error: a flag takes no value\n"

def Halt.refusal : Halt → Refusal
  | .help topic => ⟨0, topic.text, ""⟩
  | .version interface => ⟨0, versionText interface, ""⟩
  | .misuse cause => ⟨2, "", cause.message⟩

def matcher : Matcher where
  run interface arguments := (Arguments.read interface arguments).mapError Halt.refusal
  count := Arguments.count
  unfit := ⟨2, "", "error: unexpected argument\n"⟩

end StatementParser.Terminal
