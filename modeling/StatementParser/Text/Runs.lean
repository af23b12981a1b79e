/-!
Sets of characters are given by runs of code points, each by its first and its last.
-/
namespace StatementParser.Text

abbrev Runs := List (Nat × Nat)

def Runs.holds (runs : Runs) (c : Char) : Bool :=
  runs.any fun run => run.1 ≤ c.toNat && c.toNat ≤ run.2

end StatementParser.Text
