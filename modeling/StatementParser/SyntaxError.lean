import StatementParser.Token

/-!
A failed parse tells what was expected, the text of the token found instead and its index. The text
is empty at the end of the input.
-/
namespace StatementParser

inductive Reason where
  | unexpected
  | identifier
  | identifierAfterInt
  | semicolonAfterDeclaration
  | assignAfterIdentifier
  | semicolonAfterExpression
  | parenAfterIf
  | parenAfterCondition
  | braceAfterCondition
  | braceAfterStatements
  | tooDeep
  deriving DecidableEq, Repr

def Reason.message : Reason → String
  | .unexpected => "Unexpected token"
  | .identifier => "Expected identifier"
  | .identifierAfterInt => "Expected identifier after 'int'"
  | .semicolonAfterDeclaration => "Expected ';' after variable declaration"
  | .assignAfterIdentifier => "Expected '=' after identifier"
  | .semicolonAfterExpression => "Expected ';' after expression"
  | .parenAfterIf => "Expected '(' after 'if'"
  | .parenAfterCondition => "Expected ')' after condition"
  | .braceAfterCondition => "Expected '\x7b' after condition"
  | .braceAfterStatements => "Expected '\x7d' after statements"
  | .tooDeep => "Conditional nested too deeply"

structure SyntaxError where
  reason : Reason
  found : String
  position : Nat
  deriving DecidableEq, Repr

def SyntaxError.message (error : SyntaxError) : String :=
  "Syntax error at token " ++ toString error.position ++ ": " ++ error.reason.message ++
    ", found '" ++ error.found ++ "'"

end StatementParser
