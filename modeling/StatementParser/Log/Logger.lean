import StatementParser.Log.Record

/-!
The log as the program uses it. How a setting is read, which records a filter keeps and how a record
is written is up to a logger; which filter is chosen is not.
-/
namespace StatementParser.Log

/-- A setting is what the system gives for the log. A filter comes from a setting that can be read,
or from the name of a level. -/
structure Logger where
  Setting : Type
  Filter : Type
  read? : Setting → Option Filter
  ofText : String → Filter
  keeps : Filter → Record → Bool
  line : Record → String

namespace Logger

variable (logger : Logger)

/-- A setting that can be read replaces the verbosity flags. -/
def choose (setting : Option logger.Setting) (verbosity : Nat) : logger.Filter :=
  (setting.bind logger.read?).getD (logger.ofText (Level.ofVerbosity verbosity).name)

def lines (filter : logger.Filter) (events : List Event) : List String :=
  ((events.map Event.record).filter (logger.keeps filter)).map logger.line

end Logger
end StatementParser.Log
