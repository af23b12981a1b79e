import StatementParser.Log.Record
import StatementParser.Terminal.Entry

/-!
A filter says which records are logged. It is a list of entries, written with commas between; of the
entries that rule over a record the preferred one sets the threshold.
-/
namespace StatementParser.Terminal

open Log (Level Record)

abbrev Filter := List Entry

namespace Filter

/-- Nothing between two commas is no entry. One entry that cannot be read makes the whole text
unreadable. -/
def read? (text : String) : Option Filter :=
  ((text.toList.splitOn ',').filter fun entry => !entry.isEmpty).mapM Entry.read?

/-- The later of two entries wins unless the earlier one is preferred. -/
def better (best : Option Entry) (entry : Entry) : Option Entry :=
  match best with
  | none => some entry
  | some found => if entry.below found then some found else some entry

def threshold (filter : Filter) (target : String) (fields : List String) : Level :=
  match (filter.filter fun entry => entry.covers target fields).foldl better none with
  | some entry => entry.level
  | none => .off

def keeps (filter : Filter) (record : Record) : Bool :=
  (filter.threshold record.target ("message" :: record.fields.map Prod.fst)).passes record.level

end Filter
end StatementParser.Terminal
