import Mathlib.Data.List.Basic
import StatementParser.Log.Logger

/-!
What is relied on of a logger, and how the lines of a log depend on its filter. A filter that keeps
more records gives the same lines with others between them, and each verbosity flag more keeps more;
but the flags count only when there is no setting that can be read.
-/
namespace StatementParser.Log

/-- None of the texts has a line feed; a path may have one. -/
structure Record.Plain (record : Record) : Prop where
  target : '\n' ∉ record.target.toList
  message : '\n' ∉ record.message.toList
  names : ∀ field ∈ record.fields, '\n' ∉ field.1.toList
  texts : ∀ name text, (name, .plain text) ∈ record.fields → '\n' ∉ text.toList

namespace Logger

/-- What is documented of a logger: the name of a level keeps what is at this level or above, for
every target, and a record is written on one line. -/
structure Documented (logger : Logger) : Prop where
  keeps : ∀ (level : Level) record, logger.keeps (logger.ofText level.name) record = level.passes record.level
  line : ∀ record : Record, record.Plain →
    ∃ text, logger.line record = text ++ "\n" ∧ '\n' ∉ text.toList

variable {logger : Logger}

theorem lines_sublist {strict loose : logger.Filter} (events : List Event)
    (kept : ∀ record, logger.keeps strict record = true → logger.keeps loose record = true) :
    (logger.lines strict events).Sublist (logger.lines loose events) :=
  (List.monotone_filter_right _ kept).map logger.line

theorem choose_of_read {setting : Option logger.Setting} {filter : logger.Filter}
    (readable : setting.bind logger.read? = some filter) (verbosity : Nat) :
    logger.choose setting verbosity = filter := by
  rw [choose, readable]
  rfl

theorem choose_of_none {setting : Option logger.Setting}
    (unreadable : setting.bind logger.read? = none) (verbosity : Nat) :
    logger.choose setting verbosity = logger.ofText (Level.ofVerbosity verbosity).name := by
  rw [choose, unreadable]
  rfl

end Logger

theorem Level.rank_ofVerbosity (verbosity : Nat) : (ofVerbosity verbosity).rank = min (verbosity + 2) 5 := by
  match verbosity with
  | 0 => rfl
  | 1 => rfl
  | 2 => rfl
  | more + 3 =>
    rw [Nat.min_eq_right (by omega)]
    rfl

theorem Level.passes_ofVerbosity_mono {fewer more : Nat} (less : fewer ≤ more) {level : Level}
    (passes : (ofVerbosity fewer).passes level = true) : (ofVerbosity more).passes level = true := by
  simp only [Level.passes, rank_ofVerbosity, decide_eq_true_eq] at passes ⊢
  omega

/-- Without a setting that can be read, fewer flags leave out some lines. -/
theorem Logger.Documented.lines_sublist {logger : Logger} (documented : logger.Documented)
    {setting : Option logger.Setting} (unreadable : setting.bind logger.read? = none)
    {fewer more : Nat} (less : fewer ≤ more) (events : List Event) :
    (logger.lines (logger.choose setting fewer) events).Sublist
      (logger.lines (logger.choose setting more) events) := by
  rw [choose_of_none unreadable, choose_of_none unreadable]
  apply Logger.lines_sublist
  intro record
  rw [documented.keeps, documented.keeps]
  exact Level.passes_ofVerbosity_mono less

theorem Logger.Documented.line_of_mem_lines {logger : Logger} (documented : logger.Documented)
    {filter : logger.Filter} {events : List Event} (plain : ∀ event ∈ events, event.record.Plain)
    {line : String} (member : line ∈ logger.lines filter events) :
    ∃ text, line = text ++ "\n" ∧ '\n' ∉ text.toList := by
  obtain ⟨record, kept, rfl⟩ := List.mem_map.mp member
  obtain ⟨event, among, rfl⟩ := List.mem_map.mp (List.mem_filter.mp kept).1
  exact documented.line _ (plain event among)

end StatementParser.Log
