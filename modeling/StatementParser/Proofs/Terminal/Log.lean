import StatementParser.Proofs.Log.Lines
import StatementParser.Terminal.Log

/-!
The logger of the terminal does what is documented of loggers: a filter that is the name of a level
keeps by this level alone, and a path has no line feed in its quoted form.
-/
namespace StatementParser

namespace Text

theorem feed_not_mem_digits {base : Nat} (more : 1 < base) (value : Nat) :
    '\n' ∉ Nat.toDigits base value := by
  induction value using Nat.strongRecOn with
  | _ value ih =>
    rw [Nat.toDigits_eq_if more]
    split
    next => simp
    next large =>
      have less : value / base < value := Nat.div_lt_self (by omega) more
      simp [ih _ less]

theorem feed_not_mem_escape (c : Char) : '\n' ∉ escape c := by
  unfold escape codePoint
  split_ifs with zero tab feed back quote hidden
  · decide
  · decide
  · decide
  · decide
  · rcases quote with rfl | rfl <;> decide
  · simp [feed_not_mem_digits]
  · simpa using Ne.symm feed

theorem feed_not_mem_quoted (text : String) : '\n' ∉ (quoted text).toList := by
  rw [quoted, String.toList_ofList, List.mem_cons, List.mem_append, List.mem_flatMap]
  rintro (impossible | ⟨c, -, within⟩ | impossible)
  · cases impossible
  · exact feed_not_mem_escape c within
  · simp at impossible

end Text

namespace Terminal

open Log (Level Record)

theorem read?_name (level : Level) : Filter.read? level.name = some [⟨"", .nothing, level⟩] := by
  cases level <;> rfl

theorem keeps_name (level : Level) (record : Record) :
    Filter.keeps ((Filter.read? level.name).getD []) record = level.passes record.level := by
  rw [read?_name]
  rfl

theorem feed_not_mem_shown {record : Record} (plain : record.Plain)
    {field : String × Event.Value} (member : field ∈ record.fields) :
    '\n' ∉ (shown field.2).toList := by
  obtain ⟨name, value⟩ := field
  cases value with
  | number value =>
    change '\n' ∉ (toString value).toList
    rw [Nat.toString_eq_ofList_toDigits, String.toList_ofList]
    exact Text.feed_not_mem_digits (by decide) value
  | plain text => exact plain.texts name text member
  | path text => exact Text.feed_not_mem_quoted text

theorem feed_not_mem_writeField {record : Record} (plain : record.Plain)
    {field : String × Event.Value} (member : field ∈ record.fields) :
    '\n' ∉ (writeField field).toList := by
  rw [writeField]
  simp [plain.names field member, feed_not_mem_shown plain member]

/-- The logger of the terminal does what is documented. -/
theorem documented_logger : logger.Documented where
  keeps := keeps_name
  line record plain := by
    refine ⟨_, rfl, ?_⟩
    have label : '\n' ∉ (Level.label record.level).toList := by
      cases record.level <;> decide
    have fields : '\n' ∉ (record.fields.map writeField).flatMap String.toList := by
      rw [List.mem_flatMap]
      rintro ⟨written, member, within⟩
      obtain ⟨field, among, rfl⟩ := List.mem_map.mp member
      exact feed_not_mem_writeField plain among within
    simp only [String.toList_append, String.toList_join, List.mem_append, not_or]
    exact ⟨⟨⟨⟨⟨label, by decide⟩, plain.target⟩, by decide⟩, plain.message⟩, fields⟩

end Terminal
end StatementParser
