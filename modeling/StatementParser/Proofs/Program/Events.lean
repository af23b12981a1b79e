import StatementParser.Log.Record
import StatementParser.Proofs.Program.Location

/-!
What a parse reports. It reports the beginning of every statement and at last how it ended. For a
program these are the statements of its tree, parents first, each at its first token. For other
tokens they are those that any program with the same beginning has there, and perhaps one more at
the token that is refused.
-/
namespace StatementParser

def Event.startsBefore (bound : Nat) : Event → Bool
  | .statement position _ => position < bound
  | _ => false

theorem Token.beforeEof_ne_nil {rest : List Token} (more : (first rest).kind ≠ .eof) :
    0 < (beforeEof rest).length := by
  cases rest with
  | nil => exact absurd rfl more
  | cons token rest =>
    have inner : token.isEof = false := by
      rw [Bool.eq_false_iff, ne_eq, isEof_iff]
      exact more
    simp [beforeEof, inner]

namespace Program

open Node (Written)
open Rule
open Token (starts)

/-- The events of a parse, when these tokens are read: the statements that begin among them, perhaps
one at the next token, and the outcome. -/
structure Told (tokens read rest : List Token) (next : Option Kind) (last : Event) : Prop where
  split : tokens = read ++ rest
  inner : ∀ token ∈ read, token.kind ≠ .eof
  announced : ∀ kind ∈ next, kind ≠ .eof ∧ (Token.first rest).kind = kind
  events : (run tokens).events =
    (starts true 0 read ++ next.toList.map fun kind => (read.length, kind)).map Effect.event ++ [last]
  accepted : ∀ node, parse tokens = .ok node →
    next = none ∧ last = .parsed node.children.length ∧ read = Token.beforeEof tokens
  rejected : ∀ error, parse tokens = .error error →
    last = .rejected error ∧ error.position = read.length

theorem log_of_after (effect : Effect Node) (tokens rest : List Token) :
    (effect.after (State.start tokens) rest).log = effect.begun.map Effect.event := by
  have shifted : (effect.begun.map (Effect.shift 0)).map Effect.event =
      effect.begun.map fun start => Effect.event (Effect.shift 0 start) := List.map_map
  rw [Effect.map_shift_zero] at shifted
  rw [shifted]
  exact List.append_nil _

theorem events_of_log {begun : List (Nat × Kind)} {order : List (Nat × Kind)}
    (told : begun = order.reverse) (last : Event) :
    (last :: begun.map Effect.event).reverse = order.map Effect.event ++ [last] := by
  rw [told, List.map_reverse, List.reverse_cons, List.reverse_reverse]

theorem exists_next_of_reported {read : List Token} {found : Token} {begun : List (Nat × Kind)}
    (reported : Token.Reported true read found begun) :
    ∃ next : Option Kind, (∀ kind ∈ next, kind ≠ .eof ∧ found.kind = kind) ∧
      begun = (starts true 0 read ++ next.toList.map fun kind => (read.length, kind)).reverse := by
  rcases reported with even | ⟨-, more, odd⟩
  · exact ⟨none, by simp, by simpa using even⟩
  · exact ⟨some found.kind, by simpa using more, by simpa using odd⟩

theorem exists_told (tokens : List Token) : ∃ read rest next last, Told tokens read rest next last := by
  obtain ⟨effect, rest, acts, meets⟩ := reads_program (some maxNesting) tokens
  have log := log_of_after effect tokens rest
  cases meets with
  | @ok read begun node block told ends =>
    have accepted := parse_of_ok acts.run
    refine ⟨read, rest, none, .parsed node.children.length, acts.ahead, acts.inner, by simp, ?_, ?_, ?_⟩
    · rw [run, parseWithin_of_ok acts.run]
      dsimp only
      rw [log, Option.toList_none, List.map_nil, List.append_nil]
      exact events_of_log told _
    · intro other also
      rw [accepted] at also
      cases also
      exact ⟨rfl, rfl, (beforeEof_of_acts acts rfl).symm⟩
    · intro error rejected
      rw [accepted] at rejected
      cases rejected
  | @error read begun reason refused other repair told =>
    have rejected := parse_of_error acts.run
    obtain ⟨next, announced, told⟩ := exists_next_of_reported told
    refine ⟨read, rest, next, .rejected ⟨reason, (Token.first rest).text, 0 + read.length⟩,
      acts.ahead, acts.inner, announced, ?_, ?_, ?_⟩
    · rw [run, parseWithin_of_error acts.run]
      dsimp only
      rw [log]
      exact events_of_log told _
    · intro node accepted
      rw [rejected] at accepted
      cases accepted
    · intro error also
      rw [rejected] at also
      cases also
      exact ⟨rfl, Nat.zero_add _⟩

section

variable {tokens read rest : List Token} {next : Option Kind} {last : Event}

def begun (read : List Token) (next : Option Kind) : List (Nat × Kind) :=
  starts true 0 read ++ next.toList.map fun kind => (read.length, kind)

theorem pairwise_begun (read : List Token) (next : Option Kind) :
    ((begun read next).map Prod.fst).Pairwise (· < ·) := by
  rw [List.pairwise_map, begun, List.pairwise_append]
  refine ⟨Token.pairwise_starts true 0 read, ?_, ?_⟩
  · cases next with
    | none => exact .nil
    | some kind => exact List.pairwise_singleton _ _
  · intro start member other also
    obtain ⟨kind, -, rfl⟩ := List.mem_map.mp also
    have inside := (Token.le_of_mem_starts member).2
    rw [Nat.zero_add] at inside
    exact inside

theorem Told.kind_of_mem_begun (told : Told tokens read rest next last) {start : Nat × Kind}
    (member : start ∈ begun read next) :
    start.1 < (Token.beforeEof tokens).length ∧
      (tokens.getD start.1 Token.eof).kind = start.2 := by
  have length : (Token.beforeEof tokens).length = read.length + (Token.beforeEof rest).length := by
    rw [told.split, Token.beforeEof_append told.inner, List.length_append]
  rcases List.mem_append.mp member with among | behind
  · obtain ⟨offset, token, place, found, kind⟩ := Token.getElem?_of_mem_starts among
    rw [Nat.zero_add] at place
    obtain ⟨inside, -⟩ := List.getElem?_eq_some_iff.mp found
    rw [place, length, told.split]
    refine ⟨by omega, ?_⟩
    rw [List.getD_eq_getElem?_getD, List.getElem?_append_left inside, found]
    exact kind
  · obtain ⟨kind, asked, rfl⟩ := List.mem_map.mp behind
    obtain ⟨more, same⟩ := told.announced kind (Option.mem_toList.mp asked)
    rw [← same] at more
    have further := Token.beforeEof_ne_nil more
    dsimp only
    rw [length, told.split, ← Token.first_drop, List.drop_left]
    exact ⟨by omega, same⟩

theorem le_of_mem_begun {start : Nat × Kind} (member : start ∈ begun read next) :
    start.1 ≤ read.length := by
  rcases List.mem_append.mp member with among | behind
  · have inside := (Token.le_of_mem_starts among).2
    omega
  · obtain ⟨kind, -, rfl⟩ := List.mem_map.mp behind
    exact Nat.le_refl _

theorem filter_begun (before more : List Token) (next : Option Kind) :
    (begun (before ++ more) next).filter (fun start => start.1 < before.length) =
      starts true 0 before := by
  have late : (next.toList.map fun kind => ((before ++ more).length, kind)).filter
      (fun start => start.1 < before.length) = [] := by
    rw [List.filter_eq_nil_iff]
    intro start member
    obtain ⟨kind, -, rfl⟩ := List.mem_map.mp member
    simp
  rw [begun, List.filter_append, Token.filter_starts, late, List.append_nil]

theorem filter_events (begun : List (Nat × Kind)) {bound : Nat}
    (other : last.startsBefore bound = false) :
    (begun.map Effect.event ++ [last]).filter (Event.startsBefore bound) =
      (begun.filter fun start => start.1 < bound).map Effect.event := by
  have dropped : [last].filter (Event.startsBefore bound) = [] := by
    rw [List.filter_cons, if_neg (by simp [other]), List.filter_nil]
  rw [List.filter_append, List.filter_map, dropped, List.append_nil]
  rfl

end

theorem filter_events_eq_of_extension {tokens : List Token} {error : SyntaxError}
    (rejected : parse tokens = .error error) {more : List Token} {node : Node}
    (accepted : parse (tokens.take error.position ++ more) = .ok node) :
    (run tokens).events.filter (Event.startsBefore error.position) =
      (run (tokens.take error.position ++ more)).events.filter
        (Event.startsBefore error.position) := by
  obtain ⟨read, rest, next, last, told⟩ := exists_told tokens
  obtain ⟨rfl, position⟩ := told.rejected error rejected
  have front : tokens.take error.position = read := by
    rw [told.split, position, List.take_left]
  rw [front] at accepted ⊢
  obtain ⟨whole, behind, also, final, other⟩ := exists_told (read ++ more)
  obtain ⟨rfl, rfl, all⟩ := other.accepted node accepted
  have here := filter_begun read [] next
  have there := filter_begun read (Token.beforeEof more) none
  rw [List.append_nil] at here
  rw [Token.beforeEof_append told.inner] at all
  rw [told.events, other.events, filter_events _ rfl, filter_events _ rfl, position, all]
  exact congrArg (List.map Effect.event) (here.trans there.symm)

/-- The events of a parse are the beginnings of statements, each told once, and one event for the
outcome. -/
theorem events_of_run (tokens : List Token) :
    ∃ begun last, (run tokens).events = begun.map Effect.event ++ [last] ∧
      (∀ start ∈ begun, (Effect.event start).level = .trace ∧
        (Effect.event start).message = "statement" ∧
        (Effect.event start).fields =
          [("position", .number start.1), ("kind", .plain start.2.name)]) ∧
      last.level = .debug ∧ (begun.map Prod.fst).Pairwise (· < ·) ∧
      (∀ start ∈ begun, start.1 < (Token.beforeEof tokens).length ∧
        (tokens.getD start.1 Token.eof).kind = start.2) ∧
      (∀ node, parse tokens = .ok node →
        last = .parsed node.children.length ∧ last.message = "parsed program" ∧
          last.fields = [("statements", .number node.children.length)] ∧
          begun = (node.placed 0).filterMap Node.start? ∧
          (node.placed 0).map Prod.snd = node.preorder ∧
          ∀ place ∈ node.placed 0, ∃ before word after,
            Token.beforeEof tokens = before ++ (word ++ after) ∧ before.length = place.1 ∧
              Written place.2 word) ∧
      ∀ error, parse tokens = .error error →
        last = .rejected error ∧ last.message = error.reason.message ∧
          last.fields = [("position", .number error.position), ("found", .plain error.found)] ∧
          (∀ start ∈ begun, start.1 ≤ error.position) ∧
          ∀ more node, parse (tokens.take error.position ++ more) = .ok node →
            (run tokens).events.filter (Event.startsBefore error.position) =
              (run (tokens.take error.position ++ more)).events.filter
                (Event.startsBefore error.position) := by
  obtain ⟨read, rest, next, last, told⟩ := exists_told tokens
  refine ⟨begun read next, last, told.events, fun _ _ => ⟨rfl, rfl, rfl⟩, ?_, pairwise_begun read next,
    fun _ => told.kind_of_mem_begun, ?_, ?_⟩
  · cases outcome : parse tokens with
    | ok node =>
      obtain ⟨-, rfl, -⟩ := told.accepted node outcome
      rfl
    | error error =>
      obtain ⟨rfl, -⟩ := told.rejected error outcome
      rfl
  · intro node accepted
    obtain ⟨rfl, rfl, rfl⟩ := told.accepted node accepted
    obtain ⟨formed, -, written⟩ := wellFormed_of_block (block_of_parse_ok accepted)
    refine ⟨rfl, rfl, rfl, ?_, Node.map_snd_placed 0 node, ?_⟩
    · rw [begun, ← Node.starts_of_written formed written]
      exact List.append_nil _
    · exact fun _ => Node.exists_word_of_placed formed written
  · intro error rejected
    obtain ⟨rfl, position⟩ := told.rejected error rejected
    refine ⟨rfl, rfl, rfl, ?_, fun more node => filter_events_eq_of_extension rejected⟩
    intro start member
    rw [position]
    exact le_of_mem_begun member

theorem events_of_run_block :
    let tokens : List Token :=
      [⟨.ifWord, "if"⟩, ⟨.lparen, "("⟩, ⟨.identifier, "a"⟩, ⟨.rparen, ")"⟩, ⟨.lbrace, "\x7b"⟩,
        ⟨.intWord, "int"⟩, ⟨.identifier, "b"⟩, ⟨.semicolon, ";"⟩, ⟨.rbrace, "\x7d"⟩,
        ⟨.identifier, "c"⟩, ⟨.assign, "="⟩, ⟨.plus, "+"⟩, ⟨.semicolon, ";"⟩, ⟨.eof, ""⟩]
    let begun : List Event :=
      [.statement 0 .ifWord, .statement 5 .intWord, .statement 9 .identifier]
    parse tokens = .error ⟨.unexpected, "+", 11⟩ ∧
      (run tokens).events = begun ++ [.rejected ⟨.unexpected, "+", 11⟩] ∧
      ∀ more node, parse (tokens.take 11 ++ more) = .ok node →
        (run (tokens.take 11 ++ more)).events.filter (Event.startsBefore 11) = begun := by
  intro tokens begun
  have rejected : parse tokens = .error ⟨.unexpected, "+", 11⟩ := rfl
  obtain ⟨starts, last, -, -, -, -, -, -, failed⟩ := events_of_run tokens
  obtain ⟨-, -, -, -, same⟩ := failed _ rejected
  exact ⟨rejected, rfl, fun more node accepted => (same more node accepted).symm⟩

end Program
end StatementParser
