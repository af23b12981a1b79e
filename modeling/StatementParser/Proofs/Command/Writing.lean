import StatementParser.Command.Run

/-!
How output is handed over. A writer takes the bytes that it is offered little by little, and what it
has left is offered again. Whatever it takes at a time, in the end it has taken what a sink accepts
that has the same room.
-/
namespace StatementParser.Command

/-- It takes bytes from the front of what it is offered, as many as it likes but no more than it has
room for, and some of them as long as it has room. -/
structure Writer where
  State : Type
  room : State → Option Nat
  take : State → ByteArray → Nat
  after : State → ByteArray → State
  take_le_size : ∀ state content, take state content ≤ content.size
  take_le_room : ∀ state content, ∀ limit ∈ room state, take state content ≤ limit
  takes : ∀ state content, content.size ≠ 0 → room state ≠ some 0 → take state content ≠ 0
  room_after : ∀ state content, room (after state content) = (room state).map (· - take state content)

def Writer.bytewise : Writer where
  State := Nat
  room := some
  take left content := min 1 (min left content.size)
  after left content := left - min 1 (min left content.size)
  take_le_size := by
    intro left content
    omega
  take_le_room := by
    intro left content limit same
    cases same
    omega
  takes := by
    intro left content filled more
    have left_ne : left ≠ 0 := fun full => more (congrArg some full)
    omega
  room_after := fun _ _ => rfl

/-- What comes of an offer: whether all was taken, what was taken, and the writer behind it. -/
structure Handed (State : Type) where
  whole : Bool
  taken : ByteArray
  after : State

namespace Writer

/-- Offer the content until all of it is taken, or nothing. -/
def hand (writer : Writer) (state : writer.State) (content : ByteArray) : Handed writer.State :=
  if content.size = 0 then ⟨true, ByteArray.empty, state⟩
  else
    let count := writer.take state content
    let next := writer.after state content
    if count = 0 then ⟨false, ByteArray.empty, next⟩
    else
      let others := writer.hand next (content.extract count content.size)
      ⟨others.whole, content.extract 0 count ++ others.taken, others.after⟩
termination_by content.size
decreasing_by rw [ByteArray.size_extract]; omega

def handEach (writer : Writer) (state : writer.State) : List ByteArray → Handed writer.State
  | [] => ⟨true, ByteArray.empty, state⟩
  | piece :: rest =>
    let first := writer.hand state piece
    if first.whole then
      let others := writer.handEach first.after rest
      ⟨others.whole, first.taken ++ others.taken, others.after⟩
    else first

def sink (writer : Writer) (state : writer.State) : Sink :=
  ⟨writer.room state, .cut⟩

end Writer

namespace Sink

def less (sink : Sink) (count : Nat) : Sink :=
  { sink with room := sink.room.map (· - count) }

variable {sink : Sink} {content : ByteArray} {count : Nat}

theorem less_zero (sink : Sink) : sink.less 0 = sink := by
  obtain ⟨room, fault⟩ := sink
  cases room with
  | none => rfl
  | some room => rfl

theorem less_less (sink : Sink) (count more : Nat) :
    (sink.less count).less more = sink.less (count + more) := by
  obtain ⟨room, fault⟩ := sink
  cases room with
  | none => rfl
  | some room =>
    rw [less, less, less]
    simp [Nat.sub_sub]

theorem fits_iff : sink.fits content = true ↔ ∀ room ∈ sink.room, content.size ≤ room := by
  obtain ⟨limit, fault⟩ := sink
  cases limit with
  | none => simp [fits]
  | some limit => simp [fits]

theorem fits_of_empty (empty : content.size = 0) : sink.fits content = true := by
  obtain ⟨limit, fault⟩ := sink
  cases limit with
  | none => rfl
  | some limit => exact decide_eq_true (empty ▸ Nat.zero_le limit)

theorem fits_less (inside : count ≤ content.size) (room : ∀ room ∈ sink.room, count ≤ room) :
    (sink.less count).fits (content.extract count content.size) = sink.fits content := by
  obtain ⟨limit, fault⟩ := sink
  cases limit with
  | none => rfl
  | some limit =>
    have bound : count ≤ limit := room limit rfl
    simp only [less, fits, Option.map_some, ByteArray.size_extract, decide_eq_decide]
    omega

theorem extract_zero_min (content : ByteArray) (limit : Nat) :
    content.extract 0 (min limit content.size) = content.extract 0 limit := by
  by_cases inside : limit ≤ content.size
  · rw [Nat.min_eq_left inside]
  · have beyond : content.size ≤ limit := by omega
    have whole := ByteArray.extract_zero_max_size (a := content) (i := limit)
    rw [Nat.max_eq_left beyond] at whole
    rw [Nat.min_eq_right beyond, ByteArray.extract_zero_size, whole]

theorem accepted_less (inside : count ≤ content.size) (room : ∀ room ∈ sink.room, count ≤ room) :
    content.extract 0 count ++ (sink.less count).accepted (content.extract count content.size) =
      sink.accepted content := by
  obtain ⟨limit, fault⟩ := sink
  cases limit with
  | none =>
    change content.extract 0 count ++ content.extract count content.size = content
    rw [← ByteArray.extract_eq_extract_append_extract count (Nat.zero_le _) inside,
      ByteArray.extract_zero_size]
  | some limit =>
    have bound : count ≤ limit := room limit rfl
    have ends : min (count + (limit - count)) content.size = min limit content.size := by omega
    have further : count ≤ min limit content.size := by omega
    change content.extract 0 count ++ (content.extract count content.size).extract 0 (limit - count) =
      content.extract 0 limit
    rw [ByteArray.extract_extract, Nat.add_zero, ends,
      ← ByteArray.extract_eq_extract_append_extract count (Nat.zero_le _) further, extract_zero_min]

theorem accepted_of_fits (fits : sink.fits content = true) : sink.accepted content = content := by
  obtain ⟨limit, fault⟩ := sink
  cases limit with
  | none => rfl
  | some limit =>
    have bound := fits_iff.mp fits limit rfl
    change content.extract 0 limit = content
    rw [← Nat.max_eq_left bound, ByteArray.extract_zero_max_size]

theorem exists_accepted_append (sink : Sink) (content : ByteArray) :
    ∃ rest, sink.accepted content ++ rest = content := by
  obtain ⟨limit, fault⟩ := sink
  cases limit with
  | none => exact ⟨ByteArray.empty, ByteArray.append_empty⟩
  | some limit =>
    refine ⟨content.extract (min limit content.size) content.size, ?_⟩
    change content.extract 0 limit ++ _ = content
    rw [← extract_zero_min, ← ByteArray.extract_eq_extract_append_extract _ (Nat.zero_le _)
      (Nat.min_le_right ..), ByteArray.extract_zero_size]

theorem size_accepted (sink : Sink) (content : ByteArray) :
    (sink.accepted content).size = sink.room.elim content.size (min · content.size) := by
  obtain ⟨limit, fault⟩ := sink
  cases limit with
  | none => rfl
  | some limit => exact ByteArray.size_extract

section Pieces

variable {rest : ByteArray}

theorem extract_append_rest (content rest : ByteArray) :
    (content ++ rest).extract content.size (content ++ rest).size = rest :=
  ByteArray.extract_append_eq_right rfl (ByteArray.size_append ..)

theorem size_le_size_append (content rest : ByteArray) : content.size ≤ (content ++ rest).size := by
  rw [ByteArray.size_append]
  exact Nat.le_add_right _ _

theorem fits_append (fits : sink.fits content = true) :
    sink.fits (content ++ rest) = (sink.less content.size).fits rest := by
  have behind := fits_less (size_le_size_append content rest) (fits_iff.mp fits)
  rw [extract_append_rest] at behind
  exact behind.symm

theorem accepted_append (fits : sink.fits content = true) :
    sink.accepted (content ++ rest) = content ++ (sink.less content.size).accepted rest := by
  have both := accepted_less (size_le_size_append content rest) (fits_iff.mp fits)
  rw [extract_append_rest, ByteArray.extract_append_eq_left rfl] at both
  exact both.symm

theorem exists_room_of_not_fits (tooLong : ¬sink.fits content = true) :
    ∃ room, sink.room = some room ∧ room < content.size := by
  obtain ⟨limit, fault⟩ := sink
  cases limit with
  | none => exact absurd rfl tooLong
  | some limit => exact ⟨limit, rfl, Nat.lt_of_not_le fun bound => tooLong (decide_eq_true bound)⟩

theorem not_fits_append (tooLong : ¬sink.fits content = true) : ¬sink.fits (content ++ rest) = true := by
  obtain ⟨room, limited, beyond⟩ := exists_room_of_not_fits tooLong
  intro fits
  have bound := fits_iff.mp fits room limited
  rw [ByteArray.size_append] at bound
  omega

theorem accepted_append_of_not_fits (tooLong : ¬sink.fits content = true) :
    sink.accepted (content ++ rest) = sink.accepted content := by
  obtain ⟨room, limited, beyond⟩ := exists_room_of_not_fits tooLong
  have filled : room - content.size = 0 := by omega
  rw [accepted, accepted, limited]
  dsimp only
  rw [ByteArray.extract_append, filled, Nat.zero_sub, ByteArray.extract_same, ByteArray.append_empty]

end Pieces

end Sink

namespace Writer

variable {writer : Writer} {state : writer.State} {content : ByteArray}

theorem sink_after (writer : Writer) (state : writer.State) (content : ByteArray) :
    writer.sink (writer.after state content) = (writer.sink state).less (writer.take state content) := by
  rw [sink, writer.room_after]
  rfl

theorem hand_of_empty (empty : content.size = 0) :
    writer.hand state content = ⟨true, ByteArray.empty, state⟩ := by
  rw [hand, if_pos empty]

theorem hand_of_stuck (filled : content.size ≠ 0) (stuck : writer.take state content = 0) :
    writer.hand state content = ⟨false, ByteArray.empty, writer.after state content⟩ := by
  rw [hand, if_neg filled]
  dsimp only
  rw [if_pos stuck]

theorem hand_of_taken (filled : content.size ≠ 0) (progress : writer.take state content ≠ 0) :
    writer.hand state content =
      let others := writer.hand (writer.after state content)
        (content.extract (writer.take state content) content.size)
      ⟨others.whole, content.extract 0 (writer.take state content) ++ others.taken, others.after⟩ := by
  rw [hand, if_neg filled]
  dsimp only
  rw [if_neg progress]

theorem room_of_stuck (filled : content.size ≠ 0) (stuck : writer.take state content = 0) :
    writer.room state = some 0 :=
  Decidable.byContradiction fun left => writer.takes state content filled left stuck

/-- What a writer takes of an offer is what the sink accepts, and all of it if it fits. -/
theorem hand_spec (writer : Writer) (state : writer.State) (content : ByteArray) :
    (writer.hand state content).whole = (writer.sink state).fits content ∧
      (writer.hand state content).taken = (writer.sink state).accepted content ∧
      ((writer.sink state).fits content = true →
        writer.sink (writer.hand state content).after = (writer.sink state).less content.size) := by
  induction state, content using hand.induct writer with
  | case1 state content empty =>
    have fits : (writer.sink state).fits content = true := Sink.fits_of_empty empty
    rw [hand_of_empty empty, Sink.accepted_of_fits fits, fits, empty, Sink.less_zero]
    exact ⟨rfl, (ByteArray.size_eq_zero_iff.mp empty).symm, fun _ => rfl⟩
  | case2 state content filled count stuck =>
    have tooLong : ¬(writer.sink state).fits content = true := by
      intro fits
      have bound := Sink.fits_iff.mp fits 0 (room_of_stuck filled stuck)
      exact filled (Nat.le_zero.mp bound)
    have nothing : (writer.sink state).accepted content = ByteArray.empty := by
      rw [sink, room_of_stuck filled stuck]
      exact ByteArray.extract_same
    rw [hand_of_stuck filled stuck, nothing]
    exact ⟨(Bool.eq_false_iff.mpr tooLong).symm, rfl, fun fits => absurd fits tooLong⟩
  | case3 state content filled count next progress ih =>
    have inside : count ≤ content.size := writer.take_le_size state content
    have room : ∀ room ∈ (writer.sink state).room, count ≤ room := writer.take_le_room state content
    have left : (content.extract count content.size).size = content.size - count := by
      rw [ByteArray.size_extract, Nat.min_self]
    obtain ⟨whole, taken, after⟩ := ih
    have behind : writer.sink next = (writer.sink state).less count := sink_after writer state content
    rw [behind, Sink.fits_less inside room] at whole after
    rw [behind] at taken
    rw [hand_of_taken filled progress]
    refine ⟨whole, ?_, fun fits => ?_⟩
    · rw [← Sink.accepted_less inside room, ← taken]
    · have all : (writer.sink state).less content.size =
          ((writer.sink state).less count).less (content.extract count content.size).size := by
        rw [Sink.less_less, left, Nat.add_sub_cancel' inside]
      rw [all]
      exact after fits

def joined (pieces : List ByteArray) : ByteArray :=
  pieces.foldr (· ++ ·) ByteArray.empty

theorem handEach_spec (writer : Writer) (state : writer.State) (pieces : List ByteArray) :
    (writer.handEach state pieces).whole = (writer.sink state).fits (joined pieces) ∧
      (writer.handEach state pieces).taken = (writer.sink state).accepted (joined pieces) := by
  induction pieces generalizing state with
  | nil =>
    have fits : (writer.sink state).fits ByteArray.empty = true := Sink.fits_of_empty rfl
    exact ⟨fits.symm, (Sink.accepted_of_fits fits).symm⟩
  | cons piece rest ih =>
    obtain ⟨whole, taken, after⟩ := hand_spec writer state piece
    have split : joined (piece :: rest) = piece ++ joined rest := rfl
    rw [handEach, split]
    dsimp only
    by_cases fits : (writer.sink state).fits piece = true
    · rw [if_pos (whole.trans fits), Sink.fits_append fits, Sink.accepted_append fits, ← after fits,
        taken, Sink.accepted_of_fits fits]
      obtain ⟨others, more⟩ := ih (writer.hand state piece).after
      exact ⟨others, congrArg (piece ++ ·) more⟩
    · have tooLong : ¬(writer.hand state piece).whole = true := fun all => fits (whole.symm.trans all)
      rw [if_neg tooLong, Sink.accepted_append_of_not_fits fits, whole, Bool.eq_false_iff.mpr fits,
        Bool.eq_false_iff.mpr (Sink.not_fits_append fits)]
      exact ⟨rfl, taken⟩

end Writer

end StatementParser.Command
