import AccountAccess.Json.Decode

/-!
JSON values that can be taken in whole.

* `Value.isReadable`: every string spells a text, no number is beyond double precision and the
  nesting stays within a limit.
* `Value.isPassable`: if the value is read from front to back and given up at the first fault, the
  reader stands behind it. Containers are closed on the way out, so a fault may be in their last
  item alone. A value that is readable is passable (`Value.isPassable_of_isReadable`).
-/

namespace AccountAccess.Json

mutual

/-- Takes the value in whole, with at most `depth` containers around any scalar. -/
def Value.isReadable (depth : Nat) : Value → Bool
  | .null => true
  | .bool _ => true
  | .num lexeme => (numberDouble? lexeme).isSome
  | .str lexeme => (lexemeText? lexeme).isSome
  | .arr items => depth != 0 && areReadable (depth - 1) items
  | .obj members => depth != 0 && membersAreReadable (depth - 1) members

/-- All items are readable. -/
def areReadable (depth : Nat) : List Value → Bool
  | [] => true
  | v :: vs => v.isReadable depth && areReadable depth vs

/-- All names and values of members are readable. -/
def membersAreReadable (depth : Nat) : List (Bytes × Value) → Bool
  | [] => true
  | (k, v) :: ms => (lexemeText? k).isSome && v.isReadable depth && membersAreReadable depth ms

end

/-- Pieces are in order but for a first half of a surrogate pair at the end; `waiting` says that one
stands before them. -/
def endInOrder (waiting : Bool) : List Piece → Bool
  | [] => true
  | .octet _ :: rest => !waiting && endInOrder false rest
  | .unit n :: rest => isLowSurrogate n == waiting && endInOrder (isHighSurrogate n) rest

mutual

/-- Reading stops behind the value, with at most `depth` containers around any scalar. -/
def Value.isPassable (depth : Nat) : Value → Bool
  | .null => true
  | .bool _ => true
  | .num lexeme => (numberDouble? lexeme).isSome || endsWithFault lexeme
  | .str lexeme => (pieces? lexeme).any (endInOrder false)
  | .arr items => depth != 0 && arePassable (depth - 1) items
  | .obj members => depth != 0 && membersArePassable (depth - 1) members

/-- Reading stops behind the last of the items. -/
def arePassable (depth : Nat) : List Value → Bool
  | [] => true
  | [v] => v.isPassable depth
  | v :: vs => v.isReadable depth && arePassable depth vs

/-- Reading stops behind the last of the members. -/
def membersArePassable (depth : Nat) : List (Bytes × Value) → Bool
  | [] => true
  | [(k, v)] => (lexemeText? k).isSome && v.isPassable depth
  | (k, v) :: ms => (lexemeText? k).isSome && v.isReadable depth && membersArePassable depth ms

end

/-- A second half is no first half. -/
theorem not_isHighSurrogate_of_isLowSurrogate {n : Nat} (h : isLowSurrogate n = true) :
    isHighSurrogate n = false := by
  simp only [isLowSurrogate, isHighSurrogate, Bool.and_eq_true, decide_eq_true_eq,
    Bool.and_eq_false_iff, decide_eq_false_iff_not] at h ⊢
  omega

theorem endInOrder_of_joinPieces? (ps : List Piece) (before : Option Nat)
    (h : (joinPieces? before ps).isSome = true) : endInOrder before.isSome ps = true := by
  induction ps generalizing before with
  | nil => rfl
  | cons p ps ih =>
    cases before with
    | none =>
      cases p with
      | octet b =>
        rw [joinPieces?, Option.isSome_map] at h
        exact ih none h
      | unit n =>
        rw [joinPieces?] at h
        rw [endInOrder]
        cases high : isHighSurrogate n with
        | true =>
          have low : isLowSurrogate n = false := by
            cases low : isLowSurrogate n with
            | true => rw [not_isHighSurrogate_of_isLowSurrogate low] at high; cases high
            | false => rfl
          rw [high, if_pos rfl] at h
          rw [low, Bool.and_eq_true]
          exact ⟨rfl, ih (some n) h⟩
        | false =>
          rw [high, if_neg Bool.false_ne_true] at h
          split at h
          · cases h
          · rename_i low
            rw [Option.isSome_map] at h
            rw [Bool.not_eq_true] at low
            rw [low, Bool.and_eq_true]
            exact ⟨rfl, ih none h⟩
    | some hi =>
      cases p with
      | octet b => cases h
      | unit n =>
        rw [joinPieces?] at h
        split at h
        · rename_i low
          rw [Option.isSome_map] at h
          rw [endInOrder, low, not_isHighSurrogate_of_isLowSurrogate low, Bool.and_eq_true]
          exact ⟨rfl, ih none h⟩
        · cases h

/-- Reading a string that spells a text stops behind it. -/
theorem isPassable_str {lexeme : Bytes} (depth : Nat) (h : (lexemeText? lexeme).isSome = true) :
    (Value.str lexeme).isPassable depth = true := by
  rw [lexemeText?, unescape?] at h
  cases hp : pieces? lexeme with
  | none => simp [hp] at h
  | some ps =>
    have joined : (joinPieces? none ps).isSome = true := by
      cases hj : joinPieces? none ps with
      | none => simp [hp, hj] at h
      | some b => rfl
    simpa [Value.isPassable, hp] using endInOrder_of_joinPieces? ps none joined

mutual

/-- Reading a value that is readable stops behind it. -/
theorem Value.isPassable_of_isReadable (depth : Nat) (v : Value) (h : v.isReadable depth = true) :
    v.isPassable depth = true := by
  match v with
  | .null => rfl
  | .bool _ => rfl
  | .num lexeme =>
    rw [Value.isReadable] at h
    rw [Value.isPassable, h, Bool.true_or]
  | .str lexeme => exact isPassable_str depth (by rwa [Value.isReadable] at h)
  | .arr items =>
    rw [Value.isReadable, Bool.and_eq_true] at h
    rw [Value.isPassable, h.1, arePassable_of_areReadable (depth - 1) items h.2, Bool.and_self]
  | .obj members =>
    rw [Value.isReadable, Bool.and_eq_true] at h
    rw [Value.isPassable, h.1, membersArePassable_of_membersAreReadable (depth - 1) members h.2,
      Bool.and_self]

theorem arePassable_of_areReadable (depth : Nat) (vs : List Value)
    (h : areReadable depth vs = true) : arePassable depth vs = true := by
  match vs with
  | [] => rfl
  | [v] =>
    rw [areReadable, Bool.and_eq_true] at h
    rw [arePassable, v.isPassable_of_isReadable depth h.1]
  | v :: w :: vs =>
    rw [areReadable, Bool.and_eq_true] at h
    rw [arePassable, h.1, arePassable_of_areReadable depth (w :: vs) h.2, Bool.and_self]
    simp

theorem membersArePassable_of_membersAreReadable (depth : Nat) (ms : List (Bytes × Value))
    (h : membersAreReadable depth ms = true) : membersArePassable depth ms = true := by
  match ms with
  | [] => rfl
  | [(k, v)] =>
    rw [membersAreReadable, Bool.and_eq_true, Bool.and_eq_true] at h
    rw [membersArePassable, h.1.1, v.isPassable_of_isReadable depth h.1.2, Bool.and_self]
  | (k, v) :: m :: ms =>
    rw [membersAreReadable, Bool.and_eq_true, Bool.and_eq_true] at h
    rw [membersArePassable, h.1.1, h.1.2,
      membersArePassable_of_membersAreReadable depth (m :: ms) h.2, Bool.and_self, Bool.and_self]
    simp

end

end AccountAccess.Json
