import Mathlib.Data.List.Basic
import Mathlib.Tactic.Common

/-!
# Ring buffers with claims

A ring buffer that hands out a piece of its contents in place: a claim gives
the items up to the end of the array at most, and what is not given back stays
at the front until it is finished with.
-/

/-- `items` are what the buffer holds, the oldest first, of which `claimed` are
handed out; the oldest is at `position` of the array. -/
structure RingBuf (Item : Type) (size : Nat) where
  items : List Item
  claimed : Nat
  position : Nat
  bounded : items.length ≤ size
  claimed_le : claimed ≤ items.length

namespace RingBuf

variable {Item : Type} {size : Nat}

def empty : RingBuf Item size where
  items := []
  claimed := 0
  position := 0
  bounded := Nat.zero_le size
  claimed_le := Nat.le_refl 0

variable (ring : RingBuf Item size)

def spaceGet : Nat := size - ring.items.length

theorem bounded_put (data : List Item) :
    (ring.items ++ data.take ring.spaceGet).length ≤ size := by
  have bounded := ring.bounded
  simp only [spaceGet, List.length_append, List.length_take]
  omega

/-- Put in what fits; the number is how many items that is. -/
def put (data : List Item) : RingBuf Item size × Nat :=
  ({ ring with
      items := ring.items ++ data.take ring.spaceGet
      bounded := ring.bounded_put data
      claimed_le := by
        rw [List.length_append]
        exact Nat.le_add_right_of_le ring.claimed_le },
    min ring.spaceGet data.length)

/-- How many of at most `limit` items lie in one piece behind those already
handed out. -/
def piece (limit : Nat) : Nat :=
  min limit (min (ring.items.length - ring.claimed)
    (size - (ring.position + ring.claimed) % size))

theorem claimed_piece_le (limit : Nat) :
    ring.claimed + ring.piece limit ≤ ring.items.length := by
  have claimed := ring.claimed_le
  simp only [piece]
  omega

/-- Hand out the next piece. -/
def getClaim (limit : Nat) : RingBuf Item size × List Item :=
  ({ ring with
      claimed := ring.claimed + ring.piece limit
      claimed_le := ring.claimed_piece_le limit },
    (ring.items.drop ring.claimed).take (ring.piece limit))

theorem drop_bounded (count : Nat) : (ring.items.drop count).length ≤ size := by
  rw [List.length_drop]
  exact Nat.le_trans (Nat.sub_le _ _) ring.bounded

/-- Free `count` of the items handed out and take the others back; fails if
there are fewer. -/
def getFinish (count : Nat) : Option (RingBuf Item size) :=
  if count ≤ ring.claimed then
    some
      { items := ring.items.drop count
        claimed := 0
        position := (ring.position + count) % size
        bounded := ring.drop_bounded count
        claimed_le := Nat.zero_le _ }
  else
    none

variable {ring}

@[simp] theorem put_items (data : List Item) :
    (ring.put data).1.items =
      ring.items ++ data.take (ring.put data).2 := by
  simp only [put, List.take_eq_take_iff, List.append_cancel_left_eq]
  omega

theorem put_le (data : List Item) : (ring.put data).2 ≤ data.length :=
  Nat.min_le_right _ _

/-- With nothing handed out the piece is the front of the buffer, and it is
what is then handed out. -/
theorem getClaim_front (limit : Nat) (none_out : ring.claimed = 0) :
    (ring.getClaim limit).2 =
        ring.items.take (ring.getClaim limit).2.length ∧
      (ring.getClaim limit).1.claimed = (ring.getClaim limit).2.length := by
  have fits := ring.claimed_piece_le limit
  have length :
      (ring.getClaim limit).2.length = ring.piece limit := by
    simp only [getClaim, none_out, List.drop_zero, List.length_take]
    omega
  constructor
  · rw [length]
    simp only [getClaim, none_out, List.drop_zero]
  · rw [length]
    simp only [getClaim, none_out, Nat.zero_add]

theorem getFinish_eq_some {count : Nat} {after : RingBuf Item size} :
    ring.getFinish count = some after ↔
      count ≤ ring.claimed ∧ after.items = ring.items.drop count ∧
        after.claimed = 0 ∧
          after.position = (ring.position + count) % size := by
  unfold getFinish
  split
  · next within =>
    constructor
    · rintro ⟨rfl⟩
      exact ⟨within, rfl, rfl, rfl⟩
    · rintro ⟨_, items, claimed, position⟩
      cases after
      cases items
      cases claimed
      cases position
      rfl
  · next beyond => exact ⟨fun found => (nomatch found), fun ⟨within, _⟩ =>
      absurd within beyond⟩

end RingBuf
