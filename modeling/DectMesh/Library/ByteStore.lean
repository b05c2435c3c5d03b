import Mathlib.Data.List.Basic
import Mathlib.Data.List.GetD
import Mathlib.Data.List.Range
import Mathlib.Tactic.Common

/-!
# Byte stores

A byte-addressed memory, its slices and its splices.  Every statement about
a burst of bytes is reduced here to the two facts a reader expects of a flat
memory: a splice is read back, and everything outside it is untouched.
-/

namespace ByteStore

/-- A total byte-addressed memory. -/
abbrev Store := Nat → UInt8

/-- The `length` bytes starting at `addr`. -/
def slice (store : Store) (addr length : Nat) : List UInt8 :=
  (List.range length).map fun offset => store (addr + offset)

/-- The store after the bytes of `block` were put at `addr`. -/
def splice (store : Store) (addr : Nat) (block : List UInt8) : Store :=
  fun cell =>
    if addr ≤ cell ∧ cell < addr + block.length then
      block.getD (cell - addr) 0
    else
      store cell

/-- Two stores hold the same bytes in `[low, high)`. -/
def AgreeOn (left right : Store) (low high : Nat) : Prop :=
  ∀ cell, low ≤ cell → cell < high → left cell = right cell

@[simp]
theorem slice_length (store : Store) (addr length : Nat) :
    (slice store addr length).length = length := by
  simp [slice]

@[simp]
theorem slice_zero (store : Store) (addr : Nat) :
    slice store addr 0 = [] := rfl

theorem slice_add (store : Store) (addr first second : Nat) :
    slice store addr (first + second) =
      slice store addr first ++ slice store (addr + first) second := by
  simp only [slice, List.range_add, List.map_append, List.map_map]
  congr 2
  funext offset
  simp [Nat.add_assoc]

/-- Consecutive blocks of one size make one slice. -/
theorem slice_blocks (store : Store) (addr size : Nat) :
    ∀ count : Nat,
      ((List.range count).flatMap fun index =>
        slice store (addr + index * size) size) =
          slice store addr (count * size)
  | 0 => by simp
  | count + 1 => by
      rw [List.range_succ, List.flatMap_append,
        slice_blocks store addr size count, Nat.add_mul, Nat.one_mul,
        slice_add]
      simp

theorem slice_take
    (store : Store) (addr : Nat) {wanted length : Nat}
    (fits : wanted ≤ length) :
    (slice store addr length).take wanted = slice store addr wanted := by
  obtain ⟨rest, rfl⟩ := Nat.exists_eq_add_of_le fits
  rw [slice_add, List.take_left' (slice_length store addr wanted)]

theorem slice_drop
    (store : Store) (addr : Nat) {skipped length : Nat}
    (fits : skipped ≤ length) :
    (slice store addr length).drop skipped =
      slice store (addr + skipped) (length - skipped) := by
  obtain ⟨rest, rfl⟩ := Nat.exists_eq_add_of_le fits
  rw [slice_add, List.drop_left' (slice_length store addr skipped),
    Nat.add_sub_cancel_left]

/-- A slice only depends on the bytes it covers. -/
theorem slice_congr
    {left right : Store} {low high addr length : Nat}
    (agree : AgreeOn left right low high)
    (lower : low ≤ addr) (upper : addr + length ≤ high) :
    slice left addr length = slice right addr length := by
  apply List.map_congr_left
  intro offset member
  have bound := List.mem_range.mp member
  exact agree (addr + offset) (by omega) (by omega)

theorem AgreeOn.refl (store : Store) (low high : Nat) :
    AgreeOn store store low high :=
  fun _ _ _ => rfl

theorem AgreeOn.mono
    {left right : Store} {low high low' high' : Nat}
    (agree : AgreeOn left right low high)
    (lower : low ≤ low') (upper : high' ≤ high) :
    AgreeOn left right low' high' :=
  fun cell above below => agree cell (by omega) (by omega)

/-- What was spliced in is read back. -/
theorem slice_splice (store : Store) (addr : Nat) (block : List UInt8) :
    slice (splice store addr block) addr block.length = block := by
  apply List.ext_getElem
  · simp
  · intro index _ inBlock
    simp [slice, splice, inBlock]

/-- Nothing outside a splice changes. -/
theorem splice_outside
    (store : Store) {addr cell : Nat} {block : List UInt8}
    (outside : cell < addr ∨ addr + block.length ≤ cell) :
    splice store addr block cell = store cell := by
  unfold splice
  rw [if_neg (by omega)]

theorem agreeOn_splice
    (store : Store) {addr low high : Nat} {block : List UInt8}
    (disjoint : high ≤ addr ∨ addr + block.length ≤ low) :
    AgreeOn (splice store addr block) store low high := by
  intro cell lower upper
  exact splice_outside store (by omega)

theorem slice_splice_of_disjoint
    (store : Store) {addr other length : Nat} {block : List UInt8}
    (disjoint : other + length ≤ addr ∨ addr + block.length ≤ other) :
    slice (splice store addr block) other length =
      slice store other length :=
  slice_congr (agreeOn_splice store disjoint) (Nat.le_refl _) (Nat.le_refl _)

/-- A slice that was moved is read back where it is now. -/
theorem slice_splice_slice
    (store : Store) {addr source length skipped wanted : Nat}
    (fits : skipped + wanted ≤ length) :
    slice (splice store addr (slice store source length)) (addr + skipped)
        wanted = slice store (source + skipped) wanted := by
  have whole := slice_splice store addr (slice store source length)
  rw [slice_length] at whole
  rw [← slice_take _ (addr + skipped) (show wanted ≤ length - skipped by omega),
    ← slice_drop _ addr (show skipped ≤ length by omega), whole,
    slice_drop store source (by omega),
    slice_take store (source + skipped) (by omega)]

/-- Two adjacent splices are one. -/
theorem splice_append
    (store : Store) (addr : Nat) (first second : List UInt8) :
    splice (splice store addr first) (addr + first.length) second =
      splice store addr (first ++ second) := by
  funext cell
  simp only [splice, List.length_append]
  by_cases inSecond :
      addr + first.length ≤ cell ∧
        cell < addr + first.length + second.length
  · rw [if_pos inSecond, if_pos (by omega), List.getD_append_right _ _ _ _ (by omega)]
    congr 1
    omega
  · rw [if_neg inSecond]
    by_cases inFirst : addr ≤ cell ∧ cell < addr + first.length
    · rw [if_pos inFirst, if_pos (by omega), List.getD_append _ _ _ _ (by omega)]
    · rw [if_neg inFirst, if_neg (by omega)]

/-- Writing back what is stored changes nothing. -/
theorem splice_slice (store : Store) (addr length : Nat) :
    splice store addr (slice store addr length) = store := by
  funext cell
  by_cases inside : addr ≤ cell ∧ cell < addr + length
  · obtain ⟨lower, upper⟩ := inside
    have offset : cell - addr < length := by omega
    have cellEq : addr + (cell - addr) = cell := by omega
    simp [splice, slice, lower, upper, offset, cellEq]
  · exact splice_outside store (by rw [slice_length]; omega)

@[simp]
theorem splice_nil (store : Store) (addr : Nat) :
    splice store addr [] = store := by
  funext cell
  exact splice_outside store (by simp; omega)

/-- A store that holds `block` and is otherwise unchanged is the one after
`block` was put there. -/
theorem eq_splice
    {left right : Store} {addr : Nat} {block : List UInt8}
    (held : slice left addr block.length = block)
    (outside : ∀ cell, cell < addr ∨ addr + block.length ≤ cell →
      left cell = right cell) :
    left = splice right addr block := by
  rw [← splice_slice left addr block.length, held]
  funext cell
  by_cases inside : addr ≤ cell ∧ cell < addr + block.length
  · unfold splice
    rw [if_pos inside, if_pos inside]
  · have apart : cell < addr ∨ addr + block.length ≤ cell := by omega
    rw [splice_outside left apart, splice_outside right apart,
      outside cell apart]

section Blocks

/-- The store holds block number `index` of a blob that is cut into blocks of
`size` bytes; the last block may be shorter. -/
def BlockAt
    (store : Store) (addr size : Nat) (blob : List UInt8) (index : Nat) :
    Prop :=
  ∀ offset, index * size ≤ offset → offset < index * size + size →
    offset < blob.length → store (addr + offset) = blob.getD offset 0

variable {store : Store} {addr size index other : Nat} {blob : List UInt8}

/-- A block that was spliced in is there. -/
theorem blockAt_splice (store : Store) (addr size index : Nat) :
    BlockAt
      (splice store (addr + index * size)
        ((blob.drop (index * size)).take size))
      addr size blob index := by
  intro offset lower upper inside
  unfold splice
  rw [List.length_take, List.length_drop, if_pos (by omega)]
  have cell : addr + offset - (addr + index * size) = offset - index * size := by
    omega
  rw [cell]
  have position : index * size + (offset - index * size) = offset := by omega
  simp only [List.getD_eq_getElem?_getD]
  rw [List.getElem?_take_of_lt (by omega), List.getElem?_drop, position]

/-- The other blocks stay. -/
theorem BlockAt.splice_other
    (holds : BlockAt store addr size blob other) (different : other ≠ index) :
    BlockAt
      (splice store (addr + index * size)
        ((blob.drop (index * size)).take size))
      addr size blob other := by
  intro offset lower upper inside
  rw [← holds offset lower upper inside]
  apply splice_outside
  rw [List.length_take, List.length_drop]
  rcases Nat.lt_or_gt_of_ne different with before | after
  · have step : other * size + size ≤ index * size := by
      rw [← Nat.succ_mul]
      exact Nat.mul_le_mul_right size before
    omega
  · have step : index * size + size ≤ other * size := by
      rw [← Nat.succ_mul]
      exact Nat.mul_le_mul_right size after
    omega

/-- A blob is there once all its blocks are. -/
theorem slice_of_blocks
    {count : Nat} (positive : 0 < size)
    (enough : blob.length ≤ count * size)
    (blocks : ∀ index, index < count → BlockAt store addr size blob index) :
    slice store addr blob.length = blob := by
  apply List.ext_getElem
  · simp
  · intro offset _ inside
    have block : offset / size < count :=
      (Nat.div_lt_iff_lt_mul positive).mpr (by omega)
    have lower := Nat.div_mul_le_self offset size
    have upper : offset < offset / size * size + size :=
      Nat.lt_div_mul_add positive
    have stored := blocks _ block offset lower upper inside
    simp only [slice, List.getElem_map, List.getElem_range, stored]
    rw [List.getD_eq_getElem _ _ inside]

end Blocks

end ByteStore
