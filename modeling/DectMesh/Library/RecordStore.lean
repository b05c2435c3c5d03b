import DectMesh.Library.ByteStore
import Mathlib.Data.Nat.Digits.Lemmas

/-!
# Sealed records in a byte store

An array of records of one size, each followed by a checksum, behind a header
with two magic bytes and the number of records.  Writing one record, writing
them all, moving the tail of the array and changing the count are splices that
stay inside the array's region.
-/

namespace RecordStore

open ByteStore

section LittleEndian

/-- The `width` bytes of a number, the low one first. -/
def littleEndian : Nat → Nat → List UInt8
  | 0, _ => []
  | width + 1, value => UInt8.ofNat value :: littleEndian width (value / 256)

def ofLittleEndian : List UInt8 → Nat
  | [] => 0
  | byte :: rest => byte.toNat + 256 * ofLittleEndian rest

@[simp]
theorem littleEndian_length (width value : Nat) :
    (littleEndian width value).length = width := by
  induction width generalizing value with
  | zero => rfl
  | succ width ih => rw [littleEndian, List.length_cons, ih]

theorem ofLittleEndian_littleEndian {width value : Nat}
    (fits : value < 256 ^ width) :
    ofLittleEndian (littleEndian width value) = value := by
  induction width generalizing value with
  | zero =>
      rw [Nat.pow_zero] at fits
      rw [littleEndian, ofLittleEndian]
      omega
  | succ width ih =>
      rw [Nat.pow_succ] at fits
      rw [littleEndian, ofLittleEndian, ih (by omega), UInt8.toNat_ofNat']
      omega

theorem ofLittleEndian_lt (bytes : List UInt8) :
    ofLittleEndian bytes < 256 ^ bytes.length := by
  induction bytes with
  | nil => decide
  | cons byte rest ih =>
      have small := byte.toNat_lt
      rw [ofLittleEndian, List.length_cons, Nat.pow_succ]
      omega

theorem littleEndian_ofLittleEndian (bytes : List UInt8) :
    littleEndian bytes.length (ofLittleEndian bytes) = bytes := by
  induction bytes with
  | nil => rfl
  | cons byte rest ih =>
      have small := byte.toNat_lt
      have low : UInt8.ofNat (byte.toNat + 256 * ofLittleEndian rest) =
          byte := by
        apply UInt8.toNat_inj.mp
        rw [UInt8.toNat_ofNat']
        omega
      have high : (byte.toNat + 256 * ofLittleEndian rest) / 256 =
          ofLittleEndian rest := by
        omega
      rw [List.length_cons, ofLittleEndian, littleEndian, low, high, ih]

/-- The fields of a packed structure: the width and the value of each. -/
def pack : List (Nat × Nat) → List UInt8
  | [] => []
  | field :: rest => littleEndian field.1 field.2 ++ pack rest

/-- The values of fields of the given widths. -/
def unpack : List Nat → List UInt8 → List Nat
  | [], _ => []
  | width :: rest, bytes =>
      ofLittleEndian (bytes.take width) :: unpack rest (bytes.drop width)

theorem pack_length (fields : List (Nat × Nat)) :
    (pack fields).length = (fields.map Prod.fst).sum := by
  induction fields with
  | nil => rfl
  | cons field rest ih =>
      rw [pack, List.length_append, littleEndian_length, ih, List.map_cons,
        List.sum_cons]

theorem unpack_pack {fields : List (Nat × Nat)}
    (fits : ∀ field ∈ fields, field.2 < 256 ^ field.1) :
    unpack (fields.map Prod.fst) (pack fields) = fields.map Prod.snd := by
  induction fields with
  | nil => rfl
  | cons field rest ih =>
      have here := fits field List.mem_cons_self
      have later := ih fun other member =>
        fits other (List.mem_cons_of_mem _ member)
      rw [pack, List.map_cons, List.map_cons, unpack,
        List.take_left' (littleEndian_length _ _),
        List.drop_left' (littleEndian_length _ _),
        ofLittleEndian_littleEndian here, later]

end LittleEndian

/-- A packed record without its checksum. -/
structure Layout (Entry : Type) where
  size : Nat
  encode : Entry → List UInt8
  decode : List UInt8 → Entry
  encode_length : ∀ entry, (encode entry).length = size
  decode_encode : ∀ entry, decode (encode entry) = entry

/-- Where an array of records lies. -/
structure Region (Entry : Type) where
  layout : Layout Entry
  check : List UInt8 → UInt32
  base : Nat
  capacity : Nat
  countable : capacity < 65536

namespace Region

variable {Entry : Type} (region : Region Entry)

def cellSize : Nat := region.layout.size + 4

def addr (index : Nat) : Nat := region.base + 4 + index * region.cellSize

/-- The end of the last record. -/
def limit : Nat := region.addr region.capacity

def magic : List UInt8 := [0xDE, 0xC7]

/-- A record and its checksum. -/
def sealedBytes (entry : Entry) : List UInt8 :=
  region.layout.encode entry ++
    littleEndian 4 (region.check (region.layout.encode entry)).toNat

def readHeader (store : Store) : Nat :=
  if (slice store region.base 4).take 2 = magic then
    ofLittleEndian ((slice store region.base 4).drop 2)
  else
    0

def writeHeader (count : Nat) (store : Store) : Store :=
  splice store region.base (magic ++ littleEndian 2 count)

def cellBytes (store : Store) (index : Nat) : List UInt8 :=
  slice store (region.addr index) region.cellSize

/-- A record with its stored checksum, if the checksum is right. -/
def readCell (store : Store) (index : Nat) : Option (Entry × UInt32) :=
  let body := (region.cellBytes store index).take region.layout.size
  let stored := UInt32.ofNat
    (ofLittleEndian ((region.cellBytes store index).drop region.layout.size))
  if region.check body = stored then
    some (region.layout.decode body, stored)
  else
    none

def writeCell (index : Nat) (entry : Entry) (store : Store) : Store :=
  splice store (region.addr index) (region.sealedBytes entry)

/-- Write records one after another. -/
def writeCells : List Entry → Nat → Store → Store
  | [], _, store => store
  | entry :: rest, index, store =>
      writeCells rest (index + 1) (region.writeCell index entry store)

/-- Write all records and their number. -/
def flush (entries : List Entry) (store : Store) : Store :=
  region.writeHeader entries.length (region.writeCells entries 0 store)

/-- Move the records after `index`, up to `count`, one place down. -/
def shift (index count : Nat) (store : Store) : Store :=
  if 0 < count - 1 - index then
    splice store (region.addr index)
      (slice store (region.addr (index + 1))
        ((count - 1 - index) * region.cellSize))
  else
    store

/-- The region holds these records. -/
structure Holds (store : Store) (entries : List Entry) : Prop where
  header : region.readHeader store = entries.length
  fits : entries.length ≤ region.capacity
  cells : ∀ index entry, entries[index]? = some entry →
    region.cellBytes store index = region.sealedBytes entry

/-- Nothing outside the region changes. -/
def Keeps (before after : Store) : Prop :=
  ∀ cell, cell < region.base ∨ region.limit ≤ cell → after cell = before cell

variable {region} {store after : Store} {entries : List Entry}
variable {index other : Nat} {entry : Entry}

section Addresses

@[simp]
theorem sealedBytes_length (entry : Entry) :
    (region.sealedBytes entry).length = region.cellSize := by
  rw [sealedBytes, List.length_append, region.layout.encode_length,
    littleEndian_length]
  rfl

theorem addr_succ (index : Nat) :
    region.addr (index + 1) = region.addr index + region.cellSize := by
  unfold addr
  rw [Nat.succ_mul]
  omega

theorem addr_add (index count : Nat) :
    region.addr (index + count) =
      region.addr index + count * region.cellSize := by
  unfold addr
  rw [Nat.add_mul]
  omega

theorem header_le_addr (index : Nat) : region.base + 4 ≤ region.addr index :=
  Nat.le_add_right _ _

theorem addr_le (before : index ≤ other) :
    region.addr index ≤ region.addr other := by
  obtain ⟨count, rfl⟩ := Nat.exists_eq_add_of_le before
  rw [addr_add]
  exact Nat.le_add_right _ _

/-- A record ends where the next one, or the region, does. -/
theorem addr_end (before : index < other) :
    region.addr index + region.cellSize ≤ region.addr other := by
  rw [← addr_succ]
  exact addr_le before

end Addresses

section Outside

theorem Keeps.refl (store : Store) : region.Keeps store store :=
  fun _ _ => rfl

theorem Keeps.trans {middle : Store} (first : region.Keeps store middle)
    (second : region.Keeps middle after) : region.Keeps store after :=
  fun cell outside => (second cell outside).trans (first cell outside)

theorem writeHeader_keeps (count : Nat) (store : Store) :
    region.Keeps store (region.writeHeader count store) := by
  intro cell outside
  refine splice_outside store ?_
  have first := @header_le_addr Entry region region.capacity
  have length : (magic ++ littleEndian 2 count).length = 4 := by
    simp [magic]
  rw [length]
  unfold limit at outside
  omega

theorem writeCell_keeps (entry : Entry) (store : Store)
    (inside : index < region.capacity) :
    region.Keeps store (region.writeCell index entry store) := by
  intro cell outside
  refine splice_outside store ?_
  have first := @header_le_addr Entry region index
  have last := @addr_end Entry region _ _ inside
  rw [sealedBytes_length]
  unfold limit at outside
  omega

theorem writeCells_keeps (entries : List Entry) (index : Nat) (store : Store)
    (inside : index + entries.length ≤ region.capacity) :
    region.Keeps store (region.writeCells entries index store) := by
  induction entries generalizing index store with
  | nil => exact .refl store
  | cons entry rest ih =>
      rw [List.length_cons] at inside
      exact (writeCell_keeps entry store (by omega)).trans
        (ih (index + 1) _ (by omega))

theorem flush_keeps (entries : List Entry) (store : Store)
    (inside : entries.length ≤ region.capacity) :
    region.Keeps store (region.flush entries store) :=
  (writeCells_keeps entries 0 store (by omega)).trans
    (writeHeader_keeps entries.length _)

theorem shift_keeps {count : Nat} (store : Store)
    (inside : count ≤ region.capacity) :
    region.Keeps store (region.shift index count store) := by
  unfold shift
  split
  · next some =>
    intro cell outside
    refine splice_outside store ?_
    have first := @header_le_addr Entry region index
    have last := @addr_le Entry region (index + (count - 1 - index))
      region.capacity (by omega)
    rw [addr_add] at last
    rw [slice_length]
    unfold limit at outside
    omega
  · exact .refl store

end Outside

section Contents

/-- What a region holds depends on its own bytes. -/
theorem Holds.congr (holds : region.Holds store entries)
    (same : AgreeOn after store region.base region.limit) :
    region.Holds after entries where
  header := by
    have first := @header_le_addr Entry region region.capacity
    have bytes : slice after region.base 4 = slice store region.base 4 :=
      slice_congr same (Nat.le_refl _) first
    rw [readHeader, bytes]
    exact holds.header
  fits := holds.fits
  cells := by
    intro index entry here
    have inside := (List.getElem?_eq_some_iff.mp here).1
    rw [← holds.cells index entry here]
    refine slice_congr same ?_ (addr_end (by have := holds.fits; omega))
    exact Nat.le_trans (Nat.le_add_right _ _) (header_le_addr index)

/-- Another region is not touched. -/
theorem Keeps.elsewhere {Other : Type} {region' : Region Other}
    {entries : List Other} (keeps : region.Keeps store after)
    (apart : region.limit ≤ region'.base ∨ region'.limit ≤ region.base)
    (holds : region'.Holds store entries) : region'.Holds after entries := by
  refine holds.congr fun cell lower upper => keeps cell ?_
  rcases apart with above | below
  · exact .inr (Nat.le_trans above lower)
  · exact .inl (Nat.lt_of_lt_of_le upper below)

/-- A sealed record is read back with its checksum. -/
theorem readCell_sealed
    (stored : region.cellBytes store index = region.sealedBytes entry) :
    region.readCell store index =
      some (entry, region.check (region.layout.encode entry)) := by
  have body : (region.cellBytes store index).take region.layout.size =
      region.layout.encode entry := by
    rw [stored, sealedBytes, List.take_left' (region.layout.encode_length entry)]
  have tail : (region.cellBytes store index).drop region.layout.size =
      littleEndian 4 (region.check (region.layout.encode entry)).toNat := by
    rw [stored, sealedBytes, List.drop_left' (region.layout.encode_length entry)]
  have number := @ofLittleEndian_littleEndian 4
    (region.check (region.layout.encode entry)).toNat (UInt32.toNat_lt _)
  unfold readCell
  dsimp only
  rw [body, tail, number, UInt32.ofNat_toNat, if_pos rfl,
    region.layout.decode_encode]

/-- Every record below the count has the right checksum. -/
theorem Holds.readable (holds : region.Holds store entries) :
    ∀ index, index < region.readHeader store →
      (region.readCell store index).isSome = true := by
  intro index below
  rw [holds.header] at below
  rw [readCell_sealed
    (holds.cells index _ (List.getElem?_eq_getElem below))]
  rfl

theorem readHeader_writeHeader {count : Nat} (store : Store)
    (small : count < 65536) :
    region.readHeader (region.writeHeader count store) = count := by
  have bytes : slice (region.writeHeader count store) region.base 4 =
      magic ++ littleEndian 2 count := by
    have spliced := slice_splice store region.base
      (magic ++ littleEndian 2 count)
    rw [List.length_append, littleEndian_length] at spliced
    exact spliced
  have taken : (magic ++ littleEndian 2 count).take 2 = magic :=
    List.take_left' rfl
  have dropped : (magic ++ littleEndian 2 count).drop 2 =
      littleEndian 2 count :=
    List.drop_left' rfl
  rw [readHeader, bytes, taken, if_pos rfl, dropped,
    ofLittleEndian_littleEndian small]

theorem cellBytes_writeHeader (count : Nat) (store : Store) (index : Nat) :
    region.cellBytes (region.writeHeader count store) index =
      region.cellBytes store index := by
  refine slice_splice_of_disjoint store (.inr ?_)
  rw [List.length_append, littleEndian_length]
  exact header_le_addr index

theorem readHeader_writeCell (index : Nat) (entry : Entry) (store : Store) :
    region.readHeader (region.writeCell index entry store) =
      region.readHeader store := by
  have bytes : slice (region.writeCell index entry store) region.base 4 =
      slice store region.base 4 :=
    slice_splice_of_disjoint store (.inl (header_le_addr index))
  rw [readHeader, bytes]
  rfl

theorem cellBytes_writeCell_self (index : Nat) (entry : Entry) (store : Store) :
    region.cellBytes (region.writeCell index entry store) index =
      region.sealedBytes entry := by
  have spliced := slice_splice store (region.addr index)
    (region.sealedBytes entry)
  rw [sealedBytes_length] at spliced
  exact spliced

theorem cellBytes_writeCell_other (entry : Entry) (store : Store)
    (different : other ≠ index) :
    region.cellBytes (region.writeCell index entry store) other =
      region.cellBytes store other := by
  refine slice_splice_of_disjoint store ?_
  rw [sealedBytes_length]
  rcases Nat.lt_or_gt_of_ne different with before | behind
  · exact .inl (addr_end before)
  · exact .inr (addr_end behind)

theorem cellBytes_writeCells_before (entries : List Entry) (store : Store)
    (before : other < index) :
    region.cellBytes (region.writeCells entries index store) other =
      region.cellBytes store other := by
  induction entries generalizing index store with
  | nil => rfl
  | cons entry rest ih =>
      rw [writeCells, ih _ (by omega),
        cellBytes_writeCell_other entry store (Nat.ne_of_lt before)]

theorem cellBytes_writeCells (entries : List Entry) (index : Nat)
    (store : Store) {offset : Nat} (here : entries[offset]? = some entry) :
    region.cellBytes (region.writeCells entries index store)
      (index + offset) = region.sealedBytes entry := by
  induction entries generalizing index store offset with
  | nil => cases here
  | cons first rest ih =>
      cases offset with
      | zero =>
          cases here
          rw [Nat.add_zero, writeCells,
            cellBytes_writeCells_before rest _ (Nat.lt_succ_self index),
            cellBytes_writeCell_self]
      | succ offset =>
          have position : index + (offset + 1) = index + 1 + offset := by omega
          rw [writeCells, position]
          exact ih (index + 1) _ here

/-- After a flush the region holds what was written. -/
theorem holds_flush (store : Store) (fits : entries.length ≤ region.capacity) :
    region.Holds (region.flush entries store) entries where
  header := readHeader_writeHeader _
    (Nat.lt_of_le_of_lt fits region.countable)
  fits := fits
  cells := by
    intro index entry here
    rw [flush, cellBytes_writeHeader, ← Nat.zero_add index]
    exact cellBytes_writeCells entries 0 store here

/-- An empty region. -/
theorem holds_empty (store : Store) :
    region.Holds (region.writeHeader 0 store) [] where
  header := readHeader_writeHeader store (by decide)
  fits := Nat.zero_le _
  cells := by
    intro index entry here
    cases here

/-- One record is replaced. -/
theorem Holds.set (holds : region.Holds store entries)
    (index : Nat) (entry : Entry) :
    region.Holds (region.writeCell index entry store)
      (entries.set index entry) where
  header := by
    rw [readHeader_writeCell, holds.header, List.length_set]
  fits := by
    rw [List.length_set]
    exact holds.fits
  cells := by
    intro other found here
    by_cases same : other = index
    · subst same
      have inside := (List.getElem?_eq_some_iff.mp here).1
      rw [List.length_set] at inside
      rw [List.getElem?_set_self inside, Option.some.injEq] at here
      rw [cellBytes_writeCell_self, here]
    · rw [List.getElem?_set_ne (Ne.symm same)] at here
      rw [cellBytes_writeCell_other entry store same]
      exact holds.cells other found here

/-- One record more. -/
theorem Holds.append (holds : region.Holds store entries)
    (room : entries.length < region.capacity) (entry : Entry) :
    region.Holds
      (region.writeHeader (entries.length + 1)
        (region.writeCell entries.length entry store))
      (entries ++ [entry]) where
  header := by
    have small := region.countable
    rw [readHeader_writeHeader _ (by omega), List.length_append]
    rfl
  fits := by
    rw [List.length_append, List.length_singleton]
    exact room
  cells := by
    intro index found here
    rw [cellBytes_writeHeader]
    by_cases same : index = entries.length
    · subst same
      rw [List.getElem?_append_right (Nat.le_refl _), Nat.sub_self] at here
      cases here
      exact cellBytes_writeCell_self _ _ _
    · have inside := (List.getElem?_eq_some_iff.mp here).1
      rw [List.length_append, List.length_singleton] at inside
      rw [List.getElem?_append_left (by omega)] at here
      rw [cellBytes_writeCell_other entry store same]
      exact holds.cells index found here

/-- A record inside the moved block comes from the place after it. -/
theorem cellBytes_shift {count : Nat} (store : Store)
    (from_ : index ≤ other) (before : other + 1 < count) :
    region.cellBytes (region.shift index count store) other =
      region.cellBytes store (other + 1) := by
  obtain ⟨offset, rfl⟩ := Nat.exists_eq_add_of_le from_
  have inside : (offset + 1) * region.cellSize ≤
      (count - 1 - index) * region.cellSize :=
    Nat.mul_le_mul_right _ (by omega)
  rw [Nat.succ_mul] at inside
  have source : region.addr (index + offset + 1) =
      region.addr (index + 1) + offset * region.cellSize := by
    rw [← addr_add]
    congr 1
    omega
  rw [shift, if_pos (by omega), cellBytes, cellBytes, source,
    addr_add index offset]
  exact slice_splice_slice store inside

/-- The records before the block stay. -/
theorem cellBytes_shift_before {count : Nat} (store : Store)
    (before : other < index) :
    region.cellBytes (region.shift index count store) other =
      region.cellBytes store other := by
  unfold shift
  split
  · exact slice_splice_of_disjoint store (.inl (addr_end before))
  · rfl

theorem readHeader_shift (index count : Nat) (store : Store) :
    region.readHeader (region.shift index count store) =
      region.readHeader store := by
  unfold shift
  split
  · have bytes := @slice_splice_of_disjoint store (region.addr index)
      region.base 4
      (slice store (region.addr (index + 1))
        ((count - 1 - index) * region.cellSize))
      (.inl (header_le_addr index))
    rw [readHeader, bytes]
    rfl
  · rfl

/-- One record less. -/
theorem Holds.erase (holds : region.Holds store entries)
    (inside : index < entries.length) :
    region.Holds
      (region.writeHeader (entries.length - 1)
        (region.shift index entries.length store))
      (entries.eraseIdx index) where
  header := by
    have small := region.countable
    have fits := holds.fits
    rw [readHeader_writeHeader _ (by omega),
      List.length_eraseIdx_of_lt inside]
  fits := by
    have fits := holds.fits
    rw [List.length_eraseIdx_of_lt inside]
    omega
  cells := by
    intro other found here
    have below := (List.getElem?_eq_some_iff.mp here).1
    rw [List.length_eraseIdx_of_lt inside] at below
    rw [cellBytes_writeHeader]
    by_cases before : other < index
    · rw [List.getElem?_eraseIdx_of_lt before] at here
      rw [cellBytes_shift_before store before]
      exact holds.cells other found here
    · rw [List.getElem?_eraseIdx_of_ge (by omega)] at here
      rw [cellBytes_shift store (by omega) (by omega)]
      exact holds.cells (other + 1) found here

end Contents

end Region

end RecordStore
