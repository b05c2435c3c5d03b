import DectMesh.Library.RecordStore
import Mathlib.Data.Fin.Tuple.Basic
import Mathlib.Logic.Equiv.Basic

/-!
# Packed layouts

How a value stands in a packed structure: a fixed number of bytes, at the front
of what is read.  A structure is its fields one after the other, so that the
laws of its layout follow from the laws of theirs.
-/

/-- A value as `size` bytes.  Reading takes them off the front. -/
structure PackedLayout (Value : Type) where
  size : Nat
  encode : Value → List UInt8
  decode : List UInt8 → Value × List UInt8
  encode_length : ∀ value, (encode value).length = size
  decode_encode : ∀ value rest, decode (encode value ++ rest) = (value, rest)
  encode_decode : ∀ bytes, size ≤ bytes.length →
    encode (decode bytes).1 ++ (decode bytes).2 = bytes

namespace PackedLayout

open RecordStore

variable {Value First Second : Type}

/-- The cast of a pointer to the bytes. -/
def read (layout : PackedLayout Value) (bytes : List UInt8) : Value :=
  (layout.decode bytes).1

/-- What stands behind a value does not change how it reads. -/
theorem read_encode (layout : PackedLayout Value) (value : Value)
    (rest : List UInt8) : layout.read (layout.encode value ++ rest) = value := by
  rw [read, layout.decode_encode]

/-- Enough bytes are the encoding of what they read as. -/
theorem encode_read (layout : PackedLayout Value) {bytes : List UInt8}
    (enough : layout.size ≤ bytes.length) :
    layout.encode (layout.read bytes) = bytes.take layout.size := by
  have whole := layout.encode_decode bytes enough
  calc
    layout.encode (layout.read bytes) =
        (layout.encode (layout.read bytes) ++ (layout.decode bytes).2).take
          layout.size :=
      (List.take_left' (layout.encode_length _)).symm
    _ = bytes.take layout.size := congrArg (List.take layout.size) whole

def byte : PackedLayout UInt8 where
  size := 1
  encode value := [value]
  decode bytes := (bytes.headD 0, bytes.tail)
  encode_length _ := rfl
  decode_encode _ _ := rfl
  encode_decode bytes enough := by
    cases bytes with
    | nil => cases enough
    | cons first rest => rfl

/-- The fields of `first`, then those of `second`. -/
def pair (first : PackedLayout First) (second : PackedLayout Second) :
    PackedLayout (First × Second) where
  size := first.size + second.size
  encode value := first.encode value.1 ++ second.encode value.2
  decode bytes :=
    let front := first.decode bytes
    let back := second.decode front.2
    ((front.1, back.1), back.2)
  encode_length value := by
    rw [List.length_append, first.encode_length, second.encode_length]
  decode_encode value rest := by
    rw [List.append_assoc, first.decode_encode]
    dsimp only
    rw [second.decode_encode]
  encode_decode bytes enough := by
    have front := first.encode_decode bytes (by omega)
    have length := congrArg List.length front
    rw [List.length_append, first.encode_length] at length
    have back := second.encode_decode (first.decode bytes).2 (by omega)
    dsimp only
    rw [List.append_assoc, back, front]

/-- The same bytes read as another type. -/
def map (layout : PackedLayout First) (view : First ≃ Second) :
    PackedLayout Second where
  size := layout.size
  encode value := layout.encode (view.symm value)
  decode bytes := (view (layout.decode bytes).1, (layout.decode bytes).2)
  encode_length value := layout.encode_length _
  decode_encode value rest := by
    rw [layout.decode_encode, Equiv.apply_symm_apply]
  encode_decode bytes enough := by
    dsimp only
    rw [Equiv.symm_apply_apply]
    exact layout.encode_decode bytes enough

/-- A packed structure: its fields, with how it is built from them. -/
def struct (fields : PackedLayout First) (build : First → Value)
    (parts : Value → First)
    (parts_build : ∀ value, parts (build value) = value := by
      exact fun _ => rfl)
    (build_parts : ∀ value, build (parts value) = value := by
      exact fun _ => rfl) : PackedLayout Value :=
  fields.map
    { toFun := build
      invFun := parts
      left_inv := parts_build
      right_inv := build_parts }

/-- A number of `width` bytes, the low one first. -/
def number (width : Nat) : PackedLayout (Fin (256 ^ width)) where
  size := width
  encode value := littleEndian width value
  decode bytes :=
    (⟨ofLittleEndian (bytes.take width),
      lt_of_lt_of_le (ofLittleEndian_lt _)
        (Nat.pow_le_pow_right (by decide) (List.length_take_le _ _))⟩,
      bytes.drop width)
  encode_length value := littleEndian_length _ _
  decode_encode value rest := by
    refine Prod.ext (Fin.ext ?_) ?_
    · dsimp only
      rw [List.take_left' (littleEndian_length _ _),
        ofLittleEndian_littleEndian value.isLt]
    · dsimp only
      rw [List.drop_left' (littleEndian_length _ _)]
  encode_decode bytes enough := by
    have front : (bytes.take width).length = width :=
      List.length_take_of_le enough
    have same := littleEndian_ofLittleEndian (bytes.take width)
    rw [front] at same
    dsimp only
    rw [same, List.take_append_drop]

theorem padded_length (count : Nat) (bytes : List UInt8) :
    ((bytes ++ List.replicate count 0).take count).length = count := by
  rw [List.length_take, List.length_append, List.length_replicate]
  omega

/-- An array of bytes. -/
def bytes (count : Nat) : PackedLayout {data : List UInt8 // data.length = count}
    where
  size := count
  encode data := data.1
  decode bytes :=
    (⟨(bytes ++ List.replicate count 0).take count, padded_length count bytes⟩,
      bytes.drop count)
  encode_length data := data.2
  decode_encode data rest := by
    refine Prod.ext (Subtype.ext ?_) ?_
    · dsimp only
      rw [List.append_assoc, List.take_left' data.2]
    · dsimp only
      rw [List.drop_left' data.2]
  encode_decode bytes enough := by
    dsimp only
    rw [List.take_append_of_le_length enough, List.take_append_drop]

/-- An array of values. -/
def array (layout : PackedLayout Value) :
    (count : Nat) → PackedLayout (Fin count → Value)
  | 0 =>
    { size := 0
      encode := fun _ => []
      decode := fun bytes => (Fin.elim0, bytes)
      encode_length := fun _ => rfl
      decode_encode := fun _ _ => Prod.ext (Subsingleton.elim _ _) rfl
      encode_decode := fun _ _ => rfl }
  | count + 1 =>
    (layout.pair (layout.array count)).map
      (Fin.consEquiv fun _ => Value)

end PackedLayout
