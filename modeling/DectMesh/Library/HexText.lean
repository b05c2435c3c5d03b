import Mathlib.Data.Nat.Digits.Lemmas

/-!
# Hexadecimal text

Numbers and bytes as a formatted printer writes them: digits of base sixteen
with leading zeros up to a width, and two digits a byte.
-/

namespace HexText

/-- `0123456789ABCDEF`. -/
def upper (digit : Nat) : Char :=
  if digit < 10 then Char.ofNat (48 + digit) else Char.ofNat (55 + digit)

/-- `0123456789abcdef`. -/
def lower (digit : Nat) : Char :=
  if digit < 10 then Char.ofNat (48 + digit) else Char.ofNat (87 + digit)

/-- The digits of `value`, most significant first, at least `width` of them. -/
def digits (width value : Nat) : List Nat :=
  List.replicate (width - (Nat.digits 16 value).length) 0 ++
    (Nat.digits 16 value).reverse

/-- `value` printed to at least `width` digits. -/
def padded (letter : Nat → Char) (width value : Nat) : List Char :=
  (digits width value).map letter

/-- Two digits for every byte. -/
def pairs (bytes : List UInt8) : List Char :=
  bytes.flatMap fun byte =>
    [upper (byte.toNat / 16), upper (byte.toNat % 16)]

/-- The value of digits that go on after `value`. -/
def read (value : Nat) (ds : List Nat) : Nat :=
  ds.foldl (fun value digit => 16 * value + digit) value

theorem read_replicate_zero (count : Nat) (ds : List Nat) :
    read 0 (List.replicate count 0 ++ ds) = read 0 ds := by
  induction count with
  | zero => rfl
  | succ count ih => exact ih

theorem read_digits (width value : Nat) : read 0 (digits width value) = value := by
  rw [digits, read_replicate_zero, read, List.foldl_reverse]
  have digits := Nat.ofDigits_digits 16 value
  rw [Nat.ofDigits_eq_foldr] at digits
  refine Eq.trans ?_ digits
  congr 1
  funext digit value
  simp only [Nat.cast_id]
  omega

theorem digits_lt {width value digit : Nat} (member : digit ∈ digits width value) :
    digit < 16 := by
  rcases List.mem_append.mp member with zero | digit
  · rw [List.eq_of_mem_replicate zero]
    decide
  · exact Nat.digits_lt_base (by decide) (List.mem_reverse.mp digit)

theorem digits_length (width value : Nat) :
    (digits width value).length = max width (Nat.digits 16 value).length := by
  rw [digits, List.length_append, List.length_replicate, List.length_reverse]
  omega

theorem digits_length_of_lt {width value : Nat} (fits : value < 16 ^ width) :
    (digits width value).length = width := by
  have short := (Nat.digits_length_le_iff (by decide) value).mpr fits
  rw [digits_length, max_eq_left short]

theorem padded_ne_nil {letter : Nat → Char} {width value : Nat} (wide : 0 < width) :
    padded letter width value ≠ [] := by
  have length := digits_length width value
  intro empty
  rw [padded, List.map_eq_nil_iff] at empty
  rw [empty, List.length_nil] at length
  omega

theorem padded_length {letter : Nat → Char} {width value : Nat}
    (fits : value < 16 ^ width) : (padded letter width value).length = width := by
  rw [padded, List.length_map, digits_length_of_lt fits]

theorem pairs_cons (byte : UInt8) (bytes : List UInt8) :
    pairs (byte :: bytes) =
      upper (byte.toNat / 16) :: upper (byte.toNat % 16) :: pairs bytes :=
  rfl

theorem pairs_length (bytes : List UInt8) :
    (pairs bytes).length = 2 * bytes.length := by
  induction bytes with
  | nil => rfl
  | cons byte rest ih =>
      rw [pairs_cons, List.length_cons, List.length_cons, ih, List.length_cons]
      omega

/-- The letters of a hexadecimal text satisfy what the sixteen digits do. -/
theorem padded_all {letter : Nat → Char} {width value : Nat} {P : Char → Prop}
    (sixteen : ∀ digit, digit < 16 → P (letter digit)) :
    ∀ char ∈ padded letter width value, P char := by
  intro char member
  obtain ⟨digit, listed, rfl⟩ := List.mem_map.mp member
  exact sixteen digit (digits_lt listed)

end HexText
