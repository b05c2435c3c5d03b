import Mathlib.Data.List.Basic
import Mathlib.Data.Nat.Bitwise
import Mathlib.Tactic.Common

/-!
# Incremental checksums

A 32-bit checksum that may be computed at once or in stages.  The law of a
`Checksum` is what callers of a staged checksum rely on; `crc32Ieee` is the
bit-serial CRC-32 and satisfies it.
-/

/-- A checksum with an incremental form that extends it. -/
structure Checksum where
  /-- The checksum of a whole message. -/
  ieee : List UInt8 → UInt32
  /-- Continue a checksum with more bytes. -/
  update : UInt32 → List UInt8 → UInt32
  update_ieee :
    ∀ front back, update (ieee front) back = ieee (front ++ back)

namespace Checksum

/-- One bit of the reflected CRC-32 with polynomial `0xEDB88320`. -/
def crc32Bit (crc : UInt32) : UInt32 :=
  if crc &&& 1 = 1 then (crc >>> 1) ^^^ 0xEDB88320 else crc >>> 1

def crc32Byte (crc : UInt32) (byte : UInt8) : UInt32 :=
  Nat.repeat crc32Bit 8 (crc ^^^ byte.toUInt32)

def crc32Update (crc : UInt32) (bytes : List UInt8) : UInt32 :=
  ~~~ bytes.foldl crc32Byte (~~~ crc)

/-- The bit-serial CRC-32. -/
def crc32Ieee : Checksum where
  ieee := crc32Update 0
  update := crc32Update
  update_ieee front back := by
    simp only [crc32Update, UInt32.not_not, List.foldl_append]

/-- The same checksum, with its value on one message at hand. -/
def withValue
    (checksum : Checksum) {message : List UInt8} {value : UInt32}
    (same : checksum.ieee message = value) : Checksum where
  ieee bytes := if bytes = message then value else checksum.ieee bytes
  update := checksum.update
  update_ieee front back := by
    have known (bytes : List UInt8) :
        (if bytes = message then value else checksum.ieee bytes) =
          checksum.ieee bytes := by
      split
      · next equal => rw [equal, same]
      · rfl
    rw [known, known, checksum.update_ieee]

theorem withValue_eq
    {checksum : Checksum} {message : List UInt8} {value : UInt32}
    (same : checksum.ieee message = value) :
    checksum.withValue same = checksum := by
  have known : (checksum.withValue same).ieee = checksum.ieee := by
    funext bytes
    simp only [withValue]
    split
    · next equal => rw [equal, same]
    · rfl
  cases checksum
  simp only [withValue, mk.injEq, and_true] at known ⊢
  exact known

/-- The checksums of 0, 50, 100, … and 500 zero bytes. -/
def zeroSums : List UInt32 :=
  [0, 0x1F877C1E, 0x9988C6CA, 0x28CA70DF, 0xC971A876, 0x0B9A04C3,
    0xB5348FD2, 0xB3579966, 0x46220D0C, 0x6E59FDE2, 0x0283B97A]

theorem crc32Ieee_zeros :
    ∀ {blocks : Nat}, blocks ≤ 10 →
      crc32Ieee.ieee (List.replicate (50 * blocks) 0) = zeroSums.getD blocks 0
  | 0, _ => rfl
  | blocks + 1, below => by
      have next : ∀ n < 10, crc32Ieee.update (zeroSums.getD n 0)
          (List.replicate 50 0) = zeroSums.getD (n + 1) 0 := by
        decide +kernel
      rw [Nat.mul_succ, ← List.replicate_append_replicate, ← update_ieee,
        crc32Ieee_zeros (Nat.le_of_succ_le below)]
      exact next blocks below

/-- One bit of the CRC-16 with polynomial `0x1021`, most significant first. -/
def crc16Bit (crc : UInt16) : UInt16 :=
  if crc &&& 0x8000 ≠ 0 then (crc <<< 1) ^^^ 0x1021 else crc <<< 1

def crc16Byte (crc : UInt16) (byte : UInt8) : UInt16 :=
  Nat.repeat crc16Bit 8 (crc ^^^ byte.toUInt16 <<< 8)

/-- The bit-serial CRC-16 with seed `0xFFFF`. -/
def crc16Ccitt (bytes : List UInt8) : UInt16 :=
  bytes.foldl crc16Byte 0xFFFF

section Changes

variable {State Byte : Type}

/-- Steps that lose neither the state nor the byte show every change of one
byte in the result. -/
theorem foldl_change
    {step : State → Byte → State}
    (keepsState : ∀ byte, Function.Injective fun state => step state byte)
    (keepsByte : ∀ state, Function.Injective (step state))
    (start : State) (front back : List Byte) {byte other : Byte}
    (same : (front ++ byte :: back).foldl step start =
      (front ++ other :: back).foldl step start) : byte = other := by
  have keepsFold (bytes : List Byte) :
      Function.Injective fun state => bytes.foldl step state := by
    induction bytes with
    | nil => exact fun _ _ equal => equal
    | cons next rest ih => exact ih.comp (keepsState next)
  rw [List.foldl_append, List.foldl_append] at same
  exact keepsByte _ (keepsFold back same)

theorem repeat_injective
    {step : State → State} (keeps : Function.Injective step) (rounds : Nat) :
    Function.Injective (Nat.repeat step rounds) := by
  induction rounds with
  | zero => exact fun _ _ equal => equal
  | succ rounds ih => exact keeps.comp ih

/-- The bit shifted out shows in the top bit of the result. -/
theorem crc32Bit_injective : Function.Injective crc32Bit := by
  have half (crc : UInt32) : (crc >>> 1).toNat = crc.toNat / 2 := by
    simp [Nat.shiftRight_eq_div_pow]
  have low (crc : UInt32) : crc &&& 1 = 1 ↔ crc.toNat % 2 = 1 := by
    rw [← UInt32.toNat_inj, UInt32.toNat_and]
    simp [Nat.and_one_is_mod]
  have rejoin {crc other : UInt32} (high : crc >>> 1 = other >>> 1)
      (parity : crc &&& 1 = 1 ↔ other &&& 1 = 1) : crc = other := by
    have high := congrArg UInt32.toNat high
    rw [half, half] at high
    rw [low, low] at parity
    exact UInt32.toNat_inj.mp (by omega)
  have apart (crc other : UInt32) :
      (crc >>> 1) ^^^ (0xEDB88320 : UInt32) ≠ other >>> 1 := by
    intro equal
    have mask : (crc >>> 1) ^^^ (other >>> 1) = 0xEDB88320 := by
      rw [← equal, ← UInt32.xor_assoc, UInt32.xor_self, UInt32.zero_xor]
    have value := congrArg UInt32.toNat mask
    rw [UInt32.toNat_xor, half, half] at value
    have bound := crc.toNat_lt
    have bound' := other.toNat_lt
    have small : crc.toNat / 2 ^^^ other.toNat / 2 < 2 ^ 31 :=
      Nat.xor_lt_two_pow (by omega) (by omega)
    have large : (0xEDB88320 : UInt32).toNat = 3988292384 := rfl
    omega
  intro crc other equal
  simp only [crc32Bit] at equal
  split at equal
  · next odd =>
    split at equal
    · next odd' =>
      exact rejoin (UInt32.xor_left_inj _ |>.mp equal) (iff_of_true odd odd')
    · exact absurd equal (apart _ _)
  · next even =>
    split at equal
    · exact absurd equal.symm (apart _ _)
    · next even' => exact rejoin equal (iff_of_false even even')

/-- The bit shifted out shows in the lowest bit of the result. -/
theorem crc16Bit_injective : Function.Injective crc16Bit := by
  have double (crc : UInt16) : (crc <<< 1).toNat = 2 * crc.toNat % 65536 := by
    simp [Nat.shiftLeft_eq, Nat.mul_comm]
  have high (crc : UInt16) : crc &&& 0x8000 ≠ 0 ↔ 32768 ≤ crc.toNat := by
    have bit : crc.toNat &&& 32768 = (crc.toNat.testBit 15).toNat * 32768 :=
      Nat.and_two_pow crc.toNat 15
    have test : crc.toNat.testBit 15 = decide (crc.toNat / 32768 % 2 = 1) :=
      Nat.testBit_eq_decide_div_mod_eq
    have bound := crc.toNat_lt
    have mask : (0x8000 : UInt16).toNat = 32768 := rfl
    rw [ne_eq, ← UInt16.toNat_inj, UInt16.toNat_and, mask, bit, test]
    by_cases big : 32768 ≤ crc.toNat
    · have quotient : crc.toNat / 32768 % 2 = 1 := by omega
      simp [quotient, big]
    · have quotient : crc.toNat / 32768 % 2 = 0 := by omega
      simp [quotient, big]
  have rejoin {crc other : UInt16} (rest : crc <<< 1 = other <<< 1)
      (top : crc &&& 0x8000 ≠ 0 ↔ other &&& 0x8000 ≠ 0) : crc = other := by
    have rest := congrArg UInt16.toNat rest
    rw [double, double] at rest
    rw [high, high] at top
    have bound := crc.toNat_lt
    have bound' := other.toNat_lt
    exact UInt16.toNat_inj.mp (by omega)
  have apart (crc other : UInt16) :
      (crc <<< 1) ^^^ (0x1021 : UInt16) ≠ other <<< 1 := by
    intro equal
    have parity := congrArg (fun value => value.toNat % 2) equal
    simp only [UInt16.toNat_xor, Nat.xor_mod_two_eq, double] at parity
    have odd : (0x1021 : UInt16).toNat = 4129 := rfl
    omega
  intro crc other equal
  simp only [crc16Bit] at equal
  split at equal
  · next top =>
    split at equal
    · next top' =>
      exact rejoin (UInt16.xor_left_inj _ |>.mp equal) (iff_of_true top top')
    · exact absurd equal (apart _ _)
  · next clear =>
    split at equal
    · exact absurd equal.symm (apart _ _)
    · next clear' => exact rejoin equal (iff_of_false clear clear')

/-- CRC-32 shows every change of one byte. -/
theorem crc32Ieee_change
    (front back : List UInt8) {byte other : UInt8} (different : byte ≠ other) :
    crc32Ieee.ieee (front ++ byte :: back) ≠
      crc32Ieee.ieee (front ++ other :: back) := by
  intro same
  refine different (@foldl_change _ _ crc32Byte ?_ ?_ (~~~ 0) front back _ _ ?_)
  · exact fun byte crc other equal =>
      (UInt32.xor_left_inj _).mp (repeat_injective crc32Bit_injective 8 equal)
  · intro crc byte other equal
    have wide := (UInt32.xor_right_inj _).mp
      (repeat_injective crc32Bit_injective 8 equal)
    have narrow := congrArg UInt32.toNat wide
    exact UInt8.toNat_inj.mp (by simpa using narrow)
  · exact UInt32.not_inj.mp same

/-- CRC-16 shows every change of one byte. -/
theorem crc16Ccitt_change
    (front back : List UInt8) {byte other : UInt8} (different : byte ≠ other) :
    crc16Ccitt (front ++ byte :: back) ≠ crc16Ccitt (front ++ other :: back) := by
  intro same
  refine different
    (@foldl_change _ _ crc16Byte ?_ ?_ 0xFFFF front back _ _ same)
  · exact fun byte crc other equal =>
      (UInt16.xor_left_inj _).mp (repeat_injective crc16Bit_injective 8 equal)
  · intro crc byte other equal
    have wide := (UInt16.xor_right_inj _).mp
      (repeat_injective crc16Bit_injective 8 equal)
    have narrow := congrArg UInt16.toNat wide
    have bound := byte.toNat_lt
    have bound' := other.toNat_lt
    simp [Nat.shiftLeft_eq] at narrow
    exact UInt8.toNat_inj.mp (by omega)

end Changes

end Checksum
