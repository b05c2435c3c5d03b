import Mathlib.Data.List.Basic

/-!
# Fields of an AT command

The three parsers of `slm_at_main.c` that every command handler shares: the
quoted fields of the argument text, a field as a hexadecimal number, and a
field as hexadecimal payload bytes.  A NUL-terminated string is the list of
its characters.
-/

namespace DectMesh

/-- `SLM_UART_AT_COMMAND_LEN`. -/
def slmUartAtCommandLen : Nat := 1024

/-- The text before and after the first double quote (`strchr`). -/
def splitQuote : List Char → Option (List Char × List Char)
  | [] => none
  | char :: rest =>
      if char = '"' then
        some ([], rest)
      else
        (splitQuote rest).map fun parts => (char :: parts.1, parts.2)

/-- `field_get`: the characters of the `idx`-th complete `"..."` field. -/
def fieldGet (args : List Char) : Nat → Option (List Char)
  | 0 =>
      (splitQuote args).bind fun opened =>
        (splitQuote opened.2).map fun closed => closed.1
  | idx + 1 =>
      (splitQuote args).bind fun opened =>
        (splitQuote opened.2).bind fun closed => fieldGet closed.2 idx

/-- `hex_nibble`. -/
def hexNibble (char : Char) : Option UInt8 :=
  if '0' ≤ char ∧ char ≤ '9' then
    some (UInt8.ofNat (char.toNat - '0'.toNat))
  else if 'a' ≤ char ∧ char ≤ 'f' then
    some (UInt8.ofNat (char.toNat - 'a'.toNat + 10))
  else if 'A' ≤ char ∧ char ≤ 'F' then
    some (UInt8.ofNat (char.toNat - 'A'.toNat + 10))
  else
    none

/-- The digit loop of `field_hex_u64`; digits beyond sixteen push the first
ones out of the 64-bit accumulator. -/
def hexDigits : List Char → UInt64 → Option UInt64
  | [], value => some value
  | char :: rest, value =>
      (hexNibble char).bind fun nibble =>
        hexDigits rest (value <<< 4 ||| nibble.toUInt64)

/-- `field_hex_u64`. -/
def fieldHexU64 (args : List Char) (idx : Nat) : Option UInt64 :=
  match fieldGet args idx with
  | none => none
  | some [] => none
  | some (char :: rest) => hexDigits (char :: rest) 0

/-- The byte loop of `hex_decode`. -/
def hexBytes : List Char → Option (List UInt8)
  | [] => some []
  | [_] => none
  | high :: low :: rest =>
      (hexNibble high).bind fun high =>
        (hexNibble low).bind fun low =>
          (hexBytes rest).map fun bytes => (high <<< 4 ||| low) :: bytes

/-- `hex_decode` into a buffer of `outMax` bytes. -/
def hexDecode (hex : List Char) (outMax : Nat) : Option (List UInt8) :=
  if hex.length % 2 ≠ 0 ∨ outMax < hex.length / 2 then
    none
  else
    hexBytes hex

theorem hexBytes_length :
    ∀ {hex : List Char} {bytes : List UInt8},
      hexBytes hex = some bytes → hex.length = 2 * bytes.length
  | [], bytes, decoded => by
      simp only [hexBytes, Option.some.injEq] at decoded
      subst decoded
      rfl
  | [_], bytes, decoded => by
      simp [hexBytes] at decoded
  | high :: low :: rest, bytes, decoded => by
      simp only [hexBytes, Option.bind_eq_some_iff, Option.map_eq_some_iff]
        at decoded
      obtain ⟨_, _, _, _, tail, tailDecoded, rfl⟩ := decoded
      have tailLength := hexBytes_length tailDecoded
      simp only [List.length_cons]
      omega

end DectMesh
