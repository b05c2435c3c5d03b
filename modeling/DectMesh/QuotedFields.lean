import DectMesh.AtText
import DectMesh.Library.HexText

/-!
# Quoted fields

How a line of quoted hexadecimal fields is written, and that the parsers of
`slm_at_main.c` find the fields again.
-/

namespace DectMesh

open HexText

/-- Fields in double quotes, with commas between them. -/
def quotedFields : List (List Char) → List Char
  | [] => []
  | [field] => '"' :: (field ++ ['"'])
  | field :: next :: rest =>
      '"' :: (field ++ '"' :: ',' :: quotedFields (next :: rest))

/-- `strstr(line, cmd) + strlen(cmd)`: the text after the first `cmd`. -/
def afterCommand (cmd : List Char) : List Char → Option (List Char)
  | [] => none
  | char :: rest =>
      if cmd.isPrefixOf (char :: rest) then
        some ((char :: rest).drop cmd.length)
      else
        afterCommand cmd rest

theorem afterCommand_append
    {cmd : List Char} (nonempty : cmd ≠ []) (args : List Char) :
    afterCommand cmd (cmd ++ args) = some args := by
  obtain ⟨char, rest, rfl⟩ := List.exists_cons_of_ne_nil nonempty
  have starts : (char :: rest).isPrefixOf (char :: rest ++ args) = true := by
    rw [List.isPrefixOf_iff_prefix]
    exact List.prefix_append _ _
  rw [List.cons_append] at starts ⊢
  rw [afterCommand, if_pos starts]
  simp

section Fields

/-- No character of the text is a double quote. -/
def Unquoted (text : List Char) : Prop :=
  ∀ char ∈ text, char ≠ '"'

theorem splitQuote_append
    {text : List Char} (unquoted : Unquoted text) (rest : List Char) :
    splitQuote (text ++ '"' :: rest) = some (text, rest) := by
  induction text with
  | nil => rfl
  | cons char text ih =>
      have inside : Unquoted text := fun c member =>
        unquoted c (List.mem_cons_of_mem _ member)
      rw [List.cons_append, splitQuote,
        if_neg (unquoted char List.mem_cons_self), ih inside]
      rfl

theorem fieldGet_zero
    {before field : List Char} (outside : Unquoted before)
    (unquoted : Unquoted field) (rest : List Char) :
    fieldGet (before ++ '"' :: (field ++ '"' :: rest)) 0 = some field := by
  rw [fieldGet, splitQuote_append outside, Option.bind_some,
    splitQuote_append unquoted]
  rfl

theorem fieldGet_succ
    {before field : List Char} (outside : Unquoted before)
    (unquoted : Unquoted field) (rest : List Char) (idx : Nat) :
    fieldGet (before ++ '"' :: (field ++ '"' :: rest)) (idx + 1) =
      fieldGet rest idx := by
  rw [fieldGet, splitQuote_append outside, Option.bind_some,
    splitQuote_append unquoted]
  rfl

/-- `field_get` finds every field that was written. -/
theorem fieldGet_quotedFields
    {before : List Char} {fields : List (List Char)}
    (outside : Unquoted before) (unquoted : ∀ field ∈ fields, Unquoted field)
    {idx : Nat} (inside : idx < fields.length) :
    fieldGet (before ++ quotedFields fields) idx = fields[idx]? := by
  induction fields generalizing before idx with
  | nil => exact absurd inside (Nat.not_lt_zero idx)
  | cons field rest ih =>
      have here : Unquoted field := unquoted field List.mem_cons_self
      cases idx with
      | zero =>
          cases rest with
          | nil => exact fieldGet_zero outside here []
          | cons next rest => exact fieldGet_zero outside here _
      | succ idx =>
          cases rest with
          | nil => exact absurd inside (by simp)
          | cons next rest =>
              have comma : Unquoted [','] := by
                intro char member
                rw [List.mem_singleton.mp member]
                decide
              rw [quotedFields, fieldGet_succ outside here,
                List.getElem?_cons_succ]
              exact ih comma
                (fun other member =>
                  unquoted other (List.mem_cons_of_mem _ member))
                (Nat.lt_of_succ_lt_succ inside)

end Fields

section Numbers

/-- The letters that `hex_nibble` reads as the sixteen digits. -/
def Readable (letter : Nat → Char) : Prop :=
  ∀ digit, digit < 16 → hexNibble (letter digit) = some (UInt8.ofNat digit)

theorem upper_readable : Readable upper := by
  intro digit small
  interval_cases digit <;> decide

theorem lower_readable : Readable lower := by
  intro digit small
  interval_cases digit <;> decide

/-- One round of `field_hex_u64`. -/
theorem shift_or_digit
    (value : Nat) {digit : Nat} (small : digit < 16) :
    (UInt64.ofNat value <<< 4 ||| (UInt8.ofNat digit).toUInt64) =
      UInt64.ofNat (16 * value + digit) := by
  have shifted : UInt64.ofNat value <<< 4 = UInt64.ofNat (value <<< 4) := by
    apply UInt64.toNat_inj.mp
    simp [Nat.shiftLeft_eq, UInt64.toNat_ofNat']
  have byte : (UInt8.ofNat digit).toUInt64 = UInt64.ofNat digit := by
    apply UInt64.toNat_inj.mp
    simp [UInt64.toNat_ofNat']
    omega
  have joined : 16 * value + digit = value <<< 4 ||| digit := by
    have sum := Nat.shiftLeft_add_eq_or_of_lt (show digit < 2 ^ 4 from small) value
    rw [← sum, Nat.shiftLeft_eq]
    omega
  rw [shifted, byte, joined, UInt64.ofNat_or]

theorem hexDigits_map
    {letter : Nat → Char} (readable : Readable letter)
    {ds : List Nat} (small : ∀ digit ∈ ds, digit < 16) (value : Nat) :
    hexDigits (ds.map letter) (UInt64.ofNat value) =
      some (UInt64.ofNat (read value ds)) := by
  induction ds generalizing value with
  | nil => rfl
  | cons digit rest ih =>
      have here := small digit List.mem_cons_self
      rw [List.map_cons, hexDigits, readable digit here, Option.bind_some,
        shift_or_digit value here,
        ih (fun other member => small other (List.mem_cons_of_mem _ member))]
      rfl

/-- `field_hex_u64` reads what a padded number was printed from, up to 64
bits. -/
theorem fieldHexU64_padded
    {letter : Nat → Char} (readable : Readable letter) {args : List Char}
    {idx width value : Nat} (wide : 0 < width)
    (field : fieldGet args idx = some (padded letter width value)) :
    fieldHexU64 args idx = some (UInt64.ofNat value) := by
  have number : hexDigits (padded letter width value) (UInt64.ofNat 0) =
      some (UInt64.ofNat value) := by
    rw [padded, hexDigits_map readable (fun digit => digits_lt), read_digits]
  rw [fieldHexU64, field]
  obtain ⟨char, rest, text⟩ :=
    List.exists_cons_of_ne_nil (@padded_ne_nil letter width value wide)
  rw [text] at number ⊢
  exact number

theorem hexNibble_lt {char : Char} {nibble : UInt8}
    (digit : hexNibble char = some nibble) : nibble.toNat < 16 := by
  have bound (low high : Char) (base : Nat) (above : low ≤ char)
      (below : char ≤ high) (range : high.toNat - low.toNat + base < 16) :
      (UInt8.ofNat (char.toNat - low.toNat + base)).toNat < 16 := by
    have above : low.toNat ≤ char.toNat := above
    have below : char.toNat ≤ high.toNat := below
    rw [UInt8.toNat_ofNat']
    omega
  unfold hexNibble at digit
  split at digit
  · next decimal =>
    cases digit
    exact bound '0' '9' 0 decimal.1 decimal.2 (by decide)
  · split at digit
    · next letter =>
      cases digit
      exact bound 'a' 'f' 10 letter.1 letter.2 (by decide)
    · split at digit
      · next letter =>
        cases digit
        exact bound 'A' 'F' 10 letter.1 letter.2 (by decide)
      · cases digit

/-- The byte that `hex_decode` puts together. -/
theorem joined_toNat
    {high low : UInt8} (highSmall : high.toNat < 16) (lowSmall : low.toNat < 16) :
    (high <<< 4 ||| low).toNat = 16 * high.toNat + low.toNat := by
  have sum := Nat.shiftLeft_add_eq_or_of_lt
    (show low.toNat < 2 ^ 4 from lowSmall) high.toNat
  rw [Nat.shiftLeft_eq] at sum
  have shifted : (high <<< 4).toNat = high.toNat * 2 ^ 4 := by
    simp [Nat.shiftLeft_eq]
    omega
  rw [UInt8.toNat_or, shifted, ← sum]
  omega

theorem hexBytes_pairs (bytes : List UInt8) :
    hexBytes (pairs bytes) = some bytes := by
  induction bytes with
  | nil => rfl
  | cons byte rest ih =>
      have bound := byte.toNat_lt
      have high := upper_readable (byte.toNat / 16) (by omega)
      have low := upper_readable (byte.toNat % 16) (by omega)
      have joined : UInt8.ofNat (byte.toNat / 16) <<< 4 |||
          UInt8.ofNat (byte.toNat % 16) = byte := by
        have sum := joined_toNat (hexNibble_lt high) (hexNibble_lt low)
        simp only [UInt8.toNat_ofNat'] at sum
        exact UInt8.toNat_inj.mp (by omega)
      rw [pairs_cons, hexBytes, high, Option.bind_some, low, Option.bind_some,
        ih, joined]
      rfl

/-- All characters of a text that decodes are digits. -/
theorem hexBytes_digits :
    ∀ {hex : List Char} {bytes : List UInt8}, hexBytes hex = some bytes →
      ∀ char ∈ hex, (hexNibble char).isSome = true
  | [], _, _, _, member => by cases member
  | [_], _, decoded, _, _ => by simp [hexBytes] at decoded
  | high :: low :: rest, _, decoded, char, member => by
      simp only [hexBytes, Option.bind_eq_some_iff, Option.map_eq_some_iff]
        at decoded
      obtain ⟨_, first, _, second, _, tail, _⟩ := decoded
      rcases List.mem_cons.mp member with rfl | member
      · rw [first, Option.isSome_some]
      · rcases List.mem_cons.mp member with rfl | member
        · rw [second, Option.isSome_some]
        · exact hexBytes_digits tail char member

/-- The texts differ in one digit, whose value is another. -/
def DigitChanged (hex other : List Char) : Prop :=
  ∃ front char char' back, hex = front ++ char :: back ∧
    other = front ++ char' :: back ∧
      ∃ nibble nibble', hexNibble char = some nibble ∧
        hexNibble char' = some nibble' ∧ nibble ≠ nibble'

/-- The byte lists differ in one byte. -/
def ByteChanged (bytes other : List UInt8) : Prop :=
  ∃ front byte byte' back, bytes = front ++ byte :: back ∧
    other = front ++ byte' :: back ∧ byte ≠ byte'

theorem ByteChanged.cons
    {bytes other : List UInt8} (changed : ByteChanged bytes other)
    (byte : UInt8) : ByteChanged (byte :: bytes) (byte :: other) := by
  obtain ⟨front, old, new, back, rfl, rfl, different⟩ := changed
  exact ⟨byte :: front, old, new, back, rfl, rfl, different⟩

theorem ByteChanged.length
    {bytes other : List UInt8} (changed : ByteChanged bytes other) :
    other.length = bytes.length := by
  obtain ⟨front, old, new, back, rfl, rfl, _⟩ := changed
  simp

/-- A changed digit of printed bytes changes one byte. -/
theorem DigitChanged.byteChanged
    {bytes : List UInt8} {hex : List Char}
    (changed : DigitChanged (pairs bytes) hex) :
    ∃ other, hexBytes hex = some other ∧ ByteChanged bytes other := by
  obtain ⟨front, char, char', back, text, rfl, old, new, oldDigit, newDigit,
    different⟩ := changed
  induction bytes generalizing front with
  | nil => simp [pairs] at text
  | cons byte rest ih =>
      rw [pairs_cons] at text
      have decoded := hexBytes_pairs (byte :: rest)
      rw [pairs_cons, hexBytes] at decoded
      simp only [Option.bind_eq_some_iff, Option.map_eq_some_iff] at decoded
      obtain ⟨high, highDigit, low, lowDigit, tail, tailDecoded, joined⟩ :=
        decoded
      rw [List.cons.injEq] at joined
      obtain ⟨joined, rfl⟩ := joined
      have apart {other : UInt8} (differ : high ≠ other)
          (digit : hexNibble char' = some other) :
          byte ≠ other <<< 4 ||| low := by
        intro same
        rw [← joined] at same
        have values := congrArg UInt8.toNat same
        rw [joined_toNat (hexNibble_lt highDigit) (hexNibble_lt lowDigit),
          joined_toNat (hexNibble_lt digit) (hexNibble_lt lowDigit)] at values
        exact differ (UInt8.toNat_inj.mp (by omega))
      have apart' {other : UInt8} (differ : low ≠ other)
          (digit : hexNibble char' = some other) :
          byte ≠ high <<< 4 ||| other := by
        intro same
        rw [← joined] at same
        have values := congrArg UInt8.toNat same
        rw [joined_toNat (hexNibble_lt highDigit) (hexNibble_lt lowDigit),
          joined_toNat (hexNibble_lt highDigit) (hexNibble_lt digit)] at values
        exact differ (UInt8.toNat_inj.mp (by omega))
      cases front with
      | nil =>
          rw [List.nil_append, List.cons.injEq] at text
          obtain ⟨rfl, rfl⟩ := text
          rw [highDigit, Option.some.injEq] at oldDigit
          subst oldDigit
          refine ⟨(new <<< 4 ||| low) :: tail, ?_, [], byte, _, tail, rfl, rfl,
            apart different newDigit⟩
          rw [List.nil_append, hexBytes, newDigit, Option.bind_some, lowDigit,
            Option.bind_some, tailDecoded]
          rfl
      | cons first front =>
          cases front with
          | nil =>
              rw [List.cons_append, List.cons.injEq, List.nil_append,
                List.cons.injEq] at text
              obtain ⟨rfl, rfl, rfl⟩ := text
              rw [lowDigit, Option.some.injEq] at oldDigit
              subst oldDigit
              refine ⟨(high <<< 4 ||| new) :: tail, ?_, [], byte, _, tail, rfl,
                rfl, apart' different newDigit⟩
              rw [List.cons_append, List.nil_append, hexBytes, highDigit,
                Option.bind_some, newDigit, Option.bind_some, tailDecoded]
              rfl
          | cons second front =>
              rw [List.cons_append, List.cons.injEq, List.cons_append,
                List.cons.injEq] at text
              obtain ⟨rfl, rfl, text⟩ := text
              obtain ⟨other, decoded, byteChanged⟩ := ih front text
              refine ⟨byte :: other, ?_, byteChanged.cons byte⟩
              rw [List.cons_append, List.cons_append, hexBytes, highDigit,
                Option.bind_some, lowDigit, Option.bind_some, decoded, joined]
              rfl

end Numbers

end DectMesh
