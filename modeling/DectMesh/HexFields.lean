import DectMesh.Config.Model
import DectMesh.LargeData.Run
import DectMesh.QuotedFields
import DectMesh.Report.Run

/-!
# Numbers in AT commands

What the fields of a line are, apart from the scanner that looks for them, and
which numbers `field_hex_u64` and the commands on top of it take for them.
-/

namespace DectMesh

open HexText

/-- The `idx`-th complete quoted field of a line: two quotes for every field
before it, and a quote on each side. -/
def IsField (args : List Char) (idx : Nat) (field : List Char) : Prop :=
  ∃ before rest, args = before ++ '"' :: (field ++ '"' :: rest) ∧
    before.count '"' = 2 * idx ∧ Unquoted field

/-- A letter of a hexadecimal number, and its digit. -/
def IsDigit (char : Char) (digit : Nat) : Prop :=
  digit < 16 ∧ (char = upper digit ∨ char = lower digit)

/-- The text is a number in hexadecimal. -/
def Denotes (field : List Char) (number : Nat) : Prop :=
  field ≠ [] ∧ ∃ ds, List.Forall₂ IsDigit field ds ∧ number = read 0 ds

/-- The number written in the `idx`-th field. -/
def Written (args : List Char) (idx number : Nat) : Prop :=
  ∃ field, IsField args idx field ∧ Denotes field number

section Fields

theorem splitQuote_eq_some {args before rest : List Char} :
    splitQuote args = some (before, rest) ↔
      args = before ++ '"' :: rest ∧ Unquoted before := by
  constructor
  · intro found
    induction args generalizing before with
    | nil => cases found
    | cons char args ih =>
        rw [splitQuote] at found
        split at found
        · next quote =>
          cases found
          exact ⟨by rw [quote, List.nil_append], by simp [Unquoted]⟩
        · next other =>
          obtain ⟨⟨front, back⟩, split, same⟩ := Option.map_eq_some_iff.mp found
          cases same
          obtain ⟨rfl, unquoted⟩ := ih split
          refine ⟨rfl, ?_⟩
          intro c member
          rcases List.mem_cons.mp member with rfl | later
          · exact other
          · exact unquoted c later
  · rintro ⟨rfl, unquoted⟩
    exact splitQuote_append unquoted rest

theorem count_unquoted {text : List Char} (unquoted : Unquoted text) :
    text.count '"' = 0 :=
  List.count_eq_zero.mpr fun member => unquoted _ member rfl

/-- `field_get` finds the field if there is one. -/
theorem fieldGet_eq_some {args field : List Char} {idx : Nat} :
    fieldGet args idx = some field ↔ IsField args idx field := by
  constructor
  · intro found
    induction idx generalizing args with
    | zero =>
        obtain ⟨⟨before, opened⟩, first, found⟩ := Option.bind_eq_some_iff.mp found
        obtain ⟨⟨inside, rest⟩, second, same⟩ := Option.map_eq_some_iff.mp found
        cases same
        obtain ⟨rfl, outside⟩ := splitQuote_eq_some.mp first
        obtain ⟨rfl, unquoted⟩ := splitQuote_eq_some.mp second
        exact ⟨before, rest, rfl, count_unquoted outside, unquoted⟩
    | succ idx ih =>
        obtain ⟨⟨before, opened⟩, first, later⟩ := Option.bind_eq_some_iff.mp found
        obtain ⟨⟨inside, rest⟩, second, last⟩ := Option.bind_eq_some_iff.mp later
        obtain ⟨rfl, outside⟩ := splitQuote_eq_some.mp first
        obtain ⟨rfl, unquoted⟩ := splitQuote_eq_some.mp second
        obtain ⟨front, back, same, count, plain⟩ := ih last
        dsimp only at same
        refine ⟨before ++ '"' :: (inside ++ '"' :: front), back, ?_, ?_, plain⟩
        · simp [same]
        · simp [count, count_unquoted outside, count_unquoted unquoted]
          omega
  · rintro ⟨before, rest, rfl, count, plain⟩
    induction idx generalizing before with
    | zero =>
        have outside : Unquoted before := by
          rintro char member rfl
          exact List.count_eq_zero.mp (by simpa using count) member
        exact fieldGet_zero outside plain rest
    | succ idx ih =>
        have some : '"' ∈ before := by
          apply List.count_pos_iff.mp
          omega
        obtain ⟨front, back, rfl, outside⟩ := List.eq_append_cons_of_mem some
        have first := List.count_eq_zero.mpr outside
        simp only [List.count_append, List.count_cons_self, first] at count
        have again : '"' ∈ back := by
          apply List.count_pos_iff.mp
          omega
        obtain ⟨inside, others, rfl, unquoted⟩ := List.eq_append_cons_of_mem again
        have second := List.count_eq_zero.mpr unquoted
        simp only [List.count_append, List.count_cons_self, second] at count
        have passed := @fieldGet_succ front inside
          (fun char member same => outside (same ▸ member))
          (fun char member same => unquoted (same ▸ member))
          (others ++ '"' :: (field ++ '"' :: rest)) idx
        rw [ih others (by omega)] at passed
        rw [← passed]
        simp

end Fields

section Digits

theorem isDigit_nibble
    {char : Char} {digit : Nat} (letter : IsDigit char digit) :
    hexNibble char = some (UInt8.ofNat digit) := by
  obtain ⟨small, rfl | rfl⟩ := letter
  · exact upper_readable digit small
  · exact lower_readable digit small

/-- A letter between two others is the one so far behind the first. -/
theorem ofNat_offset {char low : Char} (above : low ≤ char) :
    char = Char.ofNat (low.toNat + (char.toNat - low.toNat)) := by
  have order : low.toNat ≤ char.toNat := above
  rw [Nat.add_sub_cancel' order, Char.ofNat_toNat]

theorem hexNibble_isDigit
    {char : Char} {nibble : UInt8} (found : hexNibble char = some nibble) :
    IsDigit char nibble.toNat := by
  have small := hexNibble_lt found
  refine ⟨small, ?_⟩
  have zero : '0'.toNat = 48 := rfl
  have nine : '9'.toNat = 57 := rfl
  unfold hexNibble at found
  split at found
  · next decimal =>
    have below : char.toNat ≤ '9'.toNat := decimal.2
    cases found
    rw [UInt8.toNat_ofNat', Nat.mod_eq_of_lt (by omega)]
    left
    rw [upper, if_pos (by omega)]
    exact ofNat_offset decimal.1
  · split at found
    · next letter =>
      have six : 'f'.toNat = 102 := rfl
      have first : 'a'.toNat = 97 := rfl
      have below : char.toNat ≤ 'f'.toNat := letter.2
      have same := ofNat_offset letter.1
      cases found
      rw [UInt8.toNat_ofNat', Nat.mod_eq_of_lt (by omega)]
      right
      rw [lower, if_neg (by omega)]
      rw [first] at same ⊢
      rw [show 87 + (char.toNat - 97 + 10) = 97 + (char.toNat - 97) by omega]
      exact same
    · split at found
      · next letter =>
        have six : 'F'.toNat = 70 := rfl
        have first : 'A'.toNat = 65 := rfl
        have below : char.toNat ≤ 'F'.toNat := letter.2
        have same := ofNat_offset letter.1
        cases found
        rw [UInt8.toNat_ofNat', Nat.mod_eq_of_lt (by omega)]
        left
        rw [upper, if_neg (by omega)]
        rw [first] at same ⊢
        rw [show 55 + (char.toNat - 65 + 10) = 65 + (char.toNat - 65) by omega]
        exact same
      · cases found

theorem isDigit_unique
    {char : Char} {first second : Nat} (here : IsDigit char first)
    (there : IsDigit char second) : first = second := by
  have same := (isDigit_nibble here).symm.trans (isDigit_nibble there)
  have bytes := congrArg UInt8.toNat (Option.some.inj same)
  rw [UInt8.toNat_ofNat', UInt8.toNat_ofNat'] at bytes
  have small := here.1
  have small' := there.1
  omega

/-- The digit loop reads the number modulo 2^64. -/
theorem hexDigits_eq_some
    {field : List Char} {value : Nat} {out : UInt64} :
    hexDigits field (UInt64.ofNat value) = some out ↔
      ∃ ds, List.Forall₂ IsDigit field ds ∧
        out = UInt64.ofNat (read value ds) := by
  induction field generalizing value with
  | nil =>
      constructor
      · intro found
        cases found
        exact ⟨[], .nil, rfl⟩
      · rintro ⟨ds, letters, same⟩
        cases letters
        rw [same]
        rfl
  | cons char field ih =>
      constructor
      · intro found
        obtain ⟨nibble, digit, rest⟩ := Option.bind_eq_some_iff.mp found
        have letter := hexNibble_isDigit digit
        rw [← UInt8.ofNat_toNat (x := nibble), shift_or_digit value letter.1]
          at rest
        obtain ⟨ds, letters, same⟩ := ih.mp rest
        exact ⟨nibble.toNat :: ds, .cons letter letters, same⟩
      · rintro ⟨ds, letters, same⟩
        cases letters with
        | @cons _ digit _ ds letter letters =>
            rw [hexDigits, isDigit_nibble letter, Option.bind_some,
              shift_or_digit value letter.1]
            exact ih.mpr ⟨ds, letters, same⟩

theorem digits_unique
    {field : List Char} {first second : List Nat}
    (here : List.Forall₂ IsDigit field first)
    (there : List.Forall₂ IsDigit field second) : first = second := by
  induction here generalizing second with
  | nil =>
      cases there
      rfl
  | cons letter _ ih =>
      cases there with
      | cons letter' letters =>
          rw [isDigit_unique letter letter', ih letters]

theorem Written.unique
    {args : List Char} {idx first second : Nat} (here : Written args idx first)
    (there : Written args idx second) : first = second := by
  obtain ⟨field, found, -, ds, letters, rfl⟩ := here
  obtain ⟨field', found', -, ds', letters', rfl⟩ := there
  have same := (fieldGet_eq_some.mpr found).symm.trans
    (fieldGet_eq_some.mpr found')
  cases Option.some.inj same
  rw [digits_unique letters letters']

/-- `field_hex_u64` returns the written number modulo 2^64, if there is one. -/
theorem fieldHexU64_eq_some {args : List Char} {idx : Nat} {out : UInt64} :
    fieldHexU64 args idx = some out ↔
      ∃ number, Written args idx number ∧ out = UInt64.ofNat number := by
  rw [fieldHexU64]
  constructor
  · intro found
    split at found
    · cases found
    · cases found
    · next char rest field =>
      obtain ⟨ds, letters, same⟩ := (@hexDigits_eq_some _ 0 _).mp found
      exact ⟨read 0 ds, ⟨char :: rest, fieldGet_eq_some.mp field, by simp, ds,
        letters, rfl⟩, same⟩
  · rintro ⟨number, ⟨field, found, nonempty, ds, letters, rfl⟩, same⟩
    obtain ⟨char, rest, rfl⟩ := List.exists_cons_of_ne_nil nonempty
    rw [fieldGet_eq_some.mpr found]
    exact (@hexDigits_eq_some _ 0 _).mpr ⟨ds, letters, same⟩

/-- A printed number is the one that is written. -/
theorem denotes_padded {width : Nat} (wide : 0 < width) (value : Nat) :
    Denotes (padded upper width value) value := by
  refine ⟨padded_ne_nil wide, digits width value, ?_, (read_digits _ _).symm⟩
  rw [padded, List.forall₂_map_left_iff, List.forall₂_same]
  exact fun digit member => ⟨digits_lt member, .inl rfl⟩

end Digits

/-- `field_hex_u64` succeeds on a field exactly when a 64-bit number is written
in it, with that number. -/
structure ExactAt (args : List Char) (idx : Nat) : Prop where
  returns :
    (fieldHexU64 args idx).isSome = true ↔
      ∃ number, Written args idx number ∧ number < 2 ^ 64
  value : ∀ out, fieldHexU64 args idx = some out → Written args idx out.toNat

/-- The number in a field needs no more than 64 bits. -/
def FitsAt (args : List Char) (idx : Nat) : Prop :=
  ∀ number, Written args idx number → number < 2 ^ 64

theorem exactAt_iff {args : List Char} {idx : Nat} :
    ExactAt args idx ↔ FitsAt args idx := by
  constructor
  · intro exact number written
    have some : (fieldHexU64 args idx).isSome = true := by
      rw [fieldHexU64_eq_some.mpr ⟨number, written, rfl⟩]
      rfl
    obtain ⟨other, written', small⟩ := exact.returns.mp some
    rw [written.unique written']
    exact small
  · intro fits
    have value : ∀ out, fieldHexU64 args idx = some out →
        Written args idx out.toNat := by
      intro out found
      obtain ⟨number, written, rfl⟩ := fieldHexU64_eq_some.mp found
      rw [UInt64.toNat_ofNat_of_lt' (fits number written)]
      exact written
    refine ⟨⟨?_, ?_⟩, value⟩
    · intro some
      obtain ⟨out, found⟩ := Option.isSome_iff_exists.mp some
      exact ⟨out.toNat, value out found, out.toNat_lt⟩
    · rintro ⟨number, written, -⟩
      rw [fieldHexU64_eq_some.mpr ⟨number, written, rfl⟩]
      rfl

/-- What an exact field of a command holds, within its limits. -/
theorem ExactAt.within
    {args : List Char} {idx low high : Nat} (exact : ExactAt args idx)
    {value : UInt64} (found : fieldHexU64 args idx = some value)
    (lower : low ≤ value.toNat) (upper : value.toNat ≤ high) :
    ∃ number, Written args idx number ∧ low ≤ number ∧ number ≤ high :=
  ⟨value.toNat, exact.value value found, lower, upper⟩

section Commands

/-- The numbers written in the fields from `idx` on are within these limits. -/
def WithinLimits (args : List Char) : Nat → List (Nat × Nat) → Prop
  | _, [] => True
  | idx, (low, high) :: rest =>
      (∃ number, Written args idx number ∧ low ≤ number ∧ number ≤ high) ∧
        WithinLimits args (idx + 1) rest

/-- Any 64-bit number. -/
def anyWord : Nat × Nat := (0, 2 ^ 64 - 1)

/-- Serial number, id, length, priority, CRC-32. -/
def reportLimits : List (Nat × Nat) :=
  [anyWord, (0, 0xFFFF), (1, maxReportSize), anyWord, (0, 0xFFFFFFFF)]

/-- Serial number, id, length, CRC-32. -/
def configLimits : List (Nat × Nat) :=
  [anyWord, (0, 0xFFFF), (1, maxConfigSize), (0, 0xFFFFFFFF)]

/-- Serial number, id, size, chunks, last chunk, CRC-32, CRC-16. -/
def ldInitLimits : List (Nat × Nat) :=
  [anyWord, (0, 0xFF), (1, ldMaxTransferSize), (1, 0xFFFF),
    (1, atDataPayloadMax), (0, 0xFFFFFFFF), (0, 0xFFFF)]

/-- Serial number, id, page, chunk, CRC-16. -/
def ldChunkLimits : List (Nat × Nat) :=
  [anyWord, (0, 0xFF), (0, 0xFF), (0, ldChunksPerPage - 1), (0, 0xFFFF)]

variable {args : List Char}

theorem word_bound (value : UInt64) : value.toNat ≤ 2 ^ 64 - 1 := by
  have bound := value.toNat_lt
  omega

theorem positive_of_ne {value : UInt64} (some : value ≠ 0) : 1 ≤ value.toNat := by
  have nonzero : value.toNat ≠ 0 := fun zero => some (UInt64.toNat_inj.mp zero)
  omega

theorem parsed_of_rejected {Command : Type} {parsed : Option Command}
    (rejected : parsed ≠ none) : ∃ command, parsed = some command :=
  Option.ne_none_iff_exists'.mp rejected

theorem cmdReport_within
    (exact : ∀ idx, idx < 5 → ExactAt args idx) {env : Env} {s : ReportPlane}
    (accepted : s.cmdReport env args ≠ s.sendLine .error) :
    WithinLimits args 0 reportLimits := by
  obtain ⟨command, parsed⟩ := @parsed_of_rejected _ (ReportPlane.parseReport args)
    (by
      intro rejected
      apply accepted
      rw [ReportPlane.cmdReport, rejected]
      split
      · rfl
      · split <;> rfl)
  simp only [ReportPlane.parseReport, Option.bind_eq_some_iff] at parsed
  obtain ⟨sn, first, id, second, len, third, prio, fourth, crc, fifth, rest⟩ :=
    parsed
  split at rest
  · cases rest
  · next inside =>
    simp only [not_or, Nat.not_lt] at inside
    obtain ⟨idBound, some, lenBound, crcBound⟩ := inside
    exact
      ⟨(exact 0 (by omega)).within first (Nat.zero_le _) (word_bound sn),
        (exact 1 (by omega)).within second (Nat.zero_le _) idBound,
        (exact 2 (by omega)).within third (positive_of_ne some) lenBound,
        (exact 3 (by omega)).within fourth (Nat.zero_le _) (word_bound prio),
        (exact 4 (by omega)).within fifth (Nat.zero_le _) crcBound, trivial⟩

theorem cmdConfig_within
    (exact : ∀ idx, idx < 4 → ExactAt args idx) {env : Env} {s : ConfigPlane}
    (accepted : s.cmdConfig env args ≠ s.sendLine .error) :
    WithinLimits args 0 configLimits := by
  obtain ⟨command, parsed⟩ := @parsed_of_rejected _ (ConfigPlane.parseConfig args)
    (by
      intro rejected
      apply accepted
      have refused : ConfigPlane.admitConfig env args = none := by
        rw [ConfigPlane.admitConfig, rejected]
        split <;> rfl
      rw [ConfigPlane.cmdConfig, ConfigPlane.storeCommand, refused])
  simp only [ConfigPlane.parseConfig, Option.bind_eq_some_iff] at parsed
  obtain ⟨sn, first, id, second, len, third, crc, fourth, rest⟩ := parsed
  split at rest
  · cases rest
  · next inside =>
    simp only [not_or, Nat.not_lt] at inside
    obtain ⟨idBound, some, lenBound, crcBound⟩ := inside
    exact
      ⟨(exact 0 (by omega)).within first (Nat.zero_le _) (word_bound sn),
        (exact 1 (by omega)).within second (Nat.zero_le _) idBound,
        (exact 2 (by omega)).within third (positive_of_ne some) lenBound,
        (exact 3 (by omega)).within fourth (Nat.zero_le _) crcBound, trivial⟩

theorem cmdLdInit_within
    (exact : ∀ idx, idx < 7 → ExactAt args idx) {env : Env} {s : LdPlane}
    (accepted : s.cmdLdInit env args ≠ s.sendLine .error) :
    WithinLimits args 0 ldInitLimits := by
  obtain ⟨command, parsed, crcBound, inRange⟩ : ∃ command,
      LdPlane.parseLdInit args = some command ∧
        command.crc16.toNat ≤ 0xFFFF ∧ command.inRange = true := by
    rw [LdPlane.cmdLdInit] at accepted
    split at accepted
    · exact absurd rfl accepted
    · split at accepted
      · exact absurd rfl accepted
      · split at accepted
        · exact absurd rfl accepted
        · next command parsed =>
          split at accepted
          · exact absurd rfl accepted
          · next checked =>
            split at accepted
            · exact absurd rfl accepted
            · split at accepted
              · exact absurd rfl accepted
              · next inRange =>
                refine ⟨command, parsed, ?_, by simpa using inRange⟩
                exact Nat.not_lt.mp fun wide => checked (.inl wide)
  simp only [LdPlane.parseLdInit, Option.bind_eq_some_iff,
    Option.map_eq_some_iff] at parsed
  obtain ⟨sn, first, id, second, total, third, chunks, fourth, last, fifth,
    crc32, sixth, crc16, seventh, rfl⟩ := parsed
  simp only [LdPlane.LdInitCommand.inRange, decide_eq_true_eq] at inRange
  obtain ⟨idBound, some, totalBound, some', chunksBound, crc32Bound, some'',
    lastBound, -⟩ := inRange
  exact
    ⟨(exact 0 (by omega)).within first (Nat.zero_le _) (word_bound sn),
      (exact 1 (by omega)).within second (Nat.zero_le _) idBound,
      (exact 2 (by omega)).within third (positive_of_ne some) totalBound,
      (exact 3 (by omega)).within fourth (positive_of_ne some') chunksBound,
      (exact 4 (by omega)).within fifth (positive_of_ne some'') lastBound,
      (exact 5 (by omega)).within sixth (Nat.zero_le _) crc32Bound,
      (exact 6 (by omega)).within seventh (Nat.zero_le _) crcBound, trivial⟩

theorem cmdLdChunk_within
    (exact : ∀ idx, idx < 5 → ExactAt args idx) {env : Env} {s : LdPlane}
    (accepted : s.cmdLdChunk env args ≠ s.sendLine .error) :
    WithinLimits args 0 ldChunkLimits := by
  obtain ⟨command, parsed, crcBound, inside⟩ : ∃ command,
      LdPlane.parseLdChunk args = some command ∧
        command.crc16.toNat ≤ 0xFFFF ∧ ¬ (0xFF < command.id.toNat ∨
          0xFF < command.page.toNat ∨
            ldChunksPerPage ≤ command.chunk.toNat) := by
    rw [LdPlane.cmdLdChunk] at accepted
    split at accepted
    · exact absurd rfl accepted
    · split at accepted
      · exact absurd rfl accepted
      · next command parsed =>
        split at accepted
        · exact absurd rfl accepted
        · next checked =>
          split at accepted
          · exact absurd rfl accepted
          · split at accepted
            · exact absurd rfl accepted
            · next inside =>
              refine ⟨command, parsed, ?_, inside⟩
              exact Nat.not_lt.mp fun wide => checked (.inl wide)
  simp only [LdPlane.parseLdChunk, Option.bind_eq_some_iff] at parsed
  obtain ⟨sn, first, id, second, page, third, chunk, fourth, crc16, fifth, hex,
    -, rest⟩ := parsed
  split at rest
  · cases rest
  · obtain ⟨payload, -, rfl⟩ := Option.map_eq_some_iff.mp rest
    simp only [not_or, Nat.not_lt, Nat.not_le] at inside
    obtain ⟨idBound, pageBound, chunkBound⟩ := inside
    exact
      ⟨(exact 0 (by omega)).within first (Nat.zero_le _) (word_bound sn),
        (exact 1 (by omega)).within second (Nat.zero_le _) idBound,
        (exact 2 (by omega)).within third (Nat.zero_le _) pageBound,
        (exact 3 (by omega)).within fourth (Nat.zero_le _)
          (Nat.le_sub_one_of_lt chunkBound),
        (exact 4 (by omega)).within fifth (Nat.zero_le _) crcBound, trivial⟩

end Commands

/-- On a line, `field_hex_u64` is exact for every index, and every handler that
does more than answer `ERROR` has numbers within its limits. -/
structure HexExact (args : List Char) : Prop where
  fields : ∀ idx, ExactAt args idx
  report : ∀ (env : Env) (s : ReportPlane),
    s.cmdReport env args ≠ s.sendLine .error → WithinLimits args 0 reportLimits
  config : ∀ (env : Env) (s : ConfigPlane),
    s.cmdConfig env args ≠ s.sendLine .error → WithinLimits args 0 configLimits
  ldInit : ∀ (env : Env) (s : LdPlane),
    s.cmdLdInit env args ≠ s.sendLine .error → WithinLimits args 0 ldInitLimits
  ldChunk : ∀ (env : Env) (s : LdPlane),
    s.cmdLdChunk env args ≠ s.sendLine .error → WithinLimits args 0 ldChunkLimits

/-- A field is parsed exactly when no number above 64 bits is written in it; a
line is handled exactly when that is so in all its fields; and the checks of
each command are right when it is so in the fields that it reads as numbers. -/
theorem hexExact_iff (args : List Char) :
    (∀ idx, ExactAt args idx ↔ FitsAt args idx) ∧
      (HexExact args ↔ ∀ idx, FitsAt args idx) ∧
      ((∀ idx, idx < 5 → FitsAt args idx) → ∀ (env : Env) (s : ReportPlane),
        s.cmdReport env args ≠ s.sendLine .error →
          WithinLimits args 0 reportLimits) ∧
      ((∀ idx, idx < 4 → FitsAt args idx) → ∀ (env : Env) (s : ConfigPlane),
        s.cmdConfig env args ≠ s.sendLine .error →
          WithinLimits args 0 configLimits) ∧
      ((∀ idx, idx < 7 → FitsAt args idx) → ∀ (env : Env) (s : LdPlane),
        s.cmdLdInit env args ≠ s.sendLine .error →
          WithinLimits args 0 ldInitLimits) ∧
      ((∀ idx, idx < 5 → FitsAt args idx) → ∀ (env : Env) (s : LdPlane),
        s.cmdLdChunk env args ≠ s.sendLine .error →
          WithinLimits args 0 ldChunkLimits) := by
  have exact {limit : Nat} (fits : ∀ idx, idx < limit → FitsAt args idx) :
      ∀ idx, idx < limit → ExactAt args idx :=
    fun idx below => exactAt_iff.mpr (fits idx below)
  refine ⟨fun idx => exactAt_iff, ⟨?_, ?_⟩, ?_, ?_, ?_, ?_⟩
  · exact fun holds idx => exactAt_iff.mp (holds.fields idx)
  · intro fits
    have all (limit : Nat) : ∀ idx, idx < limit → ExactAt args idx :=
      fun idx _ => exactAt_iff.mpr (fits idx)
    exact
      { fields := fun idx => exactAt_iff.mpr (fits idx)
        report := fun _ _ => cmdReport_within (all 5)
        config := fun _ _ => cmdConfig_within (all 4)
        ldInit := fun _ _ => cmdLdInit_within (all 7)
        ldChunk := fun _ _ => cmdLdChunk_within (all 5) }
  · exact fun fits _ _ => cmdReport_within (exact fits)
  · exact fun fits _ _ => cmdConfig_within (exact fits)
  · exact fun fits _ _ => cmdLdInit_within (exact fits)
  · exact fun fits _ _ => cmdLdChunk_within (exact fits)

/-- Two fields, the second with the largest number that fits. -/
def twoFields : List Char :=
  '=' :: quotedFields [padded upper 1 10, padded upper 16 (2 ^ 64 - 1)]

theorem hexExact_twoFields : HexExact twoFields := by
  refine (hexExact_iff twoFields).2.1.mpr fun idx number written => ?_
  have fits {width value : Nat} (wide : 0 < width) (small : value < 2 ^ 64)
      (here : fieldGet twoFields idx = some (padded upper width value)) :
      number < 2 ^ 64 := by
    rw [written.unique
      ⟨_, fieldGet_eq_some.mp here, denotes_padded wide value⟩]
    exact small
  cases idx with
  | zero => exact @fits 1 10 (by decide) (by decide) (by decide +kernel)
  | succ idx =>
      cases idx with
      | zero =>
          exact @fits 16 (2 ^ 64 - 1) (by decide) (by decide) (by decide +kernel)
      | succ idx =>
          obtain ⟨field, found, -⟩ := written
          have text := fieldGet_eq_some.mpr found
          have rest : fieldGet twoFields (idx + 2) = fieldGet [] idx := rfl
          rw [rest] at text
          cases idx <;> cases text

/-- The arguments of an `AT#REPORT` of one byte, with 2^64 + 5 for its id. -/
def wideReport : List Char :=
  '=' :: quotedFields
    [padded upper 1 9, padded upper 1 (2 ^ 64 + 5), padded upper 1 1,
      padded upper 1 0, padded upper 1 0, padded upper 2 0]

/-- The field is parsed as 5, and the range check lets it pass. -/
theorem hexExact_wide :
    ¬ HexExact wideReport ∧ fieldHexU64 wideReport 1 = some 5 ∧
      (ReportPlane.parseReport wideReport).map (·.report.dataId) = some 5 := by
  refine ⟨?_, by decide +kernel, by decide +kernel⟩
  intro holds
  have found : IsField wideReport 1 (padded upper 1 (2 ^ 64 + 5)) :=
    fieldGet_eq_some.mp (by decide +kernel)
  have small := exactAt_iff.mp (holds.fields 1) (2 ^ 64 + 5)
    ⟨_, found, denotes_padded Nat.one_pos _⟩
  exact absurd small (by decide)

end DectMesh
