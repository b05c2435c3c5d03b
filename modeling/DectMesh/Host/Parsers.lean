import DectMesh.Host.Builders

/-!
# Lines that the host parses

`tools/sensor_sim.py`: the parsers of the AT lines that a gateway writes, and
what they get out of them.
-/

namespace DectMesh

open ByteStore HexText

section Parsers

/-- `_quoted_fields`; a round takes two quotes. -/
def pyFields : Nat → List Char → Option (List (List Char))
  | 0, _ => some []
  | rounds + 1, text =>
      match splitQuote text with
      | none => some []
      | some (_, opened) =>
          match splitQuote opened with
          | none => none
          | some (field, rest) =>
              (pyFields rounds rest).map fun fields => field :: fields

def hostQuotedFields (line : List Char) : Option (List (List Char)) :=
  pyFields line.length line

/-- `int(text, 16)` for a text of digits; no line of a device has a sign, a
prefix, an underscore or a blank in such a field. -/
def pyInt (text : List Char) : Option Nat :=
  if text = [] then
    none
  else
    text.foldlM
      (fun value char =>
        (hexNibble char).map fun nibble => 16 * value + nibble.toNat) 0

def isBlank (char : Char) : Bool :=
  char = ' ' ∨ char = '\t' ∨ char = '\n' ∨ char = '\r' ∨ char = '\x0b' ∨
    char = '\x0c'

/-- `bytes.fromhex`, which skips blanks between bytes. -/
def pyFromHex : List Char → Option (List UInt8)
  | [] => some []
  | [char] => if isBlank char then some [] else none
  | high :: low :: rest =>
      if isBlank high then
        pyFromHex (low :: rest)
      else
        (hexNibble high).bind fun high =>
          (hexNibble low).bind fun low =>
            (pyFromHex rest).map fun bytes => (high <<< 4 ||| low) :: bytes

structure HostReport where
  sn : Nat
  dataId : Nat
  timestamp : Nat
  dataLen : Nat
  crc32 : Nat
  payload : List UInt8
  deriving DecidableEq

/-- `parse_at_report`; `none` is a refusal. -/
def parseAtReport (line : List Char) : Option HostReport :=
  match hostQuotedFields line with
  | some (snHex :: idHex :: tsHex :: lenHex :: crcHex :: dataHex :: _) =>
      (pyInt snHex).bind fun sn =>
      (pyInt idHex).bind fun dataId =>
      (pyInt tsHex).bind fun timestamp =>
      (pyInt lenHex).bind fun dataLen =>
      (pyInt crcHex).bind fun crc32 =>
        if dataHex.length ≠ dataLen * 2 then
          none
        else
          (pyFromHex dataHex).bind fun payload =>
            if zlibCrc32 payload ≠ crc32 then
              none
            else
              some
                { sn := sn, dataId := dataId, timestamp := timestamp
                  dataLen := dataLen, crc32 := crc32, payload := payload }
  | _ => none

structure HostLdInit where
  sn : Nat
  dataId : Nat
  timestamp : Nat
  totalSize : Nat
  totalChunks : Nat
  lastChunkSize : Nat
  crc32 : Nat
  crc16 : Nat
  deriving DecidableEq

namespace HostLdInit

/-- The bytes that `struct.pack` puts together in `parse_at_ldinit`. -/
def packed (parsed : HostLdInit) : List UInt8 :=
  bigEndian 8 (parsed.sn &&& 0xFFFFFFFFFFFFFFFF) ++
    bigEndian 2 (parsed.dataId &&& 0xFFFF) ++
    bigEndian 8 (parsed.timestamp &&& 0xFFFFFFFFFFFFFFFF) ++
    bigEndian 4 (parsed.totalSize &&& 0xFFFFFFFF) ++
    bigEndian 2 (parsed.totalChunks &&& 0xFFFF) ++
    bigEndian 2 (parsed.lastChunkSize &&& 0xFFFF) ++
    bigEndian 4 (parsed.crc32 &&& 0xFFFFFFFF)

end HostLdInit

/-- `parse_at_ldinit`. -/
def parseAtLdInit (line : List Char) : Option HostLdInit :=
  match hostQuotedFields line with
  | some (snHex :: idHex :: tsHex :: totalHex :: chunksHex :: lastHex ::
      crc32Hex :: crc16Hex :: _) =>
      (pyInt snHex).bind fun sn =>
      (pyInt idHex).bind fun dataId =>
      (pyInt tsHex).bind fun timestamp =>
      (pyInt totalHex).bind fun totalSize =>
      (pyInt chunksHex).bind fun totalChunks =>
      (pyInt lastHex).bind fun lastChunkSize =>
      (pyInt crc32Hex).bind fun crc32 =>
      (pyInt crc16Hex).bind fun crc16 =>
        let parsed : HostLdInit :=
          { sn := sn, dataId := dataId, timestamp := timestamp
            totalSize := totalSize, totalChunks := totalChunks
            lastChunkSize := lastChunkSize, crc32 := crc32, crc16 := crc16 }
        if (Checksum.crc16Ccitt parsed.packed).toNat ≠ crc16 then
          none
        else
          some parsed
  | _ => none

structure HostLd where
  sn : Nat
  dataId : Nat
  page : Nat
  chunk : Nat
  linear : Nat
  payload : List UInt8
  deriving DecidableEq

def hostChunksPerPage : Nat := 32

/-- `parse_at_ld`. -/
def parseAtLd (line : List Char) : Option HostLd :=
  match hostQuotedFields line with
  | some (snHex :: idHex :: pageHex :: chunkHex :: dataHex :: _) =>
      (pyInt snHex).bind fun sn =>
      (pyInt idHex).bind fun dataId =>
      (pyInt pageHex).bind fun page =>
      (pyInt chunkHex).bind fun chunk =>
      (pyFromHex dataHex).map fun payload =>
        { sn := sn, dataId := dataId, page := page, chunk := chunk
          linear := page * hostChunksPerPage + chunk, payload := payload }
  | _ => none

end Parsers

section Writers

/-- The characters of `AT#REPORT`. -/
def reportText
    (sn : UInt64) (id : UInt8) (reportTimeMs : UInt64) (totalSize : UInt16)
    (crc32 : UInt32) (payload : List UInt8) : List Char :=
  commandLine "AT#REPORT"
    [padded upper 16 sn.toNat, padded upper 4 id.toNat,
      padded lower 16 reportTimeMs.toNat, padded upper 4 totalSize.toNat,
      padded upper 8 crc32.toNat, pairs payload]

/-- The characters of `AT#LDINIT`. -/
def ldInitText
    (sn : UInt64) (id : UInt8) (reportTimeMs : UInt64) (totalSize : UInt32)
    (totalChunks lastChunkSize : UInt16) (crc32 : UInt32) (crc16 : UInt16) :
    List Char :=
  commandLine "AT#LDINIT"
    [padded upper 16 sn.toNat, padded upper 4 id.toNat,
      padded lower 16 reportTimeMs.toNat, padded upper 4 totalSize.toNat,
      padded upper 4 totalChunks.toNat, padded upper 4 lastChunkSize.toNat,
      padded upper 8 crc32.toNat, padded upper 4 crc16.toNat]

/-- The characters of `AT#LD`. -/
def ldText
    (deviceId : UInt16) (id : UInt8) (page chunk : Nat)
    (payload : List UInt8) : List Char :=
  commandLine "AT#LD"
    [padded upper 16 deviceId.toNat, padded upper 4 id.toNat,
      padded upper 4 page, padded upper 4 chunk, pairs payload]

end Writers

section Reading

theorem splitQuote_unquoted {text : List Char} (unquoted : Unquoted text) :
    splitQuote text = none := by
  induction text with
  | nil => rfl
  | cons char rest ih =>
      rw [splitQuote, if_neg (unquoted char List.mem_cons_self),
        ih fun other member => unquoted other (List.mem_cons_of_mem _ member)]
      rfl

theorem pyFields_step
    {before field : List Char} (outside : Unquoted before)
    (unquoted : Unquoted field) (rest : List Char) (rounds : Nat) :
    pyFields (rounds + 1) (before ++ '"' :: (field ++ '"' :: rest)) =
      (pyFields rounds rest).map fun fields => field :: fields := by
  rw [pyFields, splitQuote_append outside]
  simp only
  rw [splitQuote_append unquoted]

theorem pyFields_done {text : List Char} (unquoted : Unquoted text) (rounds : Nat) :
    pyFields rounds text = some [] := by
  cases rounds with
  | zero => rfl
  | succ rounds => rw [pyFields, splitQuote_unquoted unquoted]

/-- The host finds the fields that were written. -/
theorem pyFields_quotedFields
    {before after : List Char} {fields : List (List Char)} {rounds : Nat}
    (outside : Unquoted before) (behind : Unquoted after)
    (unquoted : ∀ field ∈ fields, Unquoted field)
    (enough : fields.length ≤ rounds) :
    pyFields rounds (before ++ (quotedFields fields ++ after)) = some fields := by
  induction fields generalizing before rounds with
  | nil =>
      refine pyFields_done (fun char member => ?_) rounds
      rcases List.mem_append.mp member with front | back
      · exact outside char front
      · exact behind char back
  | cons field rest ih =>
      have here : Unquoted field := unquoted field List.mem_cons_self
      have below : ∀ other ∈ rest, Unquoted other := fun other member =>
        unquoted other (List.mem_cons_of_mem _ member)
      cases rounds with
      | zero => exact absurd enough (by simp)
      | succ rounds =>
          have enough : rest.length ≤ rounds := Nat.le_of_succ_le_succ enough
          cases rest with
          | nil =>
              have step := pyFields_step outside here after rounds
              rw [pyFields_done behind] at step
              simpa [quotedFields] using step
          | cons next rest =>
              have comma : Unquoted [','] := by
                intro char member
                rw [List.mem_singleton.mp member]
                decide
              have step := pyFields_step outside here
                (',' :: (quotedFields (next :: rest) ++ after)) rounds
              have tail := ih comma below enough
              rw [List.cons_append, List.nil_append] at tail
              rw [tail] at step
              simpa [quotedFields] using step

/-- A line has at least as many characters as fields. -/
theorem quotedFields_length (fields : List (List Char)) :
    fields.length ≤ (quotedFields fields).length := by
  induction fields with
  | nil => exact Nat.le_refl 0
  | cons field rest ih =>
      cases rest with
      | nil => simp [quotedFields]
      | cons next rest =>
          simp only [quotedFields, List.length_cons, List.length_append] at ih ⊢
          omega

theorem hostQuotedFields_commandLine
    {cmd : String} {fields : List (List Char)}
    (command : cmd.toList.all (fun char => char ≠ '"') = true)
    (printable : ∀ field ∈ fields, Printable field) :
    hostQuotedFields (commandLine cmd fields) = some fields := by
  have outside : Unquoted (['\r', '\n'] ++ cmd.toList ++ ['=']) := by
    intro char member
    rcases List.mem_append.mp member with member | equals
    · rcases List.mem_append.mp member with ends | inside
      · simp only [List.mem_cons, List.not_mem_nil, or_false] at ends
        rcases ends with rfl | rfl <;> decide
      · simpa using List.all_eq_true.mp command char inside
    · rw [List.mem_singleton.mp equals]
      decide
  have behind : Unquoted ['\r', '\n'] := by
    intro char member
    simp only [List.mem_cons, List.not_mem_nil, or_false] at member
    rcases member with rfl | rfl <;> decide
  have shape : commandLine cmd fields = (['\r', '\n'] ++ cmd.toList ++ ['=']) ++
      (quotedFields fields ++ ['\r', '\n']) := by
    simp [commandLine]
  have long := quotedFields_length fields
  rw [hostQuotedFields, shape]
  refine pyFields_quotedFields outside behind
    (fun field member => (printable field member).unquoted) ?_
  simp only [List.length_append]
  omega

theorem foldlM_digits
    {letter : Nat → Char} (readable : Readable letter)
    {ds : List Nat} (small : ∀ digit ∈ ds, digit < 16) (value : Nat) :
    (ds.map letter).foldlM
      (fun value char =>
        (hexNibble char).map fun nibble => 16 * value + nibble.toNat) value =
      some (read value ds) := by
  induction ds generalizing value with
  | nil => rfl
  | cons digit rest ih =>
      have here := small digit List.mem_cons_self
      have byte : (UInt8.ofNat digit).toNat = digit := by
        rw [UInt8.toNat_ofNat', Nat.mod_eq_of_lt (by omega)]
      rw [List.map_cons, List.foldlM_cons, readable digit here, Option.map_some,
        byte]
      exact ih (fun other member =>
        small other (List.mem_cons_of_mem _ member)) _

/-- The host reads a padded number as it was printed. -/
theorem pyInt_padded
    {letter : Nat → Char} (readable : Readable letter) {width value : Nat}
    (wide : 0 < width) : pyInt (padded letter width value) = some value := by
  rw [pyInt, if_neg (padded_ne_nil wide), padded,
    foldlM_digits readable fun digit => digits_lt, read_digits]

theorem pyFromHex_pairs (bytes : List UInt8) :
    pyFromHex (pairs bytes) = some bytes := by
  induction bytes with
  | nil => rfl
  | cons byte rest ih =>
      have decoded := hexBytes_pairs (byte :: rest)
      have solid (digit : Nat) (small : digit < 16) :
          isBlank (upper digit) = false := by
        interval_cases digit <;> decide
      have bound := byte.toNat_lt
      have high := solid (byte.toNat / 16) (by omega)
      rw [pairs_cons, hexBytes, hexBytes_pairs rest] at decoded
      rw [pairs_cons, pyFromHex, high, ih]
      simpa using decoded

theorem lower_printable (width value : Nat) :
    Printable (padded lower width value) := by
  refine padded_all fun digit small => ?_
  interval_cases digit <;> decide

end Reading

section Lines

variable {sn reportTimeMs : UInt64} {deviceId : UInt16} {id : UInt8}

theorem parseAtReport_reportText
    {totalSize : UInt16} {payload : List UInt8}
    (size : payload.length = totalSize.toNat) :
    parseAtReport (reportText sn id reportTimeMs totalSize
        (Checksum.crc32Ieee.ieee payload) payload) =
      some
        { sn := sn.toNat, dataId := id.toNat, timestamp := reportTimeMs.toNat
          dataLen := totalSize.toNat
          crc32 := (Checksum.crc32Ieee.ieee payload).toNat
          payload := payload } := by
  have printable : ∀ field ∈
      [padded upper 16 sn.toNat, padded upper 4 id.toNat,
        padded lower 16 reportTimeMs.toNat, padded upper 4 totalSize.toNat,
        padded upper 8 (Checksum.crc32Ieee.ieee payload).toNat,
        pairs payload], Printable field := by
    intro field member
    simp only [List.mem_cons, List.not_mem_nil, or_false] at member
    rcases member with rfl | rfl | rfl | rfl | rfl | rfl
    · exact padded_printable _ _
    · exact padded_printable _ _
    · exact lower_printable _ _
    · exact padded_printable _ _
    · exact padded_printable _ _
    · exact digits_printable (hexBytes_digits (hexBytes_pairs payload))
  have number {width value : Nat} (wide : 0 < width) :=
    @pyInt_padded upper upper_readable width value wide
  have fields := @hostQuotedFields_commandLine "AT#REPORT" _ (by decide)
    printable
  have length := pairs_length payload
  rw [parseAtReport, reportText, fields]
  simp only
  rw [number (by decide), Option.bind_some, number (by decide),
    Option.bind_some, pyInt_padded lower_readable (by decide),
    Option.bind_some, number (by decide), Option.bind_some,
    number (by decide), Option.bind_some, if_neg (by omega), pyFromHex_pairs,
    Option.bind_some, if_neg (by simp [zlibCrc32])]

theorem parseAtLdInit_ldInitText
    {totalSize crc32 : UInt32} {totalChunks lastChunkSize crc16 : UInt16}
    (checksum : crc16 = Checksum.crc16Ccitt
      (bigEndian 8 sn.toNat ++ bigEndian 2 id.toNat ++
        bigEndian 8 reportTimeMs.toNat ++ bigEndian 4 totalSize.toNat ++
        bigEndian 2 totalChunks.toNat ++ bigEndian 2 lastChunkSize.toNat ++
        bigEndian 4 crc32.toNat)) :
    parseAtLdInit (ldInitText sn id reportTimeMs totalSize totalChunks
        lastChunkSize crc32 crc16) =
      some
        { sn := sn.toNat, dataId := id.toNat, timestamp := reportTimeMs.toNat
          totalSize := totalSize.toNat, totalChunks := totalChunks.toNat
          lastChunkSize := lastChunkSize.toNat, crc32 := crc32.toNat
          crc16 := crc16.toNat } := by
  have printable : ∀ field ∈
      [padded upper 16 sn.toNat, padded upper 4 id.toNat,
        padded lower 16 reportTimeMs.toNat, padded upper 4 totalSize.toNat,
        padded upper 4 totalChunks.toNat, padded upper 4 lastChunkSize.toNat,
        padded upper 8 crc32.toNat, padded upper 4 crc16.toNat],
      Printable field := by
    intro field member
    simp only [List.mem_cons, List.not_mem_nil, or_false] at member
    rcases member with rfl | rfl | rfl | rfl | rfl | rfl | rfl | rfl
    · exact padded_printable _ _
    · exact padded_printable _ _
    · exact lower_printable _ _
    all_goals exact padded_printable _ _
  have number {width value : Nat} (wide : 0 < width) :=
    @pyInt_padded upper upper_readable width value wide
  have fields := @hostQuotedFields_commandLine "AT#LDINIT" _ (by decide)
    printable
  have sn64 : sn.toNat &&& 0xFFFFFFFFFFFFFFFF = sn.toNat := mask_eq sn.toNat_lt
  have id16 : id.toNat &&& 0xFFFF = id.toNat :=
    mask_eq (show id.toNat < 2 ^ 16 by have := id.toNat_lt; omega)
  have time64 : reportTimeMs.toNat &&& 0xFFFFFFFFFFFFFFFF =
      reportTimeMs.toNat := mask_eq reportTimeMs.toNat_lt
  have total32 : totalSize.toNat &&& 0xFFFFFFFF = totalSize.toNat :=
    mask_eq totalSize.toNat_lt
  have chunks16 : totalChunks.toNat &&& 0xFFFF = totalChunks.toNat :=
    mask_eq totalChunks.toNat_lt
  have last16 : lastChunkSize.toNat &&& 0xFFFF = lastChunkSize.toNat :=
    mask_eq lastChunkSize.toNat_lt
  have crc : crc32.toNat &&& 0xFFFFFFFF = crc32.toNat := mask_eq crc32.toNat_lt
  rw [parseAtLdInit, ldInitText, fields]
  simp only
  rw [number (by decide), Option.bind_some, number (by decide),
    Option.bind_some, pyInt_padded lower_readable (by decide),
    Option.bind_some, number (by decide), Option.bind_some,
    number (by decide), Option.bind_some, number (by decide),
    Option.bind_some, number (by decide), Option.bind_some,
    number (by decide), Option.bind_some, if_neg ?agrees]
  case agrees =>
    simp only [HostLdInit.packed, sn64, id16, time64, total32, chunks16, last16,
      crc, ← checksum]
    exact fun different => different rfl

theorem parseAtLd_ldText {page chunk : Nat} {payload : List UInt8} :
    parseAtLd (ldText deviceId id page chunk payload) =
      some
        { sn := deviceId.toNat, dataId := id.toNat, page := page
          chunk := chunk, linear := page * hostChunksPerPage + chunk
          payload := payload } := by
  have printable : ∀ field ∈
      [padded upper 16 deviceId.toNat, padded upper 4 id.toNat,
        padded upper 4 page, padded upper 4 chunk, pairs payload],
      Printable field := by
    intro field member
    simp only [List.mem_cons, List.not_mem_nil, or_false] at member
    rcases member with rfl | rfl | rfl | rfl | rfl
    · exact padded_printable _ _
    · exact padded_printable _ _
    · exact padded_printable _ _
    · exact padded_printable _ _
    · exact digits_printable (hexBytes_digits (hexBytes_pairs payload))
  have number {width value : Nat} (wide : 0 < width) :=
    @pyInt_padded upper upper_readable width value wide
  have fields := @hostQuotedFields_commandLine "AT#LD" _ (by decide) printable
  rw [parseAtLd, ldText, fields]
  simp only
  rw [number (by decide), Option.bind_some, number (by decide),
    Option.bind_some, number (by decide), Option.bind_some,
    number (by decide), Option.bind_some, pyFromHex_pairs, Option.map_some]

/-- The line of a report of at most 256 bytes fits the buffer, with the NUL of
`snprintf` to spare. -/
theorem reportText_length
    {totalSize : UInt16} {crc32 : UInt32} {payload : List UInt8}
    (fits : payload.length ≤ maxReportSize) :
    (reportText sn id reportTimeMs totalSize crc32 payload).length <
      slmUartAtCommandLen := by
  have length := pairs_length payload
  have size : maxReportSize = 256 := rfl
  have room : slmUartAtCommandLen = 1024 := rfl
  have small := id.toNat_lt
  have sn16 := @padded_length upper 16 _ sn.toNat_lt
  have id4 := @padded_length upper 4 id.toNat (by omega)
  have time16 := @padded_length lower 16 _ reportTimeMs.toNat_lt
  have size4 := @padded_length upper 4 _ totalSize.toNat_lt
  have crc8 := @padded_length upper 8 _ crc32.toNat_lt
  have command : "AT#REPORT".toList.length = 9 := rfl
  simp only [reportText, commandLine, quotedFields, List.length_append,
    List.length_cons, List.length_nil, sn16, id4, time16, size4, crc8, length,
    command]
  omega

/-- A 32-bit size that outgrows its four digits takes at most eight. -/
theorem padded_size_length (totalSize : UInt32) :
    (padded upper 4 totalSize.toNat).length ≤ 8 := by
  have digits := (Nat.digits_length_le_iff (by decide) totalSize.toNat).mpr
    (show totalSize.toNat < 16 ^ 8 from totalSize.toNat_lt)
  rw [padded, List.length_map, digits_length]
  omega

theorem ldInitText_length
    {totalSize crc32 : UInt32} {totalChunks lastChunkSize crc16 : UInt16} :
    (ldInitText sn id reportTimeMs totalSize totalChunks lastChunkSize crc32
      crc16).length < slmUartAtCommandLen := by
  have room : slmUartAtCommandLen = 1024 := rfl
  have small := id.toNat_lt
  have sn16 := @padded_length upper 16 _ sn.toNat_lt
  have id4 := @padded_length upper 4 id.toNat (by omega)
  have time16 := @padded_length lower 16 _ reportTimeMs.toNat_lt
  have size8 := padded_size_length totalSize
  have chunks4 := @padded_length upper 4 _ totalChunks.toNat_lt
  have last4 := @padded_length upper 4 _ lastChunkSize.toNat_lt
  have crc8 := @padded_length upper 8 _ crc32.toNat_lt
  have crc4 := @padded_length upper 4 _ crc16.toNat_lt
  have command : "AT#LDINIT".toList.length = 9 := rfl
  simp only [ldInitText, commandLine, quotedFields, List.length_append,
    List.length_cons, List.length_nil, sn16, id4, time16, chunks4, last4, crc8,
    crc4, command]
  omega

theorem ldText_length
    {page chunk : Nat} {payload : List UInt8}
    (pageFits : page ≤ 0xFFFF) (chunkFits : chunk ≤ 0xFFFF)
    (fits : payload.length ≤ atDataPayloadMax) :
    (ldText deviceId id page chunk payload).length ≤ slmUartAtCommandLen := by
  have length := pairs_length payload
  have size : atDataPayloadMax = 472 := rfl
  have room : slmUartAtCommandLen = 1024 := rfl
  have small := id.toNat_lt
  have device := deviceId.toNat_lt
  have device16 := @padded_length upper 16 deviceId.toNat (by omega)
  have id4 := @padded_length upper 4 id.toNat (by omega)
  have page4 := @padded_length upper 4 page (by omega)
  have chunk4 := @padded_length upper 4 chunk (by omega)
  have command : "AT#LD".toList.length = 5 := rfl
  simp only [ldText, commandLine, quotedFields, List.length_append,
    List.length_cons, List.length_nil, device16, id4, page4, chunk4, length,
    command]
  omega

end Lines

end DectMesh
