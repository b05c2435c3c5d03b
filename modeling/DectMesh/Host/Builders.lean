import DectMesh.Config.Model
import DectMesh.LargeData.Run
import DectMesh.QuotedFields
import DectMesh.Report.Run
import DectMesh.Uart

/-!
# Lines that the host builds

`tools/sensor_sim.py`: the four builders of AT lines, and what the commands of
the device read out of them, also when a digit of the payload changes on the
way.
-/

namespace DectMesh

open HexText

/-- A line as a builder returns it. -/
def commandLine (cmd : String) (fields : List (List Char)) : List Char :=
  ['\r', '\n'] ++ (cmd.toList ++ '=' :: quotedFields fields) ++ ['\r', '\n']

/-- `dispatch` takes `args` out of the line; it is the only one. -/
def Received (cmd : String) (line args : List Char) : Prop :=
  ∃ text, Lines.lines isLineEnd line = [text] ∧
    afterCommand cmd.toList text = some args

section Builders

def hostMaxReportSize : Nat := 256

def hostMaxConfigSize : Nat := 128

def atLdPayloadMax : Nat := 472

def largeDataMaxTransfer : Nat := 200 * 1024

/-- `zlib.crc32`. -/
def zlibCrc32 (payload : List UInt8) : Nat :=
  (Checksum.crc32Ieee.ieee payload).toNat

/-- The fields of `build_at_report` before the payload. -/
def reportHeader
    (sn dataId : Nat) (payload : List UInt8) (priority : Nat) :
    List (List Char) :=
  [padded upper 16 sn, padded upper 4 dataId, padded upper 4 payload.length,
    padded upper 2 priority, padded upper 8 (zlibCrc32 payload)]

/-- `build_at_report`; `none` is the `ValueError`. -/
def buildAtReport
    (sn dataId : Nat) (payload : List UInt8) (priority : Nat) :
    Option (List Char) :=
  if 0 < payload.length ∧ payload.length ≤ hostMaxReportSize then
    some (commandLine "AT#REPORT"
      (reportHeader sn dataId payload priority ++ [pairs payload]))
  else
    none

/-- The fields of `build_at_config` before the payload. -/
def configHeader (sn dataId : Nat) (payload : List UInt8) : List (List Char) :=
  [padded upper 16 sn, padded upper 4 dataId, padded upper 4 payload.length,
    padded upper 8 (zlibCrc32 payload)]

/-- `build_at_config`. -/
def buildAtConfig (sn dataId : Nat) (payload : List UInt8) :
    Option (List Char) :=
  if 0 < payload.length ∧ payload.length ≤ hostMaxConfigSize then
    some (commandLine "AT#CONFIG"
      (configHeader sn dataId payload ++ [pairs payload]))
  else
    none

/-- The bytes that `struct.pack` puts together in `build_at_ldinit`; every
value is masked to its width. -/
def ldInitMeta
    (sn dataId totalSize totalChunks lastChunkSize dataCrc32 : Nat) :
    List UInt8 :=
  bigEndian 8 (sn &&& 0xFFFFFFFFFFFFFFFF) ++ bigEndian 2 (dataId &&& 0xFFFF) ++
    bigEndian 4 (totalSize &&& 0xFFFFFFFF) ++
    bigEndian 2 (totalChunks &&& 0xFFFF) ++
    bigEndian 2 (lastChunkSize &&& 0xFFFF) ++
    bigEndian 4 (dataCrc32 &&& 0xFFFFFFFF)

/-- `build_at_ldinit`. -/
def buildAtLdInit
    (sn dataId totalSize totalChunks lastChunkSize dataCrc32 : Nat) :
    Option (List Char) :=
  if 0 < totalSize ∧ totalSize ≤ largeDataMaxTransfer ∧ 0 < totalChunks ∧
      totalChunks ≤ 0xFFFF ∧ 0 < lastChunkSize ∧
        lastChunkSize ≤ atLdPayloadMax then
    some (commandLine "AT#LDINIT"
      [padded upper 16 sn, padded upper 4 dataId, padded upper 8 totalSize,
        padded upper 4 totalChunks, padded upper 4 lastChunkSize,
        padded upper 8 (dataCrc32 &&& 0xFFFFFFFF),
        padded upper 4 (Checksum.crc16Ccitt (ldInitMeta sn dataId totalSize
          totalChunks lastChunkSize dataCrc32)).toNat])
  else
    none

/-- The fields of `build_at_ld` before the payload. -/
def ldHeader (sn dataId page chunk : Nat) (payload : List UInt8) :
    List (List Char) :=
  [padded upper 16 sn, padded upper 4 dataId, padded upper 2 page,
    padded upper 2 chunk, padded upper 4 (Checksum.crc16Ccitt payload).toNat]

/-- `build_at_ld`. -/
def buildAtLd (sn dataId page chunk : Nat) (payload : List UInt8) :
    Option (List Char) :=
  if (0 < payload.length ∧ payload.length ≤ atLdPayloadMax) ∧
      dataId ≤ 0xFFFF ∧ page ≤ 0xFF ∧ chunk ≤ 0xFF then
    some (commandLine "AT#LD"
      (ldHeader sn dataId page chunk payload ++ [pairs payload]))
  else
    none

end Builders

section Receiving

/-- Neither a quote nor the end of a line. -/
def Printable (text : List Char) : Prop :=
  ∀ char ∈ text, char ≠ '"' ∧ isLineEnd char = false

theorem Printable.unquoted {text : List Char} (printable : Printable text) :
    Unquoted text :=
  fun char member => (printable char member).1

theorem padded_printable (width value : Nat) :
    Printable (padded upper width value) := by
  refine padded_all fun digit small => ?_
  interval_cases digit <;> decide

/-- The digits of a number or of bytes can stand in a field. -/
theorem digits_printable
    {text : List Char} (digits : ∀ char ∈ text, (hexNibble char).isSome = true) :
    Printable text := by
  intro char member
  have digit := digits char member
  refine ⟨?_, ?_⟩
  · rintro rfl
    cases digit
  · have plain : ¬ (char = '\r' ∨ char = '\n') := by
      rintro (rfl | rfl) <;> cases digit
    simpa [isLineEnd] using plain

theorem quotedFields_plain
    {fields : List (List Char)}
    (printable : ∀ field ∈ fields, Printable field) :
    ∀ char ∈ quotedFields fields, isLineEnd char = false := by
  induction fields with
  | nil =>
      intro char member
      cases member
  | cons field rest ih =>
      have quote : isLineEnd '"' = false := by decide
      have comma : isLineEnd ',' = false := by decide
      have here := printable field List.mem_cons_self
      have below := ih fun other member =>
        printable other (List.mem_cons_of_mem _ member)
      intro char member
      cases rest with
      | nil =>
          rcases List.mem_cons.mp member with rfl | member
          · exact quote
          · rcases List.mem_append.mp member with inside | close
            · exact (here char inside).2
            · rw [List.mem_singleton.mp close]
              exact quote
      | cons next rest =>
          rcases List.mem_cons.mp member with rfl | member
          · exact quote
          · rcases List.mem_append.mp member with inside | after
            · exact (here char inside).2
            · rcases List.mem_cons.mp after with rfl | after
              · exact quote
              · rcases List.mem_cons.mp after with rfl | after
                · exact comma
                · exact below char after

/-- The device splits a built line off. -/
theorem lines_commandLine
    {cmd : String} {fields : List (List Char)}
    (nonempty : cmd.toList ≠ [])
    (plain : cmd.toList.all (fun char => !isLineEnd char) = true)
    (printable : ∀ field ∈ fields, Printable field) :
    Lines.lines isLineEnd (commandLine cmd fields) =
      [cmd.toList ++ '=' :: quotedFields fields] := by
  have equals : isLineEnd '=' = false := by decide
  have body : ∀ char ∈ cmd.toList ++ '=' :: quotedFields fields,
      isLineEnd char = false := by
    intro char member
    rcases List.mem_append.mp member with command | member
    · simpa using List.all_eq_true.mp plain char command
    · rcases List.mem_cons.mp member with rfl | field
      · exact equals
      · exact quotedFields_plain printable char field
  rw [commandLine, List.append_assoc, List.cons_append, List.cons_append,
    List.nil_append, Lines.lines_cons_sep (by decide),
    Lines.lines_cons_sep (by decide), Lines.lines_append_sep (by decide),
    Lines.lines_line (List.append_ne_nil_of_left_ne_nil nonempty _) body,
    Lines.lines_cons_sep (by decide), Lines.lines_nil]
  rfl

/-- It passes the fields on. -/
theorem received_commandLine
    {cmd : String} {fields : List (List Char)}
    (nonempty : cmd.toList ≠ [])
    (plain : cmd.toList.all (fun char => !isLineEnd char) = true)
    (printable : ∀ field ∈ fields, Printable field) :
    Received cmd (commandLine cmd fields) ('=' :: quotedFields fields) :=
  ⟨_, lines_commandLine nonempty plain printable,
    afterCommand_append nonempty _⟩

/-- The fields that a command handler finds in what it was passed. -/
theorem fieldGet_passed
    {fields : List (List Char)} (printable : ∀ field ∈ fields, Printable field)
    {idx : Nat} (inside : idx < fields.length) :
    fieldGet ('=' :: quotedFields fields) idx = fields[idx]? := by
  have equals : Unquoted ['='] := by
    intro char member
    rw [List.mem_singleton.mp member]
    decide
  exact fieldGet_quotedFields equals
    (fun field member => (printable field member).unquoted) inside

/-- A padded number among the fields is read as it was printed. -/
theorem fieldHexU64_passed
    {fields : List (List Char)} (printable : ∀ field ∈ fields, Printable field)
    {idx width value : Nat} (wide : 0 < width)
    (field : fields[idx]? = some (padded upper width value)) :
    fieldHexU64 ('=' :: quotedFields fields) idx =
      some (UInt64.ofNat value) := by
  have inside : idx < fields.length := by
    by_contra outside
    rw [List.getElem?_eq_none (by omega)] at field
    cases field
  exact fieldHexU64_padded upper_readable wide
    ((fieldGet_passed printable inside).trans field)

end Receiving

section Parsing

variable {sn : UInt64} {id : UInt16} {payload other : List UInt8}
  {hex : List Char}

/-- Numbers and a payload, of which only the payload may have been changed. -/
theorem header_printable
    {header : List (List Char)}
    (numbers : ∀ field ∈ header, ∃ width value, field = padded upper width value)
    (decoded : hexBytes hex = some other) :
    ∀ field ∈ header ++ [hex], Printable field := by
  intro field member
  rcases List.mem_append.mp member with number | text
  · obtain ⟨width, value, rfl⟩ := numbers field number
    exact padded_printable width value
  · rw [List.mem_singleton.mp text]
    exact digits_printable (hexBytes_digits decoded)

theorem reportHeader_printable
    {priority : UInt8} (decoded : hexBytes hex = some other) :
    ∀ field ∈ reportHeader sn.toNat id.toNat payload priority.toNat ++ [hex],
      Printable field := by
  refine header_printable (fun field member => ?_) decoded
  simp only [reportHeader, List.mem_cons, List.not_mem_nil, or_false] at member
  rcases member with rfl | rfl | rfl | rfl | rfl <;> exact ⟨_, _, rfl⟩

theorem configHeader_printable (decoded : hexBytes hex = some other) :
    ∀ field ∈ configHeader sn.toNat id.toNat payload ++ [hex],
      Printable field := by
  refine header_printable (fun field member => ?_) decoded
  simp only [configHeader, List.mem_cons, List.not_mem_nil, or_false] at member
  rcases member with rfl | rfl | rfl | rfl <;> exact ⟨_, _, rfl⟩

theorem ldHeader_printable
    {page chunk : UInt8} (decoded : hexBytes hex = some other) :
    ∀ field ∈ ldHeader sn.toNat id.toNat page.toNat chunk.toNat payload ++ [hex],
      Printable field := by
  refine header_printable (fun field member => ?_) decoded
  simp only [ldHeader, List.mem_cons, List.not_mem_nil, or_false] at member
  rcases member with rfl | rfl | rfl | rfl | rfl <;> exact ⟨_, _, rfl⟩

theorem ldInit_printable
    {totalSize totalChunks lastChunkSize dataCrc32 crc16 : Nat} :
    ∀ field ∈
      [padded upper 16 sn.toNat, padded upper 4 id.toNat,
        padded upper 8 totalSize, padded upper 4 totalChunks,
        padded upper 4 lastChunkSize, padded upper 8 dataCrc32,
        padded upper 4 crc16], Printable field := by
  intro field member
  simp only [List.mem_cons, List.not_mem_nil, or_false] at member
  rcases member with rfl | rfl | rfl | rfl | rfl | rfl | rfl <;>
    exact padded_printable _ _

/-- `hex_decode` of a text that is as long as the payload. -/
theorem hexDecode_changed
    {outMax : Nat} (decoded : hexBytes hex = some other)
    (fits : other.length ≤ outMax) : hexDecode hex outMax = some other := by
  have length := hexBytes_length decoded
  rw [hexDecode, if_neg (by omega)]
  exact decoded

/-- A field of at most eight digits is read without loss. -/
theorem passed_toNat {value : Nat} (small : value ≤ 0xFFFFFFFF) :
    (UInt64.ofNat value).toNat = value := by
  rw [UInt64.toNat_ofNat', Nat.mod_eq_of_lt (by omega)]

theorem zlibCrc32_le (payload : List UInt8) : zlibCrc32 payload ≤ 0xFFFFFFFF := by
  have bound := (Checksum.crc32Ieee.ieee payload).toNat_lt
  unfold zlibCrc32
  omega

theorem length_ne_zero
    (nonempty : 0 < payload.length) (fits : payload.length ≤ 0xFFFFFFFF) :
    UInt64.ofNat payload.length ≠ 0 := by
  intro zero
  have value := passed_toNat fits
  rw [zero] at value
  have none : (0 : UInt64).toNat = 0 := rfl
  omega

/-- A report is read as it was written, whatever its checksum. -/
theorem parseReport_fields
    {crc32 : UInt32} {priority : UInt8} (nonempty : 0 < other.length)
    (fits : other.length ≤ maxReportSize) (decoded : hexBytes hex = some other) :
    ReportPlane.parseReport ('=' :: quotedFields
        ([padded upper 16 sn.toNat, padded upper 4 id.toNat,
          padded upper 4 other.length, padded upper 2 priority.toNat,
          padded upper 8 crc32.toNat] ++ [hex])) =
      some
        { serialNum := sn
          report :=
            { dataId := id
              dataLen := UInt16.ofNat other.length
              dataCrc32 := crc32 }
          priority := priority
          payload := other } := by
  have device : maxReportSize = 256 := rfl
  have printable : ∀ field ∈ [padded upper 16 sn.toNat,
      padded upper 4 id.toNat, padded upper 4 other.length,
      padded upper 2 priority.toNat, padded upper 8 crc32.toNat] ++ [hex],
      Printable field := by
    refine header_printable (fun field member => ?_) decoded
    simp only [List.mem_cons, List.not_mem_nil, or_false] at member
    rcases member with rfl | rfl | rfl | rfl | rfl <;> exact ⟨_, _, rfl⟩
  have number {idx width value : Nat} (wide : 0 < width) :=
    @fieldHexU64_passed _ printable idx width value wide
  have text := fieldGet_passed printable (show 5 < 6 by decide)
  have length := hexBytes_length decoded
  have crc := crc32.toNat_lt
  have short := id.toNat_lt
  have lengthValue :=
    passed_toNat (show other.length ≤ 0xFFFFFFFF by omega)
  rw [ReportPlane.parseReport, number (by decide) rfl, Option.bind_some,
    number (by decide) rfl, Option.bind_some, number (by decide) rfl,
    Option.bind_some, number (by decide) rfl, Option.bind_some,
    number (by decide) rfl, Option.bind_some, if_neg ?checks, text]
  case checks =>
    rw [passed_toNat (show id.toNat ≤ 0xFFFFFFFF by omega), lengthValue,
      passed_toNat (show crc32.toNat ≤ 0xFFFFFFFF by omega)]
    rintro (large | zero | long | wide)
    · omega
    · exact length_ne_zero nonempty (by omega) zero
    · omega
    · omega
  change (if hex.length ≠ _ then _ else _) = _
  rw [lengthValue, if_neg (by omega),
    hexDecode_changed decoded (by omega), Option.bind_some, if_neg (by omega)]
  simp

theorem parseReport_passed
    {priority : UInt8} (nonempty : 0 < payload.length)
    (fits : payload.length ≤ hostMaxReportSize)
    (decoded : hexBytes hex = some other)
    (same : other.length = payload.length) :
    ReportPlane.parseReport ('=' :: quotedFields
        (reportHeader sn.toNat id.toNat payload priority.toNat ++ [hex])) =
      some
        { serialNum := sn
          report :=
            { dataId := id
              dataLen := UInt16.ofNat payload.length
              dataCrc32 := Checksum.crc32Ieee.ieee payload }
          priority := priority
          payload := other } := by
  rw [← same] at nonempty fits
  rw [reportHeader, ← same]
  exact parseReport_fields nonempty fits decoded

theorem parseConfig_passed
    (nonempty : 0 < payload.length)
    (fits : payload.length ≤ hostMaxConfigSize)
    (decoded : hexBytes hex = some other)
    (same : other.length = payload.length) :
    ConfigPlane.parseConfig ('=' :: quotedFields
        (configHeader sn.toNat id.toNat payload ++ [hex])) =
      some
        { sn := sn
          config :=
            { dataId := id
              dataLen := UInt16.ofNat payload.length
              dataCrc32 := Checksum.crc32Ieee.ieee payload }
          payload := other } := by
  have printable := @configHeader_printable sn id payload _ _ decoded
  have number {idx width value : Nat} (wide : 0 < width) :=
    @fieldHexU64_passed _ printable idx width value wide
  have text := fieldGet_passed printable
    (show 4 < (configHeader sn.toNat id.toNat payload ++ [hex]).length by
      simp [configHeader])
  have length := hexBytes_length decoded
  have size : hostMaxConfigSize = 128 := rfl
  have device : maxConfigSize = 128 := rfl
  have crc := zlibCrc32_le payload
  have short := id.toNat_lt
  have lengthValue := passed_toNat (show payload.length ≤ 0xFFFFFFFF by omega)
  have narrow : (UInt64.ofNat payload.length).toUInt16.toNat =
      payload.length := by
    rw [UInt64.toNat_toUInt16, lengthValue, Nat.mod_eq_of_lt (by omega)]
  rw [ConfigPlane.parseConfig, number (by decide) rfl, Option.bind_some,
    number (by decide) rfl, Option.bind_some, number (by decide) rfl,
    Option.bind_some, number (by decide) rfl, Option.bind_some,
    if_neg ?checks, text]
  case checks =>
    rw [passed_toNat (show id.toNat ≤ 0xFFFFFFFF by omega), lengthValue,
      passed_toNat crc]
    rintro (large | zero | long | wide)
    · omega
    · exact length_ne_zero nonempty (by omega) zero
    · omega
    · omega
  change (if hex.length ≠ _ then _ else _) = _
  rw [narrow, if_neg (by omega),
    hexDecode_changed decoded (by omega), Option.bind_some, if_neg (by omega)]
  simp [zlibCrc32]

theorem parseLdInit_passed
    {totalSize dataCrc32 : UInt32} {totalChunks lastChunkSize crc16 : UInt16} :
    LdPlane.parseLdInit ('=' :: quotedFields
        [padded upper 16 sn.toNat, padded upper 4 id.toNat,
          padded upper 8 totalSize.toNat, padded upper 4 totalChunks.toNat,
          padded upper 4 lastChunkSize.toNat, padded upper 8 dataCrc32.toNat,
          padded upper 4 crc16.toNat]) =
      some
        { sn := sn, id := id.toUInt64, total := totalSize.toUInt64
          chunks := totalChunks.toUInt64, last := lastChunkSize.toUInt64
          crc32 := dataCrc32.toUInt64, crc16 := crc16.toUInt64 } := by
  have printable := @ldInit_printable sn id totalSize.toNat totalChunks.toNat
    lastChunkSize.toNat dataCrc32.toNat crc16.toNat
  have number {idx width value : Nat} (wide : 0 < width) :=
    @fieldHexU64_passed _ printable idx width value wide
  rw [LdPlane.parseLdInit, number (by decide) rfl, Option.bind_some,
    number (by decide) rfl, Option.bind_some, number (by decide) rfl,
    Option.bind_some, number (by decide) rfl, Option.bind_some,
    number (by decide) rfl, Option.bind_some, number (by decide) rfl,
    Option.bind_some, number (by decide) rfl]
  simp

theorem parseLdChunk_passed
    {page chunk : UInt8} (nonempty : 0 < payload.length)
    (fits : payload.length ≤ atLdPayloadMax)
    (decoded : hexBytes hex = some other)
    (same : other.length = payload.length) :
    LdPlane.parseLdChunk ('=' :: quotedFields
        (ldHeader sn.toNat id.toNat page.toNat chunk.toNat payload ++ [hex])) =
      some
        { sn := sn, id := id.toUInt64, page := page.toUInt64
          chunk := chunk.toUInt64
          crc16 := (Checksum.crc16Ccitt payload).toUInt64
          payload := other } := by
  have printable := @ldHeader_printable sn id payload _ _ page chunk decoded
  have number {idx width value : Nat} (wide : 0 < width) :=
    @fieldHexU64_passed _ printable idx width value wide
  have text := fieldGet_passed printable
    (show 5 < (ldHeader sn.toNat id.toNat page.toNat chunk.toNat payload ++
      [hex]).length by simp [ldHeader])
  have length := hexBytes_length decoded
  have size : atLdPayloadMax = 472 := rfl
  have device : atDataPayloadMax = 472 := rfl
  rw [LdPlane.parseLdChunk, number (by decide) rfl, Option.bind_some,
    number (by decide) rfl, Option.bind_some, number (by decide) rfl,
    Option.bind_some, number (by decide) rfl, Option.bind_some,
    number (by decide) rfl, Option.bind_some, text]
  change (if hex = [] then _ else _) = _
  rw [if_neg ?some, hexDecode_changed decoded (by omega)]
  case some =>
    rintro rfl
    rw [List.length_nil] at length
    omega
  simp

end Parsing

section Recovery

variable (sn : UInt64) (id : UInt16)

/-- `build_at_report` takes 1 to 256 bytes, `cmd_report` gets out of
`AT#REPORT` what went in, the CRC-32 agrees, and after a change of one digit of
the payload it does not. -/
def ReportRecovered (priority : UInt8) (payload : List UInt8) : Prop :=
  ((buildAtReport sn.toNat id.toNat payload priority.toNat).isSome = true ↔
    0 < payload.length ∧ payload.length ≤ 256) ∧
  ∀ line,
    buildAtReport sn.toNat id.toNat payload priority.toNat = some line →
      (∃ args, Received "AT#REPORT" line args ∧
        ReportPlane.parseReport args =
          some
            { serialNum := sn
              report :=
                { dataId := id
                  dataLen := UInt16.ofNat payload.length
                  dataCrc32 := Checksum.crc32Ieee.ieee payload }
              priority := priority
              payload := payload }) ∧
        ∀ hex, DigitChanged (pairs payload) hex →
          ∃ args command,
            Received "AT#REPORT"
              (commandLine "AT#REPORT"
                (reportHeader sn.toNat id.toNat payload priority.toNat ++
                  [hex])) args ∧
              ReportPlane.parseReport args = some command ∧
                Checksum.crc32Ieee.ieee command.payload ≠
                  command.report.dataCrc32

/-- The same of `AT#CONFIG` and `cmd_config`, for 1 to 128 bytes. -/
def ConfigRecovered (payload : List UInt8) : Prop :=
  ((buildAtConfig sn.toNat id.toNat payload).isSome = true ↔
    0 < payload.length ∧ payload.length ≤ 128) ∧
  ∀ line, buildAtConfig sn.toNat id.toNat payload = some line →
    (∃ args, Received "AT#CONFIG" line args ∧
      ConfigPlane.parseConfig args =
        some
          { sn := sn
            config :=
              { dataId := id
                dataLen := UInt16.ofNat payload.length
                dataCrc32 := Checksum.crc32Ieee.ieee payload }
            payload := payload }) ∧
      ∀ hex, DigitChanged (pairs payload) hex →
        ∃ args command,
          Received "AT#CONFIG"
            (commandLine "AT#CONFIG"
              (configHeader sn.toNat id.toNat payload ++ [hex])) args ∧
            ConfigPlane.parseConfig args = some command ∧
              Checksum.crc32Ieee.ieee command.payload ≠
                command.config.dataCrc32

/-- `build_at_ldinit` takes every size up to 200 KiB, `cmd_ld_init` gets out
of `AT#LDINIT` what went in, and the CRC-16 agrees. -/
def LdInitRecovered
    (totalSize dataCrc32 : UInt32) (totalChunks lastChunkSize : UInt16) :
    Prop :=
  ((buildAtLdInit sn.toNat id.toNat totalSize.toNat totalChunks.toNat
      lastChunkSize.toNat dataCrc32.toNat).isSome = true ↔
    (0 < totalSize ∧ totalSize ≤ 204800) ∧ 0 < totalChunks ∧
      0 < lastChunkSize ∧ lastChunkSize ≤ 472) ∧
  ∀ line,
    buildAtLdInit sn.toNat id.toNat totalSize.toNat totalChunks.toNat
        lastChunkSize.toNat dataCrc32.toNat = some line →
      ∃ args command, Received "AT#LDINIT" line args ∧
        LdPlane.parseLdInit args = some command ∧
          command.sn = sn ∧ command.id = id.toUInt64 ∧
            command.total = totalSize.toUInt64 ∧
              command.chunks = totalChunks.toUInt64 ∧
                command.last = lastChunkSize.toUInt64 ∧
                  command.crc32 = dataCrc32.toUInt64 ∧
                    command.crc16.toNat ≤ 0xFFFF ∧
                      Checksum.crc16Ccitt command.crcBytes =
                        command.crc16.toUInt16

/-- `build_at_ld` takes 1 to 472 bytes, `cmd_ld_chunk` gets out of `AT#LD`
what went in, the CRC-16 agrees, and after a change of one digit of the payload
it does not. -/
def LdChunkRecovered (page chunk : UInt8) (payload : List UInt8) : Prop :=
  ((buildAtLd sn.toNat id.toNat page.toNat chunk.toNat payload).isSome = true ↔
    0 < payload.length ∧ payload.length ≤ 472) ∧
  ∀ line,
    buildAtLd sn.toNat id.toNat page.toNat chunk.toNat payload = some line →
      (∃ args, Received "AT#LD" line args ∧
        LdPlane.parseLdChunk args =
          some
            { sn := sn, id := id.toUInt64, page := page.toUInt64
              chunk := chunk.toUInt64
              crc16 := (Checksum.crc16Ccitt payload).toUInt64
              payload := payload }) ∧
        ∀ hex, DigitChanged (pairs payload) hex →
          ∃ args command,
            Received "AT#LD"
              (commandLine "AT#LD"
                (ldHeader sn.toNat id.toNat page.toNat chunk.toNat payload ++
                  [hex])) args ∧
              LdPlane.parseLdChunk args = some command ∧
                Checksum.crc16Ccitt command.payload ≠
                  command.crc16.toUInt16

variable {sn id}

theorem ByteChanged.crc32
    {payload other : List UInt8} (changed : ByteChanged payload other) :
    Checksum.crc32Ieee.ieee other ≠ Checksum.crc32Ieee.ieee payload := by
  obtain ⟨front, byte, byte', back, rfl, rfl, different⟩ := changed
  exact Checksum.crc32Ieee_change front back different.symm

theorem ByteChanged.crc16
    {payload other : List UInt8} (changed : ByteChanged payload other) :
    Checksum.crc16Ccitt other ≠ Checksum.crc16Ccitt payload := by
  obtain ⟨front, byte, byte', back, rfl, rfl, different⟩ := changed
  exact Checksum.crc16Ccitt_change front back different.symm

theorem reportRecovered (priority : UInt8) (payload : List UInt8) :
    ReportRecovered sn id priority payload := by
  refine ⟨?_, fun line built => ?_⟩
  · rw [buildAtReport, hostMaxReportSize, Option.isSome_ite]
  rw [buildAtReport, Option.ite_none_right_eq_some] at built
  obtain ⟨⟨nonempty, fits⟩, line⟩ := built
  cases line
  constructor
  · exact ⟨_, received_commandLine (by decide) (by decide)
      (reportHeader_printable (hexBytes_pairs payload)),
      parseReport_passed nonempty fits (hexBytes_pairs payload) rfl⟩
  · intro hex changed
    obtain ⟨other, decoded, byteChanged⟩ := changed.byteChanged
    exact ⟨_, _, received_commandLine (by decide) (by decide)
      (reportHeader_printable decoded),
      parseReport_passed nonempty fits decoded byteChanged.length,
      byteChanged.crc32⟩

theorem configRecovered (payload : List UInt8) :
    ConfigRecovered sn id payload := by
  refine ⟨?_, fun line built => ?_⟩
  · rw [buildAtConfig, hostMaxConfigSize, Option.isSome_ite]
  rw [buildAtConfig, Option.ite_none_right_eq_some] at built
  obtain ⟨⟨nonempty, fits⟩, line⟩ := built
  cases line
  constructor
  · exact ⟨_, received_commandLine (by decide) (by decide)
      (configHeader_printable (hexBytes_pairs payload)),
      parseConfig_passed nonempty fits (hexBytes_pairs payload) rfl⟩
  · intro hex changed
    obtain ⟨other, decoded, byteChanged⟩ := changed.byteChanged
    exact ⟨_, _, received_commandLine (by decide) (by decide)
      (configHeader_printable decoded),
      parseConfig_passed nonempty fits decoded byteChanged.length,
      byteChanged.crc32⟩

/-- The masks of `struct.pack` take nothing away. -/
theorem mask_eq {value width : Nat} (fits : value < 2 ^ width) :
    value &&& (2 ^ width - 1) = value := by
  rw [Nat.and_two_pow_sub_one_eq_mod, Nat.mod_eq_of_lt fits]

theorem ldInitRecovered
    (totalSize dataCrc32 : UInt32) (totalChunks lastChunkSize : UInt16) :
    LdInitRecovered sn id totalSize dataCrc32 totalChunks lastChunkSize := by
  refine ⟨?_, fun line built => ?_⟩
  · have chunks := totalChunks.toNat_lt
    rw [buildAtLdInit, Option.isSome_ite, UInt32.lt_iff_toNat_lt,
      UInt32.le_iff_toNat_le, UInt16.lt_iff_toNat_lt, UInt16.lt_iff_toNat_lt,
      UInt16.le_iff_toNat_le]
    simp only [largeDataMaxTransfer, atLdPayloadMax, UInt32.reduceToNat,
      UInt16.reduceToNat]
    omega
  rw [buildAtLdInit, Option.ite_none_right_eq_some] at built
  obtain ⟨-, line⟩ := built
  cases line
  have crc32 : dataCrc32.toNat &&& 0xFFFFFFFF = dataCrc32.toNat :=
    mask_eq dataCrc32.toNat_lt
  rw [crc32]
  refine ⟨_, _, received_commandLine (by decide) (by decide)
    ldInit_printable, parseLdInit_passed, rfl, rfl, rfl, rfl, rfl, rfl, ?_, ?_⟩
  · have bound := (Checksum.crc16Ccitt (ldInitMeta sn.toNat id.toNat
      totalSize.toNat totalChunks.toNat lastChunkSize.toNat
        dataCrc32.toNat)).toNat_lt
    rw [UInt16.toNat_toUInt64]
    omega
  · have sn64 : sn.toNat &&& 0xFFFFFFFFFFFFFFFF = sn.toNat :=
      mask_eq sn.toNat_lt
    have id16 : id.toNat &&& 0xFFFF = id.toNat := mask_eq id.toNat_lt
    have total32 : totalSize.toNat &&& 0xFFFFFFFF = totalSize.toNat :=
      mask_eq totalSize.toNat_lt
    have chunks16 : totalChunks.toNat &&& 0xFFFF = totalChunks.toNat :=
      mask_eq totalChunks.toNat_lt
    have last16 : lastChunkSize.toNat &&& 0xFFFF = lastChunkSize.toNat :=
      mask_eq lastChunkSize.toNat_lt
    simp [LdPlane.LdInitCommand.crcBytes, ldInitMeta, sn64, id16, total32,
      chunks16, last16, crc32]

theorem ldChunkRecovered (page chunk : UInt8) (payload : List UInt8) :
    LdChunkRecovered sn id page chunk payload := by
  refine ⟨?_, fun line built => ?_⟩
  · have short := id.toNat_lt
    have page8 := page.toNat_lt
    have chunk8 := chunk.toNat_lt
    rw [buildAtLd, Option.isSome_ite, atLdPayloadMax]
    omega
  rw [buildAtLd, Option.ite_none_right_eq_some] at built
  obtain ⟨⟨⟨nonempty, fits⟩, -⟩, line⟩ := built
  cases line
  constructor
  · exact ⟨_, received_commandLine (by decide) (by decide)
      (ldHeader_printable (hexBytes_pairs payload)),
      parseLdChunk_passed nonempty fits (hexBytes_pairs payload) rfl⟩
  · intro hex changed
    obtain ⟨other, decoded, byteChanged⟩ := changed.byteChanged
    refine ⟨_, _, received_commandLine (by decide) (by decide)
      (ldHeader_printable decoded),
      parseLdChunk_passed nonempty fits decoded byteChanged.length, ?_⟩
    rw [UInt16.toUInt16_toUInt64]
    exact byteChanged.crc16

end Recovery

/-- The commands of the device get out of the lines of the host what the
builders put in, whenever every number fits its field, and their checksums
show every change of one digit of a payload. -/
theorem hostLines_recovered (sn : UInt64) (id : UInt16) :
    (∀ priority payload, ReportRecovered sn id priority payload) ∧
      (∀ payload, ConfigRecovered sn id payload) ∧
        (∀ totalSize dataCrc32 totalChunks lastChunkSize,
          LdInitRecovered sn id totalSize dataCrc32 totalChunks
            lastChunkSize) ∧
          ∀ page chunk payload, LdChunkRecovered sn id page chunk payload :=
  ⟨reportRecovered, configRecovered, ldInitRecovered, ldChunkRecovered⟩

/-- One line of each command for the byte 7, and the lines with a payload of
which `07` has become `08`. -/
theorem hostLines_recovered_seven :
    (∃ line args, buildAtReport 5 1 [7] 0 = some line ∧
      Received "AT#REPORT" line args ∧
        (ReportPlane.parseReport args).map (·.payload) = some [7]) ∧
      (∃ args command,
        Received "AT#REPORT"
          (commandLine "AT#REPORT" (reportHeader 5 1 [7] 0 ++ [['0', '8']]))
          args ∧
        ReportPlane.parseReport args = some command ∧
          Checksum.crc32Ieee.ieee command.payload ≠
            command.report.dataCrc32) ∧
      (∃ line args, buildAtConfig 5 1 [7] = some line ∧
        Received "AT#CONFIG" line args ∧
          (ConfigPlane.parseConfig args).map (·.payload) = some [7]) ∧
      (∃ args command,
        Received "AT#CONFIG"
          (commandLine "AT#CONFIG" (configHeader 5 1 [7] ++ [['0', '8']]))
          args ∧
        ConfigPlane.parseConfig args = some command ∧
          Checksum.crc32Ieee.ieee command.payload ≠
            command.config.dataCrc32) ∧
      (∃ line args command, buildAtLdInit 5 1 1 1 1 9 = some line ∧
        Received "AT#LDINIT" line args ∧
          LdPlane.parseLdInit args = some command ∧ command.crc32 = 9 ∧
            Checksum.crc16Ccitt command.crcBytes = command.crc16.toUInt16) ∧
      (∃ line args, buildAtLd 5 1 0 0 [7] = some line ∧
        Received "AT#LD" line args ∧
          (LdPlane.parseLdChunk args).map (·.payload) = some [7]) ∧
      ∃ args command,
        Received "AT#LD"
          (commandLine "AT#LD" (ldHeader 5 1 0 0 [7] ++ [['0', '8']])) args ∧
        LdPlane.parseLdChunk args = some command ∧
          Checksum.crc16Ccitt command.payload ≠ command.crc16.toUInt16 := by
  have changed : DigitChanged (pairs [7]) ['0', '8'] :=
    ⟨['0'], '7', '8', [], rfl, rfl, 7, 8, rfl, rfl, by decide⟩
  obtain ⟨report, config, ldInit, ldChunk⟩ := hostLines_recovered 5 1
  obtain ⟨taken, report⟩ := report 0 [7]
  obtain ⟨line, built⟩ := Option.isSome_iff_exists.mp (taken.mpr (by decide))
  obtain ⟨⟨args, received, parsed⟩, other⟩ := report line built
  refine ⟨⟨line, args, built, received, by rw [parsed]; rfl⟩,
    other _ changed, ?_⟩
  obtain ⟨taken, config⟩ := config [7]
  obtain ⟨line, built⟩ := Option.isSome_iff_exists.mp (taken.mpr (by decide))
  obtain ⟨⟨args, received, parsed⟩, other⟩ := config line built
  refine ⟨⟨line, args, built, received, by rw [parsed]; rfl⟩,
    other _ changed, ?_⟩
  obtain ⟨taken, ldInit⟩ := ldInit 1 9 1 1
  obtain ⟨line, built⟩ := Option.isSome_iff_exists.mp (taken.mpr (by decide))
  obtain ⟨args, command, received, parsed, -, -, -, -, -, crc, -, intact⟩ :=
    ldInit line built
  refine ⟨⟨line, args, command, built, received, parsed, crc, intact⟩, ?_⟩
  obtain ⟨taken, ldChunk⟩ := ldChunk 0 0 [7]
  obtain ⟨line, built⟩ := Option.isSome_iff_exists.mp (taken.mpr (by decide))
  obtain ⟨⟨args, received, parsed⟩, other⟩ := ldChunk line built
  exact ⟨⟨line, args, built, received, by rw [parsed]; rfl⟩,
    other _ changed⟩

end DectMesh
