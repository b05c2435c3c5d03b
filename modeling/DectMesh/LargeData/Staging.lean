import DectMesh.Host.Parsers
import DectMesh.LargeData.Pages
import DectMesh.LargeData.Reassembly

/-!
# Staging a blob over the serial line

`send_large_data` of the host cuts a blob into `AT#LD` lines of 472 bytes; the
sensor that reads them one after the other ends with the blob in its pages and
a slot that is cut for the radio.
-/

namespace DectMesh

open ByteStore HexText

section Host

/-- `iter_ld_chunks` with its default chunk size; `none` is the
`ValueError`. -/
def iterLdChunks (blob : List UInt8) :
    Option (List (Nat × Nat × List UInt8)) :=
  (List.range ((blob.length + atLdPayloadMax - 1) / atLdPayloadMax)).mapM
    fun i =>
      if 0xFF < i / hostChunksPerPage then
        none
      else
        some (i / hostChunksPerPage, i % hostChunksPerPage,
          (blob.drop (i * atLdPayloadMax)).take atLdPayloadMax)

/-- The lines `send_large_data` writes: the announcement and the chunks. -/
def sendLargeData (sn dataId : Nat) (blob : List UInt8) :
    Option (List Char × List (List Char)) :=
  (iterLdChunks blob).bind fun chunks =>
  chunks.getLast?.bind fun last =>
  (buildAtLdInit sn dataId blob.length chunks.length last.2.2.length
    (zlibCrc32 blob)).bind fun init =>
  (chunks.mapM fun chunk =>
    buildAtLd sn dataId chunk.1 chunk.2.1 chunk.2.2).map fun lines =>
      (init, lines)

/-- `strstr(line, cmd) != NULL`. -/
def mentions (cmd : String) (text : List Char) : Bool :=
  (afterCommand cmd.toList text).isSome

/-- `dispatch` on a sensor, as far as the two large-data commands. -/
def sensorDispatch (text : List Char) : Option LdEvent :=
  if text = "OK".toList ∨ text = "ERROR".toList then
    none
  else if mentions "AT#REPORT" text ∨ mentions "#CONFIG" text then
    none
  else
    match afterCommand "AT#LDINIT".toList text with
    | some args => some (.cmdLdInit args)
    | none => (afterCommand "AT#LD".toList text).map .cmdLdChunk

/-- The sensor reads one line and dispatches it. -/
def SensorReads (line : List Char) (event : LdEvent) : Prop :=
  ∃ text, Lines.lines isLineEnd line = [text] ∧
    sensorDispatch text = some event

/-- The serial payload number `index` of a blob. -/
def serialPayload (blob : List UInt8) (index : Nat) : List UInt8 :=
  (blob.drop (index * 472)).take 472

/-- The number of serial payloads of a blob. -/
def serialCount (blob : List UInt8) : Nat := (blob.length + 471) / 472

end Host

section Lines

variable {blob : List UInt8} {index : Nat}

theorem serialPayload_length :
    (serialPayload blob index).length = min 472 (blob.length - index * 472) := by
  rw [serialPayload, List.length_take, List.length_drop]

theorem serialPayload_pos (below : index < serialCount blob) :
    0 < (serialPayload blob index).length := by
  rw [serialPayload_length]
  unfold serialCount at below
  omega

theorem serialCount_le (bound : blob.length ≤ ldMaxTransferSize) :
    serialCount blob ≤ 434 := by
  have limit : ldMaxTransferSize = 204800 := rfl
  unfold serialCount
  omega

theorem mapM_some {α β : Type} {f : α → Option β} {g : α → β} {xs : List α}
    (each : ∀ x ∈ xs, f x = some (g x)) : xs.mapM f = some (xs.map g) := by
  induction xs with
  | nil => rfl
  | cons x rest ih =>
      have later := ih fun other member =>
        each other (List.mem_cons_of_mem x member)
      rw [List.mapM_cons, each x List.mem_cons_self, later]
      rfl

theorem iterLdChunks_eq (bound : blob.length ≤ ldMaxTransferSize) :
    iterLdChunks blob =
      some ((List.range (serialCount blob)).map fun i =>
        (i / 32, i % 32, serialPayload blob i)) := by
  have count := serialCount_le bound
  have perPage : hostChunksPerPage = 32 := rfl
  refine mapM_some fun i member => ?_
  have below : i < serialCount blob := List.mem_range.mp member
  rw [if_neg (by rw [perPage]; omega)]
  rfl

/-- The line of one chunk of a blob. -/
def chunkLine (sn dataId : Nat) (blob : List UInt8) (index : Nat) :
    List Char :=
  commandLine "AT#LD"
    (ldHeader sn dataId (index / 32) (index % 32) (serialPayload blob index) ++
      [pairs (serialPayload blob index)])

/-- The line that announces a blob. -/
def initLine (sn dataId : Nat) (blob : List UInt8) : List Char :=
  commandLine "AT#LDINIT"
    [padded upper 16 sn, padded upper 4 dataId, padded upper 8 blob.length,
      padded upper 4 (serialCount blob),
      padded upper 4 (serialPayload blob (serialCount blob - 1)).length,
      padded upper 8 (zlibCrc32 blob),
      padded upper 4 (Checksum.crc16Ccitt (ldInitMeta sn dataId blob.length
        (serialCount blob) (serialPayload blob (serialCount blob - 1)).length
        (zlibCrc32 blob))).toNat]

/-- No builder refuses a part of an admissible blob. -/
theorem sendLargeData_eq
    {sn dataId : Nat} (nonempty : 1 ≤ blob.length)
    (bound : blob.length ≤ ldMaxTransferSize) (small : dataId ≤ 0xFFFF) :
    sendLargeData sn dataId blob =
      some (initLine sn dataId blob,
        (List.range (serialCount blob)).map (chunkLine sn dataId blob)) := by
  have count := serialCount_le bound
  have limit : ldMaxTransferSize = 204800 := rfl
  have hostLimit : largeDataMaxTransfer = 204800 := rfl
  have payloadMax : atLdPayloadMax = 472 := rfl
  have positive : 0 < serialCount blob := by
    unfold serialCount
    omega
  have last : ((List.range (serialCount blob)).map fun i =>
      (i / 32, i % 32, serialPayload blob i)).getLast? =
        some ((serialCount blob - 1) / 32, (serialCount blob - 1) % 32,
          serialPayload blob (serialCount blob - 1)) := by
    rw [List.getLast?_map, List.getLast?_range, if_neg (by omega)]
    rfl
  have lastPos :=
    @serialPayload_pos blob (serialCount blob - 1) (by omega)
  have lastLength := @serialPayload_length blob (serialCount blob - 1)
  have crc : zlibCrc32 blob &&& 0xFFFFFFFF = zlibCrc32 blob :=
    @mask_eq _ 32 (Nat.lt_succ_of_le (zlibCrc32_le blob))
  have init : buildAtLdInit sn dataId blob.length (serialCount blob)
      (serialPayload blob (serialCount blob - 1)).length (zlibCrc32 blob) =
        some (initLine sn dataId blob) := by
    rw [buildAtLdInit, if_pos (by omega), crc]
    rfl
  have lines : ((List.range (serialCount blob)).map fun i =>
      (i / 32, i % 32, serialPayload blob i)).mapM
        (fun chunk => buildAtLd sn dataId chunk.1 chunk.2.1 chunk.2.2) =
          some ((List.range (serialCount blob)).map
            (chunkLine sn dataId blob)) := by
    rw [List.mapM_map]
    refine mapM_some fun i member => ?_
    have below : i < serialCount blob := List.mem_range.mp member
    have some := serialPayload_pos below
    have length := @serialPayload_length blob i
    exact if_pos ⟨⟨some, by dsimp only; omega⟩, small, by dsimp only; omega,
      by dsimp only; omega⟩
  rw [sendLargeData, iterLdChunks_eq bound, Option.bind_some, last,
    Option.bind_some, List.length_map, List.length_range]
  change (buildAtLdInit sn dataId blob.length (serialCount blob)
      (serialPayload blob (serialCount blob - 1)).length
      (zlibCrc32 blob)).bind _ = _
  rw [init, Option.bind_some, lines, Option.map_some]

theorem initLine_length
    {sn : UInt64} {id : UInt8} (bound : blob.length ≤ ldMaxTransferSize) :
    (initLine sn.toNat id.toNat blob).length < slmUartAtCommandLen := by
  have limit : ldMaxTransferSize = 204800 := rfl
  have room : slmUartAtCommandLen = 1024 := rfl
  have count := serialCount_le bound
  have serial := sn.toNat_lt
  have small := id.toNat_lt
  have payload := @serialPayload_length blob (serialCount blob - 1)
  have crc := zlibCrc32_le blob
  have crc16 := (Checksum.crc16Ccitt (ldInitMeta sn.toNat id.toNat blob.length
    (serialCount blob) (serialPayload blob (serialCount blob - 1)).length
    (zlibCrc32 blob))).toNat_lt
  have sn16 := @padded_length upper 16 sn.toNat (by omega)
  have id4 := @padded_length upper 4 id.toNat (by omega)
  have size8 := @padded_length upper 8 blob.length (by omega)
  have count4 := @padded_length upper 4 (serialCount blob) (by omega)
  have last4 := @padded_length upper 4
    (serialPayload blob (serialCount blob - 1)).length (by omega)
  have crc8 := @padded_length upper 8 (zlibCrc32 blob) (by omega)
  have crc4 := @padded_length upper 4 _ (by simpa using crc16)
  have command : "AT#LDINIT".toList.length = 9 := rfl
  simp only [initLine, commandLine, quotedFields, List.length_append,
    List.length_cons, List.length_nil, sn16, id4, size8, count4, last4, crc8,
    crc4, command]
  omega

theorem chunkLine_length
    {sn : UInt64} {id : UInt8} (bound : blob.length ≤ ldMaxTransferSize)
    (below : index < serialCount blob) :
    (chunkLine sn.toNat id.toNat blob index).length < slmUartAtCommandLen := by
  have room : slmUartAtCommandLen = 1024 := rfl
  have count := serialCount_le bound
  have serial := sn.toNat_lt
  have small := id.toNat_lt
  have payload := @serialPayload_length blob index
  have hex := pairs_length (serialPayload blob index)
  have crc16 := (Checksum.crc16Ccitt (serialPayload blob index)).toNat_lt
  have sn16 := @padded_length upper 16 sn.toNat (by omega)
  have id4 := @padded_length upper 4 id.toNat (by omega)
  have page2 := @padded_length upper 2 (index / 32) (by omega)
  have chunk2 := @padded_length upper 2 (index % 32) (by omega)
  have crc4 := @padded_length upper 4 _ (by simpa using crc16)
  have command : "AT#LD".toList.length = 5 := rfl
  simp only [chunkLine, ldHeader, commandLine, quotedFields, List.cons_append,
    List.nil_append, List.length_append, List.length_cons, List.length_nil,
    sn16, id4, page2, chunk2, crc4, hex, command]
  omega

end Lines

section Dispatch

/-- What a text without one of its characters cannot mention. -/
theorem afterCommand_none
    {cmd text : List Char} {char : Char} (needed : char ∈ cmd)
    (absent : char ∉ text) : afterCommand cmd text = none := by
  induction text with
  | nil => rfl
  | cons first rest ih =>
      have starts : ¬ cmd.isPrefixOf (first :: rest) = true := fun begins =>
        absent ((List.isPrefixOf_iff_prefix.mp begins).subset needed)
      rw [afterCommand, if_neg starts]
      exact ih fun member => absent (List.mem_cons_of_mem _ member)

/-- A character that is neither hexadecimal nor punctuation does not occur
among quoted numbers. -/
theorem not_mem_quotedFields
    {fields : List (List Char)} {char : Char}
    (letter : hexNibble char = none) (notQuote : char ≠ '"')
    (notComma : char ≠ ',')
    (digits : ∀ field ∈ fields, ∀ digit ∈ field,
      (hexNibble digit).isSome = true) :
    char ∉ quotedFields fields := by
  have outside (field : List Char) (member : field ∈ fields) :
      char ∉ field := by
    intro inside
    have digit := digits field member char inside
    rw [letter] at digit
    cases digit
  clear digits
  induction fields with
  | nil => exact List.not_mem_nil
  | cons field rest ih =>
      have here := outside field List.mem_cons_self
      have below := ih fun other member =>
        outside other (List.mem_cons_of_mem _ member)
      cases rest with
      | nil => simp [quotedFields, notQuote, here]
      | cons next rest => simp [quotedFields, notQuote, notComma, here, below]

theorem padded_digits (width value : Nat) :
    ∀ digit ∈ padded upper width value, (hexNibble digit).isSome = true := by
  refine padded_all fun digit small => ?_
  rw [upper_readable digit small]
  rfl

theorem pairs_digits (bytes : List UInt8) :
    ∀ digit ∈ pairs bytes, (hexNibble digit).isSome = true :=
  hexBytes_digits (hexBytes_pairs bytes)

/-- Numbers, each with the width of its field. -/
theorem numbers_digits (numbers : List (Nat × Nat)) :
    ∀ field ∈ numbers.map fun number => padded upper number.1 number.2,
      ∀ digit ∈ field, (hexNibble digit).isSome = true := by
  intro field member
  obtain ⟨number, -, same⟩ := List.mem_map.mp member
  rw [← same]
  exact padded_digits _ _

/-- A command line is read as it was built. -/
theorem sensorReads_commandLine
    {cmd : String} {fields : List (List Char)} {event : LdEvent}
    (nonempty : cmd.toList ≠ [])
    (plain : cmd.toList.all (fun char => !isLineEnd char) = true)
    (digits : ∀ field ∈ fields, ∀ digit ∈ field,
      (hexNibble digit).isSome = true)
    (dispatched :
      sensorDispatch (cmd.toList ++ '=' :: quotedFields fields) =
        some event) :
    SensorReads (commandLine cmd fields) event :=
  ⟨_, lines_commandLine nonempty plain fun field member =>
    digits_printable (digits field member), dispatched⟩

variable {fields : List (List Char)}

/-- No text of either command is taken for another one. -/
theorem sensorDispatch_other
    {text : List Char} (start : text.head? = some 'A') (noR : 'R' ∉ text)
    (noG : 'G' ∉ text) :
    sensorDispatch text =
      match afterCommand "AT#LDINIT".toList text with
      | some args => some (.cmdLdInit args)
      | none => (afterCommand "AT#LD".toList text).map .cmdLdChunk := by
  have answers : ¬ (text = "OK".toList ∨ text = "ERROR".toList) := by
    rintro (rfl | rfl) <;> cases start
  have report : mentions "AT#REPORT" text = false := by
    rw [mentions, @afterCommand_none _ _ 'R' (by decide) noR]
    rfl
  have config : mentions "#CONFIG" text = false := by
    rw [mentions, @afterCommand_none _ _ 'G' (by decide) noG]
    rfl
  rw [sensorDispatch, if_neg answers, if_neg (by simp [report, config])]

theorem sensorDispatch_ldInit
    (digits : ∀ field ∈ fields, ∀ digit ∈ field,
      (hexNibble digit).isSome = true) :
    sensorDispatch ("AT#LDINIT".toList ++ '=' :: quotedFields fields) =
      some (.cmdLdInit ('=' :: quotedFields fields)) := by
  have noR := @not_mem_quotedFields fields 'R' rfl (by decide) (by decide)
    digits
  have noG := @not_mem_quotedFields fields 'G' rfl (by decide) (by decide)
    digits
  rw [sensorDispatch_other rfl (by simp [noR]) (by simp [noG]),
    afterCommand_append (by decide)]

theorem sensorDispatch_ld
    (digits : ∀ field ∈ fields, ∀ digit ∈ field,
      (hexNibble digit).isSome = true) :
    sensorDispatch ("AT#LD".toList ++ '=' :: quotedFields fields) =
      some (.cmdLdChunk ('=' :: quotedFields fields)) := by
  have noR := @not_mem_quotedFields fields 'R' rfl (by decide) (by decide)
    digits
  have noG := @not_mem_quotedFields fields 'G' rfl (by decide) (by decide)
    digits
  have noI := @not_mem_quotedFields fields 'I' rfl (by decide) (by decide)
    digits
  rw [sensorDispatch_other rfl (by simp [noR]) (by simp [noG]),
    @afterCommand_none _ _ 'I' (by decide) (by simp [noI]),
    afterCommand_append (by decide)]
  rfl

end Dispatch

section Reading

variable {sn : UInt64} {id : UInt8} {blob : List UInt8} {index : Nat}

/-- The arguments of the announcement of a blob. -/
def initArgs (sn : UInt64) (id : UInt8) (blob : List UInt8) : List Char :=
  '=' :: quotedFields
    [padded upper 16 sn.toNat, padded upper 4 id.toNat,
      padded upper 8 blob.length, padded upper 4 (serialCount blob),
      padded upper 4 (serialPayload blob (serialCount blob - 1)).length,
      padded upper 8 (zlibCrc32 blob),
      padded upper 4 (Checksum.crc16Ccitt (ldInitMeta sn.toNat id.toNat
        blob.length (serialCount blob)
        (serialPayload blob (serialCount blob - 1)).length
        (zlibCrc32 blob))).toNat]

/-- The arguments of a chunk of a blob. -/
def chunkArgs (sn : UInt64) (id : UInt8) (blob : List UInt8) (index : Nat) :
    List Char :=
  '=' :: quotedFields
    (ldHeader sn.toNat id.toNat (index / 32) (index % 32)
      (serialPayload blob index) ++ [pairs (serialPayload blob index)])

theorem initLine_read :
    SensorReads (initLine sn.toNat id.toNat blob)
      (.cmdLdInit (initArgs sn id blob)) := by
  have digits := numbers_digits
    [(16, sn.toNat), (4, id.toNat), (8, blob.length), (4, serialCount blob),
      (4, (serialPayload blob (serialCount blob - 1)).length),
      (8, zlibCrc32 blob),
      (4, (Checksum.crc16Ccitt (ldInitMeta sn.toNat id.toNat blob.length
        (serialCount blob) (serialPayload blob (serialCount blob - 1)).length
        (zlibCrc32 blob))).toNat)]
  exact sensorReads_commandLine (by decide) (by decide) digits
    (sensorDispatch_ldInit digits)

theorem chunkLine_read :
    SensorReads (chunkLine sn.toNat id.toNat blob index)
      (.cmdLdChunk (chunkArgs sn id blob index)) := by
  have digits : ∀ field ∈
      ldHeader sn.toNat id.toNat (index / 32) (index % 32)
        (serialPayload blob index) ++ [pairs (serialPayload blob index)],
      ∀ digit ∈ field, (hexNibble digit).isSome = true := by
    intro field member
    rcases List.mem_append.mp member with header | payload
    · exact numbers_digits
        [(16, sn.toNat), (4, id.toNat), (2, index / 32), (2, index % 32),
          (4, (Checksum.crc16Ccitt (serialPayload blob index)).toNat)] field
        header
    · rw [List.mem_singleton.mp payload]
      exact pairs_digits _
  exact sensorReads_commandLine (by decide) (by decide) digits
    (sensorDispatch_ld digits)

/-- What the announcement says. -/
def initCommand (sn : UInt64) (id : UInt8) (blob : List UInt8) :
    LdPlane.LdInitCommand where
  sn := sn
  id := id.toUInt16.toUInt64
  total := (UInt32.ofNat blob.length).toUInt64
  chunks := (UInt16.ofNat (serialCount blob)).toUInt64
  last := (UInt16.ofNat
    (serialPayload blob (serialCount blob - 1)).length).toUInt64
  crc32 := (Checksum.crc32Ieee.ieee blob).toUInt64
  crc16 := (Checksum.crc16Ccitt (ldInitMeta sn.toNat id.toNat blob.length
    (serialCount blob) (serialPayload blob (serialCount blob - 1)).length
    (zlibCrc32 blob))).toUInt64

/-- The numbers of an announcement fit their fields. -/
theorem initCommand_numbers (bound : blob.length ≤ ldMaxTransferSize) :
    (UInt32.ofNat blob.length).toNat = blob.length ∧
      (UInt16.ofNat (serialCount blob)).toNat = serialCount blob ∧
        (UInt16.ofNat
          (serialPayload blob (serialCount blob - 1)).length).toNat =
            (serialPayload blob (serialCount blob - 1)).length := by
  have limit : ldMaxTransferSize = 204800 := rfl
  have count := serialCount_le bound
  have payload := @serialPayload_length blob (serialCount blob - 1)
  rw [UInt32.toNat_ofNat', UInt16.toNat_ofNat', UInt16.toNat_ofNat']
  omega

theorem parseLdInit_initArgs (bound : blob.length ≤ ldMaxTransferSize) :
    LdPlane.parseLdInit (initArgs sn id blob) =
      some (initCommand sn id blob) := by
  obtain ⟨size, count, last⟩ := initCommand_numbers bound
  have passed := @parseLdInit_passed sn id.toUInt16 (UInt32.ofNat blob.length)
    (Checksum.crc32Ieee.ieee blob) (UInt16.ofNat (serialCount blob))
    (UInt16.ofNat (serialPayload blob (serialCount blob - 1)).length)
    (Checksum.crc16Ccitt (ldInitMeta sn.toNat id.toNat blob.length
      (serialCount blob) (serialPayload blob (serialCount blob - 1)).length
      (zlibCrc32 blob)))
  rw [size, count, last, UInt8.toNat_toUInt16] at passed
  exact passed

theorem initCommand_crc16 (bound : blob.length ≤ ldMaxTransferSize) :
    Checksum.crc16Ccitt (initCommand sn id blob).crcBytes =
      (initCommand sn id blob).crc16.toUInt16 := by
  obtain ⟨size, count, last⟩ := initCommand_numbers bound
  have sn64 : sn.toNat &&& 0xFFFFFFFFFFFFFFFF = sn.toNat := mask_eq sn.toNat_lt
  have id16 : id.toUInt16.toNat &&& 0xFFFF = id.toUInt16.toNat :=
    mask_eq id.toUInt16.toNat_lt
  have total32 : (UInt32.ofNat blob.length).toNat &&& 0xFFFFFFFF =
      (UInt32.ofNat blob.length).toNat :=
    mask_eq (UInt32.ofNat blob.length).toNat_lt
  have chunks16 : (UInt16.ofNat (serialCount blob)).toNat &&& 0xFFFF =
      (UInt16.ofNat (serialCount blob)).toNat :=
    mask_eq (UInt16.ofNat (serialCount blob)).toNat_lt
  have last16 := @mask_eq
    (UInt16.ofNat (serialPayload blob (serialCount blob - 1)).length).toNat 16
    (UInt16.toNat_lt _)
  have crc32 : zlibCrc32 blob &&& 0xFFFFFFFF = zlibCrc32 blob :=
    @mask_eq _ 32 (Nat.lt_succ_of_le (zlibCrc32_le blob))
  rw [size] at total32
  rw [count] at chunks16
  rw [last] at last16
  rw [UInt8.toNat_toUInt16] at id16
  norm_num at last16
  simp only [LdPlane.LdInitCommand.crcBytes, initCommand, ldInitMeta, sn64,
    id16, total32, chunks16, last16, crc32, UInt16.toNat_toUInt64,
    UInt32.toNat_toUInt64, UInt16.toUInt16_toUInt64, size, count, last,
    UInt8.toNat_toUInt16]
  rfl

theorem initCommand_inRange
    (nonempty : 1 ≤ blob.length) (bound : blob.length ≤ ldMaxTransferSize) :
    (initCommand sn id blob).inRange = true := by
  obtain ⟨size, count, last⟩ := initCommand_numbers bound
  have limit : ldMaxTransferSize = 204800 := rfl
  have payloadMax : atDataPayloadMax = 472 := rfl
  have counted := serialCount_le bound
  have payload := @serialPayload_length blob (serialCount blob - 1)
  have exact_ : serialCount blob = (blob.length + 471) / 472 := rfl
  have small := id.toNat_lt
  have crc := (Checksum.crc32Ieee.ieee blob).toNat_lt
  refine decide_eq_true ⟨?_, ?_, ?_, ?_, ?_, ?_, ?_, ?_, ?_⟩
  all_goals
    dsimp only [initCommand]
  · simp only [UInt16.toNat_toUInt64, UInt8.toNat_toUInt16]
    omega
  · rw [ne_eq, ← UInt64.toNat_inj, UInt32.toNat_toUInt64, size]
    change ¬ blob.length = 0
    omega
  · rw [UInt32.toNat_toUInt64, size]
    exact bound
  · rw [ne_eq, ← UInt64.toNat_inj, UInt16.toNat_toUInt64, count]
    change ¬ serialCount blob = 0
    omega
  · rw [UInt16.toNat_toUInt64, count]
    omega
  · rw [UInt32.toNat_toUInt64]
    omega
  · rw [ne_eq, ← UInt64.toNat_inj, UInt16.toNat_toUInt64, last]
    change ¬ (serialPayload blob (serialCount blob - 1)).length = 0
    omega
  · rw [UInt16.toNat_toUInt64, last]
    omega
  · have one : (1 : UInt64).toNat = 1 := rfl
    have least : (1 : UInt64) ≤
        (UInt16.ofNat (serialCount blob)).toUInt64 := by
      rw [UInt64.le_iff_toNat_le, UInt16.toNat_toUInt64, count, one]
      omega
    rw [← UInt64.toNat_inj, UInt64.toNat_add, UInt64.toNat_mul,
      UInt64.toNat_sub_of_le _ _ least, UInt64.toNat_ofNat',
      UInt32.toNat_toUInt64, UInt16.toNat_toUInt64, UInt16.toNat_toUInt64,
      size, count, last, one, payloadMax]
    omega

/-- What the line of a chunk says. -/
def chunkCommand (sn : UInt64) (id : UInt8) (blob : List UInt8) (index : Nat) :
    LdPlane.LdChunkCommand where
  sn := sn
  id := id.toUInt16.toUInt64
  page := (UInt8.ofNat (index / 32)).toUInt64
  chunk := (UInt8.ofNat (index % 32)).toUInt64
  crc16 := (Checksum.crc16Ccitt (serialPayload blob index)).toUInt64
  payload := serialPayload blob index

theorem parseLdChunk_chunkArgs
    (bound : blob.length ≤ ldMaxTransferSize)
    (below : index < serialCount blob) :
    LdPlane.parseLdChunk (chunkArgs sn id blob index) =
      some (chunkCommand sn id blob index) := by
  have payloadMax : atLdPayloadMax = 472 := rfl
  have count := serialCount_le bound
  have length := @serialPayload_length blob index
  have page : (UInt8.ofNat (index / 32)).toNat = index / 32 := by
    rw [UInt8.toNat_ofNat']
    omega
  have chunk : (UInt8.ofNat (index % 32)).toNat = index % 32 := by
    rw [UInt8.toNat_ofNat']
    omega
  have passed := @parseLdChunk_passed sn id.toUInt16 _ _ _
    (UInt8.ofNat (index / 32)) (UInt8.ofNat (index % 32))
    (serialPayload_pos below) (by omega)
    (hexBytes_pairs (serialPayload blob index)) rfl
  rw [page, chunk, UInt8.toNat_toUInt16] at passed
  exact passed

end Reading

section Staging

/-- The events are handled on one sensor with a serial number; time passes. -/
def OnSensor (board : Board) (sn : UInt64) (env : Env) : Prop :=
  env.toBoard = board ∧ env.serialNumber = sn

/-- What a slot holds once a blob is complete: the blob in its pages, cut for
the radio. -/
structure LdSlot.Holds (crc : Checksum) (slot : LdSlot) (mem : Store)
    (blob : List UInt8) : Prop where
  active : slot.active = true
  ready : slot.upstreamReady = true
  stored : slice mem slot.baseAddr.toNat blob.length = blob
  inside : slot.baseAddr.toNat + blob.length ≤ psramSize
  totalSize : slot.totalSize.toNat = blob.length
  totalChunks : slot.totalChunks.toNat = (blob.length + 179) / 180
  pageCount :
    slot.pageCount.toNat = ((blob.length + 179) / 180 + 31) / 32
  lastChunkSize :
    slot.lastChunkSize.toNat =
      blob.length - ((blob.length + 179) / 180 - 1) * 180
  crc32 : slot.crc32 = crc.ieee blob

/-- The first `count` payloads of a blob are staged. -/
structure LdStaging (board : Board) (id : UInt8) (blob : List UInt8)
    (idx : Fin ldReceiverSlotCount) (count : Nat) (s : LdPlane) : Prop where
  active : (s.slots idx).active = true
  gen : (s.slots idx).genDeviceId = board.deviceId
  dataId : (s.slots idx).dataId = id
  only : ∀ other, (s.slots other).active = true →
    (s.slots other).genDeviceId = board.deviceId →
      (s.slots other).dataId = id → other = idx
  totalSize : (s.slots idx).totalSize.toNat = blob.length
  totalChunks : (s.slots idx).totalChunks.toNat = serialCount blob
  crc32 : (s.slots idx).crc32 = Checksum.crc32Ieee.ieee blob
  received : (s.slots idx).receivedCount.toNat = count
  inside : (s.slots idx).baseAddr.toNat + blob.length ≤ psramSize
  blocks : ∀ index, index < count →
    BlockAt s.io.psram.mem (s.slots idx).baseAddr.toNat 472 blob index
  reliable : s.io.psram.Reliable

/-- Every payload is staged, and the slot is cut for the radio. -/
structure LdStaged (board : Board) (id : UInt8) (blob : List UInt8)
    (idx : Fin ldReceiverSlotCount) (s : LdPlane) : Prop where
  found : s.findLargeDataSlot board.deviceId id = some idx
  holds : (s.slots idx).Holds Checksum.crc32Ieee s.io.psram.mem blob
  reliable : s.io.psram.Reliable

variable {board : Board} {sn : UInt64} {id : UInt8} {blob : List UInt8}
variable {env : Env} {s : LdPlane} {idx : Fin ldReceiverSlotCount}

/-- The announcement of a blob takes a slot and the pages for it. -/
theorem cmdLdInit_staging
    (onSensor : OnSensor board sn env) (role : board.deviceType = .sensor)
    (crc16 : board.crc16 = Checksum.crc16Ccitt)
    (paired : env.connectedDeviceId ≠ 0xFFFF)
    (nonempty : 1 ≤ blob.length) (bound : blob.length ≤ ldMaxTransferSize)
    (reliable : s.io.psram.Reliable)
    (fresh : s.findLargeDataSlot board.deviceId id = none)
    (free : ∃ idx, (s.slots idx).active = false)
    (room : ∃ start, s.Room (UInt32.ofNat blob.length) start) :
    ∃ idx, LdStaging board id blob idx 0
      (s.cmdLdInit env (initArgs sn id blob)) := by
  obtain ⟨rfl, rfl⟩ := onSensor
  obtain ⟨size, count, last⟩ := initCommand_numbers bound
  have ours : (initCommand env.serialNumber id blob).id.toUInt8 = id :=
    UInt8.toNat_inj.mp (by simp [initCommand])
  have total : (initCommand env.serialNumber id blob).total.toUInt32 =
      UInt32.ofNat blob.length :=
    UInt32.toUInt32_toUInt64 _
  have chunks : (initCommand env.serialNumber id blob).chunks.toUInt16 =
      UInt16.ofNat (serialCount blob) :=
    UInt16.toUInt16_toUInt64 _
  have crc : (initCommand env.serialNumber id blob).crc32.toUInt32 =
      Checksum.crc32Ieee.ieee blob :=
    UInt32.toUInt32_toUInt64 _
  have checked : ¬ (0xFFFF <
        (initCommand env.serialNumber id blob).crc16.toNat ∨
      env.crc16 (initCommand env.serialNumber id blob).crcBytes ≠
        (initCommand env.serialNumber id blob).crc16.toUInt16) := by
    rw [not_or, not_not, crc16]
    refine ⟨?_, initCommand_crc16 bound⟩
    dsimp only [initCommand]
    rw [UInt16.toNat_toUInt64]
    exact Nat.not_lt.mpr (Nat.le_of_lt_succ (UInt16.toNat_lt _))
  have serial : ¬ (initCommand env.serialNumber id blob).sn ≠
      env.serialNumber :=
    not_not.mpr rfl
  rw [LdPlane.cmdLdInit, if_neg (not_not.mpr role), if_neg paired,
    parseLdInit_initArgs bound]
  dsimp only
  rw [if_neg checked, if_neg serial,
    if_neg (by simp [initCommand_inRange nonempty bound]), ours, fresh, total]
  dsimp only
  rcases allocated : s.allocLargeDataSlot (UInt32.ofNat blob.length) with
    _ | ⟨after, idx⟩
  · rw [allocLargeDataSlot_none (by omega)] at allocated
    obtain ⟨slot, inactive⟩ := free
    obtain ⟨start, run⟩ := room
    rcases allocated with full | none
    · rw [full slot] at inactive
      cases inactive
    · exact absurd run (none start)
  · obtain ⟨range, inactive, fits, rfl⟩ :=
      LdPlane.allocLargeDataSlot_some allocated
    have limit : ldMaxTransferSize = 204800 := rfl
    have pageSize : ldPageSize = 5760 := rfl
    have maxPages : ldMaxPageCount = 1092 := rfl
    have first : psramLargeDataBase = 2097152 := rfl
    have memory : psramSize = 8388608 := rfl
    obtain ⟨inside, pages, address, -⟩ := findPages_spec fits (by omega)
    rw [size, pageSize] at pages
    refine ⟨idx, ?_⟩
    constructor
    any_goals
      simp only [LdPlane.sendLine, LdPlane.setSlot, Function.update_self,
        LdPlane.hostSlot, LdPlane.allocatedSlot, ours, total, chunks, crc]
    · intro other active gen same
      by_contra different
      rw [Function.update_of_ne different, Function.update_of_ne different]
        at active gen same
      exact LdPlane.findLargeDataSlot_none fresh other active gen same
    · exact size
    · exact count
    · rfl
    · rw [address, pageSize]
      omega
    · intro index below
      cases below
    · simpa using reliable

/-- One more payload is in its place. -/
theorem LdStaging.add
    {count : Nat} {io : Io} {idleTimeout : NbTimeout}
    (staging : LdStaging board id blob idx count s)
    (bound : blob.length ≤ ldMaxTransferSize)
    (below : count < serialCount blob) (reliable : io.psram.Reliable)
    (mem : io.psram.mem = splice s.io.psram.mem
      ((s.slots idx).baseAddr.toNat + count * 472)
      (serialPayload blob count)) :
    LdStaging board id blob idx (count + 1)
      ({ s with io := io }.setSlot idx
        { s.slots idx with
          receivedCount := (s.slots idx).receivedCount + 1
          idleTimeout := idleTimeout }) := by
  constructor
  any_goals
    simp only [LdPlane.setSlot, Function.update_self]
  · exact staging.active
  · exact staging.gen
  · exact staging.dataId
  · intro other active gen same
    by_contra different
    rw [Function.update_of_ne different] at active gen same
    exact different (staging.only other active gen same)
  · exact staging.totalSize
  · exact staging.totalChunks
  · exact staging.crc32
  · have one : (1 : UInt16).toNat = 1 := rfl
    have most := serialCount_le bound
    rw [UInt16.toNat_add, staging.received, one]
    omega
  · exact staging.inside
  · intro index small
    rw [mem]
    rcases Nat.lt_succ_iff_lt_or_eq.mp small with earlier | rfl
    · exact (staging.blocks index earlier).splice_other (Nat.ne_of_lt earlier)
    · exact blockAt_splice _ _ _ _
  · exact reliable

/-- All payloads together are the blob. -/
theorem LdStaging.stored
    (staging : LdStaging board id blob idx (serialCount blob) s) :
    slice s.io.psram.mem (s.slots idx).baseAddr.toNat blob.length = blob := by
  refine slice_of_blocks (by decide) ?_ staging.blocks
  unfold serialCount
  omega

/-- The UART does not matter. -/
theorem LdStaging.sendLine
    {count : Nat} (staging : LdStaging board id blob idx count s)
    (text : AtLine) : LdStaging board id blob idx count (s.sendLine text) :=
  { staging with
    blocks := fun index below => by
      rw [LdPlane.sendLine, Io.sendLine_psram]
      exact staging.blocks index below
    reliable := by
      rw [LdPlane.sendLine, Io.sendLine_psram]
      exact staging.reliable }

theorem LdStaged.sendLine
    (staged : LdStaged board id blob idx s) (text : AtLine) :
    LdStaged board id blob idx (s.sendLine text) where
  found := by
    have found := staged.found
    unfold LdPlane.findLargeDataSlot at found ⊢
    exact found
  holds := by
    rw [LdPlane.sendLine, Io.sendLine_psram]
    exact staged.holds
  reliable := by
    rw [LdPlane.sendLine, Io.sendLine_psram]
    exact staged.reliable

/-- A slot with all its payloads is cut into radio chunks. -/
theorem LdStaging.complete
    {psram : Psram}
    (staging : LdStaging board id blob idx (serialCount blob) s)
    (nonempty : 1 ≤ blob.length) (bound : blob.length ≤ ldMaxTransferSize)
    (reliable : psram.Reliable) (mem : psram.mem = s.io.psram.mem) :
    LdStaged board id blob idx
      (({ s with io := { s.io with psram := psram } } : LdPlane).setSlot idx
        (LdPlane.stagedSlot (s.slots idx))) := by
  have limit : ldMaxTransferSize = 204800 := rfl
  have size : ldChunkSize = 180 := rfl
  have perPage : ldChunksPerPage = 32 := rfl
  have total := staging.totalSize
  have chunks : (UInt16.ofNat (chunksOf (s.slots idx).totalSize
      ldChunkSize)).toNat = (blob.length + 179) / 180 := by
    rw [UInt16.toNat_ofNat', chunksOf, total, size]
    omega
  refine ⟨?_, ?_, reliable⟩
  · apply LdPlane.findLargeDataSlot_of_only
    · simpa [LdPlane.setSlot, LdPlane.stagedSlot] using staging.active
    · simpa [LdPlane.setSlot, LdPlane.stagedSlot] using staging.gen
    · simpa [LdPlane.setSlot, LdPlane.stagedSlot] using staging.dataId
    · intro other active gen same
      by_contra different
      simp only [LdPlane.setSlot] at active gen same
      rw [Function.update_of_ne different] at active gen same
      exact different (staging.only other active gen same)
  · constructor
    any_goals
      simp only [LdPlane.setSlot, Function.update_self, LdPlane.stagedSlot]
    · exact staging.active
    · rw [mem]
      exact staging.stored
    · exact staging.inside
    · exact staging.totalSize
    · exact chunks
    · rw [UInt8.toNat_ofNat', chunks, perPage]
      omega
    · rw [UInt16.toNat_ofNat', chunks, total, size]
      omega
    · exact staging.crc32

/-- What a payload in its turn leaves behind. -/
theorem stageChunk_staging
    {count : Nat} (staging : LdStaging board id blob idx count s)
    (crc : env.crc = Checksum.crc32Ieee)
    (nonempty : 1 ≤ blob.length) (bound : blob.length ≤ ldMaxTransferSize)
    (below : count < serialCount blob) :
    (count + 1 < serialCount blob →
        LdStaging board id blob idx (count + 1)
          (s.stageChunk env idx count (serialPayload blob count))) ∧
      (count + 1 = serialCount blob →
        LdStaged board id blob idx
          (s.stageChunk env idx count (serialPayload blob count))) := by
  have inside := staging.inside
  have length := @serialPayload_length blob count
  have most := serialCount_le bound
  obtain ⟨io, wrote, reliable, mem⟩ :=
    @Io.write_reliable s.io staging.reliable
      ((s.slots idx).baseAddr.toNat + count * atDataPayloadMax)
      (serialPayload blob count) (by
        have payloadMax : atDataPayloadMax = 472 := rfl
        rw [payloadMax, length]
        unfold serialCount at below
        omega)
  have later := @LdStaging.add _ _ _ _ _ _ io
    ((s.slots idx).idleTimeout.start env.now) staging bound below reliable mem
  have full : (s.slots idx).totalChunks ≤ (s.slots idx).receivedCount + 1 ↔
      serialCount blob ≤ count + 1 := by
    have received := later.received
    simp only [LdPlane.setSlot, Function.update_self] at received
    rw [UInt16.le_iff_toNat_le, received, staging.totalChunks]
  unfold LdPlane.stageChunk
  dsimp only
  rw [wrote]
  dsimp only
  constructor
  · intro more
    rw [if_neg (by rw [full]; omega)]
    exact later.sendLine _
  · intro last
    rw [last] at later
    have checksum := later.stored
    obtain ⟨psram, verified, still, same⟩ :=
      @LdPlane.verifyCrc32_reliable _ idx env later.reliable
        (by rw [later.totalSize]; omega)
        (by rw [later.totalSize]; exact later.inside)
        (by rw [later.totalSize, later.stored, crc, later.crc32])
    rw [if_pos (full.mpr (by omega)), verified]
    exact (later.complete nonempty bound still same).sendLine _

/-- The line of the payload that is due is accepted. -/
theorem cmdLdChunk_staging
    {count : Nat} (staging : LdStaging board id blob idx count s)
    (onSensor : OnSensor board sn env) (role : board.deviceType = .sensor)
    (crc : board.crc = Checksum.crc32Ieee)
    (crc16 : board.crc16 = Checksum.crc16Ccitt)
    (nonempty : 1 ≤ blob.length) (bound : blob.length ≤ ldMaxTransferSize)
    (below : count < serialCount blob) :
    (count + 1 < serialCount blob →
        LdStaging board id blob idx (count + 1)
          (s.cmdLdChunk env (chunkArgs sn id blob count))) ∧
      (count + 1 = serialCount blob →
        LdStaged board id blob idx
          (s.cmdLdChunk env (chunkArgs sn id blob count))) := by
  obtain ⟨rfl, rfl⟩ := onSensor
  have most := serialCount_le bound
  have perPage : ldChunksPerPage = 32 := rfl
  have payloadMax : atDataPayloadMax = 472 := rfl
  have length := @serialPayload_length blob count
  have exact_ : serialCount blob = (blob.length + 471) / 472 := rfl
  have found := LdPlane.findLargeDataSlot_of_only staging.active staging.gen
    staging.dataId staging.only
  have ours : (chunkCommand env.serialNumber id blob count).id.toUInt8 = id :=
    UInt8.toNat_inj.mp (by simp [chunkCommand])
  have page : (chunkCommand env.serialNumber id blob count).page.toNat =
      count / 32 := by
    rw [chunkCommand, UInt8.toNat_toUInt64, UInt8.toNat_ofNat']
    omega
  have chunk : (chunkCommand env.serialNumber id blob count).chunk.toNat =
      count % 32 := by
    rw [chunkCommand, UInt8.toNat_toUInt64, UInt8.toNat_ofNat']
    omega
  have small : (chunkCommand env.serialNumber id blob count).id.toNat < 256 := by
    simpa [chunkCommand] using id.toNat_lt
  have checked : ¬ (0xFFFF <
        (chunkCommand env.serialNumber id blob count).crc16.toNat ∨
      env.crc16 (chunkCommand env.serialNumber id blob count).payload ≠
        (chunkCommand env.serialNumber id blob count).crc16.toUInt16) := by
    rw [not_or, not_not, crc16]
    refine ⟨?_, (UInt16.toUInt16_toUInt64 _).symm⟩
    dsimp only [chunkCommand]
    rw [UInt16.toNat_toUInt64]
    exact Nat.not_lt.mpr (Nat.le_of_lt_succ (UInt16.toNat_lt _))
  have serial : ¬ (chunkCommand env.serialNumber id blob count).sn ≠
      env.serialNumber :=
    not_not.mpr rfl
  have position : count / 32 * 32 + count % 32 = count := by omega
  have expected : LdPlane.expectedSize (s.slots idx) count =
      (serialPayload blob count).length := by
    rw [LdPlane.expectedSize, staging.totalChunks, length]
    split
    · have offset : (UInt32.ofNat (count * atDataPayloadMax)).toNat =
          count * 472 := by
        rw [UInt32.toNat_ofNat', payloadMax]
        omega
      have least : UInt32.ofNat (count * atDataPayloadMax) ≤
          (s.slots idx).totalSize := by
        rw [UInt32.le_iff_toNat_le, offset, staging.totalSize]
        omega
      rw [UInt32.toNat_toUInt16, UInt32.toNat_sub_of_le _ _ least, offset,
        staging.totalSize]
      omega
    · omega
  have fits : ¬ (chunkCommand env.serialNumber id blob count).payload.length ≠
      LdPlane.expectedSize (s.slots idx) count :=
    not_not.mpr expected.symm
  have next : s.cmdLdChunk env (chunkArgs env.serialNumber id blob count) =
      s.stageChunk env idx count (serialPayload blob count) := by
    rw [LdPlane.cmdLdChunk, if_neg (not_not.mpr role),
      parseLdChunk_chunkArgs bound below]
    dsimp only
    rw [if_neg checked, if_neg serial, if_neg (by rw [page, chunk]; omega),
      ours, found]
    dsimp only
    rw [page, chunk, perPage, position,
      if_neg (by rw [staging.totalChunks]; omega),
      if_neg fits,
      if_neg (by rw [staging.received]; omega)]
    rfl
  rw [next]
  exact stageChunk_staging staging crc nonempty bound below

/-- The events of the chunks from `first` on. -/
def chunkEvents (sn : UInt64) (id : UInt8) (blob : List UInt8)
    (first count : Nat) : List LdEvent :=
  (List.range' first count).map fun index =>
    .cmdLdChunk (chunkArgs sn id blob index)

/-- The chunks that are still to come complete the blob. -/
theorem run_chunkEvents
    (role : board.deviceType = .sensor)
    (crc : board.crc = Checksum.crc32Ieee)
    (crc16 : board.crc16 = Checksum.crc16Ccitt)
    (nonempty : 1 ≤ blob.length) (bound : blob.length ≤ ldMaxTransferSize) :
    ∀ (envs : List Env) (count : Nat) (s : LdPlane),
      (∀ env ∈ envs, OnSensor board sn env) →
        LdStaging board id blob idx count s → envs ≠ [] →
          count + envs.length = serialCount blob →
            Trace.Ends ldStep s
              (envs.zip (chunkEvents sn id blob count envs.length))
              (LdStaged board id blob idx)
  | [], _, _, _, _, pending, _ => absurd rfl pending
  | env :: rest, count, s, onSensor, staging, _, total => by
      rw [List.length_cons] at total
      have cleared : LdStaging board id blob idx count s.clearOut :=
        { staging with }
      obtain ⟨more, last⟩ := cmdLdChunk_staging cleared
        (onSensor env List.mem_cons_self) role crc crc16 nonempty bound
        (by omega)
      rw [List.length_cons, chunkEvents, List.range'_succ, List.map_cons,
        List.zip_cons_cons]
      by_cases done : rest = []
      · subst done
        exact ⟨_, rfl, last total⟩
      · have positive := List.length_pos_of_ne_nil done
        obtain ⟨s', executed, staged⟩ :=
          run_chunkEvents role crc crc16 nonempty bound rest (count + 1) _
            (fun other member => onSensor other (List.mem_cons_of_mem _ member))
            (more (by omega)) done (by omega)
        exact ⟨s', executed, staged⟩

/-- Every blob of an admissible size is staged by the lines of its transfer:
each fits the command buffer, and the sensor that reads them in order ends
with the blob in the pages of one slot. -/
theorem sendLargeData_staged
    (role : board.deviceType = .sensor)
    (crc : board.crc = Checksum.crc32Ieee)
    (crc16 : board.crc16 = Checksum.crc16Ccitt)
    (nonempty : 1 ≤ blob.length) (bound : blob.length ≤ ldMaxTransferSize)
    (reliable : s.io.psram.Reliable)
    (fresh : s.findLargeDataSlot board.deviceId id = none)
    (free : ∃ idx, (s.slots idx).active = false)
    (room : ∃ start, s.Room (UInt32.ofNat blob.length) start)
    (onSensor : OnSensor board sn env)
    (paired : env.connectedDeviceId ≠ 0xFFFF)
    {envs : List Env} (clock : ∀ env ∈ envs, OnSensor board sn env)
    (each : envs.length = serialCount blob) :
    ∃ idx, Trace.Ends ldStep s
      ((env, .cmdLdInit (initArgs sn id blob)) ::
        envs.zip (chunkEvents sn id blob 0 envs.length))
      (LdStaged board id blob idx) := by
  obtain ⟨idx, started⟩ := @cmdLdInit_staging board sn id blob env s.clearOut
    onSensor role crc16 paired nonempty bound reliable
    (by
      unfold LdPlane.findLargeDataSlot at fresh ⊢
      exact fresh) free room
  have pending : envs ≠ [] := by
    rintro rfl
    have count : serialCount blob = (blob.length + 471) / 472 := rfl
    rw [List.length_nil] at each
    omega
  obtain ⟨s', executed, staged⟩ := run_chunkEvents role crc crc16 nonempty
    bound envs 0 _ clock started pending (by omega)
  exact ⟨idx, s', executed, staged⟩

end Staging

end DectMesh
