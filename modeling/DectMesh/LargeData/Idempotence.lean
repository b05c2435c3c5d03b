import DectMesh.LargeData.Staging

/-!
# Repeated and reordered `AT#LD` lines

`cmd_ld_chunk` takes a line for a repetition when its place is below the
number of payloads staged so far, and once a blob is complete it does so in the
geometry of the radio.  Staging is sound and idempotent along the runs in
which this comparison tells the truth.
-/

namespace DectMesh

open ByteStore

/-- What an `AT#LD` line is about: the place of a payload, and the payload. -/
abbrev HostChunk := Nat × List UInt8

namespace LdPlane

/-- The line is in the range of the slot and has the size of its place. -/
def Fits (slot : LdSlot) (line : HostChunk) : Prop :=
  line.1 < slot.totalChunks.toNat ∧ line.2.length = expectedSize slot line.1

instance (slot : LdSlot) (line : HostChunk) : Decidable (Fits slot line) :=
  inferInstanceAs (Decidable (_ ∧ _))

variable (s : LdPlane) (env : Env)

/-- The slot and the line that the arguments of an `AT#LD` name, once they have
passed every check of `cmd_ld_chunk` that does not look into the slot. -/
def namedChunk (args : List Char) :
    Option (Fin ldReceiverSlotCount × HostChunk) :=
  if env.deviceType ≠ .sensor then
    none
  else
    (parseLdChunk args).bind fun command =>
      if 0xFFFF < command.crc16.toNat ∨
          env.crc16 command.payload ≠ command.crc16.toUInt16 then
        none
      else if command.sn ≠ env.serialNumber then
        none
      else if 0xFF < command.id.toNat ∨ 0xFF < command.page.toNat ∨
          ldChunksPerPage ≤ command.chunk.toNat then
        none
      else
        (s.findLargeDataSlot env.deviceId command.id.toUInt8).map fun idx =>
          (idx, command.page.toNat * ldChunksPerPage + command.chunk.toNat,
            command.payload)

/-- What staging a line does before it is answered, and the answer. -/
def stageAnswer (idx : Fin ldReceiverSlotCount) (line : HostChunk) :
    LdPlane × AtLine :=
  let slot := s.slots idx
  match s.io.write (slot.baseAddr.toNat + line.1 * atDataPayloadMax)
      line.2 with
  | (io, some _) => ({ s with io := io }.freeLargeDataSlot idx 255, .error)
  | (io, none) =>
      let s := { s with io := io }.setSlot idx (slot.staged env)
      if slot.totalChunks ≤ slot.receivedCount + 1 then
        match s.verifyCrc32 env idx with
        | (s, false) => (s.freeLargeDataSlot idx 255, .error)
        | (s, true) => (s.setSlot idx (stagedSlot (s.slots idx)), .ok)
      else
        (s, .ok)

/-- What a line for a slot does before it is answered, and the answer. -/
def lineAnswer (idx : Fin ldReceiverSlotCount) (line : HostChunk) :
    LdPlane × AtLine :=
  if Fits (s.slots idx) line then
    if line.1 < (s.slots idx).receivedCount.toNat then
      (s, .ok)
    else
      s.stageAnswer env idx line
  else
    (s, .error)

/-- What an `AT#LD` does before it is answered, and the answer. -/
def chunkAnswer (args : List Char) : LdPlane × AtLine :=
  match s.namedChunk env args with
  | none => (s, .error)
  | some (idx, line) => s.lineAnswer env idx line

end LdPlane

/-- The lines after an answer. -/
def linesAfter (accepted : Fin ldReceiverSlotCount → Finset HostChunk)
    (idx : Fin ldReceiverSlotCount) (line : HostChunk) (answer : AtLine) :
    Fin ldReceiverSlotCount → Finset HostChunk :=
  if answer = .ok then
    Function.update accepted idx (insert line (accepted idx))
  else
    accepted

/-- A sensor, and for each slot the lines that were answered `OK` since the
slot was taken. -/
structure StagingLog where
  plane : LdPlane
  accepted : Fin ldReceiverSlotCount → Finset HostChunk

namespace StagingLog

def boot (io : Io) : StagingLog where
  plane := .boot io
  accepted := fun _ => ∅

variable (log : StagingLog)

/-- A slot that is not in use has no lines. -/
def kept (idx : Fin ldReceiverSlotCount) : Finset HostChunk :=
  if (log.plane.slots idx).active then log.accepted idx else ∅

/-- The record after an event. -/
def record (event : Env × LdEvent) :
    Fin ldReceiverSlotCount → Finset HostChunk :=
  match event.2 with
  | .cmdLdChunk args =>
      match log.plane.namedChunk event.1 args with
      | some (idx, line) =>
          linesAfter log.kept idx line
            (log.plane.clearOut.chunkAnswer event.1 args).2
      | none => log.kept
  | _ => log.kept

def step (event : Env × LdEvent) : Except Fault StagingLog :=
  (ldStep log.plane event).map fun plane =>
    { plane := plane, accepted := log.record event }

end StagingLog

/-- A line that was accepted is still recognised in the geometry the slot has
now; a new one lies at or above the counter, for a place without a payload. -/
structure InTurn (slot : LdSlot) (accepted : Finset HostChunk)
    (line : HostChunk) : Prop where
  repeated : line ∈ accepted →
    LdPlane.Fits slot line ∧ line.1 < slot.receivedCount.toNat
  fresh : line ∉ accepted → LdPlane.Fits slot line →
    slot.receivedCount.toNat ≤ line.1 ∧
      ∀ payload, (line.1, payload) ∉ accepted

/-- The events of a sensor whose host sends every line in turn. -/
def LinesInTurn (board : Board) (log : StagingLog) (event : Env × LdEvent) :
    Prop :=
  LdOnBoard board log.plane event ∧
    ∀ args idx line, event.2 = .cmdLdChunk args →
      log.plane.namedChunk event.1 args = some (idx, line) →
        InTurn (log.plane.slots idx) (log.accepted idx) line

/-- What a slot on a sensor has to do with the lines accepted for it. -/
structure StagedSlot (crc : Checksum) (mem : Store) (slot : LdSlot)
    (accepted : Finset HostChunk) : Prop where
  inside : ∀ line ∈ accepted,
    line.1 < chunksOf slot.totalSize atDataPayloadMax ∧
      line.2.length =
        min atDataPayloadMax
          (slot.totalSize.toNat - line.1 * atDataPayloadMax)
  stored : ∀ line ∈ accepted,
    slice mem (slot.baseAddr.toNat + line.1 * atDataPayloadMax)
      line.2.length = line.2
  single : Set.InjOn Prod.fst (accepted : Set HostChunk)
  waiting : slot.upstreamReady = false →
    slot.totalChunks.toNat = chunksOf slot.totalSize atDataPayloadMax ∧
      slot.receivedCount.toNat = accepted.card ∧
        accepted.card < chunksOf slot.totalSize atDataPayloadMax
  complete : slot.upstreamReady = true →
    accepted.card = chunksOf slot.totalSize atDataPayloadMax ∧
      slot.receivedCount = slot.totalChunks ∧
        crc.ieee (slice mem slot.baseAddr.toNat slot.totalSize.toNat) =
          slot.crc32

/-- Every slot in use has to do with its lines. -/
def StagingSound (crc : Checksum) (s : LdPlane)
    (accepted : Fin ldReceiverSlotCount → Finset HostChunk) : Prop :=
  ∀ idx, (s.slots idx).active = true →
    StagedSlot crc s.io.psram.mem (s.slots idx) (accepted idx)

section Answers

variable {env : Env} {s : LdPlane} {args : List Char}
variable {idx : Fin ldReceiverSlotCount} {line : HostChunk}

namespace LdPlane

theorem stageChunk_eq :
    s.stageChunk env idx line.1 line.2 =
      (s.stageAnswer env idx line).1.sendLine
        (s.stageAnswer env idx line).2 := by
  unfold stageChunk stageAnswer LdSlot.staged
  dsimp only
  rcases s.io.write ((s.slots idx).baseAddr.toNat + line.1 * atDataPayloadMax)
    line.2 with ⟨io, _ | errno⟩
  · dsimp only
    by_cases full : (s.slots idx).totalChunks ≤ (s.slots idx).receivedCount + 1
    · rw [if_pos full, if_pos full]
      rcases verifyCrc32 _ _ _ with ⟨after, _ | _⟩ <;> rfl
    · rw [if_neg full, if_neg full]
  · rfl

/-- The part of `cmd_ld_chunk` that looks into the slot. -/
theorem lineAnswer_eq :
    (if (s.slots idx).totalChunks.toNat ≤ line.1 then
      s.sendLine .error
    else if line.2.length ≠ expectedSize (s.slots idx) line.1 then
      s.sendLine .error
    else if line.1 < (s.slots idx).receivedCount.toNat then
      s.sendLine .ok
    else
      s.stageChunk env idx line.1 line.2) =
        (s.lineAnswer env idx line).1.sendLine
          (s.lineAnswer env idx line).2 := by
  unfold lineAnswer
  by_cases fits : Fits (s.slots idx) line
  · rw [if_pos fits, if_neg (Nat.not_le.mpr fits.1),
      if_neg (not_not.mpr fits.2)]
    by_cases staged : line.1 < (s.slots idx).receivedCount.toNat
    · rw [if_pos staged, if_pos staged]
    · rw [if_neg staged, if_neg staged]
      exact stageChunk_eq
  · rw [if_neg fits]
    split
    · rfl
    · next below =>
      have size : line.2.length ≠ expectedSize (s.slots idx) line.1 :=
        fun same => fits ⟨Nat.not_le.mp below, same⟩
      rw [if_pos size]

theorem cmdLdChunk_eq :
    s.cmdLdChunk env args =
      (s.chunkAnswer env args).1.sendLine (s.chunkAnswer env args).2 := by
  unfold cmdLdChunk chunkAnswer namedChunk
  split
  · rfl
  · cases parseLdChunk args with
    | none => rfl
    | some command =>
        dsimp only [Option.bind_some]
        split
        · rfl
        · split
          · rfl
          · split
            · rfl
            · cases s.findLargeDataSlot env.deviceId command.id.toUInt8 with
              | none => rfl
              | some idx => exact @lineAnswer_eq env s idx (_, command.payload)

theorem namedChunk_active (named : s.namedChunk env args = some (idx, line)) :
    (s.slots idx).active = true := by
  unfold namedChunk at named
  split at named
  · cases named
  · obtain ⟨command, parsed, passed⟩ := Option.bind_eq_some_iff.mp named
    split at passed
    · cases passed
    · split at passed
      · cases passed
      · split at passed
        · cases passed
        · obtain ⟨found, search, same⟩ := Option.map_eq_some_iff.mp passed
          cases same
          exact (findLargeDataSlot_some search).1

theorem namedChunk_clearOut :
    s.clearOut.namedChunk env args = s.namedChunk env args := by
  unfold namedChunk findLargeDataSlot
  rfl

/-- A line of the host names its place and its payload. -/
theorem namedChunk_chunkArgs {id : UInt8} {blob : List UInt8} {index : Nat}
    (role : env.deviceType = .sensor)
    (crc16 : env.crc16 = Checksum.crc16Ccitt)
    (bound : blob.length ≤ ldMaxTransferSize)
    (below : index < serialCount blob) :
    s.namedChunk env (chunkArgs env.serialNumber id blob index) =
      (s.findLargeDataSlot env.deviceId id).map fun idx =>
        (idx, index, serialPayload blob index) := by
  have most := serialCount_le bound
  have perPage : ldChunksPerPage = 32 := rfl
  have ours : (chunkCommand env.serialNumber id blob index).id.toUInt8 = id :=
    UInt8.toNat_inj.mp (by simp [chunkCommand])
  have page : (chunkCommand env.serialNumber id blob index).page.toNat =
      index / 32 := by
    rw [chunkCommand, UInt8.toNat_toUInt64, UInt8.toNat_ofNat']
    omega
  have chunk : (chunkCommand env.serialNumber id blob index).chunk.toNat =
      index % 32 := by
    rw [chunkCommand, UInt8.toNat_toUInt64, UInt8.toNat_ofNat']
    omega
  have small : (chunkCommand env.serialNumber id blob index).id.toNat < 256 := by
    simpa [chunkCommand] using id.toNat_lt
  have checked : ¬ (0xFFFF <
        (chunkCommand env.serialNumber id blob index).crc16.toNat ∨
      env.crc16 (chunkCommand env.serialNumber id blob index).payload ≠
        (chunkCommand env.serialNumber id blob index).crc16.toUInt16) := by
    rw [not_or, not_not, crc16]
    refine ⟨?_, (UInt16.toUInt16_toUInt64 _).symm⟩
    dsimp only [chunkCommand]
    rw [UInt16.toNat_toUInt64]
    exact Nat.not_lt.mpr (Nat.le_of_lt_succ (UInt16.toNat_lt _))
  have serial : ¬ (chunkCommand env.serialNumber id blob index).sn ≠
      env.serialNumber :=
    not_not.mpr rfl
  have position : index / 32 * 32 + index % 32 = index := by omega
  rw [namedChunk, if_neg (not_not.mpr role), parseLdChunk_chunkArgs bound below,
    Option.bind_some, if_neg checked, if_neg serial,
    if_neg (by rw [page, chunk]; omega), ours, page, chunk, perPage, position]
  rfl

/-- A repeated line that is recognised is answered, and nothing else. -/
theorem chunkAnswer_repeated
    (named : s.namedChunk env args = some (idx, line))
    (fits : Fits (s.slots idx) line)
    (staged : line.1 < (s.slots idx).receivedCount.toNat) :
    s.chunkAnswer env args = (s, .ok) := by
  rw [chunkAnswer, named]
  dsimp only
  rw [lineAnswer, if_pos fits, if_pos staged]

theorem cmdLdChunk_repeated
    (named : s.namedChunk env args = some (idx, line))
    (fits : Fits (s.slots idx) line)
    (staged : line.1 < (s.slots idx).receivedCount.toNat) :
    s.cmdLdChunk env args = s.sendLine .ok := by
  rw [cmdLdChunk_eq, chunkAnswer_repeated named fits staged]

end LdPlane

end Answers

section Lines

variable {crc : Checksum} {mem mem' : Store} {slot slot' : LdSlot}
variable {accepted : Finset HostChunk} {line : HostChunk}

/-- As many lines as places, and no place twice: every place has its line. -/
theorem card_eq_iff_covered {count : Nat}
    (inside : ∀ line ∈ accepted, line.1 < count)
    (single : Set.InjOn Prod.fst (accepted : Set HostChunk)) :
    accepted.card = count ↔
      ∀ place, place < count → ∃ payload, (place, payload) ∈ accepted := by
  have places : accepted.image Prod.fst ⊆ Finset.range count := by
    intro place member
    obtain ⟨line, known, rfl⟩ := Finset.mem_image.mp member
    exact Finset.mem_range.mpr (inside line known)
  have size : (accepted.image Prod.fst).card = accepted.card :=
    Finset.card_image_of_injOn single
  constructor
  · intro full place below
    have all : accepted.image Prod.fst = Finset.range count :=
      Finset.eq_of_subset_of_card_le places (by rw [Finset.card_range, size, full])
    have member : place ∈ accepted.image Prod.fst := by
      rw [all]
      exact Finset.mem_range.mpr below
    obtain ⟨⟨_, payload⟩, known, rfl⟩ := Finset.mem_image.mp member
    exact ⟨payload, known⟩
  · intro covered
    have all : Finset.range count ⊆ accepted.image Prod.fst := by
      intro place below
      obtain ⟨payload, known⟩ := covered place (Finset.mem_range.mp below)
      exact Finset.mem_image.mpr ⟨_, known, rfl⟩
    rw [← size, Finset.Subset.antisymm places all, Finset.card_range]

/-- The size `cmd_ld_chunk` expects before the blob is complete. -/
theorem expectedSize_announced {place : Nat}
    (bound : slot.totalSize.toNat ≤ ldMaxTransferSize)
    (count : slot.totalChunks.toNat = chunksOf slot.totalSize atDataPayloadMax)
    (below : place < slot.totalChunks.toNat) :
    LdPlane.expectedSize slot place =
      min atDataPayloadMax
        (slot.totalSize.toNat - place * atDataPayloadMax) := by
  have limit : ldMaxTransferSize = 204800 := rfl
  have payloadMax : atDataPayloadMax = 472 := rfl
  rw [chunksOf, payloadMax] at count
  rw [LdPlane.expectedSize]
  split
  · have offset : (UInt32.ofNat (place * atDataPayloadMax)).toNat =
        place * 472 := by
      rw [UInt32.toNat_ofNat', payloadMax]
      omega
    have least : UInt32.ofNat (place * atDataPayloadMax) ≤ slot.totalSize := by
      rw [UInt32.le_iff_toNat_le, offset]
      omega
    rw [UInt32.toNat_toUInt16, UInt32.toNat_sub_of_le _ _ least, offset,
      payloadMax]
    omega
  · rw [payloadMax]
    omega

/-- Only the content of the slot and its bytes matter. -/
theorem StagedSlot.congr (staged : StagedSlot crc mem slot accepted)
    (same : slot'.content = slot.content)
    (agree : AgreeOn mem' mem slot.baseAddr.toNat
      (slot.baseAddr.toNat + slot.totalSize.toNat)) :
    StagedSlot crc mem' slot' accepted := by
  have totalSize : slot'.totalSize = slot.totalSize :=
    (congrArg LdSlot.totalSize same :)
  have baseAddr : slot'.baseAddr = slot.baseAddr :=
    (congrArg LdSlot.baseAddr same :)
  have ready : slot'.upstreamReady = slot.upstreamReady :=
    (congrArg LdSlot.upstreamReady same :)
  have totalChunks : slot'.totalChunks = slot.totalChunks :=
    (congrArg LdSlot.totalChunks same :)
  have received : slot'.receivedCount = slot.receivedCount :=
    (congrArg LdSlot.receivedCount same :)
  have crc32 : slot'.crc32 = slot.crc32 := (congrArg LdSlot.crc32 same :)
  constructor
  · rw [totalSize]
    exact staged.inside
  · intro line known
    obtain ⟨below, length⟩ := staged.inside line known
    have payloadMax : atDataPayloadMax = 472 := rfl
    rw [chunksOf, payloadMax] at below
    have upper : slot.baseAddr.toNat + line.1 * atDataPayloadMax +
        line.2.length ≤ slot.baseAddr.toNat + slot.totalSize.toNat := by
      rw [payloadMax] at length ⊢
      omega
    rw [baseAddr, slice_congr agree (Nat.le_add_right _ _) upper]
    exact staged.stored line known
  · exact staged.single
  · rw [ready, totalSize, totalChunks, received]
    exact staged.waiting
  · rw [ready, totalSize, totalChunks, received, baseAddr, crc32,
      slice_congr agree (Nat.le_refl _) (Nat.le_refl _)]
    exact staged.complete

/-- A line for a place without one, once its payload is written. -/
theorem StagedSlot.insert_stored (staged : StagedSlot crc mem slot accepted)
    (length : line.2.length = min atDataPayloadMax
      (slot.totalSize.toNat - line.1 * atDataPayloadMax))
    (free : ∀ payload, (line.1, payload) ∉ accepted) :
    ∀ other ∈ insert line accepted,
      slice (splice mem
        (slot.baseAddr.toNat + line.1 * atDataPayloadMax) line.2)
          (slot.baseAddr.toNat + other.1 * atDataPayloadMax)
          other.2.length = other.2 := by
  have payloadMax : atDataPayloadMax = 472 := rfl
  intro other member
  rcases Finset.mem_insert.mp member with rfl | known
  · exact slice_splice _ _ _
  · have different : other.1 ≠ line.1 := fun same =>
      free other.2 (same ▸ known)
    have otherLength := (staged.inside other known).2
    rw [payloadMax] at length otherLength
    rw [slice_splice_of_disjoint _ (by rw [payloadMax]; omega)]
    exact staged.stored other known

theorem StagedSlot.insert_single (staged : StagedSlot crc mem slot accepted)
    (free : ∀ payload, (line.1, payload) ∉ accepted) :
    Set.InjOn Prod.fst ((insert line accepted : Finset HostChunk) :
      Set HostChunk) := by
  intro left leftMember right rightMember same
  rcases Finset.mem_insert.mp (Finset.mem_coe.mp leftMember) with
    rfl | leftKnown
  · rcases Finset.mem_insert.mp (Finset.mem_coe.mp rightMember) with
      rfl | rightKnown
    · rfl
    · exact absurd (same ▸ rightKnown : (left.1, right.2) ∈ accepted)
        (free right.2)
  · rcases Finset.mem_insert.mp (Finset.mem_coe.mp rightMember) with
      rfl | rightKnown
    · exact absurd (same ▸ leftKnown : (right.1, left.2) ∈ accepted)
        (free left.2)
    · exact staged.single leftKnown rightKnown same

/-- A line for the place it names in a slot that is being received into. -/
structure NewLine (crc : Checksum) (mem : Store) (slot : LdSlot)
    (accepted : Finset HostChunk) (line : HostChunk) : Prop where
  staged : StagedSlot crc mem slot accepted
  bound : slot.totalSize.toNat ≤ ldMaxTransferSize
  fits : LdPlane.Fits slot line
  above : slot.receivedCount.toNat ≤ line.1
  free : ∀ payload, (line.1, payload) ∉ accepted

/-- After its completion a slot has no place above the counter. -/
theorem NewLine.open_ (new : NewLine crc mem slot accepted line) :
    slot.upstreamReady = false := by
  cases ready : slot.upstreamReady with
  | false => rfl
  | true =>
      have counted := (new.staged.complete ready).2.1
      have below := new.fits.1
      have above := new.above
      rw [counted] at above
      omega

theorem NewLine.place (new : NewLine crc mem slot accepted line) :
    line.1 < chunksOf slot.totalSize atDataPayloadMax ∧
      line.2.length = min atDataPayloadMax
        (slot.totalSize.toNat - line.1 * atDataPayloadMax) := by
  have count := (new.staged.waiting new.open_).1
  refine ⟨count ▸ new.fits.1, ?_⟩
  rw [new.fits.2]
  exact expectedSize_announced new.bound count new.fits.1

/-- The bytes of a line lie in the pages of its slot. -/
theorem NewLine.upper (new : NewLine crc mem slot accepted line) :
    slot.baseAddr.toNat + line.1 * atDataPayloadMax + line.2.length ≤
      slot.baseAddr.toNat + slot.totalSize.toNat := by
  obtain ⟨below, length⟩ := new.place
  have payloadMax : atDataPayloadMax = 472 := rfl
  rw [chunksOf, payloadMax] at below
  rw [payloadMax] at length ⊢
  omega

/-- The counter counts the lines. -/
theorem NewLine.counted (new : NewLine crc mem slot accepted line) :
    (insert line accepted).card = (slot.receivedCount + 1).toNat := by
  obtain ⟨-, received, below⟩ := new.staged.waiting new.open_
  have limit : ldMaxTransferSize = 204800 := rfl
  have payloadMax : atDataPayloadMax = 472 := rfl
  have one : (1 : UInt16).toNat = 1 := rfl
  have bound := new.bound
  rw [chunksOf, payloadMax] at below
  rw [Finset.card_insert_of_notMem (new.free line.2), UInt16.toNat_add, one,
    received]
  omega

theorem NewLine.inside (new : NewLine crc mem slot accepted line) :
    ∀ other ∈ insert line accepted,
      other.1 < chunksOf slot.totalSize atDataPayloadMax ∧
        other.2.length = min atDataPayloadMax
          (slot.totalSize.toNat - other.1 * atDataPayloadMax) := by
  intro other member
  rcases Finset.mem_insert.mp member with rfl | known
  · exact new.place
  · exact new.staged.inside other known

/-- The slot waits for more lines. -/
theorem NewLine.partly (new : NewLine crc mem slot accepted line) {env : Env}
    (more : ¬ slot.totalChunks ≤ slot.receivedCount + 1) :
    StagedSlot crc
      (splice mem (slot.baseAddr.toNat + line.1 * atDataPayloadMax) line.2)
      (slot.staged env) (insert line accepted) where
  inside := new.inside
  stored := new.staged.insert_stored new.place.2 new.free
  single := new.staged.insert_single new.free
  waiting := by
    intro _
    have count := (new.staged.waiting new.open_).1
    refine ⟨count, new.counted.symm, ?_⟩
    rw [UInt16.le_iff_toNat_le, count] at more
    change _ < chunksOf slot.totalSize atDataPayloadMax
    rw [new.counted]
    exact Nat.not_le.mp more
  complete := by
    intro ready
    exact Bool.noConfusion (new.open_.symm.trans ready)

/-- The slot has all its lines, and its checksum. -/
theorem NewLine.last (new : NewLine crc mem slot accepted line) {env : Env}
    (full : slot.totalChunks ≤ slot.receivedCount + 1)
    (checksum : crc.ieee
      (slice (splice mem (slot.baseAddr.toNat + line.1 * atDataPayloadMax)
        line.2) slot.baseAddr.toNat slot.totalSize.toNat) = slot.crc32) :
    StagedSlot crc
      (splice mem (slot.baseAddr.toNat + line.1 * atDataPayloadMax) line.2)
      (LdPlane.stagedSlot (slot.staged env)) (insert line accepted) where
  inside := new.inside
  stored := new.staged.insert_stored new.place.2 new.free
  single := new.staged.insert_single new.free
  waiting := by
    intro ready
    cases ready
  complete := by
    intro _
    refine ⟨?_, rfl, checksum⟩
    obtain ⟨count, received, below⟩ := new.staged.waiting new.open_
    have counted := new.counted
    rw [Finset.card_insert_of_notMem (new.free line.2)] at counted
    rw [UInt16.le_iff_toNat_le, count, ← counted] at full
    change _ = chunksOf slot.totalSize atDataPayloadMax
    rw [Finset.card_insert_of_notMem (new.free line.2)]
    omega

/-- An announcement leaves a slot that waits for every line. -/
theorem announced_staged {env : Env} {command : LdPlane.LdInitCommand}
    (inRange : command.inRange = true) :
    StagedSlot crc mem (LdPlane.hostSlot env slot command) ∅ where
  inside := by simp
  stored := by simp
  single := by simp
  waiting := by
    intro _
    obtain ⟨-, -, size, some, chunks, -, last, short, total⟩ :=
      of_decide_eq_true inRange
    have limit : ldMaxTransferSize = 204800 := rfl
    have payloadMax : atDataPayloadMax = 472 := rfl
    have one : (1 : UInt64).toNat = 1 := rfl
    have positive : command.chunks.toNat ≠ 0 := fun zero =>
      some (UInt64.toNat_inj.mp zero)
    have lastPositive : command.last.toNat ≠ 0 := fun zero =>
      last (UInt64.toNat_inj.mp zero)
    have least : (1 : UInt64) ≤ command.chunks := by
      rw [UInt64.le_iff_toNat_le, one]
      omega
    have sum := congrArg UInt64.toNat total
    rw [UInt64.toNat_add, UInt64.toNat_mul, UInt64.toNat_sub_of_le _ _ least,
      UInt64.toNat_ofNat', one, payloadMax] at sum
    rw [payloadMax] at short
    have exact_ : command.total.toNat =
        (command.chunks.toNat - 1) * 472 + command.last.toNat := by
      omega
    have whole : command.total.toNat % 2 ^ 32 = command.total.toNat :=
      Nat.mod_eq_of_lt (by omega)
    have count : command.chunks.toUInt16.toNat =
        chunksOf command.total.toUInt32 atDataPayloadMax := by
      rw [chunksOf, payloadMax, UInt64.toNat_toUInt32, UInt64.toNat_toUInt16,
        whole]
      omega
    refine ⟨count, rfl, ?_⟩
    change 0 < chunksOf command.total.toUInt32 atDataPayloadMax
    rw [← count, UInt64.toNat_toUInt16]
    omega
  complete := by
    intro ready
    cases ready

end Lines

section Steps

variable {crc : Checksum} {env : Env} {event : LdEvent} {s s' : LdPlane}
variable {accepted accepted' : Fin ldReceiverSlotCount → Finset HostChunk}
variable {idx : Fin ldReceiverSlotCount} {line : HostChunk}

/-- One slot changed, and the bytes of the others did not. -/
theorem StagingSound.update {slot : LdSlot} (sound : StagingSound crc s accepted)
    (slots : s'.slots = Function.update s.slots idx slot)
    (others : ∀ other, other ≠ idx → (s.slots other).active = true →
      AgreeOn s'.io.psram.mem s.io.psram.mem
        (s.slots other).baseAddr.toNat (s.slots other).regionEnd)
    (lines : ∀ other, other ≠ idx → accepted' other = accepted other)
    (changed : slot.active = true →
      StagedSlot crc s'.io.psram.mem slot (accepted' idx)) :
    StagingSound crc s' accepted' := by
  intro other active
  rw [slots] at active ⊢
  by_cases same : other = idx
  · subst same
    rw [Function.update_self] at active ⊢
    exact changed active
  · rw [Function.update_of_ne same] at active ⊢
    rw [lines other same]
    exact (sound other active).congr rfl
      ((others other same active).mono (Nat.le_refl _) (blob_inside _))

/-- The progress flags, the UART and the busy flag do not matter. -/
theorem StagingSound.quiet (sound : StagingSound crc s accepted)
    (same : ∀ idx, (s'.slots idx).content = (s.slots idx).content)
    (mem : s'.io.psram.mem = s.io.psram.mem) :
    StagingSound crc s' accepted := by
  intro idx active
  have before : (s.slots idx).active = true :=
    (congrArg LdSlot.active (same idx) :).symm.trans active
  rw [mem]
  exact (sound idx before).congr (same idx) (AgreeOn.refl _ _ _)

/-- Apart from its host's lines nothing happens to what a sensor staged, but
that slots are freed, and taken for an announcement. -/
theorem StagingSound.move (sound : StagingSound crc s accepted)
    (allocated : LdAllocated s) (move : LdMove env event s s')
    (role : env.deviceType = .sensor)
    (noLine : ∀ args, event ≠ .cmdLdChunk args)
    (emptied : (∃ args, event = .cmdLdInit args) →
      ∀ idx, (s.slots idx).active = false → accepted idx = ∅) :
    StagingSound crc s' accepted := by
  have noRelay : ¬ (env.deviceType = .gateway ∨ env.deviceType = .anchor) := by
    rw [role]
    decide
  have unchanged (other : Fin ldReceiverSlotCount) :
      AgreeOn s.io.psram.mem s.io.psram.mem (s.slots other).baseAddr.toNat
        (s.slots other).regionEnd :=
    AgreeOn.refl _ _ _
  cases move with
  | quiet same => exact sound.quiet same.slots same.mem
  | acknowledged received complete same =>
      exact sound.quiet same.slots same.mem
  | freed ticked active ready reason =>
      apply sound.update (freeLargeDataSlot_slots _ _ _)
      · intro other _ _
        rw [freeLargeDataSlot_io]
        exact unchanged other
      · exact fun _ _ => rfl
      · simp [LdSlot.freed]
  | accepted init => exact absurd init.role noRelay
  | storeFailed receiver | stored receiver | completed receiver
  | rejected receiver => exact absurd receiver noRelay
  | hostAllocated init missing free fits =>
      obtain ⟨args, received, _⟩ := init.received
      have empty := emptied ⟨args, received⟩ _ (LdPlane.freeSlot_some free)
      refine sound.update rfl (fun other _ _ => unchanged other)
        (fun _ _ => rfl) fun _ => ?_
      rw [empty]
      exact announced_staged init.inRange
  | hostLost stageable | hostStored stageable | hostCompleted stageable
  | hostRejected stageable =>
      obtain ⟨args, received⟩ := stageable.received
      exact absurd received (noLine args)
  | restarted restart =>
      intro idx active
      cases active
  | elsewhere other slots pages busy region =>
      intro idx active
      rw [slots] at active ⊢
      obtain ⟨lower, upper⟩ := allocated.region_inside active
      exact (sound idx active).congr rfl
        (region.mono lower (Nat.le_trans (blob_inside _) upper))

theorem StagingSound.moves (sound : StagingSound crc s accepted)
    (allocated : LdAllocated s) (moves : LdMoves env event s s')
    (role : env.deviceType = .sensor)
    (noLine : ∀ args, event ≠ .cmdLdChunk args)
    (noInit : ∀ args, event ≠ .cmdLdInit args) :
    StagingSound crc s' accepted := by
  have noFree : ∀ {t : LdPlane}, (∃ args, event = .cmdLdInit args) →
      ∀ idx, (t.slots idx).active = false → accepted idx = ∅ := by
    rintro _ ⟨args, received⟩
    exact absurd received (noInit args)
  have both : LdAllocated s' ∧ StagingSound crc s' accepted := by
    induction moves with
    | refl => exact ⟨allocated, sound⟩
    | tail _ move before =>
        exact ⟨move.keepsAllocated before.1,
          before.2.move before.1 move role noLine noFree⟩
  exact both.2

/-- An announcement is for a slot without lines. -/
theorem StagingSound.init {args : List Char}
    (sound : StagingSound crc s accepted) (allocated : LdAllocated s)
    (role : env.deviceType = .sensor)
    (emptied : ∀ idx, (s.slots idx).active = false → accepted idx = ∅) :
    StagingSound crc (s.cmdLdInit env args) accepted := by
  obtain ⟨middle, first, same⟩ := @LdPlane.cmdLdInit_outcome env _ s args rfl
  refine StagingSound.quiet ?_ same.slots same.mem
  rcases first with rfl | move
  · exact sound
  · exact sound.move allocated move role (fun _ => by simp) fun _ => emptied

/-- Staging a new line. -/
theorem StagingSound.stage (sound : StagingSound env.crc s accepted)
    (allocated : LdAllocated s) (active : (s.slots idx).active = true)
    (new : NewLine env.crc s.io.psram.mem (s.slots idx) (accepted idx) line) :
    StagingSound env.crc (s.stageAnswer env idx line).1
      (linesAfter accepted idx line (s.stageAnswer env idx line).2) := by
  have positive := (allocated.size idx active).1
  have upper := Nat.le_trans new.upper (blob_inside _)
  have apart (written : Nat) (other : Fin ldReceiverSlotCount)
      (different : other ≠ idx) (used : (s.slots other).active = true) :
      AgreeOn
        (splice s.io.psram.mem
          ((s.slots idx).baseAddr.toNat + line.1 * atDataPayloadMax)
          (line.2.take written))
        s.io.psram.mem (s.slots other).baseAddr.toNat
        (s.slots other).regionEnd := by
    apply allocated.spliced_apart active (Nat.le_add_right _ _) _ other
      different used
    rw [List.length_take]
    omega
  have whole := apart line.2.length
  rw [List.take_length] at whole
  have kept : ∀ other, other ≠ idx →
      linesAfter accepted idx line .error other = accepted other :=
    fun _ _ => rfl
  have grown : ∀ other, other ≠ idx →
      linesAfter accepted idx line .ok other = accepted other := by
    intro other different
    rw [linesAfter, if_pos rfl, Function.update_of_ne different]
  have own : linesAfter accepted idx line .ok idx =
      insert line (accepted idx) := by
    rw [linesAfter, if_pos rfl, Function.update_self]
  unfold LdPlane.stageAnswer
  dsimp only
  rcases wrote : s.io.write ((s.slots idx).baseAddr.toNat +
    line.1 * atDataPayloadMax) line.2 with ⟨io, _ | errno⟩
  · have mem := Io.write_stored wrote
    dsimp only
    by_cases full :
        (s.slots idx).totalChunks ≤ (s.slots idx).receivedCount + 1
    · rw [if_pos full]
      obtain ⟨⟨psram, after, unchanged⟩, checksum⟩ :=
        @LdPlane.verifyCrc32_spec env
          ({ s with io := io }.setSlot idx ((s.slots idx).staged env)) idx
      generalize LdPlane.verifyCrc32 _ env idx = verdict at after checksum ⊢
      obtain ⟨checked, passed⟩ := verdict
      dsimp only at after checksum
      subst after
      have contents := unchanged.trans mem
      cases passed with
      | false =>
          dsimp only
          refine sound.update
            ((freeLargeDataSlot_slots _ _ _).trans
              (Function.update_idem _ _ _)) ?_ kept (by simp [LdSlot.freed])
          rw [freeLargeDataSlot_io]
          exact contents ▸ whole
      | true =>
          dsimp only
          have stored := checksum rfl
          simp only [LdPlane.setSlot, Function.update_self] at stored
          refine sound.update (Function.update_idem _ _ _) (contents ▸ whole)
            grown fun _ => ?_
          rw [own]
          have last := @NewLine.last _ _ _ _ _ new env full
            (mem ▸ stored positive)
          rw [← contents] at last
          simpa [LdPlane.setSlot] using last
    · rw [if_neg full]
      refine sound.update rfl ?_ grown fun _ => ?_
      · rw [← mem] at whole
        exact whole
      · rw [own]
        have partly := @NewLine.partly _ _ _ _ _ new env full
        rw [← mem] at partly
        exact partly
  · obtain ⟨written, mem⟩ := Io.write_failed wrote
    dsimp only
    refine sound.update (freeLargeDataSlot_slots _ _ _) ?_ kept
      (by simp [LdSlot.freed])
    rw [freeLargeDataSlot_io, mem]
    exact apart written

/-- A line in its turn: a repetition changes nothing, a new line is staged. -/
theorem StagingSound.chunk {args : List Char}
    (sound : StagingSound env.crc s accepted) (allocated : LdAllocated s)
    (turn : ∀ idx line, s.namedChunk env args = some (idx, line) →
      InTurn (s.slots idx) (accepted idx) line) :
    StagingSound env.crc (s.cmdLdChunk env args)
      (match s.namedChunk env args with
      | some (idx, line) =>
          linesAfter accepted idx line (s.chunkAnswer env args).2
      | none => accepted) := by
  have answered {t : LdPlane}
      {lines : Fin ldReceiverSlotCount → Finset HostChunk} (text : AtLine)
      (before : StagingSound env.crc t lines) :
      StagingSound env.crc (t.sendLine text) lines :=
    before.quiet (fun _ => rfl) (congrArg Psram.mem (Io.sendLine_psram _ _))
  rw [LdPlane.cmdLdChunk_eq]
  apply answered
  unfold LdPlane.chunkAnswer
  cases named : s.namedChunk env args with
  | none => exact sound
  | some found =>
      obtain ⟨idx, line⟩ := found
      have active := LdPlane.namedChunk_active named
      have inTurn := turn idx line named
      dsimp only
      unfold LdPlane.lineAnswer
      by_cases fits : LdPlane.Fits (s.slots idx) line
      · rw [if_pos fits]
        by_cases staged : line.1 < (s.slots idx).receivedCount.toNat
        · rw [if_pos staged]
          have known : line ∈ accepted idx := by
            by_contra new
            exact Nat.not_lt.mpr (inTurn.fresh new fits).1 staged
          dsimp only
          rw [linesAfter, if_pos rfl, Finset.insert_eq_of_mem known,
            Function.update_eq_self]
          exact sound
        · rw [if_neg staged]
          have new : line ∉ accepted idx := fun known =>
            staged (inTurn.repeated known).2
          obtain ⟨above, free⟩ := inTurn.fresh new fits
          exact sound.stage allocated active
            { staged := sound idx active
              bound := (allocated.size idx active).2
              fits := fits
              above := above
              free := free }
      · rw [if_neg fits]
        exact sound

end Steps

section Runs

variable {board : Board} {io : Io} {log log' : StagingLog}

theorem StagingLog.kept_of_active {idx : Fin ldReceiverSlotCount}
    (active : (log.plane.slots idx).active = true) :
    log.kept idx = log.accepted idx :=
  if_pos active

theorem StagingLog.step_chunk (env : Env) (args : List Char) :
    log.step (env, .cmdLdChunk args) =
      .ok { plane := log.plane.clearOut.cmdLdChunk env args
            accepted := log.record (env, .cmdLdChunk args) } := rfl

/-- What a step of the log is. -/
theorem StagingLog.step_ok {event : Env × LdEvent}
    (stepped : log.step event = .ok log') :
    log.plane.step event.1 event.2 = .ok log'.plane ∧
      log'.accepted = log.record event := by
  unfold StagingLog.step ldStep at stepped
  cases moved : log.plane.step event.1 event.2 with
  | error fault =>
      rw [moved] at stepped
      cases stepped
  | ok plane =>
      rw [moved] at stepped
      cases stepped
      exact ⟨rfl, rfl⟩

theorem StagingLog.step_sound {event : Env × LdEvent}
    (role : board.deviceType = .sensor)
    (sound : StagingSound board.crc log.plane log.accepted)
    (allocated : LdAllocated log.plane) (inTurn : LinesInTurn board log event)
    (stepped : log.step event = .ok log') :
    StagingSound board.crc log'.plane log'.accepted := by
  obtain ⟨moved, record⟩ := step_ok stepped
  obtain ⟨env, event⟩ := event
  obtain ⟨⟨rfl, allowed⟩, turn⟩ := inTurn
  dsimp only at moved allowed turn
  have cleared : LdAllocated log.plane.clearOut := { allocated with }
  have before : StagingSound env.crc log.plane.clearOut log.kept := by
    intro idx active
    rw [kept_of_active active]
    exact sound idx active
  have emptied : ∀ idx, (log.plane.clearOut.slots idx).active = false →
      log.kept idx = ∅ := by
    intro idx inactive
    exact if_neg (Bool.not_eq_true _ ▸ inactive)
  rw [record]
  cases event with
  | cmdLdChunk args =>
      have same : log.plane.clearOut.cmdLdChunk env args = log'.plane :=
        Except.ok.inj moved
      have after := @StagingSound.chunk env _ log.kept args before cleared
        (by
          intro idx line named
          rw [LdPlane.namedChunk_clearOut] at named
          rw [kept_of_active (LdPlane.namedChunk_active named)]
          exact turn args idx line rfl named)
      rw [← same]
      rw [LdPlane.namedChunk_clearOut] at after
      exact after
  | cmdLdInit args =>
      have same : log.plane.clearOut.cmdLdInit env args = log'.plane :=
        Except.ok.inj moved
      rw [← same]
      exact before.init cleared role emptied
  | largeDataInit | largeDataInitAck | largeDataChunk | largeDataChunkAck | tick
  | cmdLdInitAck | cmdLdInitReady | cmdLdChunkAck | cmdLdChunkReady | restart
  | elsewhere =>
      exact before.moves cleared (LdPlane.step_moves allowed moved) role
        (fun _ => by simp) (fun _ => by simp)

/-- A line below the counter is answered `OK`, staged or not. -/
theorem StagingLog.step_below {env : Env} {args : List Char}
    {idx : Fin ldReceiverSlotCount} {line : HostChunk}
    (named : log.plane.namedChunk env args = some (idx, line))
    (fits : LdPlane.Fits (log.plane.slots idx) line)
    (below : line.1 < (log.plane.slots idx).receivedCount.toNat)
    (idle : log.plane.io.uart = []) :
    ∃ log', log.step (env, .cmdLdChunk args) = .ok log' ∧
      log'.plane.io.out = [.line .ok] ∧ line ∈ log'.accepted idx ∧
        log'.plane.slots = log.plane.slots ∧
          log'.plane.io.psram = log.plane.io.psram := by
  have again := LdPlane.namedChunk_clearOut.trans named
  have moved := @step_chunk log env args
  rw [LdPlane.cmdLdChunk_repeated again fits below] at moved
  have shown : (log.plane.clearOut.sendLine .ok).io =
      log.plane.clearOut.io.put (.line .ok) :=
    @Io.sendLine_of_idle log.plane.clearOut.io idle _
  refine ⟨_, moved, ?_, ?_, rfl, ?_⟩
  · dsimp only
    rw [shown]
    rfl
  · dsimp only [record]
    rw [named, LdPlane.chunkAnswer_repeated again fits below]
    dsimp only
    rw [linesAfter, if_pos rfl, Function.update_self]
    exact Finset.mem_insert_self _ _
  · dsimp only
    rw [shown]
    rfl

theorem reach_stagingSound (role : board.deviceType = .sensor)
    (reach : Trace.Reach StagingLog.step (LinesInTurn board) (.boot io) log) :
    LdAllocated log.plane ∧
      StagingSound board.crc log.plane log.accepted := by
  apply reach.invariant
  · refine ⟨{ allocated_largeDataInit (LdPlane.boot io) with }, ?_⟩
    intro idx active
    cases active
  · rintro before event after ⟨allocated, sound⟩ inTurn stepped
    have cleared : LdAllocated before.plane.clearOut := { allocated with }
    have moves := LdPlane.step_moves inTurn.1.2
      (StagingLog.step_ok stepped).1
    exact ⟨moves.keepsAllocated cleared,
      StagingLog.step_sound role sound allocated inTurn stepped⟩

/-- In every run of a sensor whose host sends its lines in turn: the payload
of every line that was answered `OK` is in the pages of its slot as long as the
slot is in use, the slot is ready exactly when every place has a line and the
checksum matches, and a line that was answered `OK` is answered `OK` again and
changes nothing. -/
theorem atLdStaging_sound (role : board.deviceType = .sensor)
    (reach : Trace.Reach StagingLog.step (LinesInTurn board) (.boot io) log) :
    (∀ idx, (log.plane.slots idx).active = true →
      (∀ line ∈ log.accepted idx,
        slice log.plane.io.psram.mem
          ((log.plane.slots idx).baseAddr.toNat + line.1 * atDataPayloadMax)
          line.2.length = line.2) ∧
        ((log.plane.slots idx).upstreamReady = true ↔
          (∀ place,
            place < chunksOf (log.plane.slots idx).totalSize
                atDataPayloadMax →
              ∃ payload, (place, payload) ∈ log.accepted idx) ∧
            board.crc.ieee
              (slice log.plane.io.psram.mem
                (log.plane.slots idx).baseAddr.toNat
                (log.plane.slots idx).totalSize.toNat) =
              (log.plane.slots idx).crc32)) ∧
      ∀ event log', LinesInTurn board log event →
        log.step event = .ok log' →
          ∀ args idx line, event.2 = .cmdLdChunk args →
            log.plane.namedChunk event.1 args = some (idx, line) →
              line ∈ log.accepted idx →
                log'.plane = log.plane.clearOut.sendLine .ok := by
  constructor
  · intro idx active
    have staged := (reach_stagingSound role reach).2 idx active
    have covered := card_eq_iff_covered
      (fun line known => (staged.inside line known).1) staged.single
    refine ⟨staged.stored, ?_⟩
    constructor
    · intro ready
      obtain ⟨all, -, checksum⟩ := staged.complete ready
      exact ⟨covered.mp all, checksum⟩
    · rintro ⟨every, -⟩
      by_contra notReady
      have fewer := (staged.waiting (Bool.eq_false_iff.mpr notReady)).2.2
      rw [covered.mpr every] at fewer
      exact Nat.lt_irrefl _ fewer
  · rintro ⟨env, event⟩ log' inTurn stepped args idx line rfl named known
    obtain ⟨fits, counted⟩ := (inTurn.2 args idx line rfl named).repeated known
    have moved := (StagingLog.step_ok stepped).1
    have same : log.plane.clearOut.cmdLdChunk env args = log'.plane :=
      Except.ok.inj moved
    rw [← same]
    exact LdPlane.cmdLdChunk_repeated
      (LdPlane.namedChunk_clearOut.trans named) fits counted

end Runs

section Samples

/-- A sensor with address 5, paired with anchor 2. -/
def stagingSensor : Env :=
  { deviceType := .sensor, deviceId := 5, crc := Checksum.crc32Ieee
    connectedDeviceId := 2 }

/-- The host announces the one-byte blob `07`. -/
def announcedByte : LdEvent :=
  .cmdLdInit "=\"0\",\"1\",\"1\",\"1\",\"1\",\"4C667A2E\",\"099F\"".toList

/-- The byte `07` for the first place. -/
def firstArgs : List Char :=
  "=\"0\",\"1\",\"0\",\"0\",\"9117\",\"07\"".toList

set_option synthInstance.maxSize 512 in
/-- The blob of one byte is staged, and its line is repeated. -/
theorem atLdStaging_sound_byte :
    Trace.Ends StagingLog.step (.boot {})
      [(stagingSensor, announcedByte), (stagingSensor, .cmdLdChunk firstArgs)]
      fun log =>
        (∃ payload, (0, payload) ∈ log.accepted ⟨0, by decide⟩) ∧
          ∃ log', log.step (stagingSensor, .cmdLdChunk firstArgs) = .ok log' ∧
            log'.plane = log.plane.clearOut.sendLine .ok := by
  obtain ⟨first, announced, named, empty, counter, second⟩ :
      Trace.Ends StagingLog.step (.boot {}) [(stagingSensor, announcedByte)]
        fun log =>
          log.plane.namedChunk stagingSensor firstArgs =
            some (⟨0, by decide⟩, (0, [7])) ∧
          log.accepted ⟨0, by decide⟩ = ∅ ∧
          (log.plane.slots ⟨0, by decide⟩).receivedCount.toNat = 0 ∧
          Trace.Ends StagingLog.step log
            [(stagingSensor, .cmdLdChunk firstArgs)] fun log =>
              log.plane.namedChunk stagingSensor firstArgs =
                some (⟨0, by decide⟩, (0, [7])) ∧
              log.accepted ⟨0, by decide⟩ = {(0, [7])} ∧
              LdPlane.Fits (log.plane.slots ⟨0, by decide⟩) (0, [7]) ∧
              (log.plane.slots ⟨0, by decide⟩).active = true ∧
              (log.plane.slots ⟨0, by decide⟩).upstreamReady = true ∧
              (log.plane.slots ⟨0, by decide⟩).totalSize = 1 ∧
              (log.plane.slots ⟨0, by decide⟩).receivedCount.toNat = 1 := by
    decide +kernel
  obtain ⟨log, staged, again, accepted, fits, active, ready, size, received⟩ :=
    second
  have executed : Trace.run StagingLog.step (.boot {})
      [(stagingSensor, announcedByte),
        (stagingSensor, .cmdLdChunk firstArgs)] = .ok log := by
    rw [← List.singleton_append, Trace.run_append, announced]
    exact staged
  rw [Trace.run_single] at announced staged
  have zerothTurn : LinesInTurn stagingSensor.toBoard (.boot {})
      (stagingSensor, announcedByte) :=
    ⟨⟨rfl, trivial⟩, fun _ _ _ same => by cases same⟩
  have firstTurn : LinesInTurn stagingSensor.toBoard first
      (stagingSensor, .cmdLdChunk firstArgs) := by
    refine ⟨⟨rfl, trivial⟩, ?_⟩
    intro args idx line same found
    cases same
    cases named.symm.trans found
    constructor
    · rw [empty]
      exact fun known => absurd known (Finset.notMem_empty _)
    · intro _ _
      rw [empty, counter]
      exact ⟨Nat.le_refl _, fun _ => Finset.notMem_empty _⟩
  have secondTurn : LinesInTurn stagingSensor.toBoard log
      (stagingSensor, .cmdLdChunk firstArgs) := by
    refine ⟨⟨rfl, trivial⟩, ?_⟩
    intro args idx line same found
    cases same
    cases again.symm.trans found
    constructor
    · intro _
      exact ⟨fits, by rw [received]; decide⟩
    · intro unknown
      exact absurd (accepted ▸ Finset.mem_singleton_self _) unknown
  have reach : Trace.Reach StagingLog.step
      (LinesInTurn stagingSensor.toBoard) (.boot {}) log :=
    .next (.next .refl zerothTurn announced) firstTurn staged
  have sensor : stagingSensor.toBoard.deviceType = .sensor := rfl
  have sound := atLdStaging_sound sensor reach
  have moved := @StagingLog.step_chunk log stagingSensor firstArgs
  refine ⟨log, executed, ?_, _, moved, ?_⟩
  · exact ((sound.1 _ active).2.mp ready).1 0 (by rw [size]; decide)
  · exact sound.2 _ _ secondTurn moved _ _ _ rfl again
      (accepted ▸ Finset.mem_singleton_self _)

/-- The host announces 473 bytes in two lines. -/
def announcedPair : LdEvent :=
  .cmdLdInit "=\"0\",\"1\",\"1D9\",\"2\",\"1\",\"0\",\"0E69\"".toList

/-- The byte `07` for the second place. -/
def secondArgs : List Char :=
  "=\"0\",\"1\",\"0\",\"1\",\"9117\",\"07\"".toList

/-- The first 472 bytes of the blob. -/
def firstBytes : List UInt8 := List.replicate 472 1

theorem firstBytes_length : firstBytes.length = 472 := List.length_replicate

/-- The second line comes before the first one, which is then answered `OK`
without being stored. -/
theorem atLdStaging_reordered :
    Trace.Ends StagingLog.step (.boot {})
      [(stagingSensor, announcedPair),
        (stagingSensor, .cmdLdChunk secondArgs),
        (stagingSensor, .cmdLdChunk
          (chunkArgs stagingSensor.serialNumber 1 firstBytes 0))]
      fun log =>
        log.plane.io.out = [.line .ok] ∧
          (log.plane.slots ⟨0, by decide⟩).active = true ∧
          (0, firstBytes) ∈ log.accepted ⟨0, by decide⟩ ∧
          slice log.plane.io.psram.mem
            (log.plane.slots ⟨0, by decide⟩).baseAddr.toNat
            firstBytes.length ≠ firstBytes := by
  obtain ⟨log, executed, found, active, count, received, blank, idle⟩ :
      Trace.Ends StagingLog.step (.boot {})
        [(stagingSensor, announcedPair),
          (stagingSensor, .cmdLdChunk secondArgs)] fun log =>
          log.plane.findLargeDataSlot stagingSensor.deviceId 1 =
            some ⟨0, by decide⟩ ∧
          (log.plane.slots ⟨0, by decide⟩).active = true ∧
          (log.plane.slots ⟨0, by decide⟩).totalChunks = 2 ∧
          (log.plane.slots ⟨0, by decide⟩).receivedCount = 1 ∧
          log.plane.io.psram.mem
            (log.plane.slots ⟨0, by decide⟩).baseAddr.toNat = 0 ∧
          log.plane.io.uart = [] := by
    decide +kernel
  have whole : serialPayload firstBytes 0 = firstBytes := by
    rw [serialPayload, Nat.zero_mul, List.drop_zero]
    exact List.take_of_length_le (Nat.le_of_eq firstBytes_length)
  have named := @LdPlane.namedChunk_chunkArgs stagingSensor log.plane 1
    firstBytes 0 rfl rfl (by rw [firstBytes_length]; decide)
    (by rw [serialCount, firstBytes_length]; decide)
  rw [found, whole, Option.map_some] at named
  have fits : LdPlane.Fits (log.plane.slots ⟨0, by decide⟩)
      (0, firstBytes) := by
    unfold LdPlane.Fits LdPlane.expectedSize
    rw [count, firstBytes_length]
    refine ⟨by decide, ?_⟩
    rw [if_neg (by decide)]
    rfl
  obtain ⟨after, moved, answered, known, slots, psram⟩ :=
    StagingLog.step_below named fits (by rw [received]; decide) idle
  have all := @Trace.run_append _ _ _ StagingLog.step (.boot {})
    [(stagingSensor, announcedPair), (stagingSensor, .cmdLdChunk secondArgs)]
    [(stagingSensor, .cmdLdChunk
      (chunkArgs stagingSensor.serialNumber 1 firstBytes 0))]
  rw [executed] at all
  dsimp only at all
  rw [Trace.run_single, moved, List.cons_append, List.cons_append,
    List.nil_append] at all
  refine ⟨after, all, answered, slots ▸ active, known, ?_⟩
  rw [slots, psram]
  intro same
  have zero : (slice log.plane.io.psram.mem
      (log.plane.slots ⟨0, by decide⟩).baseAddr.toNat
      firstBytes.length)[0]? = some 0 := by
    rw [firstBytes_length, ← blank]
    simp [slice]
  have one : firstBytes[0]? = some 1 :=
    List.getElem?_replicate_of_lt (by decide)
  rw [same, one] at zero
  cases zero

end Samples

end DectMesh
