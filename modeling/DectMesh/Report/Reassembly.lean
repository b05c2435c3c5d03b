import DectMesh.Report.Duplicates

/-!
# Many reports at a time

A gateway or an anchor puts up to 512 reports together whose announcements and
chunks arrive interleaved, in any order and any number of times: each report
lives in its own slot, and what a slot holds depends on its own report only.
-/

namespace DectMesh

open ByteStore

/-- The number of chunks of a report. -/
def chunksOfReport (data : List UInt8) : Nat :=
  (data.length + sendDataMax - 1) / sendDataMax

theorem chunkStart {data : List UInt8} {index : Nat}
    (below : index < chunksOfReport data) :
    index * sendDataMax < data.length := by
  have size : sendDataMax = 180 := rfl
  unfold chunksOfReport at below
  rw [size] at below ⊢
  omega

/-- The announcement describes these bytes. -/
structure ReportInit.Describes (crc : Checksum) (data : List UInt8)
    (pkt : ReportInit) : Prop where
  totalSize : pkt.totalSize.toNat = data.length
  chunkCount : pkt.chunkCount.toNat = chunksOfReport data
  lastChunkSize : pkt.lastChunkSize.toNat =
    data.length - (chunksOfReport data - 1) * sendDataMax
  crc32 : pkt.crc32 = crc.ieee data

/-- The packet carries one chunk of these bytes; what follows the chunk in its
buffer is arbitrary. -/
structure ReportChunk.PieceOf (data : List UInt8) (pkt : ReportChunk) :
    Prop where
  inRange : pkt.chunkIndex.toNat < chunksOfReport data
  bytes : pkt.data.bytes.take
      (min sendDataMax (data.length - pkt.chunkIndex.toNat * sendDataMax)) =
    (data.drop (pkt.chunkIndex.toNat * sendDataMax)).take sendDataMax

/-- All chunks of these bytes are among the listed ones. -/
def Whole (data : List UInt8) (seen : List UInt8) : Prop :=
  ∀ index : UInt8, index.toNat < chunksOfReport data → index ∈ seen

/-- What a slot holds of the report after the listed chunks arrived. -/
structure Assembles (crc : Checksum) (mem : Store) (idx : Fin dataSlotCount)
    (slot : ReportSlot) (data : List UInt8) (seen : List UInt8) : Prop where
  totalSize : slot.totalSize.toNat = data.length
  chunkCount : slot.chunkCount.toNat = chunksOfReport data
  lastChunkSize : slot.lastChunkSize.toNat =
    data.length - (chunksOfReport data - 1) * sendDataMax
  crc32 : slot.crc32 = crc.ieee data
  flags : ∀ (chunk : Fin dataMaxChunks) (index : UInt8),
    index.toNat = chunk.val → (slot.received chunk = true ↔ index ∈ seen)
  below : ∀ index ∈ seen, index.toNat < chunksOfReport data
  counted : slot.receivedCount.toNat = ∑ chunk, (slot.received chunk).toNat
  ready : slot.upstreamReady = true ↔ Whole data seen
  blocks : ∀ index ∈ seen,
    BlockAt mem (slotPsramAddr idx) sendDataMax data index.toNat

namespace Assembles

variable {crc : Checksum} {mem mem' : Store} {idx : Fin dataSlotCount}
variable {slot : ReportSlot} {data : List UInt8} {seen : List UInt8}
variable {env : Env} {pkt : ReportChunk} {s s' : ReportPlane}

/-- Only the region of the slot matters. -/
theorem region (assembles : Assembles crc mem idx slot data seen)
    (fits : data.length ≤ maxReportSize)
    (same : AgreeOn mem' mem (slotPsramAddr idx)
      (slotPsramAddr idx + maxReportSize)) :
    Assembles crc mem' idx slot data seen :=
  { assembles with
    blocks := by
      intro index member offset lower upper inside
      rw [← assembles.blocks index member offset lower upper inside]
      exact same _ (by omega) (by omega) }

/-- And the flags of the way upstream do not. -/
theorem congr {slot' : ReportSlot}
    (assembles : Assembles crc mem idx slot data seen)
    (same : slot'.content = slot.content) :
    Assembles crc mem idx slot' data seen := by
  have here : Assembles crc mem idx slot.content data seen :=
    { assembles with }
  rw [← same] at here
  exact { here with }

/-- A slot that was just announced. -/
theorem announced {base : ReportSlot} {pkt : ReportInit}
    (describes : pkt.Describes crc data) (nonempty : 1 ≤ data.length)
    (notReady : base.upstreamReady = false) :
    Assembles crc mem idx (ReportPlane.acceptedSlot env base pkt) data [] where
  totalSize := describes.totalSize
  chunkCount := describes.chunkCount
  lastChunkSize := describes.lastChunkSize
  crc32 := describes.crc32
  flags := by simp [ReportPlane.acceptedSlot]
  below := by simp
  counted := by simp [ReportPlane.acceptedSlot]
  ready := by
    refine iff_of_false (by simp [ReportPlane.acceptedSlot, notReady]) ?_
    intro whole
    have first := whole 0 (by
      have size : sendDataMax = 180 := rfl
      have zero : (0 : UInt8).toNat = 0 := rfl
      rw [zero, chunksOfReport, size]
      omega)
    cases first
  blocks := by simp

/-- A repeated chunk adds nothing. -/
theorem again (assembles : Assembles crc mem idx slot data seen)
    {index : UInt8} (known : index ∈ seen) :
    Assembles crc mem idx slot data (index :: seen) := by
  have members (other : UInt8) : other ∈ index :: seen ↔ other ∈ seen := by
    rw [List.mem_cons]
    constructor
    · rintro (rfl | member)
      · exact known
      · exact member
    · exact .inr
  exact
    { assembles with
      flags := fun chunk other same =>
        (assembles.flags chunk other same).trans (members other).symm
      below := fun other member =>
        assembles.below other ((members other).mp member)
      ready := assembles.ready.trans
        (forall₂_congr fun other _ => (members other).symm)
      blocks := fun other member =>
        assembles.blocks other ((members other).mp member) }

/-- The bytes are there once all chunks are. -/
theorem stored (assembles : Assembles crc mem idx slot data seen)
    (whole : Whole data seen) (fits : data.length ≤ maxReportSize) :
    slice mem (slotPsramAddr idx) data.length = data := by
  have size : sendDataMax = 180 := rfl
  have limit : maxReportSize = 256 := rfl
  have covers : data.length ≤ chunksOfReport data * sendDataMax := by
    rw [chunksOfReport, size]
    omega
  refine slice_of_blocks (by decide) covers fun index below => ?_
  have small : index < 256 := by
    rw [chunksOfReport, size] at below
    omega
  have value : (UInt8.ofNat index).toNat = index := by
    rw [UInt8.toNat_ofNat']
    omega
  have held := assembles.blocks (UInt8.ofNat index)
    (whole _ (by rwa [value]))
  rwa [value] at held

/-- Flags that are exactly those below a count add up to it. -/
theorem sum_below {received : Fin dataMaxChunks → Bool} {count : Nat}
    (small : count ≤ dataMaxChunks)
    (flags : ∀ chunk, received chunk = true ↔ chunk.val < count) :
    ∑ chunk, (received chunk).toNat = count := by
  have limit : dataMaxChunks = 2 := rfl
  have first : received ⟨0, by decide⟩ = true ↔ 0 < count :=
    flags ⟨0, by decide⟩
  have second : received ⟨1, by decide⟩ = true ↔ 1 < count :=
    flags ⟨1, by decide⟩
  rw [sum_received]
  cases zero : received ⟨0, by decide⟩ with
  | false =>
      rw [zero] at first
      cases one : received ⟨1, by decide⟩ with
      | false =>
          simp only [Bool.false_eq_true, false_iff, Nat.not_lt] at first
          simp only [Bool.toNat_false]
          omega
      | true =>
          rw [one] at second
          simp only [Bool.false_eq_true, false_iff, true_iff, Nat.not_lt]
            at first second
          omega
  | true =>
      rw [zero] at first
      cases one : received ⟨1, by decide⟩ with
      | false =>
          rw [one] at second
          simp only [Bool.false_eq_true, false_iff, true_iff, Nat.not_lt]
            at first second
          simp only [Bool.toNat_true, Bool.toNat_false]
          omega
      | true =>
          rw [one] at second
          simp only [true_iff] at second
          simp only [Bool.toNat_true]
          omega

/-- The flags once a chunk was stored. -/
theorem storedFlags (assembles : Assembles crc mem idx slot data seen)
    {chunk : Fin dataMaxChunks} (index : pkt.chunkIndex.toNat = chunk.val)
    (other : Fin dataMaxChunks) (position : UInt8)
    (same : position.toNat = other.val) :
    Function.update slot.received chunk true other = true ↔
      position ∈ pkt.chunkIndex :: seen := by
  rw [List.mem_cons]
  by_cases here : other = chunk
  · have equal : position = pkt.chunkIndex := by
      rw [← UInt8.toNat_inj, same, index, here]
    rw [here, Function.update_self]
    exact iff_of_true rfl (.inl equal)
  · have different : position ≠ pkt.chunkIndex := by
      rintro rfl
      exact here (Fin.ext (same.symm.trans index))
    rw [Function.update_of_ne here, assembles.flags other position same]
    exact ⟨.inr, fun member => member.resolve_left different⟩

/-- The counter tells whether the new chunk was the last one missing. -/
theorem full_iff (assembles : Assembles crc mem idx slot data seen)
    (fits : data.length ≤ maxReportSize) {chunk : Fin dataMaxChunks}
    (index : pkt.chunkIndex.toNat = chunk.val)
    (below : pkt.chunkIndex.toNat < chunksOfReport data)
    (fresh : pkt.chunkIndex ∉ seen) :
    slot.receivedCount + 1 = slot.chunkCount ↔
      Whole data (pkt.chunkIndex :: seen) := by
  have size : sendDataMax = 180 := rfl
  have limit : maxReportSize = 256 := rfl
  have most : dataMaxChunks = 2 := rfl
  have few : chunksOfReport data ≤ dataMaxChunks := by
    rw [chunksOfReport, size, most]
    omega
  have missing : slot.received chunk = false := by
    rw [← Bool.not_eq_true, assembles.flags chunk _ index]
    exact fresh
  have flags := assembles.storedFlags index
  have value (other : Fin dataMaxChunks) :
      (UInt8.ofNat other.val).toNat = other.val := by
    have bound := other.isLt
    rw [UInt8.toNat_ofNat']
    omega
  have bounded (other : Fin dataMaxChunks)
      (flag : Function.update slot.received chunk true other = true) :
      other.val < chunksOfReport data := by
    rw [flags other _ (value other)] at flag
    rcases List.mem_cons.mp flag with same | member
    · rw [← value other, same]
      exact below
    · rw [← value other]
      exact assembles.below _ member
  have counted := sum_received_update missing
  rw [← assembles.counted] at counted
  have one : (1 : UInt8).toNat = 1 := rfl
  have total := sum_received_le (Function.update slot.received chunk true)
  have sum : (slot.receivedCount + 1).toNat =
      ∑ other, (Function.update slot.received chunk true other).toNat := by
    rw [UInt8.toNat_add, one, counted]
    omega
  rw [← UInt8.toNat_inj, sum, assembles.chunkCount]
  constructor
  · intro full position inside
    have small : position.toNat < dataMaxChunks := by omega
    exact (flags ⟨position.toNat, small⟩ position rfl).mp
      (all_received bounded full ⟨position.toNat, small⟩ inside)
  · intro whole
    refine sum_below few fun other => ⟨bounded other, fun inside => ?_⟩
    exact (flags other _ (value other)).mpr
      (whole _ (by rwa [value other]))

/-- A new chunk was stored in its place. -/
theorem add {chunk : Fin dataMaxChunks} {upstreamReady : Bool}
    {idleTimeout : NbTimeout}
    (assembles : Assembles crc mem idx slot data seen)
    (index : pkt.chunkIndex.toNat = chunk.val)
    (below : pkt.chunkIndex.toNat < chunksOfReport data)
    (fresh : pkt.chunkIndex ∉ seen)
    (written : mem' = splice mem
      (slotPsramAddr idx + pkt.chunkIndex.toNat * sendDataMax)
      ((data.drop (pkt.chunkIndex.toNat * sendDataMax)).take sendDataMax))
    (ready : upstreamReady = true ↔ Whole data (pkt.chunkIndex :: seen)) :
    Assembles crc mem' idx
      { ReportPlane.storedSlot env slot chunk with
        upstreamReady := upstreamReady, idleTimeout := idleTimeout }
      data (pkt.chunkIndex :: seen) where
  totalSize := assembles.totalSize
  chunkCount := assembles.chunkCount
  lastChunkSize := assembles.lastChunkSize
  crc32 := assembles.crc32
  flags := assembles.storedFlags index
  below := by
    intro other member
    rcases List.mem_cons.mp member with rfl | member
    · exact below
    · exact assembles.below other member
  counted := by
    have missing : slot.received chunk = false := by
      rw [← Bool.not_eq_true, assembles.flags chunk _ index]
      exact fresh
    have one : (1 : UInt8).toNat = 1 := rfl
    have most : dataMaxChunks = 2 := rfl
    have counted := sum_received_update missing
    rw [← assembles.counted] at counted
    have total := sum_received_le (Function.update slot.received chunk true)
    simp only [ReportPlane.storedSlot]
    rw [UInt8.toNat_add, one, counted]
    omega
  ready := ready
  blocks := by
    intro other member
    rw [written]
    rcases List.mem_cons.mp member with rfl | member
    · exact blockAt_splice _ _ _ _
    · refine (assembles.blocks other member).splice_other ?_
      intro same
      rw [UInt8.toNat_inj] at same
      exact fresh (same ▸ member)

end Assembles

namespace ReportPlane

variable {crc : Checksum} {idx : Fin dataSlotCount} {data seen : List UInt8}
variable {env : Env} {pkt : ReportChunk} {s s' : ReportPlane}

/-- On a reliable device the right checksum is confirmed. -/
theorem verifyReport_reliable (reliable : s.io.psram.Reliable)
    (positive : 0 < (s.slots idx).totalSize.toNat)
    (inside : slotPsramAddr idx + (s.slots idx).totalSize.toNat ≤ psramSize)
    (checksum : env.crc.ieee (slotBytes s.io.psram.mem idx (s.slots idx)) =
      (s.slots idx).crc32) :
    ∃ psram, s.verifyReport env idx =
        (({ s with io := { s.io with psram := psram } } : ReportPlane).setSlot
          idx (readySlot env (s.slots idx)), statusSuccess) ∧
      psram.Reliable ∧ psram.mem = s.io.psram.mem := by
  obtain ⟨⟨value, computed⟩, later⟩ :=
    Psram.Reliable.stagedCrc env.crc crcVerifyStageSize
      (s.slots idx).totalSize.toNat true 0 s.io.psram (slotPsramAddr idx)
      (s.slots idx).totalSize.toNat reliable inside
  obtain ⟨mem, result⟩ :=
    Psram.stagedCrc_spec env.crc (by decide : 0 < crcVerifyStageSize)
      s.io.psram (slotPsramAddr idx) positive (Nat.le_refl _)
  have right := (result value computed).trans checksum
  refine ⟨_, ?_, later, mem⟩
  unfold verifyReport
  dsimp only
  split
  · next psram errno failed =>
    rw [failed] at computed
    cases computed
  · next psram sum same =>
    rw [same] at computed
    cases computed
    rw [if_pos right, same]

theorem freeSlot_none (full : s.freeSlot = none) (idx : Fin dataSlotCount) :
    (s.slots idx).active = true := by
  unfold freeSlot at full
  have busy := Fin.find?_eq_none_iff.mp full idx
  simpa using busy

/-- What one chunk of a report does: it is answered `SUCCESS` the first time
and `ALREADY_EXISTS` from then on, and touches its own slot only. -/
structure Taken (crc : Checksum) (idx : Fin dataSlotCount) (data : List UInt8)
    (seen : List UInt8) (s s' : ReportPlane) : Prop where
  slots : s'.slots = Function.update s.slots idx (s'.slots idx)
  active : (s'.slots idx).active = (s.slots idx).active
  gen : (s'.slots idx).genDeviceId = (s.slots idx).genDeviceId
  id : (s'.slots idx).dataId = (s.slots idx).dataId
  assembles :
    Assembles crc s'.io.psram.mem idx (s'.slots idx) data seen
  reliable : s'.io.psram.Reliable
  others : ∀ other, other ≠ idx →
    AgreeOn s'.io.psram.mem s.io.psram.mem (slotPsramAddr other)
      (slotPsramAddr other + maxReportSize)
  out : s'.io.out = s.io.out

/-- The size under which a chunk is stored. -/
theorem chunkSize_of_assembles {slot : ReportSlot} {mem : Store}
    {chunkIndex : UInt8} (assembles : Assembles crc mem idx slot data seen)
    (below : chunkIndex.toNat < chunksOfReport data) :
    (storedChunkSize slot chunkIndex).toNat =
      min sendDataMax (data.length - chunkIndex.toNat * sendDataMax) := by
  have size : sendDataMax = 180 := rfl
  unfold storedChunkSize
  rw [assembles.chunkCount]
  unfold chunksOfReport at below ⊢
  rw [size] at below ⊢
  split
  · next last =>
    rw [assembles.lastChunkSize, chunksOfReport, size]
    omega
  · next earlier =>
    have full : (UInt8.ofNat 180).toNat = 180 := by decide
    rw [full]
    omega

/-- The chunk is written where it belongs. -/
theorem write_piece
    (assembles : Assembles crc s.io.psram.mem idx (s.slots idx) data seen)
    (fits : data.length ≤ maxReportSize) (piece : pkt.PieceOf data)
    (reliable : s.io.psram.Reliable) :
    ∃ io, s.io.write (slotPsramAddr idx + pkt.chunkIndex.toNat * sendDataMax)
        (pkt.data.bytes.take
          (storedChunkSize (s.slots idx) pkt.chunkIndex).toNat) = (io, none) ∧
      io.psram.Reliable ∧
        io.psram.mem = splice s.io.psram.mem
          (slotPsramAddr idx + pkt.chunkIndex.toNat * sendDataMax)
          ((data.drop (pkt.chunkIndex.toNat * sendDataMax)).take
            sendDataMax) := by
  have size : sendDataMax = 180 := rfl
  have limit : maxReportSize = 256 := rfl
  have inRange := piece.inRange
  have chunkSize := chunkSize_of_assembles assembles inRange
  rw [chunkSize, piece.bytes]
  apply Io.write_reliable reliable
  have start := chunkStart piece.inRange
  obtain ⟨-, upper⟩ := slotRegion_inside idx
  have region : ReportPlane.reportRegionEnd = 0x100000 + 512 * 256 := rfl
  have memory : psramSize = 8388608 := rfl
  rw [List.length_take, List.length_drop]
  omega

theorem validateReportChunk_taken
    (assembles : Assembles crc s.io.psram.mem idx (s.slots idx) data seen)
    (found : s.findSlot pkt.genDeviceId pkt.dataId = some idx)
    (board : env.crc = crc) (nonempty : 1 ≤ data.length)
    (fits : data.length ≤ maxReportSize) (piece : pkt.PieceOf data)
    (reliable : s.io.psram.Reliable) :
    ∃ s', s.validateReportChunk env pkt =
        .ok (s', if pkt.chunkIndex ∈ seen then statusAlreadyExists
          else statusSuccess) ∧
      Taken crc idx data (pkt.chunkIndex :: seen) s s' := by
  have size : sendDataMax = 180 := rfl
  have limit : maxReportSize = 256 := rfl
  have most : dataMaxChunks = 2 := rfl
  have below := piece.inRange
  have inRange : ¬ (s.slots idx).chunkCount ≤ pkt.chunkIndex := by
    rw [UInt8.le_iff_toNat_le, assembles.chunkCount]
    omega
  have small : pkt.chunkIndex.toNat < dataMaxChunks := by
    unfold chunksOfReport at below
    rw [size] at below
    omega
  unfold validateReportChunk
  rw [found]
  dsimp only
  rw [if_neg inRange, receivedIndex, dif_pos small]
  dsimp only
  have flag := assembles.flags ⟨pkt.chunkIndex.toNat, small⟩ pkt.chunkIndex rfl
  by_cases known : pkt.chunkIndex ∈ seen
  · rw [if_pos (flag.mpr known), if_pos known]
    exact ⟨s, rfl,
      { slots := (Function.update_eq_self idx s.slots).symm
        active := rfl
        gen := rfl
        id := rfl
        assembles := assembles.again known
        reliable := reliable
        others := fun other _ => AgreeOn.refl _ _ _
        out := rfl }⟩
  · have fresh : ¬ (s.slots idx).received ⟨pkt.chunkIndex.toNat, small⟩ =
        true := fun set => known (flag.mp set)
    rw [if_neg fresh, if_neg known]
    obtain ⟨io, wrote, later, written⟩ :=
      write_piece assembles fits piece reliable
    have out := Io.write_out_eq wrote
    rw [wrote]
    dsimp only
    have others (other : Fin dataSlotCount) (different : other ≠ idx) :
        AgreeOn io.psram.mem s.io.psram.mem (slotPsramAddr other)
          (slotPsramAddr other + maxReportSize) := by
      rw [written]
      refine agreeOn_other _ different (Nat.le_add_right _ _) ?_
      have start := chunkStart below
      rw [List.length_take, List.length_drop]
      omega
    have counts := @Assembles.full_iff _ _ _ _ _ _ _ assembles fits
      ⟨pkt.chunkIndex.toNat, small⟩ rfl below known
    have notReady : ¬ (s.slots idx).upstreamReady = true :=
      fun ready => known (assembles.ready.mp ready _ below)
    split
    · next full =>
      have whole := counts.mp full
      -- with the flag already set, the invariant says what the slot holds
      have held : Assembles crc io.psram.mem idx
          { storedSlot env (s.slots idx) ⟨pkt.chunkIndex.toNat, small⟩ with
            upstreamReady := true
            idleTimeout := (readySlot env (storedSlot env (s.slots idx)
              ⟨pkt.chunkIndex.toNat, small⟩)).idleTimeout }
          data (pkt.chunkIndex :: seen) :=
        assembles.add rfl below known written (iff_of_true rfl whole)
      have bytes := held.stored whole fits
      have total : (s.slots idx).totalSize.toNat = data.length :=
        assembles.totalSize
      have region : ReportPlane.reportRegionEnd = 0x100000 + 512 * 256 := rfl
      have memory : psramSize = 8388608 := rfl
      obtain ⟨-, upper⟩ := slotRegion_inside idx
      obtain ⟨psram, verified, reliableAfter, same⟩ :=
        @verifyReport_reliable idx env
          (({ s with io := io } : ReportPlane).setSlot idx
            (storedSlot env (s.slots idx) ⟨pkt.chunkIndex.toNat, small⟩))
          later
          (by simp [storedSlot, total]; omega)
          (by simp [storedSlot, total]; omega)
          (by simp [slotBytes, storedSlot, total, bytes, assembles.crc32,
            board])
      rw [verified]
      refine ⟨_, rfl, ?_⟩
      constructor
      · simp [readySlot]
      · simp [readySlot, storedSlot]
      · simp [readySlot, storedSlot]
      · simp [readySlot, storedSlot]
      · simp only [setSlot_slots, setSlot_io, Function.update_self]
        rw [show psram.mem = io.psram.mem from same]
        exact held
      · exact reliableAfter
      · intro other different
        simp only [setSlot_io]
        rw [show psram.mem = io.psram.mem from same]
        exact others other different
      · exact out
    · next partly =>
      refine ⟨_, rfl, ?_⟩
      have unready : ¬ Whole data (pkt.chunkIndex :: seen) :=
        fun whole => partly (counts.mpr whole)
      constructor
      · simp
      · simp [storedSlot]
      · simp [storedSlot]
      · simp [storedSlot]
      · simp only [setSlot_slots, setSlot_io, Function.update_self]
        have held : Assembles crc io.psram.mem idx
            { storedSlot env (s.slots idx) ⟨pkt.chunkIndex.toNat, small⟩ with
              upstreamReady := (s.slots idx).upstreamReady
              idleTimeout := (s.slots idx).idleTimeout.start env.now }
            data (pkt.chunkIndex :: seen) :=
          assembles.add rfl below known written
            (iff_of_false notReady unready)
        exact held
      · exact later
      · exact others
      · exact out

end ReportPlane

/-- The key of a report: its device and its id. -/
abbrev ReportKey := UInt16 × UInt8

def ReportSlot.key (slot : ReportSlot) : ReportKey :=
  (slot.genDeviceId, slot.dataId)

def ReportInit.key (pkt : ReportInit) : ReportKey :=
  (pkt.genDeviceId, pkt.dataId)

def ReportChunk.key (pkt : ReportChunk) : ReportKey :=
  (pkt.genDeviceId, pkt.dataId)

/-- A receiver, and the chunks of each report that arrived since its last
announcement that was answered `SUCCESS`. -/
structure ReportAssembly where
  plane : ReportPlane := {}
  seen : ReportKey → Option (List UInt8) := fun _ => none

namespace ReportAssembly

/-- The record after one event. -/
def note (assembly : ReportAssembly) (event : ReportEvent)
    (out : List Action) : ReportKey → Option (List UInt8) :=
  match event with
  | .reportInit pkt _ =>
      if (reportInitAcks out).any (·.hdr.status = statusSuccess) then
        Function.update assembly.seen pkt.key (some [])
      else
        assembly.seen
  | .reportChunk pkt _ =>
      match assembly.seen pkt.key with
      | none => assembly.seen
      | some seen =>
          Function.update assembly.seen pkt.key (some (pkt.chunkIndex :: seen))
  | _ => assembly.seen

def step (assembly : ReportAssembly) (event : Env × ReportEvent) :
    Except Fault ReportAssembly :=
  match reportStep assembly.plane event with
  | .error fault => .error fault
  | .ok plane =>
      .ok { plane := plane, seen := assembly.note event.2 plane.io.out }

/-- The transfers that a receiver is given. -/
structure Transfers where
  keys : Finset ReportKey
  data : ReportKey → List UInt8
  few : keys.card ≤ dataSlotCount
  nonempty : ∀ key ∈ keys, 1 ≤ (data key).length
  fits : ∀ key ∈ keys, (data key).length ≤ maxReportSize

/-- The announcements and the chunks of the transfers, and ticks at which no
idle timeout expires. -/
def Belongs (board : Board) (transfers : Transfers) (assembly : ReportAssembly)
    (event : Env × ReportEvent) : Prop :=
  event.1.toBoard = board ∧
    match event.2 with
    | .reportInit pkt _ =>
        pkt.key ∈ transfers.keys ∧ ReportPlane.FromBelow event.1 pkt.hdr ∧
          pkt.Describes board.crc (transfers.data pkt.key)
    | .reportChunk pkt _ =>
        pkt.key ∈ transfers.keys ∧ ReportPlane.FromBelow event.1 pkt.hdr ∧
          pkt.PieceOf (transfers.data pkt.key)
    | .tick => ∀ idx, (assembly.plane.slots idx).active = true →
        (assembly.plane.slots idx).idleTimeout.expired event.1.now = false
    | _ => False

open ReportPlane

/-- The invariant: every slot in use holds what arrived of its own report. -/
structure Sound (crc : Checksum) (transfers : Transfers)
    (assembly : ReportAssembly) : Prop where
  reliable : assembly.plane.io.psram.Reliable
  distinct : ∀ left right, (assembly.plane.slots left).active = true →
    (assembly.plane.slots right).active = true →
      (assembly.plane.slots left).key = (assembly.plane.slots right).key →
        left = right
  owned : ∀ idx, (assembly.plane.slots idx).active = true →
    (assembly.plane.slots idx).key ∈ transfers.keys ∧
      ∃ seen, assembly.seen (assembly.plane.slots idx).key = some seen ∧
        Assembles crc assembly.plane.io.psram.mem idx
          (assembly.plane.slots idx)
          (transfers.data (assembly.plane.slots idx).key) seen
  located : ∀ key seen, assembly.seen key = some seen →
    ∃ idx, (assembly.plane.slots idx).active = true ∧
      (assembly.plane.slots idx).key = key

variable {board : Board} {transfers : Transfers} {crc : Checksum}
variable {assembly after : ReportAssembly} {env : Env} {key : ReportKey}
variable {seen : List UInt8} {idx : Fin dataSlotCount}

/-- Where a report is found. -/
theorem Sound.find (sound : Sound crc transfers assembly)
    (active : (assembly.plane.slots idx).active = true)
    (same : (assembly.plane.slots idx).key = key) :
    assembly.plane.findSlot key.1 key.2 = some idx := by
  subst same
  cases found : assembly.plane.findSlot _ _ with
  | none => exact absurd rfl (findSlot_none found idx active rfl)
  | some other =>
      obtain ⟨activeOther, gen, id⟩ := findSlot_some found
      rw [sound.distinct other idx activeOther active (Prod.ext gen id)]

theorem Sound.missing (sound : Sound crc transfers assembly)
    (unseen : assembly.seen key = none) :
    assembly.plane.findSlot key.1 key.2 = none := by
  cases found : assembly.plane.findSlot key.1 key.2 with
  | none => rfl
  | some idx =>
      obtain ⟨active, gen, id⟩ := findSlot_some found
      obtain ⟨-, seen, known, -⟩ := sound.owned idx active
      have same : (assembly.plane.slots idx).key = key := Prod.ext gen id
      rw [same, unseen] at known
      cases known

/-- What is on record of a report is what its slot holds. -/
theorem Sound.slot (sound : Sound crc transfers assembly)
    (known : assembly.seen key = some seen) :
    ∃ idx, (assembly.plane.slots idx).active = true ∧
      (assembly.plane.slots idx).key = key ∧ key ∈ transfers.keys ∧
        assembly.plane.findSlot key.1 key.2 = some idx ∧
          Assembles crc assembly.plane.io.psram.mem idx
            (assembly.plane.slots idx) (transfers.data key) seen := by
  obtain ⟨idx, active, same⟩ := sound.located key seen known
  obtain ⟨member, held, recorded, assembles⟩ := sound.owned idx active
  rw [same] at member recorded assembles
  rw [known, Option.some.injEq] at recorded
  subst recorded
  exact ⟨idx, active, same, member, sound.find active same, assembles⟩

/-- While a report of the transfers has no slot, some slot is free. -/
theorem Sound.free (sound : Sound crc transfers assembly)
    (member : key ∈ transfers.keys) (unseen : assembly.seen key = none) :
    ∃ idx, assembly.plane.freeSlot = some idx := by
  cases found : assembly.plane.freeSlot with
  | some idx => exact ⟨idx, rfl⟩
  | none =>
      have busy (idx : Fin dataSlotCount) :
          (assembly.plane.slots idx).active = true :=
        ReportPlane.freeSlot_none found idx
      -- all slots hold other reports of the transfers: one too many
      have others : ∀ idx ∈ Finset.univ,
          (assembly.plane.slots idx).key ∈ transfers.keys.erase key := by
        intro idx _
        obtain ⟨owned, seen, known, -⟩ := sound.owned idx (busy idx)
        refine Finset.mem_erase.mpr ⟨fun same => ?_, owned⟩
        rw [same, unseen] at known
        cases known
      have distinct : Set.InjOn (fun idx => (assembly.plane.slots idx).key)
          (Finset.univ : Finset (Fin dataSlotCount)) := by
        intro left _ right _ same
        exact sound.distinct left right (busy left) (busy right) same
      have count := Finset.card_le_card_of_injOn _ others distinct
      rw [Finset.card_univ, Fintype.card_fin, Finset.card_erase_of_mem member]
        at count
      have few := transfers.few
      have positive : 0 < transfers.keys.card :=
        Finset.card_pos.mpr ⟨key, member⟩
      omega

/-- One slot now holds this report. -/
theorem Sound.replace (sound : Sound crc transfers assembly)
    {slot : ReportSlot}
    (slots : after.plane.slots =
      Function.update assembly.plane.slots idx slot)
    (active : slot.active = true) (same : slot.key = key)
    (member : key ∈ transfers.keys)
    (recorded : after.seen = Function.update assembly.seen key (some seen))
    (own : Assembles crc after.plane.io.psram.mem idx slot
      (transfers.data key) seen)
    (reliable : after.plane.io.psram.Reliable)
    (regions : ∀ other, other ≠ idx →
      AgreeOn after.plane.io.psram.mem assembly.plane.io.psram.mem
        (slotPsramAddr other) (slotPsramAddr other + maxReportSize))
    (alone : ∀ other, other ≠ idx →
      (assembly.plane.slots other).active = true →
        (assembly.plane.slots other).key ≠ key)
    (mine : (assembly.plane.slots idx).active = true →
      (assembly.plane.slots idx).key = key) :
    Sound crc transfers after := by
  have here : after.plane.slots idx = slot := by
    rw [slots, Function.update_self]
  have there (other : Fin dataSlotCount) (different : other ≠ idx) :
      after.plane.slots other = assembly.plane.slots other := by
    rw [slots, Function.update_of_ne different]
  refine ⟨reliable, ?_, ?_, ?_⟩
  · intro left right activeLeft activeRight keys
    by_cases isLeft : left = idx
    · by_cases isRight : right = idx
      · rw [isLeft, isRight]
      · rw [isLeft, here, same, there right isRight] at keys
        rw [there right isRight] at activeRight
        exact absurd keys.symm (alone right isRight activeRight)
    · rw [there left isLeft] at activeLeft keys
      by_cases isRight : right = idx
      · rw [isRight, here, same] at keys
        exact absurd keys (alone left isLeft activeLeft)
      · rw [there right isRight] at activeRight keys
        exact sound.distinct left right activeLeft activeRight keys
  · intro other used
    by_cases own_ : other = idx
    · subst own_
      rw [here, same]
      refine ⟨member, seen, ?_, own⟩
      rw [recorded, Function.update_self]
    · rw [there other own_] at used ⊢
      obtain ⟨owned, heard, known, assembles⟩ := sound.owned other used
      refine ⟨owned, heard, ?_, ?_⟩
      · rw [recorded, Function.update_of_ne (alone other own_ used)]
        exact known
      · exact assembles.region (transfers.fits _ owned) (regions other own_)
  · intro other heard known
    rw [recorded] at known
    by_cases own_ : other = key
    · exact ⟨idx, here ▸ active, by rw [here, same, own_]⟩
    · rw [Function.update_of_ne own_] at known
      obtain ⟨place, used, keys⟩ := sound.located other heard known
      have different : place ≠ idx := by
        rintro rfl
        exact own_ (keys.symm.trans (mine used))
      exact ⟨place, by rw [there place different]; exact used,
        by rw [there place different]; exact keys⟩

/-- The sizes of a report that fits pass the checks. -/
theorem wellSized {data : List UInt8} {pkt : ReportInit}
    (describes : pkt.Describes crc data) (nonempty : 1 ≤ data.length)
    (fits : data.length ≤ maxReportSize) : WellSized pkt := by
  have size : sendDataMax = 180 := rfl
  have limit : maxReportSize = 256 := rfl
  have most : dataMaxChunks = 2 := rfl
  have total := describes.totalSize
  have count := describes.chunkCount
  have last := describes.lastChunkSize
  unfold chunksOfReport at count last
  unfold WellSized
  rw [← UInt16.toNat_inj, ← UInt8.toNat_inj, ← UInt8.toNat_inj]
  have zero : (0 : UInt16).toNat = 0 := rfl
  have none : (0 : UInt8).toNat = 0 := rfl
  rw [size] at *
  omega

/-- The answer to an announcement decides what goes on record. -/
theorem step_announced {t : ReportPlane} {pkt : ReportInit} {srcId : UInt16}
    {status : UInt8}
    (role : env.deviceType = .gateway ∨ env.deviceType = .anchor)
    (below : FromBelow env pkt.hdr) (sizes : WellSized pkt)
    (validated : assembly.plane.clearOut.validateSlot env pkt = (t, status)) :
    (t.put (initAnswer env pkt srcId status)).io.out =
        [initAnswer env pkt srcId status] ∧
      assembly.step (env, .reportInit pkt srcId) = .ok
        { plane := t.put (initAnswer env pkt srcId status)
          seen := if status = statusSuccess then
              Function.update assembly.seen pkt.key (some [])
            else
              assembly.seen } := by
  have only : (t.put (initAnswer env pkt srcId status)).io.out =
      [initAnswer env pkt srcId status] := by
    rw [put_io, Io.put_out, (validateSlot_validated validated).io]
    rfl
  have moved : reportStep assembly.plane (env, .reportInit pkt srcId) =
      .ok (t.put (initAnswer env pkt srcId status)) :=
    congrArg Except.ok (handleReportInit_answer role below sizes validated)
  refine ⟨only, ?_⟩
  unfold ReportAssembly.step note
  rw [moved]
  dsimp only
  rw [only]
  simp [reportInitAcks, initAnswer, Env.replyHeader]

/-- A report that is not on record is accepted into a free slot. -/
theorem Sound.first {pkt : ReportInit} (sound : Sound env.crc transfers assembly)
    (member : pkt.key ∈ transfers.keys)
    (describes : pkt.Describes env.crc (transfers.data pkt.key))
    (unseen : assembly.seen pkt.key = none) (answer : Action) :
    ∃ t, assembly.plane.clearOut.validateSlot env pkt = (t, statusSuccess) ∧
      Sound env.crc transfers
        { plane := t.put answer
          seen := Function.update assembly.seen pkt.key (some []) } := by
  obtain ⟨idx, free⟩ := sound.free member unseen
  have idle := freeSlot_some free
  have missing := sound.missing unseen
  have absent : assembly.plane.clearOut.findSlot pkt.genDeviceId pkt.dataId =
      none :=
    (@findSlot_congr assembly.plane assembly.plane.clearOut rfl _ _).trans
      missing
  have vacant : assembly.plane.clearOut.freeSlot = some idx := by
    unfold freeSlot at free ⊢
    exact free
  refine ⟨_, validateSlot_fresh absent vacant, ?_⟩
  refine sound.replace (congrArg (Function.update · _ _)
    (updateReportCount_slots _ _ _)) rfl rfl member rfl
    (.announced describes (transfers.nonempty _ member) rfl) ?_
    (fun _ _ => ?_) ?_ ?_
  · simpa [clearOut] using sound.reliable
  · simpa [clearOut] using AgreeOn.refl _ _ _
  · intro other _ used same
    exact findSlot_none missing other used (congrArg Prod.fst same)
      (congrArg Prod.snd same)
  · intro used
    rw [idle] at used
    cases used

/-- A report that is not whole is accepted into its own slot once more. -/
theorem Sound.again {pkt : ReportInit} (sound : Sound env.crc transfers assembly)
    (member : pkt.key ∈ transfers.keys)
    (describes : pkt.Describes env.crc (transfers.data pkt.key))
    (known : assembly.seen pkt.key = some seen)
    (open_ : ¬ Whole (transfers.data pkt.key) seen) (answer : Action) :
    ∃ t, assembly.plane.clearOut.validateSlot env pkt = (t, statusSuccess) ∧
      Sound env.crc transfers
        { plane := t.put answer
          seen := Function.update assembly.seen pkt.key (some []) } := by
  obtain ⟨idx, active, same, -, found, assembles⟩ := sound.slot known
  have here : assembly.plane.clearOut.findSlot pkt.genDeviceId pkt.dataId =
      some idx :=
    (@findSlot_congr assembly.plane assembly.plane.clearOut rfl _ _).trans found
  have waits : (assembly.plane.slots idx).upstreamReady = false :=
    Bool.eq_false_iff.mpr fun ready => open_ (assembles.ready.mp ready)
  refine ⟨_, validateSlot_again here waits, ?_⟩
  refine sound.replace rfl rfl rfl member rfl
    (.announced describes (transfers.nonempty _ member) waits) sound.reliable
    (fun _ _ => AgreeOn.refl _ _ _) ?_ fun _ => same
  intro other different used key
  exact different (sound.distinct other idx used active
    (key.trans same.symm))

/-- A whole report is not taken again. -/
theorem Sound.refuses {pkt : ReportInit}
    (sound : Sound env.crc transfers assembly)
    (known : assembly.seen pkt.key = some seen)
    (whole : Whole (transfers.data pkt.key) seen) :
    assembly.plane.clearOut.validateSlot env pkt =
      (assembly.plane.clearOut, statusAlreadyExists) := by
  obtain ⟨idx, -, -, -, found, assembles⟩ := sound.slot known
  have here : assembly.plane.clearOut.findSlot pkt.genDeviceId pkt.dataId =
      some idx :=
    (@findSlot_congr assembly.plane assembly.plane.clearOut rfl _ _).trans found
  exact validateSlot_ready here (assembles.ready.mpr whole)

/-- An announcement is answered `ALREADY_EXISTS` once its report is whole, and
starts it anew before that. -/
theorem Sound.announced {pkt : ReportInit} {srcId : UInt16}
    (sound : Sound board.crc transfers assembly)
    (role : board.deviceType = .gateway ∨ board.deviceType = .anchor)
    (belongs : Belongs board transfers assembly (env, .reportInit pkt srcId)) :
    ∃ after status,
      assembly.step (env, .reportInit pkt srcId) = .ok after ∧
        Sound board.crc transfers after ∧
        after.plane.io.out = [initAnswer env pkt srcId status] ∧
        ((∃ seen, assembly.seen pkt.key = some seen ∧
            Whole (transfers.data pkt.key) seen) →
          status = statusAlreadyExists ∧ after.seen = assembly.seen) ∧
        ((∀ seen, assembly.seen pkt.key = some seen →
            ¬ Whole (transfers.data pkt.key) seen) →
          status = statusSuccess ∧
            after.seen = Function.update assembly.seen pkt.key (some [])) := by
  obtain ⟨onBoard, member, below, describes⟩ := belongs
  dsimp only at onBoard member below describes
  subst onBoard
  have sizes := wellSized describes (transfers.nonempty _ member)
    (transfers.fits _ member)
  by_cases whole : ∃ seen, assembly.seen pkt.key = some seen ∧
      Whole (transfers.data pkt.key) seen
  · obtain ⟨seen, known, complete⟩ := whole
    obtain ⟨only, stepped⟩ := @step_announced assembly env _ pkt srcId _ role
      below sizes (sound.refuses known complete)
    refine ⟨_, _, stepped, ?_, only, ?_, ?_⟩
    · exact ⟨sound.reliable, sound.distinct, sound.owned, sound.located⟩
    · exact fun _ => ⟨rfl, rfl⟩
    · intro open_
      exact absurd complete (open_ seen known)
  · obtain ⟨t, validated, kept⟩ : ∃ t,
        assembly.plane.clearOut.validateSlot env pkt = (t, statusSuccess) ∧
          Sound env.crc transfers
            { plane := t.put (initAnswer env pkt srcId statusSuccess)
              seen := Function.update assembly.seen pkt.key (some []) } := by
      cases known : assembly.seen pkt.key with
      | none => exact sound.first member describes known _
      | some seen =>
          refine sound.again member describes known (fun complete => ?_) _
          exact whole ⟨seen, known, complete⟩
    obtain ⟨only, stepped⟩ := @step_announced assembly env t pkt srcId _ role
      below sizes validated
    refine ⟨_, _, stepped, kept, only, ?_, ?_⟩
    · exact fun complete => absurd complete whole
    · exact fun _ => ⟨rfl, rfl⟩

theorem handleReportChunk_answer {s t : ReportPlane} {pkt : ReportChunk}
    {srcId : UInt16} {status : UInt8}
    (role : env.deviceType = .gateway ∨ env.deviceType = .anchor)
    (below : FromBelow env pkt.hdr)
    (validated : s.validateReportChunk env pkt = .ok (t, status)) :
    s.handleReportChunk env pkt srcId =
      .ok (t.put (chunkAnswer env pkt srcId status)) := by
  unfold handleReportChunk
  rw [below.1, Bool.not_true, if_neg Bool.false_ne_true]
  rcases role with gateway | anchor
  · rw [gateway]
    dsimp only
    rw [if_pos below.2, validated]
    rfl
  · rw [anchor]
    dsimp only
    rw [if_pos below.2, validated]
    rfl

/-- A chunk of a report that was announced is answered `SUCCESS` the first time
since then, and `ALREADY_EXISTS` from then on. -/
theorem Sound.chunk {pkt : ReportChunk} {srcId : UInt16}
    (sound : Sound board.crc transfers assembly)
    (role : board.deviceType = .gateway ∨ board.deviceType = .anchor)
    (belongs : Belongs board transfers assembly (env, .reportChunk pkt srcId)) :
    ∃ after, assembly.step (env, .reportChunk pkt srcId) = .ok after ∧
      Sound board.crc transfers after ∧
      ∀ seen, assembly.seen pkt.key = some seen →
        after.seen = Function.update assembly.seen pkt.key
            (some (pkt.chunkIndex :: seen)) ∧
          after.plane.io.out = [chunkAnswer env pkt srcId
            (if pkt.chunkIndex ∈ seen then statusAlreadyExists
              else statusSuccess)] := by
  obtain ⟨onBoard, member, below, piece⟩ := belongs
  dsimp only at onBoard member below piece
  subst onBoard
  have cleared : assembly.plane.clearOut.findSlot pkt.genDeviceId pkt.dataId =
      assembly.plane.findSlot pkt.key.1 pkt.key.2 :=
    @findSlot_congr assembly.plane assembly.plane.clearOut rfl _ _
  have stepped (t : ReportPlane) (status : UInt8)
      (validated : assembly.plane.clearOut.validateReportChunk env pkt =
        .ok (t, status)) :
      assembly.step (env, .reportChunk pkt srcId) = .ok
        { plane := t.put (chunkAnswer env pkt srcId status)
          seen := assembly.note (.reportChunk pkt srcId)
            (t.put (chunkAnswer env pkt srcId status)).io.out } := by
    unfold ReportAssembly.step
    have moved : reportStep assembly.plane (env, .reportChunk pkt srcId) =
        .ok (t.put (chunkAnswer env pkt srcId status)) :=
      handleReportChunk_answer role below validated
    rw [moved]
  cases known : assembly.seen pkt.key with
  | none =>
      have validated : assembly.plane.clearOut.validateReportChunk env pkt =
          .ok (assembly.plane.clearOut, statusNotFound) := by
        unfold validateReportChunk
        rw [cleared, sound.missing known]
      refine ⟨_, stepped _ _ validated, ?_, fun seen recorded => ?_⟩
      · have unchanged (out : List Action) :
            assembly.note (.reportChunk pkt srcId) out = assembly.seen := by
          simp only [note, known]
        rw [unchanged]
        exact ⟨sound.reliable, sound.distinct, sound.owned, sound.located⟩
      · cases recorded
  | some seen =>
      obtain ⟨idx, active, same, -, found, assembles⟩ := sound.slot known
      have here : assembly.plane.clearOut.findSlot pkt.genDeviceId pkt.dataId =
          some idx := cleared.trans found
      have assembles : Assembles env.crc assembly.plane.clearOut.io.psram.mem
          idx (assembly.plane.clearOut.slots idx) (transfers.data pkt.key)
          seen := assembles
      obtain ⟨t, validated, taken⟩ := validateReportChunk_taken assembles here
        rfl (transfers.nonempty _ member) (transfers.fits _ member) piece
        sound.reliable
      have noted (out : List Action) :
          assembly.note (.reportChunk pkt srcId) out =
            Function.update assembly.seen pkt.key
              (some (pkt.chunkIndex :: seen)) := by
        simp only [note, known]
      refine ⟨_, stepped _ _ validated, ?_, fun heard recorded => ?_⟩
      · have key : (t.slots idx).key = (assembly.plane.slots idx).key :=
          Prod.ext taken.gen taken.id
        refine sound.replace taken.slots (taken.active.trans active)
          (key.trans same) member ?_ taken.assembles taken.reliable
          taken.others ?_ fun _ => same
        · dsimp only
          exact noted _
        intro other different used key
        exact different (sound.distinct other idx used active
          (key.trans same.symm))
      · cases recorded
        dsimp only
        refine ⟨noted _, ?_⟩
        have silent : t.io.out = [] := taken.out
        rw [put_io, Io.put_out, silent]
        rfl

theorem senderLoop_psram (freeInvalid : Bool)
    (senders : List (Fin maxAnchors)) (s : ReportPlane) :
    (senderLoop env freeInvalid senders s).io.psram = s.io.psram := by
  induction senders generalizing s with
  | nil => rfl
  | cons senderIdx rest ih =>
      unfold senderLoop
      dsimp only
      split
      · rw [ih, expireSender_io]
      · split
        · rfl
        · split
          · split
            · simp
            · simp
          · rw [ih]
            rfl

theorem txWrite_reliable {io after : Io} {text : AtLine} {sent : Bool}
    (wrote : io.txWrite text = (after, sent)) (reliable : io.psram.Reliable) :
    after.psram.Reliable := by
  have same := Io.txWrite_psram io text
  rw [wrote] at same
  exact same.symm ▸ reliable

theorem forwardToHost_reliable {s s' : ReportPlane}
    (slots : List (Fin dataSlotCount)) (reliable : s.io.psram.Reliable)
    (ok : forwardToHost env slots s = .ok s') : s'.io.psram.Reliable := by
  induction slots generalizing s with
  | nil =>
      cases ok
      exact reliable
  | cons idx rest ih =>
      unfold forwardToHost at ok
      dsimp only at ok
      split at ok
      · have afterRead := reliable.afterRead (slotPsramAddr idx)
          (s.slots idx).totalSize.toNat
        split at ok
        · next io errno read =>
          have later : io.psram.Reliable :=
            congrArg (fun outcome => outcome.1.psram) read ▸ afterRead
          exact ih later ok
        · next io payload read =>
          have later : io.psram.Reliable :=
            congrArg (fun outcome => outcome.1.psram) read ▸ afterRead
          split at ok
          · cases ok
          · split at ok
            · exact ih later ok
            · split at ok
              · next after wrote =>
                have kept : after.psram.Reliable :=
                  txWrite_reliable wrote later
                exact ih kept ok
              · next after wrote =>
                cases ok
                exact txWrite_reliable wrote later
      · exact ih reliable ok

theorem reportTick_reliable {s s' : ReportPlane}
    (reliable : s.io.psram.Reliable) (ticked : s.reportTick env = .ok s') :
    s'.io.psram.Reliable := by
  unfold reportTick at ticked
  dsimp only at ticked
  split at ticked
  · unfold gatewayReportTick at ticked
    refine forwardToHost_reliable allSlots ?_ ticked
    rw [expireForwarded_io, expireSlots_io]
    exact reliable
  · cases ticked
    rw [anchorReportTick, senderLoop_psram, expireSlots_io]
    exact reliable
  · cases ticked
    rw [sensorReportTick, senderLoop_psram, expireSlots_io]
    exact reliable
  · cases ticked
    rw [expireSlots_io]
    exact reliable

/-- A tick at which nothing expires leaves every report as it is. -/
theorem Sound.tick (sound : Sound board.crc transfers assembly)
    (role : board.deviceType = .gateway ∨ board.deviceType = .anchor)
    (belongs : Belongs board transfers assembly (env, .tick))
    (stepped : assembly.step (env, .tick) = .ok after) :
    Sound board.crc transfers after := by
  obtain ⟨onBoard, waits⟩ := belongs
  dsimp only at onBoard waits
  subst onBoard
  have notSensor : env.deviceType ≠ .sensor := by
    rcases role with gateway | anchor
    · exact fun sensor => absurd (gateway.symm.trans sensor) (by decide)
    · exact fun sensor => absurd (anchor.symm.trans sensor) (by decide)
  unfold ReportAssembly.step at stepped
  split at stepped
  · cases stepped
  · next plane moved =>
    cases stepped
    have ticked : assembly.plane.step env .tick = .ok plane := moved
    have moves : ReportMoves env .tick assembly.plane.clearOut plane :=
      step_moves trivial ticked
    have reads : ¬ MayWrite .tick := id
    have mem : plane.io.psram.mem = assembly.plane.io.psram.mem :=
      moves.mem_eq reads
    have content (idx : Fin dataSlotCount)
        (active : (assembly.plane.slots idx).active = true) :
        (plane.slots idx).content = (assembly.plane.slots idx).content := by
      refine moves.keepsSlot active (by simp) ?_
      exact
        { noRestart := by simp
          timer := fun _ => waits idx active
          valid := fun sensor => absurd sensor notSensor
          initAck := by simp
          chunkAck := by simp
          host := fun sensor => absurd sensor notSensor
          init := by simp }
    have used (idx : Fin dataSlotCount)
        (active : (plane.slots idx).active = true) :
        (assembly.plane.slots idx).active = true := by
      have allowed : assembly.plane.Elsewhere .tick := trivial
      have held := step_keepsLedger notSensor (by simp) allowed ticked idx _
        (ledger_some.mpr ⟨active, rfl⟩)
      exact (ledger_some.mp held).1
    have key (idx : Fin dataSlotCount)
        (active : (plane.slots idx).active = true) :
        (plane.slots idx).key = (assembly.plane.slots idx).key :=
      (congrArg ReportSlot.key (content idx (used idx active)) :)
    refine ⟨?_, ?_, ?_, ?_⟩
    · have loop : assembly.plane.clearOut.reportTick env = .ok plane := ticked
      have before : assembly.plane.clearOut.io.psram.Reliable :=
        sound.reliable
      exact reportTick_reliable before loop
    · intro left right activeLeft activeRight same
      rw [key left activeLeft, key right activeRight] at same
      exact sound.distinct left right (used left activeLeft)
        (used right activeRight) same
    · intro idx active
      obtain ⟨member, seen, known, assembles⟩ := sound.owned idx
        (used idx active)
      dsimp only at active ⊢
      rw [key idx active]
      refine ⟨member, seen, known, ?_⟩
      rw [mem]
      have same := content idx (used idx active)
      exact assembles.congr same
    · intro key seen known
      obtain ⟨idx, active, same⟩ := sound.located key seen known
      have kept := content idx active
      exact ⟨idx, (congrArg ReportSlot.active kept :).trans active,
        (congrArg ReportSlot.key kept :).trans same⟩

theorem Sound.step {event : Env × ReportEvent}
    (sound : Sound board.crc transfers assembly)
    (role : board.deviceType = .gateway ∨ board.deviceType = .anchor)
    (belongs : Belongs board transfers assembly event)
    (stepped : assembly.step event = .ok after) :
    Sound board.crc transfers after := by
  obtain ⟨env, event⟩ := event
  cases event with
  | reportInit pkt srcId =>
      obtain ⟨reached, -, moved, kept, -⟩ := sound.announced role belongs
      rw [stepped, Except.ok.injEq] at moved
      exact moved ▸ kept
  | reportChunk pkt srcId =>
      obtain ⟨reached, moved, kept, -⟩ := sound.chunk role belongs
      rw [stepped, Except.ok.injEq] at moved
      exact moved ▸ kept
  | tick => exact sound.tick role belongs stepped
  | _ => exact belongs.2.elim

/-- A gateway or an anchor without reports is given at most 512 transfers,
their announcements and chunks interleaved in any way, and no idle timeout
expires.  Then in every state: an announcement is answered `SUCCESS` until its
report is whole and `ALREADY_EXISTS` from then on; each chunk is answered
`SUCCESS` the first time since the last announcement that was answered
`SUCCESS`, and `ALREADY_EXISTS` when it is repeated; and a report of which all
chunks arrived since then is ready, in a slot that holds its bytes. -/
theorem reports_reassembled {start : ReportPlane}
    (role : board.deviceType = .gateway ∨ board.deviceType = .anchor)
    (reliable : start.io.psram.Reliable)
    (idle : ∀ idx, (start.slots idx).active = false)
    (reach : Trace.Reach ReportAssembly.step (Belongs board transfers)
      { plane := start } assembly) :
    (∀ env pkt srcId,
      Belongs board transfers assembly (env, .reportInit pkt srcId) →
        ∃ after status,
          assembly.step (env, .reportInit pkt srcId) = .ok after ∧
            after.plane.io.out = [initAnswer env pkt srcId status] ∧
            ((∃ seen, assembly.seen pkt.key = some seen ∧
                Whole (transfers.data pkt.key) seen) →
              status = statusAlreadyExists ∧ after.seen = assembly.seen) ∧
            ((∀ seen, assembly.seen pkt.key = some seen →
                ¬ Whole (transfers.data pkt.key) seen) →
              status = statusSuccess ∧ after.seen =
                Function.update assembly.seen pkt.key (some []))) ∧
      (∀ env pkt srcId seen,
        Belongs board transfers assembly (env, .reportChunk pkt srcId) →
          assembly.seen pkt.key = some seen →
            ∃ after, assembly.step (env, .reportChunk pkt srcId) = .ok after ∧
              after.seen = Function.update assembly.seen pkt.key
                (some (pkt.chunkIndex :: seen)) ∧
              after.plane.io.out = [chunkAnswer env pkt srcId
                (if pkt.chunkIndex ∈ seen then statusAlreadyExists
                  else statusSuccess)]) ∧
      ∀ key seen, assembly.seen key = some seen →
        Whole (transfers.data key) seen →
          ∃ idx, assembly.plane.findSlot key.1 key.2 = some idx ∧
            (assembly.plane.slots idx).active = true ∧
            (assembly.plane.slots idx).key = key ∧
            (assembly.plane.slots idx).upstreamReady = true ∧
            (assembly.plane.slots idx).totalSize.toNat =
              (transfers.data key).length ∧
            slice assembly.plane.io.psram.mem (slotPsramAddr idx)
              (transfers.data key).length = transfers.data key := by
  have sound : Sound board.crc transfers assembly := by
    apply reach.invariant
    · refine ⟨reliable, ?_, ?_, ?_⟩
      · intro left right active
        rw [idle left] at active
        cases active
      · intro idx active
        rw [idle idx] at active
        cases active
      · intro key seen known
        cases known
    · intro before event after sound belongs stepped
      exact sound.step role belongs stepped
  refine ⟨?_, ?_, ?_⟩
  · intro env pkt srcId belongs
    obtain ⟨after, status, stepped, -, answers⟩ := sound.announced role belongs
    exact ⟨after, status, stepped, answers⟩
  · intro env pkt srcId seen belongs known
    obtain ⟨after, stepped, -, answers⟩ := sound.chunk role belongs
    exact ⟨after, stepped, answers seen known⟩
  · intro key seen known whole
    obtain ⟨idx, active, same, member, found, assembles⟩ := sound.slot known
    exact ⟨idx, found, active, same, assembles.ready.mpr whole,
      assembles.totalSize, assembles.stored whole (transfers.fits key member)⟩

/-- The one-byte reports of the sensors 5 and 6. -/
def twoReports : Transfers where
  keys := {(5, 1), (6, 1)}
  data := fun key => if key = (5, 1) then [7] else [8]
  few := by decide
  nonempty := by
    intro key _
    split <;> decide
  fits := by
    intro key _
    split <;> decide

/-- Their announcements and chunks, one inside the other. -/
def nestedReports : List (Env × ReportEvent) :=
  let hdr : PacketHeader := { deviceType := 3, deviceId := 1 }
  [ (sampleReceiver, announcement 1 1 1 0x4C667A2E),
    (sampleReceiver, .reportInit
      { hdr := hdr, genDeviceId := 6, dataId := 1, reportTimeMs := 0
        totalSize := 1, chunkCount := 1, lastChunkSize := 1
        crc32 := 0xDCD967BF } 6),
    (sampleReceiver, .reportChunk
      { hdr := hdr, genDeviceId := 6, dataId := 1, chunkIndex := 0
        data := Buffer.ofData sendDataMax [8] } 6),
    (sampleReceiver, .reportChunk (sampleChunk 1 [7]) 5) ]

theorem reports_reassembled_nested :
    Trace.Ends ReportAssembly.step {} nestedReports fun assembly =>
      ∃ idx, assembly.plane.findSlot 5 1 = some idx ∧
        slice assembly.plane.io.psram.mem (slotPsramAddr idx) 1 = [7] := by
  obtain ⟨assembly, executed, known⟩ :
      Trace.Ends ReportAssembly.step {} nestedReports fun assembly =>
        assembly.seen (5, 1) = some [0] := by
    decide +kernel
  have admitted : ∀ event ∈ nestedReports, ∀ before,
      Belongs sampleReceiver.toBoard twoReports before event := by
    intro event member before
    simp only [nestedReports, List.mem_cons, List.not_mem_nil, or_false]
      at member
    rcases member with rfl | rfl | rfl | rfl
    · exact ⟨rfl, by decide, ⟨by decide, by decide⟩, by decide, by decide,
        by decide, by decide +kernel⟩
    · exact ⟨rfl, by decide, ⟨by decide, by decide⟩, by decide, by decide,
        by decide, by decide +kernel⟩
    · exact ⟨rfl, by decide, ⟨by decide, by decide⟩, by decide, by decide⟩
    · exact ⟨rfl, by decide, ⟨by decide, by decide⟩, by decide, by decide⟩
  have whole : Whole (twoReports.data (5, 1)) [0] := by
    intro index below
    have first : index.toNat = 0 := Nat.lt_one_iff.mp below
    exact List.mem_singleton.mpr (UInt8.toNat_inj.mp first)
  obtain ⟨idx, found, -, -, -, -, stored⟩ :=
    (reports_reassembled (.inl rfl)
      ⟨rfl, fun outcome member => by cases member⟩ (fun _ => rfl)
      (.of_run admitted executed)).2.2 (5, 1) [0] known whole
  exact ⟨assembly, executed, idx, found, stored⟩

end ReportAssembly

end DectMesh
