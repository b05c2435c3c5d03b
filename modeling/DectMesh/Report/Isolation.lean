import DectMesh.Report.Invariant

/-!
# Isolation of the report slots

Storing a chunk writes at `180 * chunk_index` of a 256-byte region, while the
checks of `REPORT_INIT` bound the chunk count and the last chunk size one by
one.  A chunk that ends inside the region leaves every other slot alone; one
that does not overwrites the slot that follows.
-/

namespace DectMesh

open ByteStore

/-- The step relation of a report plane with its surroundings. -/
def reportStep (s : ReportPlane) (event : Env × ReportEvent) :
    Except Fault ReportPlane :=
  s.step event.1 event.2

/-- A board that was just switched on: the static tables are zero, the PSRAM
and the outcomes to come are arbitrary. -/
def ReportPlane.boot (io : Io) : ReportPlane := { io := io }

/-- The events of one board, with the other modules in their own regions. -/
def OnBoard (board : Board) (s : ReportPlane) (event : Env × ReportEvent) :
    Prop :=
  event.1.toBoard = board ∧ s.Elsewhere event.2

/-- A run in which every stored chunk ends inside its slot's region. -/
def IsolatedRun
    (board : Board) (s : ReportPlane) (event : Env × ReportEvent) : Prop :=
  OnBoard board s event ∧ StoresInside s event.2

theorem reach_stored
    {board : Board} {io : Io} {s : ReportPlane}
    (reach : Trace.Reach reportStep (IsolatedRun board) (.boot io) s) :
    Stored board.crc s := by
  apply reach.invariant
  · intro idx active
    cases active
  · rintro before ⟨env, event⟩ after stored ⟨⟨same, allowed⟩, inside⟩ stepped
    subst same
    exact ReportPlane.step_stored inside allowed stepped stored

/-- The memory a chunk packet changes lies in the region of its slot. -/
theorem reportChunk_confined
    {env : Env} {s s' : ReportPlane} {pkt : ReportChunk} {srcId : UInt16}
    (inside : StoresInside s (.reportChunk pkt srcId))
    (stepped : s.step env (.reportChunk pkt srcId) = .ok s')
    {cell : Nat} (changed : s'.io.psram.mem cell ≠ s.io.psram.mem cell) :
    ∃ idx, s.findSlot pkt.genDeviceId pkt.dataId = some idx ∧
      slotPsramAddr idx ≤ cell ∧ cell < slotPsramAddr idx + maxReportSize := by
  obtain ⟨middle, first, same⟩ := ReportPlane.handleReportChunk_outcome rfl stepped
  rcases first with rfl | move
  · exact absurd (congrFun same.mem cell) changed
  · obtain ⟨_, _, idx, chunk, count, received, storable, mem⟩ := move.write
    cases received
    have cleared : StoresInside s.clearOut (.reportChunk pkt srcId) :=
      inside.congr rfl
    obtain ⟨lower, upper⟩ := chunkWrite_inside cleared rfl storable
    refine ⟨idx, ?_, ?_⟩
    · rw [← storable.found]
      exact (@ReportPlane.findSlot_congr s s.clearOut rfl _ _).symm
    · by_contra outside
      apply changed
      rw [same.mem, mem]
      apply splice_outside
      rw [List.length_take]
      omega

/-- In a run in which every stored chunk ends inside its slot's region, every
ready report keeps its checksum until its slot is freed, and storing a chunk
changes the memory of its own slot only. -/
theorem reportSlots_isolated
    {board : Board} {io : Io} {s : ReportPlane}
    (reach : Trace.Reach reportStep (IsolatedRun board) (.boot io) s) :
    (∀ idx, (s.slots idx).active = true →
      (s.slots idx).upstreamReady = true →
        board.crc.ieee (slotBytes s.io.psram.mem idx (s.slots idx)) =
          (s.slots idx).crc32) ∧
      ∀ env pkt srcId s',
        IsolatedRun board s (env, .reportChunk pkt srcId) →
          s.step env (.reportChunk pkt srcId) = .ok s' →
            ∀ cell, s'.io.psram.mem cell ≠ s.io.psram.mem cell →
              ∃ idx, s.findSlot pkt.genDeviceId pkt.dataId = some idx ∧
                slotPsramAddr idx ≤ cell ∧
                  cell < slotPsramAddr idx + maxReportSize := by
  constructor
  · intro idx active ready
    exact (reach_stored reach idx active).checksum ready
  · intro env pkt srcId s' admitted stepped cell changed
    exact reportChunk_confined admitted.2 stepped changed

section Overlap

/-- A gateway with address 1. -/
def sampleGateway : Env :=
  { deviceType := .gateway, deviceId := 1, crc := Checksum.crc32Ieee }

/-- A two-chunk report of sensor 5 whose last chunk has 180 bytes, and a
one-byte report of sensor 6. -/
def overlapInits : List (Env × ReportEvent) :=
  let hdr : PacketHeader := { deviceType := 3, deviceId := 1 }
  [ (sampleGateway, .reportInit
      { hdr := hdr, genDeviceId := 5, dataId := 1, reportTimeMs := 0
        totalSize := 256, chunkCount := 2, lastChunkSize := 180, crc32 := 0 }
      5),
    (sampleGateway, .reportInit
      { hdr := hdr, genDeviceId := 6, dataId := 1, reportTimeMs := 0
        totalSize := 1, chunkCount := 1, lastChunkSize := 1
        crc32 := Checksum.crc32Ieee.ieee [7] } 6) ]

/-- The whole report of sensor 6. -/
def smallChunk : ReportChunk :=
  { hdr := { deviceType := 3, deviceId := 1 }, genDeviceId := 6, dataId := 1
    chunkIndex := 0, data := Buffer.ofData sendDataMax [7] }

/-- The first chunk of a report ends inside its slot's region. -/
theorem storesInside_of_first
    {s : ReportPlane} {pkt : ReportChunk} {srcId : UInt16}
    (first : pkt.chunkIndex = 0) :
    StoresInside s (.reportChunk pkt srcId) := by
  rintro pkt srcId idx chunk received _
  cases received
  have bound :=
    (ReportPlane.storedChunkSize (s.slots idx) pkt.chunkIndex).toNat_lt
  have size : maxReportSize = 256 := rfl
  have zero : pkt.chunkIndex.toNat = 0 := by
    rw [first]
    rfl
  rw [zero]
  omega

/-- Both announcements and the report of sensor 6 make an isolated run, at
whose end slot 1 has its checksum. -/
theorem reportSlots_isolated_smallChunk :
    Trace.Ends reportStep (.boot {})
      (overlapInits ++ [(sampleGateway, .reportChunk smallChunk 6)])
      fun s =>
        Checksum.crc32Ieee.ieee
          (slotBytes s.io.psram.mem ⟨1, by decide⟩
            (s.slots ⟨1, by decide⟩)) =
          (s.slots ⟨1, by decide⟩).crc32 := by
  obtain ⟨s, executed, active, ready⟩ :
      Trace.Ends reportStep (.boot {})
        (overlapInits ++ [(sampleGateway, .reportChunk smallChunk 6)])
        fun s =>
          (s.slots ⟨1, by decide⟩).active = true ∧
            (s.slots ⟨1, by decide⟩).upstreamReady = true := by
    decide +kernel
  refine ⟨s, executed, ?_⟩
  have admitted :
      ∀ event ∈ overlapInits ++ [(sampleGateway, .reportChunk smallChunk 6)],
        ∀ before, IsolatedRun sampleGateway.toBoard before event := by
    intro event member before
    simp only [overlapInits, List.cons_append, List.nil_append, List.mem_cons,
      List.not_mem_nil, or_false] at member
    rcases member with rfl | rfl | rfl
    · exact ⟨⟨rfl, trivial⟩, storesInside_of_other (by simp)⟩
    · exact ⟨⟨rfl, trivial⟩, storesInside_of_other (by simp)⟩
    · exact ⟨⟨rfl, trivial⟩, storesInside_of_first rfl⟩
  exact (reportSlots_isolated (.of_run admitted executed)).1 _ active ready

/-- The second chunk of the report of sensor 5. -/
def largeChunk : ReportChunk :=
  { hdr := { deviceType := 3, deviceId := 1 }, genDeviceId := 5, dataId := 1
    chunkIndex := 1
    data := Buffer.ofData sendDataMax (List.replicate 180 0xFF) }

set_option maxRecDepth 4000 in
/-- Slot 1 holds a verified report; storing the second chunk of slot 0
overwrites it. -/
theorem reportSlots_overlap :
    Trace.Ends reportStep (.boot {})
      (overlapInits ++ [(sampleGateway, .reportChunk smallChunk 6)])
      fun s =>
        ((s.slots ⟨1, by decide⟩).active = true ∧
          (s.slots ⟨1, by decide⟩).upstreamReady = true ∧
          Checksum.crc32Ieee.ieee
            (slotBytes s.io.psram.mem ⟨1, by decide⟩
              (s.slots ⟨1, by decide⟩)) =
            (s.slots ⟨1, by decide⟩).crc32) ∧
        Trace.Ends reportStep s [(sampleGateway, .reportChunk largeChunk 5)]
          fun s' =>
            s.findSlot 5 1 = some ⟨0, by decide⟩ ∧
            s'.io.psram.mem (slotPsramAddr ⟨1, by decide⟩) ≠
              s.io.psram.mem (slotPsramAddr ⟨1, by decide⟩) ∧
            (s'.slots ⟨1, by decide⟩).active = true ∧
            (s'.slots ⟨1, by decide⟩).upstreamReady = true ∧
            Checksum.crc32Ieee.ieee
              (slotBytes s'.io.psram.mem ⟨1, by decide⟩
                (s'.slots ⟨1, by decide⟩)) ≠
              (s'.slots ⟨1, by decide⟩).crc32 := by
  decide +kernel

end Overlap

end DectMesh
