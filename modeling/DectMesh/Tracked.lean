import DectMesh.LargeData.Run
import DectMesh.Mesh.Directory
import DectMesh.Mesh.Invariant
import DectMesh.Mesh.Network
import DectMesh.RouteService

/-!
# Tracked requests

A packet with a tracker entry is repeated until it is answered under its
tracking id; a neighbour that leaves too many of them unanswered is evicted.
This module says which of them the handler of a live board answers.
-/

namespace DectMesh

/-- The packets that are sent with a tracker entry, without those of a
pairing. -/
inductive TrackedRequest where
  | joinedNetwork (pkt : JoinedNetwork)
  | pingDevice (pkt : PingDevice)
  | deviceUpdated (pkt : DeviceUpdated)
  | routeDiscovery (pkt : RouteDiscovery)
  | routeInfo (pkt : RouteInfo)
  | reportInit (pkt : ReportInit)
  | reportChunk (pkt : ReportChunk)
  | reportReceived (pkt : ReportReceived)
  | config (pkt : Config)
  | configReceived (pkt : ConfigReceived)
  | largeDataInit (pkt : LargeDataInit)
  | largeDataChunk (pkt : LargeDataChunk)

def TrackedRequest.hdr : TrackedRequest → PacketHeader
  | .joinedNetwork pkt => pkt.hdr
  | .pingDevice pkt => pkt.hdr
  | .deviceUpdated pkt => pkt.hdr
  | .routeDiscovery pkt => pkt.hdr
  | .routeInfo pkt => pkt.hdr
  | .reportInit pkt => pkt.hdr
  | .reportChunk pkt => pkt.hdr
  | .reportReceived pkt => pkt.hdr
  | .config pkt => pkt.hdr
  | .configReceived pkt => pkt.hdr
  | .largeDataInit pkt => pkt.hdr
  | .largeDataChunk pkt => pkt.hdr

/-- A board that is up, as its packet handlers see it. -/
structure Addressee where
  env : RouteEnv
  meshEnv : MeshEnv
  mesh : MeshPlane
  config : ConfigPlane
  report : ReportPlane
  ld : LdPlane
  sameType : meshEnv.deviceType = env.deviceType
  sameId : meshEnv.deviceId = env.deviceId

namespace Addressee

variable (b : Addressee)

/-- The header of an answer to this request from this sender. -/
def Acks (request : TrackedRequest) (srcId : UInt16) (hdr : PacketHeader) :
    Prop :=
  hdr.deviceId = srcId ∧ hdr.trackingId = request.hdr.trackingId

/-- The mesh layer before it handles a packet. -/
def listening : MeshPlane := { b.mesh with out := [] }

/-- The gateway's planes for a route before it handles a packet. -/
def routed : RouteService where
  config := b.config
  report := b.report

/-- The handler of the packet enqueues the answer.  A board that restarts
before it can answer is not a live one, and an access outside an array is no
answer. -/
def Answers (request : TrackedRequest) (srcId : UInt16) (rssi2 : Int16) :
    Prop :=
  match request with
  | .joinedNetwork pkt =>
      ∃ ack, .reply (.joinedNetworkAck ack) ∈
          (b.listening.handleJoinedNetwork b.meshEnv pkt srcId).out ∧
        Acks request srcId ack.hdr
  | .pingDevice pkt =>
      ∀ s, b.listening.handlePingDevice b.meshEnv pkt srcId rssi2 = .ok s →
        ∃ ack, .reply (.pingAck ack) ∈ s.out ∧ Acks request srcId ack.hdr
  | .deviceUpdated pkt =>
      ∃ ack, .reply (.deviceUpdatedAck ack) ∈
          (b.listening.handleDeviceUpdated b.meshEnv pkt srcId).out ∧
        Acks request srcId ack.hdr
  | .routeDiscovery pkt =>
      ∃ ack, .reply (.routeDiscoveryAck ack) ∈
          b.env.handleRouteDiscovery pkt srcId ∧
        Acks request srcId ack.hdr
  | .routeInfo pkt =>
      if b.env.deviceType = .gateway then
        ∃ s ack, b.routed.handleRouteInfo b.env.toEnv pkt srcId = .ok s ∧
          .reply (.routeInfoAck ack) ∈ s.config.io.out ++ s.report.io.out ∧
            Acks request srcId ack.hdr
      else
        ∃ ack, .reply (.routeInfoAck ack) ∈ b.env.handleRouteInfo pkt srcId ∧
          Acks request srcId ack.hdr
  | .reportInit pkt =>
      ∃ ack, .reply (.reportInitAck ack) ∈
          (b.report.clearOut.handleReportInit b.env.toEnv pkt srcId).io.out ∧
        Acks request srcId ack.hdr
  | .reportChunk pkt =>
      ∃ s ack, b.report.clearOut.handleReportChunk b.env.toEnv pkt srcId =
          .ok s ∧
        .reply (.reportChunkAck ack) ∈ s.io.out ∧ Acks request srcId ack.hdr
  | .reportReceived pkt =>
      ∃ ack, .reply (.reportReceivedAck ack) ∈
          (b.report.clearOut.handleReportReceived b.env.toEnv pkt
            srcId).io.out ∧
        Acks request srcId ack.hdr
  | .config pkt =>
      ∃ ack, .reply (.configAck ack) ∈
          (b.config.clearOut.handleConfig b.env.toEnv pkt srcId).io.out ∧
        Acks request srcId ack.hdr
  | .configReceived pkt =>
      ∃ ack, .reply (.configReceivedAck ack) ∈
          (b.config.clearOut.handleConfigReceived b.env.toEnv pkt
            srcId).io.out ∧
        Acks request srcId ack.hdr
  | .largeDataInit pkt =>
      ∃ ack, .reply (.largeDataInitAck ack) ∈
          (b.ld.clearOut.handleLargeDataInit b.env.toEnv pkt srcId).io.out ∧
        Acks request srcId ack.hdr
  | .largeDataChunk pkt =>
      ∃ s ack, b.ld.clearOut.handleLargeDataChunk b.env.toEnv pkt srcId =
          .ok s ∧
        .reply (.largeDataChunkAck ack) ∈ s.io.out ∧ Acks request srcId ack.hdr

/-- The board takes the packet from downstream. -/
def FromBelow (hdr : PacketHeader) : Prop :=
  (b.env.deviceType = .gateway ∨ b.env.deviceType = .anchor) ∧
    isDownstreamType hdr.deviceType = true

/-- The board takes the packet from upstream. -/
def FromAbove (hdr : PacketHeader) : Prop :=
  (b.env.deviceType = .anchor ∨ b.env.deviceType = .sensor) ∧
    isUpstreamType hdr.deviceType = true

/-- The packets that the handlers are written to answer. -/
def Answerable (request : TrackedRequest) : Prop :=
  match request with
  | .joinedNetwork pkt => pkt.hdr.status = statusSuccess ∧ b.FromBelow pkt.hdr
  | .pingDevice pkt =>
      b.FromAbove pkt.hdr ∨
        pkt.dstDeviceId = b.env.deviceId ∧
          MeshPlane.keepsDevice pkt.hdr.status = false
  | .deviceUpdated pkt => b.FromBelow pkt.hdr
  | .routeDiscovery pkt =>
      pkt.hdr.status = statusSuccess ∧ b.env.deviceType = .anchor ∧
        isUpstreamType pkt.hdr.deviceType = true
  | .routeInfo pkt =>
      pkt.hdr.status = statusSuccess ∧
        (b.env.deviceType = .gateway ∧
            pkt.hdr.deviceType = DeviceType.anchor.code ∧
              (pkt.dataType = dataTypeConfig →
                pkt.dataId.toNat < configSlotCount) ∧
              (pkt.dataType = dataTypeReport →
                pkt.dataId.toNat < dataSlotCount) ∨
          b.env.deviceType = .anchor ∧
            (pkt.hdr.deviceType = DeviceType.anchor.code ∨
              pkt.hdr.deviceId = DeviceType.gateway.code.toUInt16))
  | .reportInit pkt =>
      b.FromBelow pkt.hdr ∨ pkt.totalSize = 0 ∨
        maxReportSize < pkt.totalSize.toNat ∨ pkt.chunkCount = 0 ∨
          dataMaxChunks < pkt.chunkCount.toNat ∨ pkt.lastChunkSize = 0 ∨
            sendDataMax < pkt.lastChunkSize.toNat
  | .reportChunk pkt =>
      b.FromBelow pkt.hdr ∧
        ∀ idx, b.report.findSlot pkt.genDeviceId pkt.dataId = some idx →
          pkt.chunkIndex < (b.report.slots idx).chunkCount →
            pkt.chunkIndex.toNat < dataMaxChunks
  | .reportReceived pkt => b.FromAbove pkt.hdr
  | .config pkt =>
      b.FromAbove pkt.hdr ∨ pkt.configLen = 0 ∨
        maxConfigSize < pkt.configLen.toNat
  | .configReceived pkt => b.FromBelow pkt.hdr
  | .largeDataInit pkt =>
      b.FromBelow pkt.hdr ∨ pkt.totalSize = 0 ∨
        ldMaxTransferSize < pkt.totalSize.toNat ∨ pkt.pageCount = 0 ∨
          pkt.lastChunkSize = 0 ∨ ldChunkSize < pkt.lastChunkSize.toNat
  | .largeDataChunk pkt =>
      b.FromBelow pkt.hdr ∧
        ∀ idx, b.ld.findLargeDataSlot pkt.genDeviceId pkt.dataId = some idx →
          pkt.pageIndex < (b.ld.slots idx).pageCount →
            pkt.chunkIndex.toNat < ldChunksPerPage →
              LdPlane.linearIndex pkt.pageIndex pkt.chunkIndex <
                  (b.ld.slots idx).totalChunks.toNat →
                LdPlane.linearIndex pkt.pageIndex pkt.chunkIndex <
                  ldBitmapBits

end Addressee

section Planes

variable {b : Addressee} {srcId : UInt16}

theorem Addressee.mesh_accepts {hdr : PacketHeader}
    (accepted : b.env.accepts hdr = true) : b.meshEnv.accepts hdr = true := by
  simp only [MeshEnv.accepts, b.sameId]
  exact accepted

theorem ConfigPlane.mem_put (s : ConfigPlane) (action : Action) :
    action ∈ (s.put action).io.out := List.mem_concat_self

theorem ReportPlane.mem_put (s : ReportPlane) (action : Action) :
    action ∈ (s.put action).io.out := List.mem_concat_self

namespace Addressee

theorem config_answers
    {pkt : Config} (accepted : b.env.accepts pkt.hdr = true) (rssi2 : Int16) :
    b.Answers (.config pkt) srcId rssi2 ↔ b.Answerable (.config pkt) := by
  simp only [Answers, Answerable, FromAbove, ConfigPlane.handleConfig, accepted,
    Bool.not_true, Bool.false_eq_true, if_false]
  split
  · next invalid =>
    exact iff_of_true ⟨_, List.mem_concat_self, rfl, rfl⟩ (.inr invalid)
  · next valid =>
    split
    · next isGateway =>
      refine iff_of_false (by simp [ConfigPlane.clearOut]) ?_
      simp [isGateway, valid]
    · next isUnknown =>
      refine iff_of_false (by simp [ConfigPlane.clearOut]) ?_
      simp [isUnknown, valid]
    · next isAnchor =>
      split
      · next upstream =>
        refine iff_of_true ?_ (.inl ⟨.inl isAnchor, upstream⟩)
        split
        · split
          · exact ⟨_, List.mem_concat_self, rfl, rfl⟩
          · exact ⟨_, List.mem_concat_self, rfl, rfl⟩
        · exact ⟨_, List.mem_concat_self, rfl, rfl⟩
      · next notUpstream =>
        refine iff_of_false (by simp [ConfigPlane.clearOut]) ?_
        simp [notUpstream, valid]
    · next isSensor =>
      split
      · next upstream =>
        refine iff_of_true ?_ (.inl ⟨.inr isSensor, upstream⟩)
        split
        · split
          · exact ⟨_, List.mem_append_left _ List.mem_concat_self, rfl,
              rfl⟩
          · exact ⟨_, List.mem_concat_self, rfl, rfl⟩
        · exact ⟨_, List.mem_concat_self, rfl, rfl⟩
      · next notUpstream =>
        refine iff_of_false (by simp [ConfigPlane.clearOut]) ?_
        simp [notUpstream, valid]

theorem configReceived_answers
    {pkt : ConfigReceived} (accepted : b.env.accepts pkt.hdr = true)
    (rssi2 : Int16) :
    b.Answers (.configReceived pkt) srcId rssi2 ↔
      b.Answerable (.configReceived pkt) := by
  simp only [Answers, Answerable, FromBelow, ConfigPlane.handleConfigReceived,
    accepted, Bool.not_true, Bool.false_eq_true, if_false]
  split
  · next isGateway =>
    split
    · next below =>
      exact iff_of_true ⟨_, List.mem_concat_self, rfl, rfl⟩
        ⟨.inl isGateway, below⟩
    · next notBelow =>
      refine iff_of_false (by simp [ConfigPlane.clearOut]) ?_
      simp [notBelow]
  · next isAnchor =>
    split
    · next below =>
      exact iff_of_true ⟨_, List.mem_concat_self, rfl, rfl⟩
        ⟨.inr isAnchor, below⟩
    · next notBelow =>
      refine iff_of_false (by simp [ConfigPlane.clearOut]) ?_
      simp [notBelow]
  · next isSensor =>
    refine iff_of_false (by simp [ConfigPlane.clearOut]) ?_
    simp [isSensor]
  · next isUnknown =>
    refine iff_of_false (by simp [ConfigPlane.clearOut]) ?_
    simp [isUnknown]

theorem reportInit_answers
    {pkt : ReportInit} (accepted : b.env.accepts pkt.hdr = true)
    (rssi2 : Int16) :
    b.Answers (.reportInit pkt) srcId rssi2 ↔
      b.Answerable (.reportInit pkt) := by
  simp only [Answers, Answerable, FromBelow, ReportPlane.handleReportInit,
    accepted, Bool.not_true, Bool.false_eq_true, if_false]
  split
  · next invalid =>
    exact iff_of_true ⟨_, List.mem_concat_self, rfl, rfl⟩ (.inr invalid)
  · next valid =>
    split
    · next isGateway =>
      split
      · next below =>
        exact iff_of_true ⟨_, List.mem_concat_self, rfl, rfl⟩
          (.inl ⟨.inl isGateway, below⟩)
      · next notBelow =>
        refine iff_of_false (by simp [ReportPlane.clearOut]) ?_
        rintro (⟨-, below⟩ | invalid)
        · exact notBelow below
        · exact valid invalid
    · next isAnchor =>
      split
      · next below =>
        exact iff_of_true ⟨_, List.mem_concat_self, rfl, rfl⟩
          (.inl ⟨.inr isAnchor, below⟩)
      · next notBelow =>
        refine iff_of_false (by simp [ReportPlane.clearOut]) ?_
        rintro (⟨-, below⟩ | invalid)
        · exact notBelow below
        · exact valid invalid
    · next isSensor =>
      refine iff_of_false (by simp [ReportPlane.clearOut]) ?_
      rintro (⟨role, -⟩ | invalid)
      · simp [isSensor] at role
      · exact valid invalid
    · next isUnknown =>
      refine iff_of_false (by simp [ReportPlane.clearOut]) ?_
      rintro (⟨role, -⟩ | invalid)
      · simp [isUnknown] at role
      · exact valid invalid

theorem largeDataInit_answers
    {pkt : LargeDataInit} (accepted : b.env.accepts pkt.hdr = true)
    (rssi2 : Int16) :
    b.Answers (.largeDataInit pkt) srcId rssi2 ↔
      b.Answerable (.largeDataInit pkt) := by
  simp only [Answers, Answerable, FromBelow, LdPlane.handleLargeDataInit,
    accepted, Bool.not_true, Bool.false_eq_true, if_false]
  split
  · next invalid =>
    exact iff_of_true ⟨_, List.mem_concat_self, rfl, rfl⟩ (.inr invalid)
  · next valid =>
    split
    · next isGateway =>
      split
      · next below =>
        exact iff_of_true ⟨_, List.mem_concat_self, rfl, rfl⟩
          (.inl ⟨.inl isGateway, below⟩)
      · next notBelow =>
        refine iff_of_false (by simp [LdPlane.clearOut]) ?_
        rintro (⟨-, below⟩ | invalid)
        · exact notBelow below
        · exact valid invalid
    · next isAnchor =>
      split
      · next below =>
        exact iff_of_true ⟨_, List.mem_concat_self, rfl, rfl⟩
          (.inl ⟨.inr isAnchor, below⟩)
      · next notBelow =>
        refine iff_of_false (by simp [LdPlane.clearOut]) ?_
        rintro (⟨-, below⟩ | invalid)
        · exact notBelow below
        · exact valid invalid
    · next isSensor =>
      refine iff_of_false (by simp [LdPlane.clearOut]) ?_
      rintro (⟨role, -⟩ | invalid)
      · simp [isSensor] at role
      · exact valid invalid
    · next isUnknown =>
      refine iff_of_false (by simp [LdPlane.clearOut]) ?_
      rintro (⟨role, -⟩ | invalid)
      · simp [isUnknown] at role
      · exact valid invalid

theorem reportReceived_answers
    {pkt : ReportReceived} (accepted : b.env.accepts pkt.hdr = true)
    (rssi2 : Int16) :
    b.Answers (.reportReceived pkt) srcId rssi2 ↔
      b.Answerable (.reportReceived pkt) := by
  simp only [Answers, Answerable, FromAbove, ReportPlane.handleReportReceived,
    accepted, Bool.not_true, Bool.false_eq_true, if_false]
  split
  · next isGateway =>
    refine iff_of_false (by simp [ReportPlane.clearOut]) ?_
    simp [isGateway]
  · next isUnknown =>
    refine iff_of_false (by simp [ReportPlane.clearOut]) ?_
    simp [isUnknown]
  · next isAnchor =>
    split
    · next above =>
      refine iff_of_true ?_ ⟨.inl isAnchor, above⟩
      split
      · split
        · exact ⟨_, List.mem_concat_self, rfl, rfl⟩
        · exact ⟨_, List.mem_concat_self, rfl, rfl⟩
      · exact ⟨_, List.mem_concat_self, rfl, rfl⟩
    · next notAbove =>
      refine iff_of_false (by simp [ReportPlane.clearOut]) ?_
      simp [notAbove]
  · next isSensor =>
    split
    · next above =>
      exact iff_of_true ⟨_, List.mem_concat_self, rfl, rfl⟩
        ⟨.inr isSensor, above⟩
    · next notAbove =>
      refine iff_of_false (by simp [ReportPlane.clearOut]) ?_
      simp [notAbove]

/-- `validate_report_chunk` stays inside the bitmap of its slot. -/
theorem validateReportChunk_ok
    {s : ReportPlane} {env : Env} {pkt : ReportChunk} :
    (∃ outcome, s.validateReportChunk env pkt = .ok outcome) ↔
      ∀ idx, s.findSlot pkt.genDeviceId pkt.dataId = some idx →
        pkt.chunkIndex < (s.slots idx).chunkCount →
          pkt.chunkIndex.toNat < dataMaxChunks := by
  unfold ReportPlane.validateReportChunk
  split
  · next missing =>
    refine iff_of_true ⟨_, rfl⟩ fun idx found => ?_
    rw [missing] at found
    cases found
  · next idx found =>
    simp only
    split
    · next outside =>
      refine iff_of_true ⟨_, rfl⟩ fun other same inside => ?_
      cases Option.some.inj (found.symm.trans same)
      exact absurd outside (UInt8.not_le.mpr inside)
    · next inside =>
      unfold ReportPlane.receivedIndex
      split
      · next fault refused =>
        split at refused
        · cases refused
        · next outside =>
          refine iff_of_false (by simp) fun bounded => ?_
          exact outside (bounded idx found (UInt8.not_le.mp inside))
      · next chunk accepted =>
        split at accepted
        · next bounded =>
          refine iff_of_true ?_ fun _ _ _ => bounded
          split
          · exact ⟨_, rfl⟩
          · split
            · exact ⟨_, rfl⟩
            · split
              · exact ⟨_, rfl⟩
              · exact ⟨_, rfl⟩
        · cases accepted

theorem reportChunk_answers
    {pkt : ReportChunk} (accepted : b.env.accepts pkt.hdr = true)
    (rssi2 : Int16) :
    b.Answers (.reportChunk pkt) srcId rssi2 ↔
      b.Answerable (.reportChunk pkt) := by
  have keeps : b.report.clearOut.findSlot pkt.genDeviceId pkt.dataId =
      b.report.findSlot pkt.genDeviceId pkt.dataId :=
    @ReportPlane.findSlot_congr b.report b.report.clearOut rfl _ _
  have bounded := @validateReportChunk_ok b.report.clearOut b.env.toEnv pkt
  rw [keeps] at bounded
  simp only [Answers, Answerable, FromBelow, ReportPlane.handleReportChunk,
    accepted, Bool.not_true, Bool.false_eq_true, if_false]
  rcases validated : b.report.clearOut.validateReportChunk b.env.toEnv pkt with
    fault | ⟨s, status⟩
  · refine iff_of_false ?_ fun ⟨_, inside⟩ => ?_
    · dsimp only
      split
      · split <;> simp [ReportPlane.clearOut]
      · split <;> simp [ReportPlane.clearOut]
      · simp [ReportPlane.clearOut]
      · simp [ReportPlane.clearOut]
    · obtain ⟨outcome, done⟩ := bounded.mpr inside
      rw [validated] at done
      cases done
  · have inside := bounded.mp ⟨_, validated⟩
    split
    · next isGateway =>
      split
      · next below =>
        exact iff_of_true ⟨_, _, rfl, List.mem_concat_self, rfl, rfl⟩
          ⟨⟨.inl isGateway, below⟩, inside⟩
      · next notBelow =>
        refine iff_of_false (by simp [ReportPlane.clearOut]) ?_
        simp [notBelow]
    · next isAnchor =>
      split
      · next below =>
        exact iff_of_true ⟨_, _, rfl, List.mem_concat_self, rfl, rfl⟩
          ⟨⟨.inr isAnchor, below⟩, inside⟩
      · next notBelow =>
        refine iff_of_false (by simp [ReportPlane.clearOut]) ?_
        simp [notBelow]
    · next isSensor =>
      refine iff_of_false (by simp [ReportPlane.clearOut]) ?_
      simp [isSensor]
    · next isUnknown =>
      refine iff_of_false (by simp [ReportPlane.clearOut]) ?_
      simp [isUnknown]

/-- `validate_large_data_chunk` stays inside the bitmap of its slot. -/
theorem validateLargeDataChunk_ok
    {s : LdPlane} {env : Env} {pkt : LargeDataChunk} :
    (∃ outcome, s.validateLargeDataChunk env pkt = .ok outcome) ↔
      ∀ idx, s.findLargeDataSlot pkt.genDeviceId pkt.dataId = some idx →
        pkt.pageIndex < (s.slots idx).pageCount →
          pkt.chunkIndex.toNat < ldChunksPerPage →
            LdPlane.linearIndex pkt.pageIndex pkt.chunkIndex <
                (s.slots idx).totalChunks.toNat →
              LdPlane.linearIndex pkt.pageIndex pkt.chunkIndex <
                ldBitmapBits := by
  unfold LdPlane.validateLargeDataChunk
  split
  · next missing =>
    refine iff_of_true ⟨_, rfl⟩ fun idx found => ?_
    rw [missing] at found
    cases found
  · next idx found =>
    simp only
    split
    · next outside =>
      refine iff_of_true ⟨_, rfl⟩ fun other same page chunk linear => ?_
      cases Option.some.inj (found.symm.trans same)
      rcases outside with pageOutside | chunkOutside | linearOutside
      · exact absurd pageOutside (UInt8.not_le.mpr page)
      · exact absurd chunkOutside (Nat.not_le.mpr chunk)
      · exact absurd linearOutside (Nat.not_le.mpr linear)
    · next inside =>
      simp only [not_or, UInt8.not_le, Nat.not_le] at inside
      obtain ⟨page, chunk, linear⟩ := inside
      unfold LdPlane.bitIndex
      split
      · next fault refused =>
        split at refused
        · cases refused
        · next outside =>
          refine iff_of_false (by simp) fun bounded => ?_
          exact outside (bounded idx found page chunk linear)
      · next bit accepted =>
        split at accepted
        · next bounded =>
          refine iff_of_true ?_ fun _ _ _ _ _ => bounded
          split
          · exact ⟨_, rfl⟩
          · split
            · exact ⟨_, rfl⟩
            · split
              · exact ⟨_, rfl⟩
              · exact ⟨_, rfl⟩
        · cases accepted

theorem largeDataChunk_answers
    {pkt : LargeDataChunk} (accepted : b.env.accepts pkt.hdr = true)
    (rssi2 : Int16) :
    b.Answers (.largeDataChunk pkt) srcId rssi2 ↔
      b.Answerable (.largeDataChunk pkt) := by
  have keeps : b.ld.clearOut.findLargeDataSlot pkt.genDeviceId pkt.dataId =
      b.ld.findLargeDataSlot pkt.genDeviceId pkt.dataId := by
    unfold LdPlane.findLargeDataSlot
    rfl
  have bounded := @validateLargeDataChunk_ok b.ld.clearOut b.env.toEnv pkt
  rw [keeps] at bounded
  simp only [Answers, Answerable, FromBelow, LdPlane.handleLargeDataChunk,
    accepted, Bool.not_true, Bool.false_eq_true, if_false]
  rcases validated : b.ld.clearOut.validateLargeDataChunk b.env.toEnv pkt with
    fault | ⟨s, status⟩
  · refine iff_of_false ?_ fun ⟨_, inside⟩ => ?_
    · dsimp only
      split
      · split <;> simp [LdPlane.clearOut]
      · split <;> simp [LdPlane.clearOut]
      · simp [LdPlane.clearOut]
      · simp [LdPlane.clearOut]
    · obtain ⟨outcome, done⟩ := bounded.mpr inside
      rw [validated] at done
      cases done
  · have inside := bounded.mp ⟨_, validated⟩
    split
    · next isGateway =>
      split
      · next below =>
        exact iff_of_true ⟨_, _, rfl, List.mem_concat_self, rfl, rfl⟩
          ⟨⟨.inl isGateway, below⟩, inside⟩
      · next notBelow =>
        refine iff_of_false (by simp [LdPlane.clearOut]) ?_
        simp [notBelow]
    · next isAnchor =>
      split
      · next below =>
        exact iff_of_true ⟨_, _, rfl, List.mem_concat_self, rfl, rfl⟩
          ⟨⟨.inr isAnchor, below⟩, inside⟩
      · next notBelow =>
        refine iff_of_false (by simp [LdPlane.clearOut]) ?_
        simp [notBelow]
    · next isSensor =>
      refine iff_of_false (by simp [LdPlane.clearOut]) ?_
      simp [isSensor]
    · next isUnknown =>
      refine iff_of_false (by simp [LdPlane.clearOut]) ?_
      simp [isUnknown]

theorem routeDiscovery_answers
    {pkt : RouteDiscovery} (accepted : b.env.accepts pkt.hdr = true)
    (rssi2 : Int16) :
    b.Answers (.routeDiscovery pkt) srcId rssi2 ↔
      b.Answerable (.routeDiscovery pkt) := by
  simp only [Answers, Answerable, RouteEnv.handleRouteDiscovery, accepted,
    Bool.not_true, Bool.false_eq_true, if_false]
  split
  · next refused =>
    exact iff_of_false (by simp) fun ⟨status, _⟩ => refused status
  · next success =>
    have status : pkt.hdr.status = statusSuccess := not_not.mp success
    split
    · next isGateway => simp [isGateway]
    · next isSensor => simp [isSensor]
    · next isUnknown => simp [isUnknown]
    · next isAnchor =>
      split
      · next above =>
        refine iff_of_true ?_ ⟨status, isAnchor, above⟩
        split
        · exact ⟨_, List.mem_cons_of_mem _ List.mem_cons_self, rfl, rfl⟩
        · split
          · split
            · exact ⟨_, List.mem_cons_of_mem _ List.mem_cons_self, rfl, rfl⟩
            · exact ⟨_, List.mem_cons_self, rfl, rfl⟩
          · exact ⟨_, List.mem_concat_self, rfl, rfl⟩
      · next notAbove => simp [notAbove]

/-- `handle_route_info` on an anchor. -/
theorem routeInfo_anchor
    {pkt : RouteInfo} (accepted : b.env.accepts pkt.hdr = true) :
    (∃ ack, .reply (.routeInfoAck ack) ∈ b.env.handleRouteInfo pkt srcId ∧
        Acks (.routeInfo pkt) srcId ack.hdr) ↔
      pkt.hdr.status = statusSuccess ∧ b.env.deviceType = .anchor ∧
        (pkt.hdr.deviceType = DeviceType.anchor.code ∨
          pkt.hdr.deviceId = DeviceType.gateway.code.toUInt16) := by
  simp only [RouteEnv.handleRouteInfo, accepted, Bool.not_true,
    Bool.false_eq_true, if_false]
  split
  · next refused =>
    exact iff_of_false (by simp) fun ⟨status, _⟩ => refused status
  · next success =>
    have status : pkt.hdr.status = statusSuccess := not_not.mp success
    split
    · next isGateway => simp [isGateway]
    · next isSensor => simp [isSensor]
    · next isUnknown => simp [isUnknown]
    · next isAnchor =>
      split
      · next taken =>
        exact iff_of_true
          ⟨_, List.mem_cons_of_mem _ List.mem_cons_self, rfl, rfl⟩
          ⟨status, isAnchor, taken⟩
      · next refused => simp [refused]

theorem buildConfigPkt_ok {s : ConfigPlane} {pkt : RouteInfo} :
    (∃ built, s.buildConfigPkt pkt = .ok built) ↔
      pkt.dataId.toNat < configSlotCount := by
  unfold ConfigPlane.buildConfigPkt
  split
  · next inside =>
    refine iff_of_true ?_ inside
    dsimp only
    split
    · exact ⟨_, rfl⟩
    · split
      · exact ⟨_, rfl⟩
      · exact ⟨_, rfl⟩
  · next outside => exact iff_of_false (by simp) outside

theorem buildReportReceivedPkt_ok {s : ReportPlane} {pkt : RouteInfo} :
    (∃ built, s.buildReportReceivedPkt pkt = .ok built) ↔
      pkt.dataId.toNat < dataSlotCount := by
  unfold ReportPlane.buildReportReceivedPkt
  split
  · next inside =>
    refine iff_of_true ?_ inside
    dsimp only
    split
    · exact ⟨_, rfl⟩
    · exact ⟨_, rfl⟩
  · next outside => exact iff_of_false (by simp) outside

theorem routeInfo_config
    {pkt : RouteInfo} (served : RouteService.Served b.env.toEnv pkt)
    (kind : pkt.dataType = dataTypeConfig) :
    (∃ s ack, b.routed.handleRouteInfo b.env.toEnv pkt srcId = .ok s ∧
        .reply (.routeInfoAck ack) ∈ s.config.io.out ++ s.report.io.out ∧
          Acks (.routeInfo pkt) srcId ack.hdr) ↔
      pkt.dataId.toNat < configSlotCount := by
  obtain ⟨accepted, success, role, sender⟩ := served
  have bounded := @buildConfigPkt_ok b.routed.config.clearOut pkt
  unfold RouteService.handleRouteInfo
  rw [if_pos kind]
  unfold ConfigPlane.sendRoutedConfig
  dsimp only
  rw [if_neg (by simp [accepted, success, role, sender, kind])]
  rcases built : b.routed.config.clearOut.buildConfigPkt pkt with
    fault | ⟨config, packet⟩
  · refine iff_of_false (by simp) fun inside => ?_
    obtain ⟨outcome, done⟩ := bounded.mpr inside
    rw [built] at done
    cases done
  · refine iff_of_true ?_ (bounded.mp ⟨_, built⟩)
    dsimp only
    by_cases empty : packet.configLen = 0
    · rw [if_pos empty]
      exact ⟨_, _, rfl, List.mem_append_left _ (ConfigPlane.mem_put _ _), rfl,
        rfl⟩
    · rw [if_neg empty]
      exact ⟨_, _, rfl, List.mem_append_left _ (ConfigPlane.mem_put _ _), rfl,
        rfl⟩

theorem routeInfo_report
    {pkt : RouteInfo} (served : RouteService.Served b.env.toEnv pkt)
    (kind : pkt.dataType = dataTypeReport) :
    (∃ s ack, b.routed.handleRouteInfo b.env.toEnv pkt srcId = .ok s ∧
        .reply (.routeInfoAck ack) ∈ s.config.io.out ++ s.report.io.out ∧
          Acks (.routeInfo pkt) srcId ack.hdr) ↔
      pkt.dataId.toNat < dataSlotCount := by
  obtain ⟨accepted, success, role, sender⟩ := served
  have bounded := @buildReportReceivedPkt_ok b.routed.report.clearOut pkt
  unfold RouteService.handleRouteInfo
  rw [if_neg (by rw [kind]; decide), if_pos kind]
  unfold ReportPlane.sendRoutedReport
  dsimp only
  rw [if_neg (by simp [accepted, success, role, sender, kind])]
  rcases built : b.routed.report.clearOut.buildReportReceivedPkt pkt with
    fault | ⟨report, packet⟩
  · refine iff_of_false (by simp) fun inside => ?_
    obtain ⟨outcome, done⟩ := bounded.mpr inside
    rw [built] at done
    cases done
  · refine iff_of_true ?_ (bounded.mp ⟨_, built⟩)
    dsimp only
    by_cases empty : packet.dataId = 0
    · rw [if_pos empty]
      exact ⟨_, _, rfl, List.mem_append_right _ (ReportPlane.mem_put _ _), rfl,
        rfl⟩
    · rw [if_neg empty]
      exact ⟨_, _, rfl, List.mem_append_right _ (ReportPlane.mem_put _ _), rfl,
        rfl⟩

/-- `handle_route_info` on the gateway. -/
theorem routeInfo_gateway
    {pkt : RouteInfo} (accepted : b.env.accepts pkt.hdr = true)
    (isGateway : b.env.deviceType = .gateway) :
    (∃ s ack, b.routed.handleRouteInfo b.env.toEnv pkt srcId = .ok s ∧
        .reply (.routeInfoAck ack) ∈ s.config.io.out ++ s.report.io.out ∧
          Acks (.routeInfo pkt) srcId ack.hdr) ↔
      pkt.hdr.status = statusSuccess ∧
        pkt.hdr.deviceType = DeviceType.anchor.code ∧
          (pkt.dataType = dataTypeConfig →
            pkt.dataId.toNat < configSlotCount) ∧
          (pkt.dataType = dataTypeReport →
            pkt.dataId.toNat < dataSlotCount) := by
  by_cases taken : pkt.hdr.status = statusSuccess ∧
      pkt.hdr.deviceType = DeviceType.anchor.code
  · obtain ⟨status, sender⟩ := taken
    have served : RouteService.Served b.env.toEnv pkt :=
      ⟨accepted, status, isGateway, sender⟩
    have kinds : dataTypeConfig ≠ dataTypeReport := by decide
    by_cases config : pkt.dataType = dataTypeConfig
    · rw [routeInfo_config served config]
      simp [status, sender, config, kinds]
    · by_cases report : pkt.dataType = dataTypeReport
      · rw [routeInfo_report served report]
        simp [status, sender, report, kinds.symm]
      · refine iff_of_true ?_ ⟨status, sender, fun same => absurd same config,
          fun same => absurd same report⟩
        unfold RouteService.handleRouteInfo
        rw [if_neg config, if_neg report,
          if_neg (by simp [accepted, status, isGateway, sender])]
        exact ⟨_, _, rfl, List.mem_append_left _ (ConfigPlane.mem_put _ _), rfl,
          rfl⟩
  · refine iff_of_false ?_ fun ⟨status, sender, _⟩ => taken ⟨status, sender⟩
    rw [RouteService.handleRouteInfo_unserved
      fun served => taken ⟨served.2.1, served.2.2.2⟩]
    rintro ⟨s, ack, same, member, -⟩
    cases same
    cases member

theorem routeInfo_answers
    {pkt : RouteInfo} (accepted : b.env.accepts pkt.hdr = true)
    (rssi2 : Int16) :
    b.Answers (.routeInfo pkt) srcId rssi2 ↔ b.Answerable (.routeInfo pkt) := by
  simp only [Answers, Answerable]
  split
  · next isGateway =>
    rw [routeInfo_gateway accepted isGateway]
    simp [isGateway]
  · next notGateway =>
    rw [routeInfo_anchor accepted]
    simp [notGateway]

theorem joinedNetwork_answers
    {pkt : JoinedNetwork} (accepted : b.env.accepts pkt.hdr = true)
    (rssi2 : Int16) :
    b.Answers (.joinedNetwork pkt) srcId rssi2 ↔
      b.Answerable (.joinedNetwork pkt) := by
  simp only [Answers, Answerable, FromBelow, MeshPlane.handleJoinedNetwork,
    mesh_accepts accepted, ← b.sameType]
  split
  · next refused =>
    refine iff_of_false (by simp [listening]) fun held => ?_
    have below := held.2.2
    simp [held.1, below] at refused
  · next taken =>
    have served : pkt.hdr.status = statusSuccess ∧
        isDownstreamType pkt.hdr.deviceType = true := by
      simpa using taken
    obtain ⟨status, below⟩ := served
    split
    · next isGateway =>
      exact iff_of_true ⟨_, List.mem_concat_self, rfl, rfl⟩
        ⟨status, .inl isGateway, below⟩
    · next isAnchor =>
      exact iff_of_true
        ⟨_, List.mem_append_left _ List.mem_concat_self, rfl, rfl⟩
        ⟨status, .inr isAnchor, below⟩
    · next isSensor =>
      refine iff_of_false (by simp [listening]) ?_
      simp [isSensor]
    · next isUnknown =>
      refine iff_of_false (by simp [listening]) ?_
      simp [isUnknown]

theorem deviceUpdated_answers
    {pkt : DeviceUpdated} (accepted : b.env.accepts pkt.hdr = true)
    (rssi2 : Int16) :
    b.Answers (.deviceUpdated pkt) srcId rssi2 ↔
      b.Answerable (.deviceUpdated pkt) := by
  simp only [Answers, Answerable, FromBelow, MeshPlane.handleDeviceUpdated,
    mesh_accepts accepted, ← b.sameType]
  split
  · next refused =>
    refine iff_of_false (by simp [listening]) fun held => ?_
    simp [held.2] at refused
  · next taken =>
    have below : isDownstreamType pkt.hdr.deviceType = true := by
      simpa using taken
    split
    · next isGateway =>
      exact iff_of_true ⟨_, List.mem_concat_self, rfl, rfl⟩
        ⟨.inl isGateway, below⟩
    · next isAnchor =>
      exact iff_of_true ⟨_, List.mem_concat_self, rfl, rfl⟩
        ⟨.inr isAnchor, below⟩
    · next isSensor =>
      refine iff_of_false (by simp [listening]) ?_
      simp [isSensor]
    · next isUnknown =>
      refine iff_of_false (by simp [listening]) ?_
      simp [isUnknown]

end Addressee

section Ping

variable {env : MeshEnv} {s : MeshPlane} {pkt : PingDevice}

/-- Nothing was answered so far. -/
def MeshPlane.Quiet (s : MeshPlane) : Prop :=
  ∀ answer, MeshAction.reply answer ∉ s.out

theorem MeshPlane.Quiet.request (quiet : s.Quiet) (request : MeshPacket) :
    (s.put (.request request)).Quiet := by
  intro answer member
  rcases List.mem_append.mp member with before | last
  · exact quiet answer before
  · cases List.mem_singleton.mp last

theorem forget_quiet (quiet : s.Quiet) :
    ((s.forgetInfra env pkt).forgetSensor env pkt).Quiet := by
  have first : (s.forgetInfra env pkt).Quiet := by
    unfold MeshPlane.forgetInfra
    split
    · exact quiet
    · exact quiet.request _
  unfold MeshPlane.forgetSensor
  split
  · exact first
  · exact first.request _

theorem reportSensorHolder_quiet (quiet : s.Quiet) :
    (s.reportSensorHolder env pkt).Quiet := by
  unfold MeshPlane.reportSensorHolder
  split
  · exact quiet.request _
  · exact quiet

/-- Some `PING_ACK` answers the ping. -/
def PingAnswered (pkt : PingDevice) (srcId : UInt16) (s : MeshPlane) : Prop :=
  ∃ ack, .reply (.pingAck ack) ∈ s.out ∧
    Addressee.Acks (.pingDevice pkt) srcId ack.hdr

theorem MeshPlane.Quiet.unanswered (quiet : s.Quiet) :
    ¬ PingAnswered pkt srcId s :=
  fun ⟨_, member, _⟩ => quiet _ member

theorem answerPing_answers (quiet : s.Quiet) (rssi2 : Int16) :
    (∀ s', s.answerPing env pkt srcId rssi2 = .ok s' →
        PingAnswered pkt srcId s') ↔
      (env.deviceType = .anchor ∨ env.deviceType = .sensor) ∧
        isUpstreamType pkt.hdr.deviceType = true := by
  unfold MeshPlane.answerPing
  split
  · next isGateway =>
    refine iff_of_false (fun answered => ?_) (by simp [isGateway])
    exact quiet.unanswered (answered s rfl)
  · next isUnknown =>
    refine iff_of_false (fun answered => ?_) (by simp [isUnknown])
    exact quiet.unanswered (answered s rfl)
  · next isAnchor =>
    dsimp only
    split
    · next notAbove =>
      have below : isUpstreamType pkt.hdr.deviceType = false := by
        simpa using notAbove
      refine iff_of_false (fun answered => ?_) (by simp [below])
      exact (reportSensorHolder_quiet quiet).unanswered (answered _ rfl)
    · next above =>
      refine iff_of_true (fun s' done => ?_)
        ⟨.inl isAnchor, by simpa using above⟩
      split at done
      · cases done
      · split at done
        · cases done
          exact ⟨_, List.mem_concat_self, rfl, rfl⟩
        · cases done
          exact ⟨_, List.mem_concat_self, rfl, rfl⟩
  · next isSensor =>
    split
    · next notAbove =>
      have below : isUpstreamType pkt.hdr.deviceType = false := by
        simpa using notAbove
      refine iff_of_false (fun answered => ?_) (by simp [below])
      exact quiet.unanswered (answered s rfl)
    · next above =>
      refine iff_of_true (fun s' done => ?_)
        ⟨.inr isSensor, by simpa using above⟩
      split at done
      · cases done
      · cases done
        exact ⟨_, List.mem_concat_self, rfl, rfl⟩

theorem Addressee.pingDevice_answers
    (accepted : b.env.accepts pkt.hdr = true) (rssi2 : Int16) :
    b.Answers (.pingDevice pkt) srcId rssi2 ↔
      b.Answerable (.pingDevice pkt) := by
  have quiet : b.listening.Quiet := fun _ => List.not_mem_nil
  simp only [Answers, Answerable, FromAbove, MeshPlane.handlePingDevice,
    mesh_accepts accepted, Bool.not_true, Bool.false_eq_true, if_false,
    ← b.sameType, ← b.sameId]
  by_cases keeps : MeshPlane.keepsDevice pkt.hdr.status = true
  · simp only [keeps, if_true, Bool.true_eq_false, and_false, or_false]
    split
    · exact answerPing_answers quiet rssi2
    · exact answerPing_answers
        (s := { b.listening with processNextRequest := true }) quiet rssi2
  · simp only [keeps, Bool.false_eq_true, if_false]
    split
    · next other =>
      rw [or_iff_left fun named => other named.1]
      exact answerPing_answers (forget_quiet quiet) rssi2
    · next same =>
      refine iff_of_true (fun s' done => ?_)
        (.inr ⟨not_not.mp same, trivial⟩)
      cases done
      exact ⟨_, List.mem_concat_self, rfl, rfl⟩

end Ping

/-- The handler of a live board answers a tracked packet if and only if it is
written to. -/
theorem Addressee.answers_iff
    {request : TrackedRequest} (accepted : b.env.accepts request.hdr = true)
    (rssi2 : Int16) :
    b.Answers request srcId rssi2 ↔ b.Answerable request := by
  cases request with
  | joinedNetwork pkt => exact joinedNetwork_answers accepted rssi2
  | pingDevice pkt => exact pingDevice_answers accepted rssi2
  | deviceUpdated pkt => exact deviceUpdated_answers accepted rssi2
  | routeDiscovery pkt => exact routeDiscovery_answers accepted rssi2
  | routeInfo pkt => exact routeInfo_answers accepted rssi2
  | reportInit pkt => exact reportInit_answers accepted rssi2
  | reportChunk pkt => exact reportChunk_answers accepted rssi2
  | reportReceived pkt => exact reportReceived_answers accepted rssi2
  | config pkt => exact config_answers accepted rssi2
  | configReceived pkt => exact configReceived_answers accepted rssi2
  | largeDataInit pkt => exact largeDataInit_answers accepted rssi2
  | largeDataChunk pkt => exact largeDataChunk_answers accepted rssi2

end Planes

section Samples

open MeshNet (gatewayStart)
open MeshPlane

def anchorStart : Occurrence where
  env := sampleAnchor
  event := none

/-- Anchor 7 confirms its pairing with the gateway. -/
def gatewayPaired : Occurrence where
  env := sampleGatewayEnv
  event := some (.pairConfirm
    { hdr := { deviceType := DeviceType.anchor.code, deviceId := 1 }
      hopNum := 0xFF }
    7 0)

/-- The anchor gives up on a ping of the gateway. -/
def pingExhausted : Occurrence where
  env := sampleAnchor
  event := some (.trackerExhausted true false 1)

def startedAnchor : Condition :=
  next (next (.error {}) anchorStart) (samplePairAck .gateway 1 0)

def startedGateway : Condition :=
  next (next (.error {}) gatewayStart) gatewayPaired

/-- What the anchor sends to a gateway it has not heard for a minute. -/
def keepalive : PingDevice where
  hdr := sampleAnchor.requestHeader 1 packetPriorityLow statusPingDevice
  dstDeviceId := 0
  hopNum := 1
  version := firmwareVersion
  totalDevices := 0
  timestamp := 70015

/-- The gateway with the anchor in its table. -/
def pingedGateway : Addressee where
  env :=
    { deviceType := .gateway, deviceId := 1, crc := Checksum.crc32Ieee
      infraCount := 1
      infraDevices := fun _ =>
        { deviceType := DeviceType.anchor.code, deviceId := 7, hopNum := 1 } }
  meshEnv := sampleGatewayEnv
  mesh := plane startedGateway
  config := {}
  report := {}
  ld := {}
  sameType := rfl
  sameId := rfl

/-- The gateway answers when the anchor reports itself. -/
theorem answers_update :
    pingedGateway.Answers
      (.deviceUpdated
        { hdr := sampleAnchor.requestHeader 1 packetPriorityLow statusSuccess
          deviceType := DeviceType.anchor.code
          deviceId := 7
          serialNum := 7
          version := firmwareVersion
          connectedDeviceId := 1
          hopNum := 1
          sensorCount := 0 })
      7 0 := by
  apply (Addressee.answers_iff (by decide) 0).mpr
  exact ⟨.inl rfl, by decide⟩

/-- Anchor and gateway store each other; the anchor pings the gateway, the
gateway ignores the ping, and the anchor evicts it after three of them. -/
theorem keepalive_unanswered :
    ∃ anchor gateway alone,
      Trace.Reach meshStep
        (fun _ occurrence => occurrence.env.deviceType = .anchor ∧
          occurrence.env.deviceId = 7 ∧ occurrence.failures = [])
        (.error {}) (.ok anchor) ∧
      Trace.Reach meshStep
        (fun _ occurrence => occurrence.env.deviceType = .gateway ∧
          occurrence.env.deviceId = 1 ∧ occurrence.failures = [])
        (.error {}) (.ok gateway) ∧
      anchor.findInfra 1 ≠ none ∧ gateway.findInfra 7 ≠ none ∧
      .request (.pingDevice keepalive) ∈
        (anchor.meshTick { sampleAnchor with now := 70000 }).out ∧
      pingedGateway.mesh = gateway ∧
      pingedGateway.env.accepts keepalive.hdr = true ∧
      ¬ pingedGateway.Answers (.pingDevice keepalive) 7 0 ∧
      next (next (next (.ok anchor) pingExhausted) pingExhausted)
        pingExhausted = .ok alone ∧ alone.infra = [] := by
  have anchorUp : .ok (plane startedAnchor) = startedAnchor :=
    (ok_plane (by decide +kernel)).symm
  have gatewayUp : .ok (plane startedGateway) = startedGateway :=
    (ok_plane (by decide +kernel)).symm
  have evicted := @ok_plane
    (next (next (next (.ok (plane startedAnchor)) pingExhausted) pingExhausted)
      pingExhausted) (by decide +kernel)
  refine ⟨plane startedAnchor, plane startedGateway, _, ?_, ?_,
    by decide +kernel, by decide +kernel, by decide +kernel, rfl, by decide,
    ?_, evicted, by decide +kernel⟩
  · rw [anchorUp]
    exact .next (.next .refl ⟨rfl, rfl, rfl⟩ rfl) ⟨rfl, rfl, rfl⟩ rfl
  · rw [gatewayUp]
    exact .next (.next .refl ⟨rfl, rfl, rfl⟩ rfl) ⟨rfl, rfl, rfl⟩ rfl
  · intro answers
    obtain ⟨ack, member, -⟩ := answers _ rfl
    revert member
    exact List.not_mem_nil

end Samples

end DectMesh
