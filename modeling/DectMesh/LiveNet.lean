import DectMesh.Destinations
import DectMesh.Wire

/-!
# A network of boards

Boards that start, tick and talk to their hosts on their own, and hear what was
ever sent: any packet, any number of times, in any order, at any board.  What a
board handles in between is `LiveBoard.step`.
-/

namespace DectMesh

section Sending

/-- `tracker_next_id`, as the change of the counter. -/
def nextTrackingId (id : UInt8) : UInt8 := if 255 ≤ id + 1 then 1 else id + 1

/-- The packet of an order; the flag asks for a fresh tracking id. -/
def Enqueued.packet : Enqueued → Option (AirPacket × Bool)
  | .data (.request pkt) | .data (.announce pkt) => some (.data pkt, true)
  | .data (.reply pkt) => some (.data pkt, false)
  | .mesh (.request pkt) | .mesh (.announce pkt) => some (.mesh pkt, true)
  | .mesh (.reply pkt) => some (.mesh pkt, false)
  | .data (.untrack _) | .data (.line _) | .mesh (.untrack _) => none

/-- The packets of some orders as they are enqueued for the radio, and the
counter of tracking ids after them. -/
def stampAll (next : UInt8) : List Enqueued → UInt8 × List AirPacket
  | [] => (next, [])
  | order :: rest =>
      match order.packet with
      | none => stampAll next rest
      | some (pkt, true) =>
          let (last, later) := stampAll (nextTrackingId next) rest
          (last, pkt.stamp next :: later)
      | some (pkt, false) =>
          let (last, later) := stampAll next rest
          (last, pkt :: later)

/-- What is sent was ordered, up to its tracking id. -/
theorem mem_stampAll {next : UInt8} {orders : List Enqueued}
    {sent : AirPacket} (member : sent ∈ (stampAll next orders).2) :
    ∃ order ∈ orders, ∃ pkt fresh, order.packet = some (pkt, fresh) ∧
      (sent = pkt ∨ ∃ id, sent = pkt.stamp id) := by
  induction orders generalizing next with
  | nil => cases member
  | cons order rest ih =>
      have later {next : UInt8} (member : sent ∈ (stampAll next rest).2) :
          ∃ order' ∈ order :: rest, ∃ pkt fresh,
            order'.packet = some (pkt, fresh) ∧
              (sent = pkt ∨ ∃ id, sent = pkt.stamp id) := by
        obtain ⟨order', inside, found⟩ := ih member
        exact ⟨order', List.mem_cons_of_mem _ inside, found⟩
      unfold stampAll at member
      split at member
      · exact later member
      · next pkt ordered =>
        rcases List.mem_cons.mp member with same | member
        · exact ⟨order, List.mem_cons_self, pkt, true, ordered,
            .inr ⟨next, same⟩⟩
        · exact later member
      · next pkt ordered =>
        rcases List.mem_cons.mp member with same | member
        · exact ⟨order, List.mem_cons_self, pkt, false, ordered, .inl same⟩
        · exact later member

/-- The same when `tracker_init` starts the counter anew behind the first
orders. -/
def stampRun (early : Nat) (starts : Bool) (next : UInt8)
    (orders : List Enqueued) : UInt8 × List AirPacket :=
  let first := stampAll next (orders.take early)
  let rest := stampAll (if starts then 1 else first.1) (orders.drop early)
  (rest.1, first.2 ++ rest.2)

theorem mem_stampRun {early : Nat} {starts : Bool} {next : UInt8}
    {orders : List Enqueued} {sent : AirPacket}
    (member : sent ∈ (stampRun early starts next orders).2) :
    ∃ order ∈ orders, ∃ pkt fresh, order.packet = some (pkt, fresh) ∧
      (sent = pkt ∨ ∃ id, sent = pkt.stamp id) := by
  rcases List.mem_append.mp member with first | rest
  · obtain ⟨order, inside, found⟩ := mem_stampAll first
    exact ⟨order, List.mem_of_mem_take inside, found⟩
  · obtain ⟨order, inside, found⟩ := mem_stampAll rest
    exact ⟨order, List.mem_of_mem_drop inside, found⟩

end Sending

section Receiving

/-- The handler that `process_rx` calls, without those that only remove a
tracker entry. -/
def AirPacket.received (srcId : UInt16) (rssi2 : Int16) :
    AirPacket → Option LiveEvent
  | .mesh (.pairRequest pkt) => some (.mesh (.pairRequest pkt srcId))
  | .mesh (.pairResponse pkt) => some (.mesh (.pairResponse pkt srcId rssi2))
  | .mesh (.pairConfirm pkt) => some (.mesh (.pairConfirm pkt srcId rssi2))
  | .mesh (.pairAck pkt) => some (.mesh (.pairAck pkt srcId rssi2))
  | .mesh (.joinedNetwork pkt) => some (.mesh (.joinedNetwork pkt srcId))
  | .mesh (.joinedNetworkAck pkt) => some (.mesh (.joinedNetworkAck pkt))
  | .mesh (.pingDevice pkt) => some (.mesh (.pingDevice pkt srcId rssi2))
  | .mesh (.pingAck pkt) => some (.mesh (.pingAck pkt srcId rssi2))
  | .mesh (.deviceUpdated pkt) => some (.mesh (.deviceUpdated pkt srcId))
  | .mesh (.deviceUpdatedAck pkt) => some (.mesh (.deviceUpdatedAck pkt srcId))
  | .mesh (.repairRequest pkt) =>
      some (.mesh (.repairRequest pkt srcId rssi2))
  | .mesh (.repairResponse pkt) =>
      some (.mesh (.repairResponse pkt srcId rssi2))
  | .data (.routeDiscovery pkt) => some (.routeDiscovery pkt srcId)
  | .data (.routeDiscoveryAck _) => none
  | .data (.routeInfo pkt) => some (.routeInfo pkt srcId)
  | .data (.routeInfoAck _) => none
  | .data (.reportInit pkt) => some (.report (.reportInit pkt srcId))
  | .data (.reportInitAck pkt) => some (.report (.reportInitAck pkt srcId))
  | .data (.reportChunk pkt) => some (.report (.reportChunk pkt srcId))
  | .data (.reportChunkAck pkt) => some (.report (.reportChunkAck pkt srcId))
  | .data (.reportReceived pkt) => some (.report (.reportReceived pkt srcId))
  | .data (.reportReceivedAck pkt) => some (.report (.reportReceivedAck pkt))
  | .data (.config pkt) => some (.config (.config pkt srcId))
  | .data (.configAck pkt) => some (.config (.configAck pkt))
  | .data (.configReceived pkt) => some (.config (.configReceived pkt srcId))
  | .data (.configReceivedAck pkt) => some (.config (.configReceivedAck pkt))
  | .data (.largeDataInit pkt) => some (.largeData (.largeDataInit pkt srcId))
  | .data (.largeDataInitAck pkt) =>
      some (.largeData (.largeDataInitAck pkt srcId))
  | .data (.largeDataChunk pkt) =>
      some (.largeData (.largeDataChunk pkt srcId))
  | .data (.largeDataChunkAck pkt) =>
      some (.largeData (.largeDataChunkAck pkt srcId))
  | .data (.largeDataReceived _) | .data (.largeDataReceivedAck _) => none

/-- The event comes from the board itself, its host or its buttons, not from
the radio. -/
def LiveEvent.isLocal : LiveEvent → Bool
  | .start _ _ _ | .recovery | .factoryReset | .defaultButton1
  | .defaultButton2 _ | .reboot => true
  | .mesh event =>
      match event with
      | .heard _ | .meshTick | .knownDevicesTick | .trackerExhausted _ _ _
      | .serialNumber _ => true
      | _ => false
  | .config event =>
      match event with
      | .tick | .cmdConfig _ | .cmdConfigAck _ | .hostAnswer _
      | .otherPending _ | .elsewhere _ _ => true
      | _ => false
  | .report event =>
      match event with
      | .tick | .cmdReport _ | .release _ _ _ | .elsewhere _ _ => true
      | _ => false
  | .largeData event =>
      match event with
      | .tick | .cmdLdInit _ | .cmdLdChunk _ | .cmdLdInitAck _
      | .cmdLdInitReady | .cmdLdChunkAck _ | .cmdLdChunkReady
      | .elsewhere _ _ => true
      | _ => false
  | .routeDiscovery _ _ | .routeInfo _ _ | .retry _ => false

end Receiving

/-- A board with its counter of tracking ids. -/
structure LiveNode where
  live : LiveBoard
  nextTrackingId : UInt8 := 1

namespace LiveNode

/-- A board without power. -/
def off (rom : Eeprom) : LiveNode where
  live := .off rom

/-- `tracker_init` was run for this event. -/
def startsTracker : LiveEvent → Bool
  | .start _ _ _ | .recovery => true
  | _ => false

/-- How many orders of an event come before `tracker_init`: in `main_sub_init`
those of `device_info_update`, of which there are none at a start. -/
def early (board : Board) (b : LiveBoard) (occurrence : LiveOccurrence) : Nat :=
  match b.mesh, occurrence.event with
  | .ok s, .recovery =>
      (MeshPlane.plane ((s.begin occurrence.failures).deviceInfoUpdate
        (LiveBoard.meshEnv board occurrence))).out.length
  | _, _ => 0

/-- One event, with the packets that are enqueued for the radio. -/
def step (board : Board) (node : LiveNode) (occurrence : LiveOccurrence) :
    Except Fault (LiveNode × List AirPacket) :=
  match node.live.step board occurrence with
  | .error fault => .error fault
  | .ok live =>
      let (next, sent) :=
        stampRun (early board node.live occurrence)
          (startsTracker occurrence.event) node.nextTrackingId live.out
      .ok ({ live := live, nextTrackingId := next }, sent)

end LiveNode

/-- The boards of a network under their addresses; all run the same code. -/
structure Roster where
  board : UInt16 → Board
  addressed : ∀ id, (board id).deviceId = id
  crc : Checksum
  checked : ∀ id, (board id).crc = crc

/-- What a board handled, and how it stood before. -/
structure Handled where
  id : UInt16
  before : LiveBoard
  occurrence : LiveOccurrence

/-- All boards, what was ever sent and by whom, and what was ever handled. -/
structure LiveNet where
  nodes : UInt16 → LiveNode
  sent : List (UInt16 × AirPacket) := []
  log : List Handled := []

inductive LiveNetEvent where
  /-- A board acts on its own, on its host or on its buttons. -/
  | act (id : UInt16) (occurrence : LiveOccurrence)
  /-- A board hears a packet that was sent. -/
  | hear (id : UInt16) (position : Nat) (rssi2 : Int16)
      (occurrence : LiveOccurrence)

namespace LiveNet

/-- A network without power. -/
def off (rom : UInt16 → Eeprom) : LiveNet where
  nodes id := .off (rom id)

variable (roster : Roster) (net : LiveNet)

/-- A board handles an event. -/
def handle (id : UInt16) (occurrence : LiveOccurrence) : Except Fault LiveNet :=
  match (net.nodes id).step (roster.board id) occurrence with
  | .error fault => .error fault
  | .ok (node, sent) =>
      .ok {
        nodes := Function.update net.nodes id node
        sent := net.sent ++ sent.map fun pkt => (id, pkt)
        log := net.log ++ [{
          id := id
          before := (net.nodes id).live
          occurrence := occurrence }] }

def step : LiveNetEvent → Except Fault LiveNet
  | .act id occurrence => net.handle roster id occurrence
  | .hear id position rssi2 occurrence =>
      match net.sent[position]? with
      | none => .ok net
      | some (srcId, pkt) =>
          match pkt.received srcId rssi2 with
          | none => .ok net
          | some event => net.handle roster id { occurrence with event := event }

/-- The modules of a board stay out of each other's PSRAM. -/
def Separate (b : LiveBoard) : LiveEvent → Prop
  | .report event => b.report.Elsewhere event
  | .largeData event => b.ld.Elsewhere event
  | .config (.elsewhere psram _) =>
      ByteStore.AgreeOn psram.mem b.config.io.psram.mem psramConfigBase
        configRegionEnd
  | _ => True

/-- What a board does on its own is local, and keeps its modules apart. -/
def Admits : LiveNetEvent → Prop
  | .act id occurrence =>
      occurrence.event.isLocal = true ∧
        Separate (net.nodes id).live occurrence.event
  | .hear _ _ _ _ => True

end LiveNet

end DectMesh
