import DectMesh.Library.Trace
import DectMesh.Mesh.Directory
import DectMesh.Mesh.Removal

/-!
# A network of boards

Every packet that a board sends stays in the air and may arrive at any board,
any number of times and at any later moment, or never.  With each packet the
state of its sender is kept, which no board reads.
-/

namespace DectMesh

namespace MeshPlane

variable {env : MeshEnv} {s s' : MeshPlane}

section Adding

def infraIds (s : MeshPlane) : List UInt16 :=
  s.entries.map InfraRecord.deviceId

/-- A new entry of this device in `infra_devices`. -/
def Adds (s : MeshPlane) (deviceId : UInt16) (s' : MeshPlane) : Prop :=
  s.infraIds.count deviceId < s'.infraIds.count deviceId

theorem not_adds
    {deviceId : UInt16} (kept : s'.infraIds.Subperm s.infraIds) :
    ¬ s.Adds deviceId s' :=
  Nat.not_lt.mpr (kept.count_le deviceId)

theorem Keeps.ids (keeps : Keeps s s') : s'.infraIds.Subperm s.infraIds := by
  obtain ⟨known, perm, sub⟩ := keeps
  exact ⟨_, perm.map InfraRecord.deviceId, sub.map InfraRecord.deviceId⟩

/-- `update_infra_storage` writes over the entry that it finds, and puts the
table in order. -/
theorem updateInfraStorage_entries
    {deviceId : UInt16} {hopNum : UInt8} {rssi2 : Int16} {flag : Bool}
    (up : s.updateInfraStorage env deviceId hopNum rssi2 = .ok (s', flag)) :
    s.findInfra deviceId = none ∧ s' = s ∨
      ∃ index entry, s.findInfra deviceId = some index ∧
        s.entries[index]? = some entry ∧
        s'.entries.Perm
          (s.entries.set index (updatedInfra hopNum rssi2 entry)) ∧
        s'.entries.Pairwise CloserFirst := by
  cases found : s.findInfra deviceId with
  | none =>
      rw [updateInfraStorage, found] at up
      cases up
      exact .inl ⟨rfl, rfl⟩
  | some index =>
      obtain ⟨entry, here, -⟩ := findInfra_entry found
      have current : s.storage.storageInfraGet index = some entry := by
        rw [Storage.storageInfraGet, ← List.getElem?_map]
        exact here
      have perm := @storageInfraUpdate_live s.storage index entry
        (updatedInfra hopNum rssi2 entry) current
      have sorted := @storageInfraUpdate_sorted s.storage index entry
        (updatedInfra hopNum rssi2 entry) current
      refine .inr ⟨index, entry, rfl, here, ?_⟩
      rw [updateInfraStorage, found] at up
      dsimp only at up
      rw [current] at up
      dsimp only at up
      split at up
      · next storage errno updated =>
        cases up
        rw [updated] at perm sorted
        exact ⟨perm, sorted⟩
      · next storage updated =>
        rw [updated] at perm sorted
        have linked : (s.setStorage storage).infra ≠ [] := by
          intro empty
          have length := perm.length_eq
          rw [show storage.infra.live = [] from empty, List.map_nil,
            List.length_set, List.length_map] at length
          have inside := (List.getElem?_eq_some_iff.mp here).1
          rw [entries, List.length_map, ← length] at inside
          cases inside
        split at up
        · cases up
        · next after done =>
          cases up
          rw [deviceInfoUpdate_entries linked done]
          exact ⟨perm, sorted⟩

/-- `update_infra_storage` rearranges the neighbours. -/
theorem updateInfraStorage_perm {deviceId : UInt16} {hopNum : UInt8}
    {rssi2 : Int16} {flag : Bool}
    (up : s.updateInfraStorage env deviceId hopNum rssi2 = .ok (s', flag)) :
    s'.infraIds.Perm s.infraIds := by
  rcases updateInfraStorage_entries up with
    ⟨-, rfl⟩ | ⟨index, entry, -, here, perm, -⟩
  · exact .refl _
  · exact (perm.map InfraRecord.deviceId).trans
      (.of_eq (map_set_same here rfl))

theorem updateInfraStorage_ids
    {deviceId : UInt16} {hopNum : UInt8} {rssi2 : Int16}
    (up : (s.updateInfraStorage env deviceId hopNum rssi2).map Prod.fst =
      .ok s') :
    s'.infraIds.Subperm s.infraIds := by
  rcases updated : s.updateInfraStorage env deviceId hopNum rssi2 with
    last | ⟨after, flag⟩
  · rw [updated] at up
    cases up
  · rw [updated] at up
    cases up
    exact (updateInfraStorage_perm updated).subperm

theorem handlePairAck_accepts
    {pkt : PairAck} {srcId deviceId : UInt16} {rssi2 : Int16}
    (up : s.handlePairAck env pkt srcId rssi2 = .ok s')
    (adds : s.Adds deviceId s') : env.accepts pkt.hdr = true := by
  by_contra ignored
  rw [handlePairAck, if_pos (by simpa using ignored)] at up
  cases up
  exact not_adds (.refl _) adds

/-- A `PAIR_ACK` that refuses the board adds nothing. -/
theorem handlePairAck_adds
    {pkt : PairAck} {srcId deviceId : UInt16} {rssi2 : Int16}
    (up : s.handlePairAck env pkt srcId rssi2 = .ok s')
    (adds : s.Adds deviceId s') : pairedStatus pkt.hdr.status = true := by
  by_contra refused
  have statuses : pkt.hdr.status ≠ statusSuccess ∧
      pkt.hdr.status ≠ statusAlreadyExists := by
    simpa [pairedStatus] using refused
  refine not_adds ?_ adds
  unfold handlePairAck at up
  split at up
  · cases up
    exact .refl _
  · cases up
    exact .refl _

theorem handleRepairResponse_accepts
    {pkt : RepairResponse} {srcId deviceId : UInt16} {rssi2 : Int16}
    (up : s.handleRepairResponse env pkt srcId rssi2 = .ok s')
    (adds : s.Adds deviceId s') : env.accepts pkt.hdr = true := by
  by_contra ignored
  rw [handleRepairResponse, if_pos (by simpa using ignored)] at up
  cases up
  exact not_adds (.refl _) adds

/-- A sensor without a parent is told that the table of the sender is full. -/
def StoresRefusing (env : MeshEnv) (s : MeshPlane) (pkt : RepairResponse) :
    Prop :=
  env.deviceType = .sensor ∧ env.accepts pkt.hdr = true ∧
    pkt.hdr.status = statusStorageFull ∧
      isUpstreamType pkt.hdr.deviceType = true ∧ s.infra = []

/-- A `REPAIR_RESPONSE` that refuses the board adds nothing, except on a
sensor without a parent. -/
theorem handleRepairResponse_adds
    {pkt : RepairResponse} {srcId deviceId : UInt16} {rssi2 : Int16}
    (keeps : ¬ s.StoresRefusing env pkt)
    (up : s.handleRepairResponse env pkt srcId rssi2 = .ok s')
    (adds : s.Adds deviceId s') : pairedStatus pkt.hdr.status = true := by
  by_contra refused
  have statuses : pkt.hdr.status ≠ statusSuccess ∧
      pkt.hdr.status ≠ statusAlreadyExists := by
    simpa [pairedStatus] using refused
  refine not_adds ?_ adds
  have waiting :
      (s.put (.untrack pkt.hdr.trackingId)).infraIds.Subperm s.infraIds :=
    .refl _
  unfold handleRepairResponse at up
  split at up
  · cases up
    exact .refl _
  · next accepted =>
    simp only at up
    split at up
    · cases up
      exact waiting
    · next answered =>
      have full : pkt.hdr.status = statusStorageFull := by
        by_contra other
        exact answered ⟨statuses.1, statuses.2, other⟩
      split at up
      · cases up
        exact waiting
      · next upstream =>
        split at up
        · cases up
          exact waiting
        · cases up
          exact waiting
        · exact (Keeps.dropInfra up).ids.trans waiting
        · next isSensor =>
          split at up
          · exact (updateInfraStorage_ids up).trans waiting
          · split at up
            · next free =>
              exact absurd ⟨isSensor, by simpa using accepted, full,
                by simpa using upstream, checkInfraStorage_single free⟩ keeps
            · cases up
              exact waiting

end Adding

end MeshPlane

open MeshPlane

/-- A packet in the air, with its sender and the sender's state after the
event that sent it. -/
structure Sent where
  srcId : UInt16
  packet : MeshPacket
  sender : MeshPlane

/-- The event in which a packet arrives. -/
def Sent.event (sent : Sent) (rssi2 : Int16) : Event :=
  match sent.packet with
  | .pairRequest pkt => .pairRequest pkt sent.srcId
  | .pairResponse pkt => .pairResponse pkt sent.srcId rssi2
  | .pairConfirm pkt => .pairConfirm pkt sent.srcId rssi2
  | .pairAck pkt => .pairAck pkt sent.srcId rssi2
  | .joinedNetwork pkt => .joinedNetwork pkt sent.srcId
  | .joinedNetworkAck pkt => .joinedNetworkAck pkt
  | .pingDevice pkt => .pingDevice pkt sent.srcId rssi2
  | .pingAck pkt => .pingAck pkt sent.srcId rssi2
  | .deviceUpdated pkt => .deviceUpdated pkt sent.srcId
  | .deviceUpdatedAck pkt => .deviceUpdatedAck pkt sent.srcId
  | .repairRequest pkt => .repairRequest pkt sent.srcId rssi2
  | .repairResponse pkt => .repairResponse pkt sent.srcId rssi2

structure MeshNet where
  boards : UInt16 → Condition
  air : List Sent := []

inductive NetEvent where
  /-- Something happens to one board. -/
  | act (id : UInt16) (occurrence : Occurrence)
  /-- A packet that was sent at some time arrives at one board. -/
  | arrive (id : UInt16) (env : MeshEnv) (failures : List (Option Leftover))
      (position : Nat) (rssi2 : Int16)

namespace MeshNet

variable (net : MeshNet)

/-- What one occurrence makes a board send. -/
def sentBy (condition : Condition) (occurrence : Occurrence) :
    List MeshPacket :=
  match condition, occurrence.event with
  | .ok _, some _ | .error _, none =>
      (plane (MeshPlane.next condition occurrence)).out.filterMap
        MeshAction.packet
  | _, _ => []

/-- One occurrence at one board. -/
def handle (id : UInt16) (occurrence : Occurrence) : MeshNet :=
  let after := MeshPlane.next (net.boards id) occurrence
  { boards := Function.update net.boards id after
    air := net.air ++ (sentBy (net.boards id) occurrence).map fun packet =>
      { srcId := id, packet := packet, sender := plane after } }

/-- The occurrence behind an event of the network. -/
def occurrence : NetEvent → Option (UInt16 × Occurrence)
  | .act id occurrence => some (id, occurrence)
  | .arrive id env failures position rssi2 =>
      net.air[position]?.map fun sent =>
        (id,
          { env := env
            failures := failures
            event := some (sent.event rssi2) })

def next (event : NetEvent) : MeshNet :=
  match net.occurrence event with
  | none => net
  | some (id, occurrence) => net.handle id occurrence

def step (event : NetEvent) : Except Empty MeshNet := .ok (net.next event)

/-- The two answers that end a handshake are only received as they were
sent. -/
def Genuine : NetEvent → Prop
  | .act _ occurrence =>
      match occurrence.event with
      | some (.pairAck _ _ _) | some (.repairResponse _ _ _) => False
      | _ => True
  | .arrive _ _ _ _ _ => True

/-- What an event must not be for the handshakes to be symmetric: a board must
not confirm an anchor that it does not store, and a sensor without a parent
must not be told that a table is full. -/
def Confirmed (env : MeshEnv) (s : MeshPlane) : Event → Prop
  | .repairRequest pkt srcId _ => ¬ s.ConfirmsUnstored env pkt srcId
  | .repairResponse pkt _ _ => ¬ s.StoresRefusing env pkt
  | _ => True

/-- The events of a network of boards with these roles. -/
def Admits (role : UInt16 → DeviceType) (event : NetEvent) : Prop :=
  Genuine event ∧
    ∀ id occurrence, net.occurrence event = some (id, occurrence) →
      occurrence.env.deviceId = id ∧ occurrence.env.deviceType = role id

/-- An event that keeps the handshakes symmetric. -/
def Keeps (event : NetEvent) : Prop :=
  ∀ id occurrence, net.occurrence event = some (id, occurrence) →
    ∀ s received, net.boards id = .ok s → occurrence.event = some received →
      Confirmed occurrence.env s received

/-- When an answer makes a board store its sender, the answer does not refuse
the board, and the sender stored it when it sent the answer. -/
def Symmetric : NetEvent → Prop
  | .act _ _ => True
  | .arrive id env failures position rssi2 =>
      ∀ sent hdr s s', net.air[position]? = some sent →
        sent.packet.pairingAnswer = some hdr → net.boards id = .ok s →
          (net.next (.arrive id env failures position rssi2)).boards id =
              .ok s' →
            s.Adds sent.srcId s' →
              pairedStatus hdr.status = true ∧ sent.sender.Stores id

/-- Every answer in the air that accepts a board was sent by one that stored
it. -/
def HonestAir : Prop :=
  ∀ sent ∈ net.air, ∀ hdr, sent.packet.pairingAnswer = some hdr →
    pairedStatus hdr.status = true → sent.sender.Stores hdr.deviceId

variable {net} {role : UInt16 → DeviceType}

theorem next_honest
    {condition : Condition} {occurrence : Occurrence} {packet : MeshPacket}
    {hdr : PacketHeader}
    (keeps : ∀ s received, condition = .ok s →
      occurrence.event = some received →
        Confirmed occurrence.env s received)
    (sent : packet ∈ sentBy condition occurrence)
    (answers : packet.pairingAnswer = some hdr)
    (accepted : pairedStatus hdr.status = true) :
    (plane (MeshPlane.next condition occurrence)).Stores hdr.deviceId := by
  have honest (truth : (plane (MeshPlane.next condition occurrence)).Honest)
      (member : packet ∈
        (plane (MeshPlane.next condition occurrence)).out.filterMap
          MeshAction.packet) :
      (plane (MeshPlane.next condition occurrence)).Stores hdr.deviceId := by
    obtain ⟨action, inside, same⟩ := List.mem_filterMap.mp member
    refine truth hdr (List.mem_filterMap.mpr ⟨action, inside, ?_⟩) accepted
    simp [MeshAction.pairingAnswer, same, answers]
  unfold sentBy at sent
  split at sent
  · next s event received =>
    refine honest ?_ sent
    simp only [MeshPlane.next, received]
    apply handle_honest rfl
    have confirmed := keeps s event rfl received
    cases event with
    | repairRequest pkt srcId rssi2 => exact confirmed
    | _ => trivial
  · next s received =>
    refine honest (.of_silent ?_) sent
    simp only [MeshPlane.next, received]
    exact boot_answers _ _
  · cases sent

theorem honestAir_next
    {event : NetEvent} (honest : net.HonestAir) (keeps : net.Keeps event) :
    (net.next event).HonestAir := by
  unfold next
  split
  · exact honest
  · next id occurrence found =>
    intro sent member hdr answers accepted
    rcases List.mem_append.mp member with old | new
    · exact honest sent old hdr answers accepted
    · obtain ⟨packet, fresh, rfl⟩ := List.mem_map.mp new
      exact next_honest (keeps id occurrence found) fresh answers accepted

theorem reach_honest
    {start : UInt16 → Condition}
    (reach : Trace.Reach step
      (fun net event => net.Admits role event ∧ net.Keeps event)
      { boards := start } net) :
    net.HonestAir := by
  apply reach.invariant
  · exact fun sent member => by cases member
  · intro before event after honest admitted moved
    rw [← Except.ok.inj moved]
    exact honestAir_next honest admitted.2

theorem accepts_id {env : MeshEnv} {hdr : PacketHeader}
    (accepted : env.accepts hdr = true) : hdr.deviceId = env.deviceId :=
  (of_decide_eq_true accepted).1

/-- In every run whose events keep the handshakes symmetric, they are. -/
theorem pairing_symmetric
    {start : UInt16 → Condition} {event : NetEvent}
    (reach : Trace.Reach step
      (fun net event => net.Admits role event ∧ net.Keeps event)
      { boards := start } net)
    (admitted : net.Admits role event) (keeps : net.Keeps event) :
    net.Symmetric event := by
  cases event with
  | act id occurrence => trivial
  | arrive id env failures position rssi2 =>
      intro sent hdr s s' found answers up after adds
      have honest := reach_honest reach sent (List.mem_of_getElem? found) hdr
        answers
      have occurs : net.occurrence (.arrive id env failures position rssi2) =
          some (id,
            { env := env
              failures := failures
              event := some (sent.event rssi2) }) := by
        simp only [occurrence, found, Option.map_some]
      have confirmed := keeps id _ occurs s _ up rfl
      have ownId : env.deviceId = id := (admitted.2 id _ occurs).1
      have handled : (s.begin failures).handle env (sent.event rssi2) =
          .ok s' := by
        simp only [next, occurs, handle, Function.update_self, up,
          MeshPlane.next] at after
        exact after
      have begun : (s.begin failures).Adds sent.srcId s' := adds
      cases packet : sent.packet with
      | pairAck pkt =>
          simp only [packet, MeshPacket.pairingAnswer, Option.some.injEq]
            at answers
          simp only [Sent.event, packet, MeshPlane.handle] at handled
          subst answers
          have accepted := handlePairAck_adds handled begun
          have here := accepts_id (handlePairAck_accepts handled begun)
          exact ⟨accepted, ownId ▸ here ▸ honest accepted⟩
      | repairResponse pkt =>
          simp only [packet, MeshPacket.pairingAnswer, Option.some.injEq]
            at answers
          simp only [Sent.event, packet, MeshPlane.handle] at handled
          simp only [Sent.event, packet, Confirmed] at confirmed
          subst answers
          have accepted := handleRepairResponse_adds
            (s := s.begin failures) confirmed handled begun
          have here := accepts_id (handleRepairResponse_accepts handled begun)
          exact ⟨accepted, ownId ▸ here ▸ honest accepted⟩
      | _ =>
          simp only [packet, MeshPacket.pairingAnswer] at answers
          cases answers

section Samples

/-- Board 1 is the gateway, the others are sensors. -/
def starRole (id : UInt16) : DeviceType :=
  if id = 1 then .gateway else .sensor

def gatewayStart : Occurrence where
  env := sampleGatewayEnv
  event := none

/-- Sensor 7 confirms its pairing with the gateway. -/
def sensorConfirms : Occurrence where
  env := sampleGatewayEnv
  event := some (.pairConfirm
    { hdr := { deviceType := DeviceType.sensor.code, deviceId := 1 }
      hopNum := 0xFF }
    7 0)

/-- A network with these events behind it. -/
def after (start : UInt16 → Condition) (events : List NetEvent) : MeshNet :=
  events.foldl next { boards := start }

theorem run_after (events : List NetEvent) (net : MeshNet) :
    Trace.run step net events = .ok (events.foldl next net) := by
  induction events generalizing net with
  | nil => rfl
  | cons event rest ih => exact ih (net.next event)

theorem admits_act
    {id : UInt16} {occurrence : Occurrence}
    (genuine : Genuine (.act id occurrence))
    (own : occurrence.env.deviceId = id ∧
      occurrence.env.deviceType = role id) :
    net.Admits role (.act id occurrence) := by
  refine ⟨genuine, fun other found same => ?_⟩
  cases same
  exact own

theorem admits_arrive
    {id : UInt16} {env : MeshEnv} {position : Nat} {rssi2 : Int16}
    (own : env.deviceId = id ∧ env.deviceType = role id) :
    net.Admits role (.arrive id env [] position rssi2) := by
  refine ⟨trivial, fun other found same => ?_⟩
  simp only [occurrence, Option.map_eq_some_iff] at same
  obtain ⟨sent, -, same⟩ := same
  cases same
  exact own

theorem keeps_act
    {id : UInt16} {occurrence : Occurrence}
    (confirmed : ∀ s received, occurrence.event = some received →
      Confirmed occurrence.env s received) :
    net.Keeps (.act id occurrence) := by
  intro other found same s received up event
  cases same
  exact confirmed s received event

theorem keeps_ack
    {id : UInt16} {env : MeshEnv} {position : Nat} {rssi2 : Int16}
    {pkt : PairAck}
    (isAck : net.air[position]?.map Sent.packet = some (.pairAck pkt)) :
    net.Keeps (.arrive id env [] position rssi2) := by
  intro other found same s received up event
  simp only [occurrence, Option.map_eq_some_iff] at same
  obtain ⟨sent, inAir, same⟩ := same
  cases same
  cases event
  rw [inAir, Option.map_some, Option.some.injEq] at isAck
  simp only [Sent.event, isAck, Confirmed]

/-- Gateway and sensor start, and the gateway acknowledges the pairing. -/
def acknowledged : List NetEvent :=
  [.act 1 gatewayStart, .act 7 sensorStart, .act 1 sensorConfirms]

/-- The sensor stores the gateway that stored it. -/
theorem pairing_symmetric_ack :
    (after (fun _ => .error {}) acknowledged).Symmetric
      (.arrive 7 sensorBoard [] 1 0) := by
  refine @pairing_symmetric _ starRole (fun _ => .error {}) _
    (.of_run (fun event member before => ?_) (run_after acknowledged _))
    (admits_arrive (by decide)) ?_
  · simp only [acknowledged, List.mem_cons, List.not_mem_nil, or_false]
      at member
    rcases member with rfl | rfl | rfl
    · exact ⟨admits_act trivial (by decide), keeps_act fun _ _ none => by
        cases none⟩
    · exact ⟨admits_act trivial (by decide), keeps_act fun _ _ none => by
        cases none⟩
    · refine ⟨admits_act trivial (by decide), keeps_act fun _ _ same => ?_⟩
      cases same
      trivial
  · exact @keeps_ack _ _ _ _ _
      { hdr := sampleGatewayEnv.replyHeader 7 packetPriorityHigh 0
          statusSuccess
        hopNum := 0 } (by decide +kernel)

/-- A gateway that has as many sensors as it can store. -/
def fullGateway : MeshPlane where
  storage :=
    { eeprom :=
        { sensors :=
            { header := some 64
              cells := fun index =>
                some { deviceId := UInt16.ofNat (100 + index) } } } }

def fullStart (id : UInt16) : Condition :=
  if id = 1 then .error fullGateway else .error {}

/-- A `PAIR_RESPONSE` from a time when the gateway stored the sensor. -/
def lateResponse : Occurrence where
  env := sensorBoard
  event := some (.pairResponse
    { hdr :=
        { deviceType := DeviceType.gateway.code
          deviceId := 7
          status := statusAlreadyExists }
      hopNum := 0 }
    1 0)

/-- The sensor asks for a repair, and the gateway answers that its table is
full. -/
def refused : List NetEvent :=
  [.act 1 gatewayStart, .act 7 sensorStart, .act 7 lateResponse,
    .arrive 1 sampleGatewayEnv [] 1 0]

/-- The sensor stores the gateway that refused it. -/
theorem refused_stored :
    Trace.Reach step (fun net event => net.Admits starRole event)
        { boards := fullStart } (after fullStart refused) ∧
      (after fullStart refused).Admits starRole
        (.arrive 7 sensorBoard [] 2 0) ∧
      ¬ (after fullStart refused).Symmetric (.arrive 7 sensorBoard [] 2 0) := by
  refine ⟨.of_run (fun event member before => ?_) (run_after refused _),
    admits_arrive (by decide), fun symmetric => ?_⟩
  · simp only [refused, List.mem_cons, List.not_mem_nil, or_false] at member
    rcases member with rfl | rfl | rfl | rfl
    · exact admits_act trivial (by decide)
    · exact admits_act trivial (by decide)
    · exact admits_act trivial (by decide)
    · exact admits_arrive (by decide)
  · have inAir : (after fullStart refused).air[2]?.map
        (fun sent => (sent.srcId, sent.packet)) =
          some (1, .repairResponse
            { hdr := sampleGatewayEnv.replyHeader 7 packetPriorityHigh 0
                statusStorageFull
              version := 0
              hopNum := 0 }) := by
      decide +kernel
    obtain ⟨sent, found, same⟩ := Option.map_eq_some_iff.mp inAir
    obtain ⟨srcId, packet⟩ := Prod.mk.inj same
    have accepted := symmetric sent _ _ _ found
      (congrArg MeshPacket.pairingAnswer packet)
      (ok_plane (by decide +kernel)) (ok_plane (by decide +kernel))
      (by rw [srcId]; unfold Adds; decide +kernel)
    exact absurd accepted.1 (by decide)

end Samples

end MeshNet

end DectMesh
