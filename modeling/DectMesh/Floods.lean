import DectMesh.Destinations
import DectMesh.Discovery
import DectMesh.Library.Flood
import DectMesh.Mesh.Pings

/-!
# Floods end

A `PING_DEVICE` that keeps the device it names and a `ROUTE_DISCOVERY` are
passed on from board to board.  Nothing suppresses a packet that comes round
again, but no board passes one on to a neighbour that is not further from the
gateway than itself.
-/

namespace DectMesh

open MeshPlane

/-- A packet that boards pass on to several neighbours. -/
inductive FloodPacket where
  | ping (pkt : PingDevice)
  | discovery (pkt : RouteDiscovery)

namespace FloodPacket

/-- The event in which the packet arrives, with the number its sender's
tracker gave it. -/
def event (packet : FloodPacket) (srcId : UInt16) (trackingId : UInt8)
    (rssi2 : Int16) : LiveEvent :=
  match packet with
  | .ping pkt =>
      .mesh (.pingDevice
        { pkt with hdr := { pkt.hdr with trackingId := trackingId } }
        srcId rssi2)
  | .discovery pkt =>
      .routeDiscovery
        { pkt with hdr := { pkt.hdr with trackingId := trackingId } } srcId

/-- The status `SUCCESS` or `ALREADY_EXISTS` of a ping. -/
def Keeps : FloodPacket → Prop
  | .ping pkt => keepsDevice pkt.hdr.status = true
  | .discovery _ => True

/-- A ping carries the hop number of its sender. -/
def TellsHop (hopNum : UInt8) : FloodPacket → Prop
  | .ping pkt => pkt.hopNum = hopNum
  | .discovery _ => True

end FloodPacket

/-- The `ROUTE_DISCOVERY` packet that the tracker sends. -/
def Action.discovery : Action → Option RouteDiscovery
  | .request (.routeDiscovery pkt) => some pkt
  | _ => none

/-- A packet of a flood, with the device it goes to. -/
def Enqueued.flooded : Enqueued → Option (UInt16 × FloodPacket)
  | .mesh action => action.ping.map fun pkt => (pkt.hdr.deviceId, .ping pkt)
  | .data action =>
      action.discovery.map fun pkt => (pkt.hdr.deviceId, .discovery pkt)

/-- What a packet finds when it arrives. -/
structure Arrival where
  now : Nat := 0
  random : UInt32 := 0
  stray : Candidate := {}
  failures : List (Option Leftover) := []
  trackingId : UInt8 := 0
  rssi2 : Int16 := 0

def Arrival.occurrence
    (arrival : Arrival) (copy : Flood.Copy UInt16 FloodPacket) :
    LiveOccurrence where
  now := arrival.now
  random := arrival.random
  stray := arrival.stray
  failures := arrival.failures
  event := copy.packet.event copy.src arrival.trackingId arrival.rssi2

/-- The boards of a mesh, and the copies of one flood. -/
structure FloodNet where
  boards : UInt16 → LiveBoard
  air : Flood.Air UInt16 FloodPacket

inductive FloodEvent where
  | arrives (position : Nat) (arrival : Arrival)
  | lost (position : Nat)
  /-- Whatever else the boards do meanwhile. -/
  | others (boards : UInt16 → LiveBoard)

/-- The stored hop number of a neighbour is the one it has itself, and no
anchor is further from the gateway than the depth of the mesh.  An anchor is
one hop behind its parent, so it is not at hop zero; the neighbours fit in
their array. -/
structure HopsAgree (board : UInt16 → Board) (hop : UInt16 → UInt8)
    (boards : UInt16 → LiveBoard) : Prop where
  own : ∀ id s, (boards id).mesh = .ok s → s.hopNum = hop id
  stored : ∀ id s, (boards id).mesh = .ok s →
    ∀ entry ∈ s.entries, entry.hopNum = hop entry.deviceId
  depth : ∀ id, (board id).deviceType = .anchor →
    0 < hop id ∧ (hop id).toNat ≤ maxDepth
  fits : ∀ id s, (boards id).mesh = .ok s → s.entries.length ≤ maxAnchors

namespace FloodNet

variable (board : UInt16 → Board)

/-- A copy arrives at a board, which may pass it on. -/
def arrive (net : FloodNet) (position : Nat)
    (copy : Flood.Copy UInt16 FloodPacket) (arrival : Arrival) :
    Except Fault FloodNet :=
  match (net.boards copy.dst).step (board copy.dst)
      (arrival.occurrence copy) with
  | .error fault => .error fault
  | .ok after =>
      .ok
        { boards := Function.update net.boards copy.dst after
          air := net.air.pass position copy
            (after.out.filterMap Enqueued.flooded) }

def step (net : FloodNet) : FloodEvent → Except Fault FloodNet
  | .arrives position arrival =>
      match net.air.flying[position]? with
      | none => .ok net
      | some copy => net.arrive board position copy arrival
  | .lost position =>
      match net.air.flying[position]? with
      | none => .ok net
      | some copy => .ok { net with air := net.air.pass position copy [] }
  | .others boards => .ok { net with boards := boards }

/-- How a flood starts: with a packet of `ping_known_devices`, or with a
`ROUTE_DISCOVERY`. -/
inductive Starts (first : Flood.Copy UInt16 FloodPacket) : FloodNet → Prop
  | ping (boards : UInt16 → LiveBoard) (s : MeshPlane) (env : MeshEnv)
      (genId : UInt16) (status : UInt8) (pkt : PingDevice)
      (up : (boards first.src).mesh =
        .ok (s.pingKnownDevices env genId status))
      (keeps : keepsDevice status = true)
      (idle : s.out = [])
      (sent : pkt ∈ (s.pingKnownDevices env genId status).pings)
      (packet : first.packet = .ping pkt)
      (receiver : first.dst = pkt.hdr.deviceId)
      (fresh : first.chain = []) :
      Starts first { boards := boards, air := .start first }
  | discovery (boards : UInt16 → LiveBoard) (pkt : RouteDiscovery)
      (packet : first.packet = .discovery pkt)
      (fresh : first.chain = []) :
      Starts first { boards := boards, air := .start first }

end FloodNet

section Passing

variable {env : RouteEnv} {pkt : RouteDiscovery} {src : UInt16}

/-- Only an anchor passes a discovery on. -/
theorem RouteEnv.discoveries_cases :
    (env.handleRouteDiscovery pkt src).filterMap Action.discovery = [] ∨
      env.deviceType = .anchor ∧
        (env.handleRouteDiscovery pkt src).filterMap Action.discovery =
          (env.forwardDiscovery pkt src).filterMap Action.discovery := by
  unfold RouteEnv.handleRouteDiscovery
  dsimp only
  split
  · exact .inl rfl
  · split
    · exact .inl rfl
    · split
      · exact .inl rfl
      · exact .inl rfl
      · exact .inl rfl
      · next isAnchor =>
        split
        · split
          · exact .inl rfl
          · split
            · split
              · exact .inl rfl
              · exact .inl rfl
            · refine .inr ⟨isAnchor, ?_⟩
              rw [List.filterMap_append]
              exact List.append_nil _
        · exact .inl rfl

theorem RouteEnv.forwardDiscovery_length :
    (env.forwardDiscovery pkt src).length ≤ maxAnchors := by
  unfold RouteEnv.forwardDiscovery
  rw [List.length_map]
  refine Nat.le_trans (List.length_filter_le _ _) ?_
  rw [List.length_finRange]

theorem mem_discoveries {actions : List Action} {pkt : RouteDiscovery}
    (member : pkt ∈ actions.filterMap Action.discovery) :
    .request (.routeDiscovery pkt) ∈ actions := by
  obtain ⟨action, inside, same⟩ := List.mem_filterMap.mp member
  unfold Action.discovery at same
  split at same
  · cases same
    exact inside
  · cases same

theorem flooded_data (actions : List Action) :
    (actions.map Enqueued.data).filterMap Enqueued.flooded =
      (actions.filterMap Action.discovery).map fun pkt =>
        (pkt.hdr.deviceId, FloodPacket.discovery pkt) := by
  rw [List.filterMap_map, List.map_filterMap]
  rfl

theorem flooded_mesh (s : MeshPlane) :
    (s.out.map Enqueued.mesh).filterMap Enqueued.flooded =
      s.pings.map fun pkt => (pkt.hdr.deviceId, FloodPacket.ping pkt) := by
  rw [List.filterMap_map, pings, List.map_filterMap]
  rfl

end Passing

section Spreading

variable {board : UInt16 → Board} {hop : UInt16 → UInt8}

/-- What a board passes on: to few devices, all further than itself, and only
if it is an anchor. -/
structure Spreads (board : UInt16 → Board) (hop : UInt16 → UInt8)
    (id : UInt16) (sent : List (UInt16 × FloodPacket)) : Prop where
  narrow : sent.length ≤ maxAnchors
  climbs : ∀ next ∈ sent, hop id < hop next.1
  keeps : ∀ next ∈ sent, next.2.Keeps
  told : ∀ next ∈ sent, next.2.TellsHop (hop id)
  anchor : sent ≠ [] → (board id).deviceType = .anchor

theorem Spreads.nothing {id : UInt16} : Spreads board hop id [] :=
  ⟨Nat.zero_le _, by simp, by simp, by simp, by simp⟩

/-- The neighbours of a board, as the data planes read them. -/
theorem surroundings_neighbour
    {s : MeshPlane} {home : Board} {now : Nat} {i : Fin maxAnchors}
    (inside : i.val < (s.surroundings home now).infraCount) :
    ∃ entry ∈ s.entries,
      ((s.surroundings home now).infraDevices i).deviceId = entry.deviceId ∧
        ((s.surroundings home now).infraDevices i).hopNum = entry.hopNum := by
  have within : i.val < s.storage.infra.live.length := inside
  have cell : s.storage.infra.cell i noInfra = s.infra[i.val] := by
    unfold RamTable.cell
    rw [List.getElem?_append_left within, List.getElem?_eq_getElem within]
    rfl
  refine ⟨s.infra[i.val].entry,
    List.mem_map_of_mem (List.getElem_mem within), ?_, ?_⟩
  · exact congrArg (fun device => device.entry.deviceId) cell
  · exact congrArg (fun device => device.entry.hopNum) cell

theorem HopsAgree.pings
    {boards : UInt16 → LiveBoard} (agree : HopsAgree board hop boards)
    {id : UInt16} {s s' : MeshPlane} (up : (boards id).mesh = .ok s')
    (idle : s.pings = []) (sends : PingsBelow s s') :
    s'.pings.length ≤ maxAnchors ∧
      ∀ pkt ∈ s'.pings, hop id < hop pkt.hdr.deviceId ∧
        keepsDevice pkt.hdr.status = true ∧ pkt.hopNum = hop id := by
  obtain ⟨added, pings, few, each⟩ := sends
  rw [idle, List.nil_append] at pings
  rw [pings]
  refine ⟨Nat.le_trans few (agree.fits id s' up), fun pkt member => ?_⟩
  obtain ⟨keeps, told, entry, stored, receiver, further⟩ := each pkt member
  rw [agree.own id s' up, agree.stored id s' up entry stored] at further
  exact ⟨receiver ▸ further, keeps, told.trans (agree.own id s' up)⟩

theorem HopsAgree.discoveries
    {boards : UInt16 → LiveBoard} (agree : HopsAgree board hop boards)
    {id : UInt16} {s : MeshPlane} (up : (boards id).mesh = .ok s)
    (now : Nat) (heard : RouteDiscovery) (src : UInt16) :
    Spreads board hop id
      (((s.surroundings (board id) now).handleRouteDiscovery heard src
        |>.map Enqueued.data).filterMap Enqueued.flooded) := by
  rw [flooded_data]
  rcases @RouteEnv.discoveries_cases (s.surroundings (board id) now) heard src
    with none | ⟨isAnchor, same⟩
  · rw [none]
    exact .nothing
  · rw [same]
    refine ⟨?_, ?_, ?_, ?_, fun _ => isAnchor⟩
    · rw [List.length_map]
      exact Nat.le_trans (List.length_filterMap_le _ _)
        RouteEnv.forwardDiscovery_length
    · intro next member
      obtain ⟨pkt, sent, rfl⟩ := List.mem_map.mp member
      obtain ⟨i, ⟨inside, -, further, -⟩, rfl⟩ :=
        RouteEnv.routeDiscovery_mem_forwardDiscovery_iff.mp
          (mem_discoveries sent)
      obtain ⟨entry, stored, address, hops⟩ := surroundings_neighbour inside
      have own : (s.surroundings (board id) now).hopNum = hop id :=
        agree.own id s up
      rw [own, hops, agree.stored id s up entry stored] at further
      exact address ▸ further
    · intro next member
      obtain ⟨pkt, -, rfl⟩ := List.mem_map.mp member
      trivial
    · intro next member
      obtain ⟨pkt, -, rfl⟩ := List.mem_map.mp member
      trivial

/-- A board that takes a packet of the flood passes it on upwards. -/
theorem LiveBoard.step_spreads
    {boards : UInt16 → LiveBoard} {b : LiveBoard}
    {copy : Flood.Copy UInt16 FloodPacket} {arrival : Arrival}
    (agree : HopsAgree board hop boards) (keeps : copy.packet.Keeps)
    (moved : b.step (board copy.dst) (arrival.occurrence copy) =
      .ok (boards copy.dst)) :
    Spreads board hop copy.dst
      ((boards copy.dst).out.filterMap Enqueued.flooded) := by
  unfold LiveBoard.step at moved
  split at moved
  · next s up =>
    cases kind : copy.packet with
    | ping pkt =>
        rw [kind] at keeps
        simp only [LiveBoard.handle, Arrival.occurrence, kind,
          FloodPacket.event, MeshPlane.handle, Except.ok.injEq] at moved
        have passes := @handlePingDevice_passesOn
          (meshEnv (board copy.dst) (arrival.occurrence copy))
          (s.begin arrival.failures)
          { pkt with hdr := { pkt.hdr with
            trackingId := arrival.trackingId } } keeps copy.src arrival.rssi2
        simp only [Arrival.occurrence, kind, FloodPacket.event] at passes
        generalize (s.begin arrival.failures).handlePingDevice
          (meshEnv (board copy.dst) _) _ copy.src arrival.rssi2 = result
          at moved passes
        have out : (boards copy.dst).out = (plane result).out.map .mesh := by
          rw [← moved]
          rfl
        have mesh : (boards copy.dst).mesh = result := by
          rw [← moved]
          rfl
        rw [out, flooded_mesh]
        rcases passes with silent | ⟨isAnchor, s', stays, sends⟩
        · rw [silent]
          exact .nothing
        · rw [stays] at mesh ⊢
          obtain ⟨few, each⟩ := agree.pings mesh rfl sends
          refine ⟨by rwa [List.length_map], ?_, ?_, ?_, fun _ => isAnchor⟩
          · intro next member
            obtain ⟨ping, sent, rfl⟩ := List.mem_map.mp member
            exact (each ping sent).1
          · intro next member
            obtain ⟨ping, sent, rfl⟩ := List.mem_map.mp member
            exact (each ping sent).2.1
          · intro next member
            obtain ⟨ping, sent, rfl⟩ := List.mem_map.mp member
            exact (each ping sent).2.2
    | discovery pkt =>
        simp only [LiveBoard.handle, Arrival.occurrence, kind,
          FloodPacket.event, Except.ok.injEq] at moved
        have mesh : (boards copy.dst).mesh = .ok s := by
          rw [← moved]
          exact up
        rw [← moved]
        exact agree.discoveries mesh arrival.now _ copy.src
  · have silent : (boards copy.dst).out = [] := by
      simp only [Arrival.occurrence] at moved
      cases kind : copy.packet with
      | ping pkt =>
          rw [kind] at moved
          rw [← Except.ok.inj moved]
          rfl
      | discovery pkt =>
          rw [kind] at moved
          rw [← Except.ok.inj moved]
          rfl
    rw [silent]
    exact .nothing

end Spreading

namespace FloodNet

variable {board : UInt16 → Board} {hop : UInt16 → UInt8}
  {first : Flood.Copy UInt16 FloodPacket} {start net net' : FloodNet}

/-- What is known of the copies of a flood. -/
structure Going (hop : UInt16 → UInt8)
    (first : Flood.Copy UInt16 FloodPacket) (net : FloodNet) : Prop where
  bounded : Flood.Bounded (fun id => (hop id).toNat) maxDepth maxAnchors first
    net.air
  keeps : ∀ copy ∈ net.air.log, copy.packet.Keeps

theorem Starts.going (starts : Starts first start) : Going hop first start := by
  cases starts with
  | ping boards s env genId status pkt up keeps idle sent packet receiver
      fresh =>
      refine ⟨.start first fresh, fun copy member => ?_⟩
      rw [List.mem_singleton.mp member, packet]
      rw [pingKnownDevices_pings, pings, idle] at sent
      obtain ⟨device, -, rfl⟩ := List.mem_map.mp sent
      exact keeps
  | discovery boards pkt packet fresh =>
      refine ⟨.start first fresh, fun copy member => ?_⟩
      rw [List.mem_singleton.mp member, packet]
      trivial

/-- What one receiver passes on keeps the flood in its bounds. -/
theorem Going.pass
    (going : Going hop first net) {position : Nat}
    {copy : Flood.Copy UInt16 FloodPacket}
    (found : net.air.flying[position]? = some copy)
    {boards : UInt16 → LiveBoard} (agree : HopsAgree board hop boards)
    {sent : List (UInt16 × FloodPacket)}
    (spreads : Spreads board hop copy.dst sent) :
    Going hop first
      { boards := boards, air := net.air.pass position copy sent } where
  bounded := by
    refine going.bounded.pass found spreads.narrow ?_ fun some => ?_
    · exact fun next member => UInt8.lt_iff_toNat_lt.mp
        (spreads.climbs next member)
    · obtain ⟨above, under⟩ := agree.depth copy.dst (spreads.anchor some)
      exact ⟨UInt8.lt_iff_toNat_lt.mp above, under⟩
  keeps other member := by
    rcases List.mem_append.mp member with old | new
    · exact going.keeps other old
    · obtain ⟨next, inside, rfl⟩ := List.mem_map.mp new
      exact spreads.keeps next inside

theorem Going.step
    (going : Going hop first net) {event : FloodEvent}
    (agree : HopsAgree board hop net'.boards)
    (moved : net.step board event = .ok net') : Going hop first net' := by
  cases event with
  | arrives position arrival =>
      simp only [FloodNet.step] at moved
      split at moved
      · cases moved
        exact going
      · next copy found =>
        have keeps := going.keeps copy
          (going.bounded.logged (List.mem_of_getElem? found))
        unfold arrive at moved
        split at moved
        · cases moved
        · next after stepped =>
          cases moved
          have spreads := @LiveBoard.step_spreads board hop
            (Function.update net.boards copy.dst after)
            (net.boards copy.dst) copy arrival agree keeps
            (by rwa [Function.update_self])
          rw [Function.update_self] at spreads
          exact going.pass found agree spreads
  | lost position =>
      simp only [FloodNet.step] at moved
      split at moved
      · cases moved
        exact going
      · next copy found =>
        cases moved
        exact going.pass found agree .nothing
  | others boards =>
      cases moved
      exact ⟨going.bounded, going.keeps⟩

/-- The copies stay in their bounds as long as the hop numbers agree. -/
theorem going_of_reach
    (starts : Starts first start)
    (reach : Trace.Reach (FloodNet.step board)
      (fun net _ => HopsAgree board hop net.boards) start net) :
    HopsAgree board hop net.boards → Going hop first net := by
  induction reach with
  | refl => exact fun _ => starts.going
  | next _ admitted moved ih =>
      exact fun agree => (ih admitted).step agree moved

section Samples

/-- A gateway, an anchor in its range, and two further anchors that hear this
one and each other. -/
def ringHop (id : UInt16) : UInt8 :=
  if id = 1 then 0 else if id = 2 then 1 else 2

def ringBoard (id : UInt16) : Board where
  deviceType := if id = 1 then .gateway else .anchor
  deviceId := id
  crc := Checksum.crc32Ieee

def ringPlane (id : UInt16) (neighbours : List UInt16) : MeshPlane where
  storage := { infra := { live := neighbours.map fun neighbour =>
    { entry :=
        { deviceType := (ringBoard neighbour).deviceType.code
          deviceId := neighbour
          hopNum := ringHop neighbour } } } }
  hopNum := ringHop id

def ringGateway : MeshEnv where
  deviceType := .gateway
  deviceId := 1

def ringBoards (id : UInt16) : LiveBoard where
  mesh :=
    if id = 1 then
      .ok ((ringPlane 1 [2]).pingKnownDevices ringGateway 0 statusSuccess)
    else if id = 2 then
      .ok (ringPlane 2 [1, 3, 4])
    else if id = 3 then
      .ok (ringPlane 3 [2, 4])
    else if id = 4 then
      .ok (ringPlane 4 [2, 3])
    else
      .error {}

def ringPing : Flood.Copy UInt16 FloodPacket where
  src := 1
  dst := 2
  packet := .ping ((ringPlane 1 [2]).pingPacket ringGateway 2 0 statusSuccess)

/-- The board passes for one of the ring. -/
def InRing (boards : UInt16 → LiveBoard) (id : UInt16) : Prop :=
  (plane (boards id).mesh).hopNum = ringHop id ∧
    (∀ entry ∈ (plane (boards id).mesh).entries,
      entry.hopNum = ringHop entry.deviceId) ∧
    (plane (boards id).mesh).entries.length ≤ maxAnchors

instance (boards : UInt16 → LiveBoard) (id : UInt16) :
    Decidable (InRing boards id) := by
  unfold InRing
  infer_instance

theorem ring_agrees
    {boards : UInt16 → LiveBoard}
    (listed : ∀ id, (boards id).mesh.isOk = true → id ∈ [1, 2, 3, 4])
    (one : InRing boards 1) (two : InRing boards 2) (three : InRing boards 3)
    (four : InRing boards 4) :
    HopsAgree ringBoard ringHop boards := by
  have each (id : UInt16) (member : id ∈ [1, 2, 3, 4]) : InRing boards id := by
    simp only [List.mem_cons, List.not_mem_nil, or_false] at member
    rcases member with rfl | rfl | rfl | rfl
    · exact one
    · exact two
    · exact three
    · exact four
  have inRing (id : UInt16) (s : MeshPlane) (up : (boards id).mesh = .ok s) :
      s.hopNum = ringHop id ∧
        (∀ entry ∈ s.entries, entry.hopNum = ringHop entry.deviceId) ∧
          s.entries.length ≤ maxAnchors := by
    have known := each id (listed id (by rw [up]; rfl))
    rw [InRing, up] at known
    exact known
  refine ⟨fun id s up => (inRing id s up).1, fun id s up => (inRing id s up).2.1,
    fun id isAnchor => ?_, fun id s up => (inRing id s up).2.2⟩
  have other : id ≠ 1 := by
    rintro rfl
    cases isAnchor
  unfold ringHop
  rw [if_neg other]
  split
  · decide
  · decide

/-- The anchor after the ping. -/
def ringPassed : LiveBoard :=
  match (ringBoards 2).step (ringBoard 2)
      (({} : Arrival).occurrence ringPing) with
  | .ok after => after
  | .error _ => ringBoards 2

def ringAfter : FloodNet where
  boards := Function.update ringBoards 2 ringPassed
  air := (Flood.Air.start ringPing).pass 0 ringPing
    (ringPassed.out.filterMap Enqueued.flooded)

theorem ring_listed {id : UInt16} (up : (ringBoards id).mesh.isOk = true) :
    id ∈ [1, 2, 3, 4] := by
  by_contra other
  simp only [List.mem_cons, List.not_mem_nil, or_false, not_or] at other
  obtain ⟨one, two, three, four⟩ := other
  simp only [ringBoards, if_neg one, if_neg two, if_neg three,
    if_neg four] at up
  cases up

end Samples

end FloodNet

end DectMesh
