import DectMesh.Buttons
import DectMesh.LargeData.Destinations
import DectMesh.LargeData.Integrity
import DectMesh.Mesh.Joining
import DectMesh.Report.Destinations
import DectMesh.Report.Handover
import DectMesh.Report.Isolation
import DectMesh.RouteService

/-!
# Where a board sends

One board with its mesh layer, its data planes and its tracker.  The data
planes read the neighbour tables that the mesh layer maintains, and a packet
that is passed on goes to one of these neighbours as long as nothing reads a
parent that is not there or follows a route to a stranger.
-/

namespace DectMesh

open MeshPlane

section Routing

variable {env : RouteEnv}

/-- `handle_route_discovery` sends to `infra_devices[0]`. -/
def RouteEnv.AnswersUp (env : RouteEnv) (pkt : RouteDiscovery) : Prop :=
  env.deviceType = .anchor ∧ env.accepts pkt.hdr = true ∧
    pkt.hdr.status = statusSuccess ∧
      isUpstreamType pkt.hdr.deviceType = true ∧
        (pkt.deviceType = DeviceType.anchor.code ∧
            pkt.deviceId = env.deviceId ∨
          pkt.deviceType = DeviceType.sensor.code ∧
            env.findSensor pkt.deviceId ≠ none)

/-- `handle_route_info` sends to `infra_devices[0]`. -/
def RouteEnv.PassesUp (env : RouteEnv) (pkt : RouteInfo) : Prop :=
  env.deviceType = .anchor ∧ env.accepts pkt.hdr = true ∧
    pkt.hdr.status = statusSuccess ∧
      (pkt.hdr.deviceType = DeviceType.anchor.code ∨
        pkt.hdr.deviceId = DeviceType.gateway.code.toUInt16)

theorem handleRouteDiscovery_receives
    {pkt : RouteDiscovery} {srcId dst : UInt16} {action : Action}
    (sent : action ∈ env.handleRouteDiscovery pkt srcId)
    (receiver : action.routedTo = some dst) :
    env.AnswersUp pkt ∧ dst = env.parent.deviceId := by
  have answered (ack : RouteDiscoveryAck)
      (sent : action ∈ [env.sendRouteInfo (env.routeFound pkt),
        .reply (.routeDiscoveryAck ack)]) : dst = env.parent.deviceId := by
    rcases List.mem_cons.mp sent with rfl | sent
    · cases receiver
      rfl
    · cases List.mem_singleton.mp sent
      cases receiver
  unfold RouteEnv.handleRouteDiscovery at sent
  dsimp only at sent
  split at sent
  · cases sent
  · next ignored =>
    have taken : env.accepts pkt.hdr = true := by simpa using ignored
    split at sent
    · cases sent
    · next success =>
      have success : pkt.hdr.status = statusSuccess := not_not.mp success
      split at sent
      · cases sent
      · cases sent
      · cases sent
      · next anchor =>
        split at sent
        · next upstream =>
          split at sent
          · next own =>
            exact ⟨⟨anchor, taken, success, upstream, .inl own⟩,
              answered _ sent⟩
          · split at sent
            · next sensor =>
              split at sent
              · next known =>
                refine ⟨⟨anchor, taken, success, upstream,
                  .inr ⟨sensor, ?_⟩⟩, answered _ sent⟩
                rw [known]
                simp
              · cases List.mem_singleton.mp sent
                cases receiver
            · rcases List.mem_append.mp sent with forwarded | sent
              · obtain ⟨index, -, rfl⟩ := List.mem_map.mp forwarded
                cases receiver
              · cases List.mem_singleton.mp sent
                cases receiver
        · cases sent

theorem handleRouteInfo_passesUp {pkt : RouteInfo} {srcId dst : UInt16}
    {action : Action} (sent : action ∈ env.handleRouteInfo pkt srcId)
    (receiver : action.routedTo = some dst) :
    env.PassesUp pkt ∧ dst = env.parent.deviceId := by
  unfold RouteEnv.handleRouteInfo at sent
  dsimp only at sent
  split at sent
  · cases sent
  · next ignored =>
    have taken : env.accepts pkt.hdr = true := by simpa using ignored
    split at sent
    · cases sent
    · next success =>
      have success : pkt.hdr.status = statusSuccess := not_not.mp success
      split at sent
      · cases sent
      · cases sent
      · cases sent
      · next anchor =>
        split at sent
        · next named =>
          rcases List.mem_cons.mp sent with rfl | sent
          · cases receiver
            exact ⟨⟨anchor, taken, success, named⟩, rfl⟩
          · cases List.mem_singleton.mp sent
            cases receiver
        · cases sent

/-- On a gateway the answer goes to the first hop of the reversed route. -/
theorem RouteService.handleRouteInfo_receives {service service' : RouteService}
    {env : Env} {pkt : RouteInfo} {srcId dst : UInt16}
    (handled : service.handleRouteInfo env pkt srcId = .ok service')
    (sent : dst ∈ service'.config.io.routed ++ service'.report.io.routed) :
    service.config.clearOut.Receives env (.routeInfo pkt srcId) dst ∨
      service.report.clearOut.RouteHop env pkt dst := by
  unfold handleRouteInfo at handled
  dsimp only at handled
  split at handled
  · split at handled
    · cases handled
    · next config answered =>
      cases handled
      rcases List.mem_append.mp sent with sent | sent
      · exact .inl (ConfigPlane.step_receives
          (show service.config.step env (.routeInfo pkt srcId) = .ok config
            from answered) dst sent)
      · cases sent
  · split at handled
    · split at handled
      · cases handled
      · next answered =>
        cases handled
        rcases List.mem_append.mp sent with sent | sent
        · cases sent
        · rcases ReportPlane.sendRoutedReport_adds answered dst sent with
            before | new
          · cases before
          · exact .inr new
    · split at handled
      · cases handled
        rcases List.mem_append.mp sent with sent | sent
        · cases sent
        · cases sent
      · cases handled
        rcases List.mem_append.mp sent with sent | sent
        · cases sent
        · cases sent

end Routing

section Board

/-- A packet that a board enqueues, or another order of one of its modules. -/
inductive Enqueued where
  | data (action : Action)
  | mesh (action : MeshAction)

namespace Enqueued

def routedTo : Enqueued → Option UInt16
  | .data action => action.routedTo
  | .mesh action => action.routedTo

/-- The tracker keeps a copy of the packet. -/
def isTracked : Enqueued → Bool
  | .data (.request _) | .mesh (.request _) => true
  | _ => false

end Enqueued

/-- The fields of an entry that the data planes read. -/
def InfraRecord.seen (entry : InfraRecord) : InfraEntry where
  deviceType := entry.deviceType
  deviceId := entry.deviceId
  hopNum := entry.hopNum

namespace MeshPlane

variable (s : MeshPlane)

/-- What the data planes of a board read of its mesh layer. -/
def surroundings (board : Board) (now : Nat) : RouteEnv where
  toBoard := board
  now := now
  serialNumber := s.serialNumber
  connectedDeviceId := s.connectedDeviceId
  infraDevices := fun i => (s.storage.infra.cell i noInfra).entry.seen
  infraCount := s.storage.infra.count
  sensorDevices := fun i => (s.storage.sensors.cell i noSensor).entry.deviceId
  sensorCount := s.storage.sensors.count
  meshDevices := fun i => s.storage.mesh.cell i {}
  meshCount := s.storage.mesh.count
  hopNum := s.hopNum

/-- The mesh part of `main_sub_init`, which the error recovery runs again. -/
def mainSubInit (env : MeshEnv) : Except MeshPlane MeshPlane :=
  match s.deviceInfoUpdate env with
  | .error s => .error s
  | .ok s =>
      match env.deviceType with
      | .gateway => .ok (s.pingKnownDevices env 0 statusSuccess)
      | .anchor =>
          if maxAnchors ≤ s.storage.infra.count then
            .ok s
          else
            .ok (s.sendPairRequest env true)
      | .sensor =>
          if s.infra = [] then
            .ok (s.sendPairRequest env true)
          else
            .ok { s with connectedDeviceId := s.parent.deviceId }
      | .unknown => .ok s

end MeshPlane

/-- A board, up or down, with the packets that its tracker may still hold and
those of the last event. -/
structure LiveBoard where
  mesh : Condition
  config : ConfigPlane := {}
  report : ReportPlane := {}
  ld : LdPlane := {}
  /-- The static variable of `default_button1_handler`. -/
  dataId : UInt16 := 1
  tracked : List Enqueued := []
  out : List Enqueued := []

inductive LiveEvent where
  /-- The start after a reboot, with the PSRAM and the UART as they are. -/
  | start (config report ld : Io)
  | mesh (event : Event)
  | config (event : ConfigEvent)
  | report (event : ReportEvent)
  | largeData (event : LdEvent)
  | routeDiscovery (pkt : RouteDiscovery) (srcId : UInt16)
  | routeInfo (pkt : RouteInfo) (srcId : UInt16)
  /-- `tracker_default_expired_cb` for an entry with retries left. -/
  | retry (index : Nat)
  /-- `MAIN_SUB_ERROR` runs `main_sub_init` again. -/
  | recovery
  /-- `factory_reset` of `default_button0_handler`, which reboots later. -/
  | factoryReset
  | defaultButton1
  | defaultButton2 (layout : SensorConfigLayout)
  | reboot

/-- An event with the surroundings it finds. -/
structure LiveOccurrence where
  now : Nat := 0
  random : UInt32 := 0
  stray : Candidate := {}
  failures : List (Option Leftover) := []
  event : LiveEvent

namespace LiveBoard

/-- A board without power. -/
def off (rom : Eeprom) : LiveBoard where
  mesh := .error { storage := { eeprom := rom } }

def meshEnv (board : Board) (occurrence : LiveOccurrence) : MeshEnv where
  deviceType := board.deviceType
  deviceId := board.deviceId
  now := occurrence.now
  random := occurrence.random
  stray := occurrence.stray

variable (board : Board) (b : LiveBoard)

/-- These packets were enqueued; the tracker may keep the requests. -/
def enqueues (out : List Enqueued) : LiveBoard :=
  { b with out := out, tracked := b.tracked ++ out.filter Enqueued.isTracked }

/-- The mesh layer handled an event. -/
def withMesh (condition : Condition) : LiveBoard :=
  { b with mesh := condition }.enqueues ((plane condition).out.map .mesh)

/-- One event of a board that is up. -/
def handle (s : MeshPlane) (occurrence : LiveOccurrence) :
    Except Fault LiveBoard :=
  let env := s.surroundings board occurrence.now
  match occurrence.event with
  | .start _ _ _ => .ok (b.enqueues [])
  | .mesh event =>
      .ok (b.withMesh ((s.begin occurrence.failures).handle
        (meshEnv board occurrence) event))
  | .config event =>
      match b.config.step env.toEnv event with
      | .error fault => .error fault
      | .ok config =>
          .ok ({ b with config := config }.enqueues
            (config.io.out.map .data))
  | .report event =>
      match b.report.step env.toEnv event with
      | .error fault => .error fault
      | .ok report =>
          .ok ({ b with report := report }.enqueues
            (report.io.out.map .data))
  | .largeData event =>
      match b.ld.step env.toEnv event with
      | .error fault => .error fault
      | .ok ld => .ok ({ b with ld := ld }.enqueues (ld.io.out.map .data))
  | .routeDiscovery pkt srcId =>
      .ok (b.enqueues ((env.handleRouteDiscovery pkt srcId).map .data))
  | .routeInfo pkt srcId =>
      match ({ config := b.config, report := b.report } :
          RouteService).handleRouteInfo env.toEnv pkt srcId with
      | .error fault => .error fault
      | .ok service =>
          .ok ({ b with config := service.config, report := service.report
              }.enqueues
            ((env.handleRouteInfo pkt srcId ++
              (service.config.io.out ++ service.report.io.out)).map .data))
  | .retry index => .ok { b with out := b.tracked[index]?.toList }
  | .recovery =>
      .ok ({ b with
        config := b.config.clearOut.configInit
        report := b.report.clearOut.reportInit
        ld := b.ld.clearOut.largeDataInit
        tracked := [] }.withMesh
          ((s.begin occurrence.failures).mainSubInit
            (meshEnv board occurrence)))
  | .factoryReset =>
      .ok (b.withMesh (.ok (s.begin occurrence.failures).factoryReset))
  | .defaultButton1 =>
      let report := b.report.clearOut.defaultButton1Handler env.toEnv b.dataId
      .ok ({ b with
        report := report
        dataId := env.nextButtonId b.dataId }.enqueues
          (report.io.out.map .data))
  | .defaultButton2 layout =>
      let config := b.config.clearOut.defaultButton2Handler env.toEnv layout
      let ld := b.ld.clearOut.defaultButton2Handler env.toEnv
      .ok ({ b with config := config, ld := ld }.enqueues
        ((config.io.out ++ ld.io.out).map .data))
  | .reboot => .ok (b.withMesh (.error (s.begin occurrence.failures)))

/-- One event; a board that is down only starts. -/
def step (occurrence : LiveOccurrence) : Except Fault LiveBoard :=
  match b.mesh with
  | .ok s => b.handle board s occurrence
  | .error s =>
      match occurrence.event with
      | .start config report ld =>
          .ok ({
            mesh := b.mesh
            config := { io := config }
            report := .boot report
            ld := .boot ld : LiveBoard }.withMesh
              (boot (meshEnv board occurrence)
                (s.begin occurrence.failures).storage.eeprom))
      | _ => .ok (b.enqueues [])

/-- An address that can be a device's. -/
def Proper (deviceId : UInt16) : Prop := deviceId ≠ 0 ∧ deviceId ≠ 0xFFFF

/-- The devices that are stored as neighbours. -/
def stored : List UInt16 := (plane b.mesh).stored

/-- Every packet that was passed on has a proper address, of a device that is
stored; in front of a reboot, of one that was. -/
def Addressed (b b' : LiveBoard) : Prop :=
  ∀ packet ∈ b'.out, ∀ dst, packet.routedTo = some dst → Proper dst ∧
    (dst ∈ b'.stored ∨ b'.mesh.isOk = false ∧ dst ∈ b.stored)

/-- The event finds a parent where it sends to one, a stored next hop where it
follows a route, the receiver of a packet it sends again still stored, and
adds no neighbour without a proper address. -/
def AimedUp (s : MeshPlane) (occurrence : LiveOccurrence) : Prop :=
  let env := s.surroundings board occurrence.now
  match occurrence.event with
  | .mesh event =>
      (∀ id ∈ event.joins, Proper id) ∧
        ¬ (s.begin occurrence.failures).SendsAstray
          (meshEnv board occurrence) event
  | .config event =>
      (b.config.clearOut.SendsUp env.toEnv event → s.infra ≠ []) ∧
        ∀ dst, b.config.clearOut.NextHop env.toEnv dst event → dst ∈ s.stored
  | .report event =>
      (b.report.clearOut.SendsUp env.toEnv event → s.infra ≠ []) ∧
        ∀ dst, b.report.clearOut.NextHop env.toEnv dst event → dst ∈ s.stored
  | .largeData event => b.ld.SendsUp env.toEnv event → s.infra ≠ []
  | .routeDiscovery pkt _ => env.AnswersUp pkt → s.infra ≠ []
  | .routeInfo pkt srcId =>
      (env.PassesUp pkt → s.infra ≠ []) ∧
        ∀ dst, b.config.clearOut.NextHop env.toEnv dst (.routeInfo pkt srcId) ∨
            b.report.clearOut.RouteHop env.toEnv pkt dst →
          dst ∈ s.stored
  | .retry index =>
      ∀ packet, b.tracked[index]? = some packet →
        ∀ dst, packet.routedTo = some dst → dst ∈ s.stored
  | .start _ _ _ | .recovery | .factoryReset | .defaultButton1
  | .defaultButton2 _ | .reboot => True

/-- The same, and a start loads proper addresses only. -/
def Aimed (occurrence : LiveOccurrence) : Prop :=
  match b.mesh with
  | .ok s => b.AimedUp board s occurrence
  | .error s =>
      match occurrence.event with
      | .start _ _ _ =>
          ∀ id ∈ ({ storage := (Storage.storageInit board.deviceType
              (s.begin occurrence.failures).storage.eeprom).1 } :
                MeshPlane).stored, Proper id
      | _ => True

/-- The neighbours of a board that is up have proper addresses. -/
def ProperNeighbours : Prop :=
  b.mesh.isOk = true → ∀ id ∈ b.stored, Proper id

end LiveBoard

end Board

section Neighbours

variable {board : Board} {s : MeshPlane} {now : Nat}

theorem stored_of_infra {deviceId : UInt16} (member : deviceId ∈ s.infraIds) :
    deviceId ∈ s.stored := List.mem_append_left _ member

theorem parent_among_stored (linked : s.infra ≠ []) :
    (s.surroundings board now).toEnv.parent.deviceId ∈ s.stored :=
  stored_of_infra (parent_stored linked)

theorem sensor_among_stored {deviceId : UInt16}
    (found : (s.surroundings board now).toEnv.findSensor deviceId ≠ none) :
    deviceId ∈ s.stored := by
  obtain ⟨i, found⟩ := Option.ne_none_iff_exists'.mp found
  unfold Env.findSensor at found
  have matched := Fin.eq_true_of_find?_eq_some found
  have known : i.val < s.storage.sensors.live.length ∧
      (s.storage.sensors.cell i noSensor).entry.deviceId = deviceId :=
    of_decide_eq_true matched
  obtain ⟨inside, same⟩ := known
  have cell : s.storage.sensors.cell i noSensor =
      s.storage.sensors.live[i.val] := by
    unfold RamTable.cell
    rw [List.getElem?_append_left inside, List.getElem?_eq_getElem inside]
    rfl
  rw [cell] at same
  rw [← same]
  exact List.mem_append_right _ (List.mem_map_of_mem (List.getElem_mem inside))

end Neighbours

section Start

variable {env : MeshEnv} {s s' last : MeshPlane}

/-- The board only asks for a parent or pings after `device_info_update`. -/
theorem mainSubInit_ok (up : s.mainSubInit env = .ok s') :
    ∃ t, s.deviceInfoUpdate env = .ok t ∧ s'.routed = t.routed ∧
      s'.infraIds = t.infraIds ∧ s'.sensorIds ⊆ t.sensorIds := by
  unfold mainSubInit at up
  split at up
  · cases up
  · next t updated =>
    refine ⟨t, updated, ?_⟩
    split at up
    · cases up
      exact ⟨pingWhere_routed _ _ _ _ _ _,
        sameParent_ids (pingKnownDevices_parent 0 statusSuccess),
        sensorIds_congr (pingWhere_sensors _ _ _ _ _ _)⟩
    · split at up
      · cases up
        exact ⟨rfl, rfl, List.Subset.refl _⟩
      · cases up
        exact ⟨sendPairRequest_routed t true, rfl, List.Subset.refl _⟩
    · split at up
      · cases up
        exact ⟨sendPairRequest_routed t true, rfl, List.Subset.refl _⟩
      · cases up
        exact ⟨rfl, rfl, List.Subset.refl _⟩
    · cases up
      exact ⟨rfl, rfl, List.Subset.refl _⟩

theorem mainSubInit_sendsStored (up : s.mainSubInit env = .ok s') :
    SendsStored s s' := by
  obtain ⟨t, updated, routed, infra, -⟩ := mainSubInit_ok up
  exact (deviceInfoUpdate_sendsStored updated).trans
    (fun id member => infra ▸ member) (.of_same routed)

theorem mainSubInit_stored (up : s.mainSubInit env = .ok s') :
    s'.stored ⊆ s.stored := by
  obtain ⟨t, updated, -, infra, sensors⟩ := mainSubInit_ok up
  have kept : s'.stored ⊆ t.stored :=
    stored_subset (infra ▸ List.Subset.refl _) sensors
  exact List.Subset.trans kept (deviceInfoUpdate_stored updated)

theorem mainSubInit_quits (down : s.mainSubInit env = .error last) :
    last.routed = s.routed := by
  unfold mainSubInit at down
  split at down
  · next done =>
    cases down
    exact deviceInfoUpdate_quits done
  · split at down
    · cases down
    · split at down <;> cases down
    · split at down <;> cases down
    · cases down

/-- What a start runs once the tables are read. -/
def MeshPlane.atBoot (env : MeshEnv) (rom : Eeprom) : MeshPlane where
  storage := (Storage.storageInit env.deviceType rom).1
  hopNum := if env.deviceType = .gateway then 0 else 0xFF
  serialNumber := env.deviceId.toUInt64
  meshDevicesCount :=
    loadedDevices env (Storage.storageInit env.deviceType rom).1
  meshTimeOffset :=
    if env.deviceType = .gateway then 0 - UInt64.ofNat env.now else 0

theorem boot_eq (env : MeshEnv) (rom : Eeprom) :
    boot env rom = (atBoot env rom).mainSubInit env ∨
      ∃ last, boot env rom = .error last ∧ last.routed = [] := by
  unfold boot
  dsimp only
  split
  · refine .inl ?_
    unfold mainSubInit atBoot
    cases role : env.deviceType with
    | gateway => simp [deviceInfoUpdate, role]
    | anchor => rfl
    | sensor => rfl
    | unknown => rfl
  · exact .inr ⟨_, rfl, rfl⟩

end Start

namespace LiveBoard

variable {board : Board} {b b' : LiveBoard} {occurrence : LiveOccurrence}

section Packets

/-- The receivers of what a mesh layer put out. -/
theorem mesh_receiver {t : MeshPlane} {packet : Enqueued} {dst : UInt16}
    (sent : packet ∈ t.out.map Enqueued.mesh)
    (receiver : packet.routedTo = some dst) : dst ∈ t.routed := by
  obtain ⟨action, member, rfl⟩ := List.mem_map.mp sent
  exact List.mem_filterMap.mpr ⟨action, member, receiver⟩

/-- The receivers of what a data plane put out. -/
theorem data_receiver {io : Io} {packet : Enqueued} {dst : UInt16}
    (sent : packet ∈ io.out.map Enqueued.data)
    (receiver : packet.routedTo = some dst) : dst ∈ io.routed := by
  obtain ⟨action, member, rfl⟩ := List.mem_map.mp sent
  exact List.mem_filterMap.mpr ⟨action, member, receiver⟩

theorem proper_of_up {s : MeshPlane} (proper : b.ProperNeighbours)
    (up : b.mesh = .ok s) : ∀ id ∈ s.stored, Proper id := by
  intro id member
  have known : id ∈ b.stored := by
    unfold stored
    rw [up]
    exact member
  exact proper (by rw [up]; rfl) id known

/-- The tables did not change, and every receiver is in them. -/
theorem addressed_of_stored {s : MeshPlane}
    (proper : ∀ id ∈ s.stored, Proper id) (same : b'.mesh = .ok s)
    (known : ∀ packet ∈ b'.out, ∀ dst, packet.routedTo = some dst →
      dst ∈ s.stored) : b.Addressed b' := by
  intro packet sent dst receiver
  have member := known packet sent dst receiver
  refine ⟨proper dst member, .inl ?_⟩
  unfold stored
  rw [same]
  exact member

/-- The mesh layer sent to neighbours that it stores, or stored in front of a
reboot. -/
theorem withMesh_addressed {s : MeshPlane} {condition : Condition}
    {base : LiveBoard} (up : b.mesh = .ok s)
    (proper : ∀ id ∈ s.stored, Proper id)
    (later : ∀ t, condition = .ok t → ∀ id ∈ t.stored, Proper id)
    (sends : ∀ t, condition = .ok t → ∀ dst ∈ t.routed, dst ∈ t.infraIds)
    (quits : ∀ t, condition = .error t → ∀ dst ∈ t.routed,
      dst ∈ s.infraIds) : b.Addressed (base.withMesh condition) := by
  intro packet sent dst receiver
  cases condition with
  | ok t =>
      have known :=
        stored_of_infra (sends t rfl dst (mesh_receiver sent receiver))
      exact ⟨later t rfl dst known, .inl known⟩
  | error t =>
      have known :=
        stored_of_infra (quits t rfl dst (mesh_receiver sent receiver))
      refine ⟨proper dst known, .inr ⟨rfl, ?_⟩⟩
      unfold stored
      rw [up]
      exact known

end Packets

section Steps

variable {s : MeshPlane}

/-- The neighbours after an event have been there or joined by it. -/
theorem handle_proper {event : Event} {env : MeshEnv} {t : MeshPlane}
    {failures : List (Option Leftover)}
    (proper : ∀ id ∈ s.stored, Proper id)
    (joining : ∀ id ∈ event.joins, Proper id)
    (handled : (s.begin failures).handle env event = .ok t) :
    ∀ id ∈ t.stored, Proper id := by
  intro id member
  rcases (handle_gained event).ok handled id member with before | joined
  · exact proper id before
  · exact joining id joined

/-- Button 3 asks for a route at most. -/
theorem button2_asks {env : Env} {layout : SensorConfigLayout} {action : Action}
    (sent : action ∈ (b.config.clearOut.defaultButton2Handler env
      layout).io.out ++ (b.ld.clearOut.defaultButton2Handler env).io.out) :
    ∃ pkt, action = .request (.routeDiscovery pkt) := by
  rcases List.mem_append.mp sent with config | ld
  · obtain ⟨-, asks⟩ := ConfigPlane.defaultButton2Handler_passes
      (show b.config.clearOut.Genuine fun _ => True from fun _ _ => trivial)
      fun _ => trivial
    rcases asks action config with before | asked
    · cases before
    · exact asked
  · rw [LdPlane.defaultButton2Handler_out] at ld
    cases ld

theorem handle_addressed (proper : ∀ id ∈ s.stored, Proper id)
    (up : b.mesh = .ok s) (aimed : b.AimedUp board s occurrence)
    (handled : b.handle board s occurrence = .ok b') : b.Addressed b' := by
  obtain ⟨now, random, stray, failures, event⟩ := occurrence
  unfold handle at handled
  unfold AimedUp at aimed
  cases event with
  | start config report ld =>
      cases handled
      exact addressed_of_stored proper up fun packet sent => by cases sent
  | mesh event =>
      obtain ⟨joining, straight⟩ := aimed
      cases handled
      refine withMesh_addressed up proper ?_ ?_ ?_
      · intro t handled
        exact handle_proper proper joining handled
      · intro t handled dst sent
        rcases (handle_sends straight).ok handled dst sent with before | known
        · cases before
        · exact known
      · intro t quit dst sent
        rcases (handle_sends straight).error quit dst sent with before | known
        · cases before
        · exact known
  | config event =>
      obtain ⟨linked, next⟩ := aimed
      dsimp only at handled
      split at handled
      · cases handled
      · next config stepped =>
        cases handled
        refine addressed_of_stored proper up fun packet sent dst receiver => ?_
        rcases ConfigPlane.step_receives stepped dst
            (data_receiver sent receiver) with ⟨sendsUp, rfl⟩ | hop | known
        · exact parent_among_stored (linked sendsUp)
        · exact next dst hop
        · exact sensor_among_stored known
  | report event =>
      obtain ⟨linked, next⟩ := aimed
      dsimp only at handled
      split at handled
      · cases handled
      · next report stepped =>
        cases handled
        refine addressed_of_stored proper up fun packet sent dst receiver => ?_
        rcases ReportPlane.step_receives stepped dst
            (data_receiver sent receiver) with ⟨sendsUp, rfl⟩ | hop | known
        · exact parent_among_stored (linked sendsUp)
        · exact next dst hop
        · exact sensor_among_stored known
  | largeData event =>
      dsimp only at handled
      split at handled
      · cases handled
      · next ld stepped =>
        cases handled
        refine addressed_of_stored proper up fun packet sent dst receiver => ?_
        obtain ⟨sendsUp, rfl⟩ := LdPlane.step_receives stepped dst
          (data_receiver sent receiver)
        exact parent_among_stored (aimed sendsUp)
  | routeDiscovery pkt srcId =>
      cases handled
      refine addressed_of_stored proper up fun packet sent dst receiver => ?_
      obtain ⟨action, member, rfl⟩ := List.mem_map.mp sent
      obtain ⟨answers, rfl⟩ := handleRouteDiscovery_receives member receiver
      exact parent_among_stored (aimed answers)
  | routeInfo pkt srcId =>
      obtain ⟨linked, next⟩ := aimed
      dsimp only at handled
      split at handled
      · cases handled
      · next service answered =>
        cases handled
        refine addressed_of_stored proper up fun packet sent dst receiver => ?_
        obtain ⟨action, member, rfl⟩ := List.mem_map.mp sent
        rcases List.mem_append.mp member with passed | served
        · obtain ⟨passes, rfl⟩ := handleRouteInfo_passesUp passed receiver
          exact parent_among_stored (linked passes)
        · have routed : dst ∈ service.config.io.routed ++
              service.report.io.routed := by
            unfold Io.routed
            rw [← List.filterMap_append]
            exact List.mem_filterMap.mpr ⟨action, served, receiver⟩
          rcases RouteService.handleRouteInfo_receives answered routed with
            (⟨sendsUp, -⟩ | hop | known) | hop
          · exact absurd sendsUp id
          · exact next dst (.inl hop)
          · exact sensor_among_stored known
          · exact next dst (.inr hop)
  | retry index =>
      cases handled
      refine addressed_of_stored proper up fun packet sent dst receiver => ?_
      exact aimed packet (Option.mem_toList.mp sent) dst receiver
  | recovery =>
      cases handled
      refine withMesh_addressed up proper ?_ ?_ ?_
      · intro t begun id member
        exact proper id (mainSubInit_stored begun member)
      · intro t begun dst sent
        rcases mainSubInit_sendsStored begun dst sent with before | known
        · cases before
        · exact known
      · intro t quit dst sent
        rw [mainSubInit_quits quit] at sent
        cases sent
  | factoryReset =>
      cases handled
      refine withMesh_addressed up proper ?_ ?_ ?_
      · rintro t ⟨⟩ id member
        cases member
      · rintro t ⟨⟩ dst sent
        cases sent
      · rintro t ⟨⟩
  | defaultButton1 =>
      cases handled
      refine addressed_of_stored proper up fun packet sent => ?_
      obtain ⟨action, member, rfl⟩ := List.mem_map.mp sent
      rw [ReportPlane.defaultButton1Handler_out] at member
      cases member
  | defaultButton2 layout =>
      cases handled
      refine addressed_of_stored proper up fun packet sent dst receiver => ?_
      obtain ⟨action, member, rfl⟩ := List.mem_map.mp sent
      obtain ⟨pkt, rfl⟩ := button2_asks member
      cases receiver
  | reboot =>
      cases handled
      refine withMesh_addressed up proper ?_ ?_ ?_
      · rintro t ⟨⟩
      · rintro t ⟨⟩
      · rintro t ⟨⟩ dst sent
        cases sent

theorem handle_properNeighbours (proper : ∀ id ∈ s.stored, Proper id)
    (up : b.mesh = .ok s) (aimed : b.AimedUp board s occurrence)
    (handled : b.handle board s occurrence = .ok b') :
    b'.ProperNeighbours := by
  have same (unchanged : b'.mesh = .ok s) : b'.ProperNeighbours := by
    intro _ id member
    unfold stored at member
    rw [unchanged] at member
    exact proper id member
  obtain ⟨now, random, stray, failures, event⟩ := occurrence
  unfold handle at handled
  unfold AimedUp at aimed
  cases event with
  | start config report ld =>
      cases handled
      exact same up
  | mesh event =>
      obtain ⟨joining, -⟩ := aimed
      cases handled
      intro isUp id member
      cases condition : (s.begin failures).handle
          (meshEnv board ⟨now, random, stray, failures, .mesh event⟩)
          event with
      | ok t =>
          rw [condition] at member
          exact handle_proper proper joining condition id member
      | error t =>
          rw [condition] at isUp
          cases isUp
  | config event =>
      dsimp only at handled
      split at handled
      · cases handled
      · cases handled
        exact same up
  | report event =>
      dsimp only at handled
      split at handled
      · cases handled
      · cases handled
        exact same up
  | largeData event =>
      dsimp only at handled
      split at handled
      · cases handled
      · cases handled
        exact same up
  | routeDiscovery pkt srcId =>
      cases handled
      exact same up
  | routeInfo pkt srcId =>
      dsimp only at handled
      split at handled
      · cases handled
      · cases handled
        exact same up
  | retry index =>
      cases handled
      exact same up
  | recovery =>
      cases handled
      intro isUp id member
      cases condition : (s.begin failures).mainSubInit
          (meshEnv board ⟨now, random, stray, failures, .recovery⟩) with
      | ok t =>
          rw [condition] at member
          exact proper id (mainSubInit_stored condition member)
      | error t =>
          rw [condition] at isUp
          cases isUp
  | factoryReset =>
      cases handled
      intro _ id member
      cases member
  | defaultButton1 =>
      cases handled
      exact same up
  | defaultButton2 layout =>
      cases handled
      exact same up
  | reboot =>
      cases handled
      intro isUp
      cases isUp

/-- A start sends to neighbours only, and its neighbours are those it
loads. -/
theorem boot_starts {env : MeshEnv} {rom : Eeprom} :
    (∀ t, boot env rom = .ok t → ∀ dst ∈ t.routed, dst ∈ t.infraIds) ∧
      (∀ t, boot env rom = .error t → t.routed = []) ∧
        ∀ t, boot env rom = .ok t →
          t.stored ⊆ (atBoot env rom).stored := by
  rcases boot_eq env rom with started | ⟨last, failed, quiet⟩
  · rw [started]
    refine ⟨?_, fun t down => ?_, fun t up => mainSubInit_stored up⟩
    · intro t up dst sent
      rcases mainSubInit_sendsStored up dst sent with before | known
      · cases before
      · exact known
    · exact mainSubInit_quits down
  · rw [failed]
    refine ⟨?_, ?_, ?_⟩
    · rintro t ⟨⟩
    · rintro t ⟨⟩
      exact quiet
    · rintro t ⟨⟩

theorem step_addressed (proper : b.ProperNeighbours)
    (aimed : b.Aimed board occurrence)
    (stepped : b.step board occurrence = .ok b') : b.Addressed b' := by
  unfold step at stepped
  unfold Aimed at aimed
  cases condition : b.mesh with
  | ok s =>
      rw [condition] at stepped aimed
      exact handle_addressed (proper_of_up proper condition) condition aimed
        stepped
  | error s =>
      rw [condition] at stepped aimed
      obtain ⟨now, random, stray, failures, event⟩ := occurrence
      cases event with
      | start config report ld =>
          cases stepped
          obtain ⟨sends, quits, loads⟩ := @boot_starts
            (meshEnv board ⟨now, random, stray, failures,
              .start config report ld⟩) (s.begin failures).storage.eeprom
          intro packet sent dst receiver
          cases started : boot (meshEnv board ⟨now, random, stray, failures,
              .start config report ld⟩)
              (s.begin failures).storage.eeprom with
          | ok t =>
              rw [started] at sent
              have known := stored_of_infra
                (sends t started dst (mesh_receiver sent receiver))
              exact ⟨aimed dst (loads t started known), .inl known⟩
          | error t =>
              rw [started] at sent
              have quiet := mesh_receiver sent receiver
              rw [plane, quits t started] at quiet
              cases quiet
      | _ =>
          cases stepped
          intro packet sent
          cases sent

theorem step_properNeighbours (proper : b.ProperNeighbours)
    (aimed : b.Aimed board occurrence)
    (stepped : b.step board occurrence = .ok b') : b'.ProperNeighbours := by
  unfold step at stepped
  unfold Aimed at aimed
  cases condition : b.mesh with
  | ok s =>
      rw [condition] at stepped aimed
      exact handle_properNeighbours (proper_of_up proper condition) condition
        aimed stepped
  | error s =>
      rw [condition] at stepped aimed
      obtain ⟨now, random, stray, failures, event⟩ := occurrence
      cases event with
      | start config report ld =>
          cases stepped
          obtain ⟨-, -, loads⟩ := @boot_starts
            (meshEnv board ⟨now, random, stray, failures,
              .start config report ld⟩) (s.begin failures).storage.eeprom
          intro isUp id member
          cases started : boot (meshEnv board ⟨now, random, stray, failures,
              .start config report ld⟩)
              (s.begin failures).storage.eeprom with
          | ok t =>
              rw [started] at member
              exact aimed id (loads t started member)
          | error t =>
              rw [started] at isUp
              cases isUp
      | _ =>
          cases stepped
          intro isUp
          have down : b.mesh.isOk = true := isUp
          rw [condition] at down
          cases down

end Steps

section Runs

/-- In every run of a board from power-on whose events are aimed, every packet
that is passed on goes to a neighbour with a proper address. -/
theorem reach_addressed {rom : Eeprom}
    (reach : Trace.Reach (step board) (Aimed board) (.off rom) b)
    (aimed : b.Aimed board occurrence)
    (stepped : b.step board occurrence = .ok b') : b.Addressed b' := by
  have proper : b.ProperNeighbours := by
    apply reach.invariant
    · intro isUp
      cases isUp
    · intro before occurrence after proper aimed stepped
      exact step_properNeighbours proper aimed stepped
  exact step_addressed proper aimed stepped

/-- Anchor 1. -/
def anchorBoard : Board where
  deviceType := .anchor
  deviceId := 1
  crc := Checksum.crc32Ieee

/-- A start with an empty EEPROM. -/
def powerOn : LiveOccurrence where
  event := .start {} {} {}

/-- Gateway 9 acknowledges the pairing of the anchor. -/
def parentJoins : LiveOccurrence where
  event := .mesh (.pairAck
    { hdr := { deviceType := DeviceType.gateway.code, deviceId := 1 }
      hopNum := 0 }
    9 0)

/-- Sensor 5 confirms its pairing with the anchor. -/
def sensorJoins : LiveOccurrence where
  event := .mesh (.pairConfirm
    { hdr := { deviceType := DeviceType.sensor.code, deviceId := 1 }
      hopNum := 0xFF }
    5 0)

/-- The gateway did not answer a request. -/
def parentSilent : LiveOccurrence where
  event := .mesh (.trackerExhausted false false 9)

/-- The anchor takes a report of the sensor and then gives its parent up. -/
def parentLost : List LiveOccurrence :=
  [powerOn, parentJoins, sensorJoins,
    { event := .report (announcement 1 1 1 0x4C667A2E) },
    { event := .report (.reportChunk (sampleChunk 1 [7]) 5) },
    parentSilent, parentSilent, parentSilent]

/-- The anchor reports its joining to the gateway. -/
theorem reach_addressed_joined :
    ∃ b b', Trace.Reach (step anchorBoard) (Aimed anchorBoard) (.off {}) b ∧
      b.step anchorBoard parentJoins = .ok b' ∧
        b'.out.filterMap Enqueued.routedTo = [9] ∧ b.Addressed b' := by
  obtain ⟨b, started, b', joined, sent⟩ :
      Trace.Ends (step anchorBoard) (.off {}) [powerOn] fun b =>
        Trace.Ends (step anchorBoard) b [parentJoins] fun b' =>
          b'.out.filterMap Enqueued.routedTo = [9] := by
    decide +kernel
  rw [Trace.run_single] at started joined
  have empty : ({ storage := (Storage.storageInit .anchor {}).1 } :
      MeshPlane).stored = [] := by
    decide +kernel
  have loads : (off {}).Aimed anchorBoard powerOn := by
    intro id member
    have inside : id ∈ ({ storage := (Storage.storageInit .anchor {}).1 } :
        MeshPlane).stored := member
    rw [empty] at inside
    cases inside
  have gateway : ∀ id ∈ [(9 : UInt16)], Proper id := by
    intro id member
    rw [List.mem_singleton.mp member]
    exact ⟨by decide, by decide⟩
  have aimed : b.Aimed anchorBoard parentJoins := by
    unfold Aimed
    cases b.mesh with
    | ok s => exact ⟨gateway, id⟩
    | error s => trivial
  have reach : Trace.Reach (step anchorBoard) (Aimed anchorBoard) (.off {})
      b := .next .refl loads started
  exact ⟨b, b', reach, joined, sent, reach_addressed reach aimed joined⟩

/-- With its neighbours gone, the anchor announces the report to device
`0xFFFF`. -/
theorem parentLost_unaddressed :
    ¬ ∀ (board : Board) (rom : Eeprom) (b b' : LiveBoard)
      (occurrence : LiveOccurrence),
      Trace.Reach (step board) (fun _ _ => True) (.off rom) b →
        b.step board occurrence = .ok b' → b.Addressed b' := by
  intro addressed
  obtain ⟨b, ran, b', ticked, sent⟩ :
      Trace.Ends (step anchorBoard) (.off {}) parentLost fun b =>
        Trace.Ends (step anchorBoard) b [{ event := .report .tick }] fun b' =>
          some 0xFFFF ∈ b'.out.map Enqueued.routedTo := by
    decide +kernel
  rw [Trace.run_single] at ticked
  obtain ⟨packet, member, receiver⟩ := List.mem_map.mp sent
  have proper := (addressed anchorBoard {} b b' _
    (.of_run (fun _ _ _ => trivial) ran) ticked packet member 0xFFFF
      receiver).1
  exact proper.2 rfl

end Runs

end LiveBoard

end DectMesh
