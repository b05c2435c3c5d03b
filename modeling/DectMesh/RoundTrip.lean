import DectMesh.Acknowledgement
import DectMesh.Routing

/-!
# The round trip of a route

An answer to a discovery collects the anchors on its way up, and the packet
the gateway builds from it visits them on its way down.
-/

namespace DectMesh

/-- Every anchor of the list has the one before it as its parent. -/
def Linked : UInt16 → List RouteEnv → Prop
  | _, [] => True
  | above, anchor :: rest =>
      anchor.parent.deviceId = above ∧ Linked anchor.deviceId rest

open ByteStore

/-- A gateway, a chain of anchors below it, a sensor in the table of the last
one, and the slots that the gateway asks the route for. -/
structure Download where
  gateway : Env
  anchors : List RouteEnv
  sensorId : UInt16
  /-- The hop number that the gateway asks for. -/
  hopNum : UInt8
  config : ConfigPlane
  configIdx : Fin configSlotCount
  report : ReportPlane
  reportIdx : Fin dataSlotCount
  gatewayRole : gateway.deviceType = .gateway
  anchorRole : ∀ anchor ∈ anchors, anchor.deviceType = .anchor
  distinct : (anchors.map fun anchor => anchor.deviceId).Nodup
  nonempty : anchors ≠ []
  depth : anchors.length ≤ maxDepth
  linked : Linked gateway.deviceId anchors
  serves : ∀ last ∈ anchors.getLast?, (last.findSensor sensorId).isSome = true

section Packets

/-- The `ROUTE_INFO` packets among the actions. -/
def infosOf (actions : List Action) : List RouteInfo :=
  actions.filterMap fun
    | .request (.routeInfo pkt) => some pkt
    | _ => none

/-- The `CONFIG` packets among the actions. -/
def configsOf (actions : List Action) : List Config :=
  actions.filterMap fun
    | .request (.config pkt) => some pkt
    | _ => none

/-- The `REPORT_RECEIVED` packets among the actions. -/
def receivedOf (actions : List Action) : List ReportReceived :=
  actions.filterMap fun
    | .request (.reportReceived pkt) => some pkt
    | _ => none

end Packets

namespace Download

variable (d : Download)

/-- `ROUTE_DISCOVERY` for the sensor, as the last anchor receives it. -/
def discovery (dataType : UInt8) (dataId : UInt16) (last : RouteEnv) :
    RouteDiscovery where
  hdr :=
    { deviceType :=
        if last.parent.deviceId = d.gateway.deviceId then
          DeviceType.gateway.code
        else
          DeviceType.anchor.code
      priority := packetPriorityHigh
      deviceId := last.deviceId
      status := statusSuccess }
  deviceId := d.sensorId
  deviceType := DeviceType.sensor.code
  hopNum := d.hopNum
  dataType := dataType
  dataId := dataId

/-- What the first anchor of the list sends once the last one has answered and
the others have passed the answer on. -/
def answers (ask : RouteEnv → RouteDiscovery) : List RouteEnv → List RouteInfo
  | [] => []
  | [last] =>
      infosOf (last.handleRouteDiscovery (ask last) last.parent.deviceId)
  | anchor :: next :: rest =>
      (answers ask (next :: rest)).flatMap fun info =>
        infosOf (anchor.handleRouteInfo info next.deviceId)

/-- The anchor next to the gateway. -/
def top : UInt16 :=
  match d.anchors with
  | [] => 0xFFFF
  | anchor :: _ => anchor.deviceId

/-- The route that the packets should carry: every anchor of the chain, from
the gateway down. -/
def route : RouteInfoTable := fun i =>
  match d.anchors[i.val]? with
  | some anchor => anchor.hop
  | none => emptyHop

/-- Every anchor of the list, in order, receives the packet and sends it on
once; then the sensor receives it. -/
def Visits {P : Type} (dst : P → UInt16) (sends : RouteEnv → P → P → Prop)
    (sensorId : UInt16) : List RouteEnv → P → Prop
  | [], pkt => dst pkt = sensorId
  | anchor :: rest, pkt =>
      dst pkt = anchor.deviceId ∧
        ∃ next, sends anchor pkt next ∧ Visits dst sends sensorId rest next

/-- The anchor can take the configuration, and whenever it does, it sends
exactly this packet on. -/
def SendsConfig (anchor : RouteEnv) (pkt next : Config) : Prop :=
  (∃ s : ConfigPlane, s.Takes anchor.toEnv pkt) ∧
    ∀ (s : ConfigPlane) srcId, s.Takes anchor.toEnv pkt →
      configsOf (s.clearOut.handleConfig anchor.toEnv pkt srcId).io.out =
        [next]

/-- An anchor sends exactly this packet on. -/
def SendsReceived (anchor : RouteEnv) (pkt next : ReportReceived) : Prop :=
  ∀ (s : ReportPlane) srcId,
    receivedOf (s.clearOut.handleReportReceived anchor.toEnv pkt srcId
      ).io.out = [next]

/-- The configuration goes down the route that was found. -/
def ConfigTrip : Prop :=
  ∃ info s' pkt,
    answers (d.discovery dataTypeConfig (UInt16.ofNat d.configIdx.val))
        d.anchors = [info] ∧
      d.config.clearOut.sendRoutedConfig d.gateway info d.top = .ok s' ∧
        configsOf s'.io.out = [pkt] ∧ pkt.routeInfo = d.route ∧
          Visits (fun pkt => pkt.hdr.deviceId) SendsConfig d.sensorId
            d.anchors pkt

/-- So does the confirmation of a report. -/
def ReportTrip : Prop :=
  ∃ info s' pkt,
    answers (d.discovery dataTypeReport (UInt16.ofNat d.reportIdx.val))
        d.anchors = [info] ∧
      d.report.clearOut.sendRoutedReport d.gateway info d.top = .ok s' ∧
        receivedOf s'.io.out = [pkt] ∧ pkt.routeInfo = d.route ∧
          Visits (fun pkt => pkt.hdr.deviceId) SendsReceived d.sensorId
            d.anchors pkt

/-- The two slots wait for their route: the configuration can be read and has
its checksum, and the report has an id. -/
structure Pending (crc : Checksum) : Prop where
  config : (d.config.slots d.configIdx).isTransfered = false
  length : (d.config.slots d.configIdx).configLen ≠ 0
  fits : (d.config.slots d.configIdx).configLen.toNat ≤ maxConfigSize
  readable : (d.config.io.read (configSlotPsramAddr d.configIdx)
    (d.config.slots d.configIdx).configLen.toNat).2.isOk = true
  checksum : crc.ieee (slice d.config.io.psram.mem
      (configSlotPsramAddr d.configIdx)
      (d.config.slots d.configIdx).configLen.toNat) =
    (d.config.slots d.configIdx).configCrc32
  report : (d.report.slots d.reportIdx).isTransfered = false
  named : (d.report.slots d.reportIdx).dataId ≠ 0

end Download

section Routes

theorem routeLength_found {anchor : RouteEnv}
    (real : anchor.deviceId ≠ 0xFFFF) :
    routeLength anchor.foundRoute = 1 := by
  have search : Fin.find? (fun i =>
      decide ((anchor.foundRoute i).deviceId = 0xFFFF)) = some secondHop := by
    rw [Fin.find?_eq_some_iff]
    refine ⟨rfl, fun j before => ?_⟩
    have first : j = firstHop := by
      apply Fin.ext
      have bound : j.val < 1 := before
      exact Nat.lt_one_iff.mp bound
    rw [first, RouteEnv.foundRoute, Function.update_self]
    exact decide_eq_false real
  unfold routeLength
  rw [search]
  rfl

/-- A route of one anchor is its own reversal. -/
theorem reverseRoute_found {anchor : RouteEnv}
    (real : anchor.deviceId ≠ 0xFFFF) :
    reverseRoute anchor.foundRoute = anchor.foundRoute := by
  funext i
  unfold reverseRoute
  by_cases first : i = firstHop
  · subst first
    have inside : firstHop.val < routeLength anchor.foundRoute ∧
        routeLength anchor.foundRoute ≤ maxDepth := by
      rw [routeLength_found real]
      decide
    rw [dif_pos inside]
    congr 1
    apply Fin.ext
    simp [routeLength_found real, firstHop]
  · have outside : ¬ (i.val < routeLength anchor.foundRoute ∧
        routeLength anchor.foundRoute ≤ maxDepth) := by
      rw [routeLength_found real]
      rintro ⟨below, -⟩
      exact first (Fin.ext (Nat.lt_one_iff.mp below))
    rw [dif_neg outside, RouteEnv.foundRoute, Function.update_of_ne first]

/-- An anchor with the id of the sentinel is its own reversal only if it is
the sentinel. -/
theorem reverseRoute_found_iff {anchor : RouteEnv} :
    reverseRoute anchor.foundRoute = anchor.foundRoute ↔
      (anchor.deviceId = 0xFFFF → anchor.hopNum = 0xFF) := by
  constructor
  · intro same sentinel
    have length : routeLength anchor.foundRoute = 0 := by
      have search : Fin.find? (fun i =>
          decide ((anchor.foundRoute i).deviceId = 0xFFFF)) =
            some firstHop := by
        rw [Fin.find?_eq_some_iff]
        refine ⟨?_, fun j before => absurd before (Nat.not_lt_zero j.val)⟩
        rw [RouteEnv.foundRoute, Function.update_self]
        exact decide_eq_true sentinel
      unfold routeLength
      rw [search]
      rfl
    have empty : reverseRoute anchor.foundRoute firstHop = emptyHop := by
      unfold reverseRoute
      rw [dif_neg]
      rw [length]
      exact fun inside => Nat.not_lt_zero _ inside.1
    rw [same, RouteEnv.foundRoute, Function.update_self] at empty
    exact congrArg RouteInfoEntry.hopNum empty
  · intro sentinel
    by_cases real : anchor.deviceId = 0xFFFF
    · have hop : anchor.hop = emptyHop := by
        rw [RouteEnv.hop, real, sentinel real]
        rfl
      have empty : anchor.foundRoute = fun _ => emptyHop := by
        rw [RouteEnv.foundRoute, hop]
        exact Function.update_eq_self _ _
      rw [empty]
      decide
    · exact reverseRoute_found real

/-- What a relaying anchor passes on has no route. -/
theorem infosOf_handleRouteInfo
    {anchor : RouteEnv} {info sent : RouteInfo} {srcId : UInt16}
    (member : sent ∈ infosOf (anchor.handleRouteInfo info srcId)) :
    sent.routeInfo = fun _ => {} := by
  have built : (anchor.buildRouteInfo info).routeInfo = fun _ => {} := by
    have none : Fin.find? (fun _ : Fin maxDepth =>
        decide (({} : RouteInfoEntry).deviceId = 0xFFFF ∧
          ({} : RouteInfoEntry).hopNum = 0xFF)) = none := by
      decide
    unfold RouteEnv.buildRouteInfo
    dsimp only
    rw [none]
  unfold RouteEnv.handleRouteInfo at member
  dsimp only at member
  split at member
  · cases member
  · split at member
    · cases member
    · split at member
      · cases member
      · cases member
      · cases member
      · split at member
        · simp only [infosOf, RouteEnv.sendRouteInfo, List.filterMap_cons,
            List.filterMap_nil, List.mem_singleton] at member
          subst member
          exact built
        · cases member

/-- Reversed, a table of zeros is a table of zeros. -/
theorem reverseRoute_zero :
    reverseRoute (fun _ => {}) = fun _ => {} := by
  have length : routeLength (fun _ => {}) = maxDepth := by decide
  funext i
  unfold reverseRoute
  rw [dif_pos ⟨by rw [length]; exact i.isLt, by rw [length]⟩]

end Routes

section Gateway

/-- A configuration that the gateway sends is one that waited for its route,
which is the reversed one. -/
theorem sendRoutedConfig_packet
    {s s' : ConfigPlane} {env : Env} {info : RouteInfo} {srcId : UInt16}
    {pkt : Config} (idle : s.io.out = [])
    (sent : s.sendRoutedConfig env info srcId = .ok s')
    (member : pkt ∈ configsOf s'.io.out) :
    ∃ (idx : Fin configSlotCount) (io : Io) (payload : List UInt8),
      info.dataId.toNat = idx.val ∧
        (s.slots idx).isTransfered = false ∧ (s.slots idx).configLen ≠ 0 ∧
          s.io.read (configSlotPsramAddr idx)
              (s.slots idx).configLen.toNat = (io, .ok payload) ∧
            pkt =
              { (s.slots idx).packet payload with
                hdr :=
                  { deviceType := env.deviceType.code
                    priority := statusSuccess
                    deviceId :=
                      (reverseRoute info.routeInfo firstHop).deviceId }
                dstDeviceId := info.deviceId
                dstDeviceType := info.deviceType
                dataType := info.dataType
                routeInfo := reverseRoute info.routeInfo } := by
  unfold ConfigPlane.sendRoutedConfig at sent
  dsimp only at sent
  split at sent
  · cases sent
    rw [idle] at member
    cases member
  · split at sent
    · cases sent
    · next after built same =>
      unfold ConfigPlane.buildConfigPkt at same
      dsimp only at same
      split at same
      · next inside =>
        split at same
        · -- the slot was handed over before: the packet is empty
          cases same
          split at sent
          · cases sent
            simp [ConfigPlane.put, Io.put, idle, configsOf] at member
          · next full => exact absurd rfl full
        · next waiting =>
          split at same
          · next io errno read =>
            cases same
            have out := (Io.read_out_eq read).trans idle
            split at sent
            · cases sent
              simp [ConfigPlane.put, Io.put, out, configsOf] at member
            · next full => exact absurd rfl full
          · next io payload read =>
            have out := (Io.read_out_eq read).trans idle
            simp only [Except.ok.injEq, Prod.mk.injEq] at same
            obtain ⟨rfl, rfl⟩ := same
            split at sent
            · cases sent
              simp [ConfigPlane.put, ConfigPlane.setSlot, Io.put, out,
                configsOf] at member
            · next full =>
              cases sent
              simp only [ConfigPlane.put, ConfigPlane.sendConfig,
                ConfigPlane.setSlot, Io.put, out, configsOf, List.nil_append,
                List.cons_append, List.filterMap_cons, List.filterMap_nil,
                List.mem_singleton] at member
              exact ⟨⟨info.dataId.toNat, inside⟩, io, payload, rfl,
                Bool.eq_false_iff.mpr waiting, full, read, member⟩
      · cases same

/-- So is the report that it confirms. -/
theorem sendRoutedReport_packet
    {s s' : ReportPlane} {env : Env} {info : RouteInfo} {srcId : UInt16}
    {pkt : ReportReceived} (idle : s.io.out = [])
    (sent : s.sendRoutedReport env info srcId = .ok s')
    (member : pkt ∈ receivedOf s'.io.out) :
    ∃ idx : Fin dataSlotCount,
      info.dataId.toNat = idx.val ∧
        (s.slots idx).isTransfered = false ∧ (s.slots idx).dataId ≠ 0 ∧
          pkt =
            { hdr :=
                { deviceType := env.deviceType.code
                  priority := packetPriorityHigh
                  deviceId := (reverseRoute info.routeInfo firstHop).deviceId
                  status := statusSuccess }
              genDeviceId := info.deviceId
              dataId := (s.slots idx).dataId
              routeInfo := reverseRoute info.routeInfo } := by
  unfold ReportPlane.sendRoutedReport at sent
  dsimp only at sent
  split at sent
  · cases sent
    rw [idle] at member
    cases member
  · split at sent
    · cases sent
    · next after built same =>
      unfold ReportPlane.buildReportReceivedPkt at same
      dsimp only at same
      split at same
      · next inside =>
        split at same
        · cases same
          rw [if_pos rfl] at sent
          cases sent
          simp [ReportPlane.put, Io.put, idle, receivedOf] at member
        · next waiting =>
          simp only [Except.ok.injEq, Prod.mk.injEq] at same
          obtain ⟨rfl, rfl⟩ := same
          split at sent
          · cases sent
            simp [ReportPlane.put, ReportPlane.setSlot, Io.put, idle,
              receivedOf] at member
          · next named =>
            cases sent
            simp only [ReportPlane.put, ReportPlane.sendReportReceived,
              ReportPlane.setSlot, Io.put, idle, receivedOf,
              List.nil_append, List.cons_append, List.filterMap_cons,
              List.filterMap_nil, List.mem_singleton] at member
            exact ⟨⟨info.dataId.toNat, inside⟩, rfl,
              Bool.eq_false_iff.mpr waiting, named, member⟩
      · cases same

end Gateway

namespace Download

variable {d : Download}

/-- Past the first relay, the route that arrives is a table of zeros. -/
theorem answers_relayed
    {ask : RouteEnv → RouteDiscovery} {anchor next : RouteEnv}
    {rest : List RouteEnv} {info : RouteInfo}
    (member : info ∈ answers ask (anchor :: next :: rest)) :
    info.routeInfo = fun _ => {} := by
  obtain ⟨below, -, sent⟩ := List.mem_flatMap.mp member
  exact infosOf_handleRouteInfo sent

/-- Of two anchors one has an id, so the route is no table of zeros. -/
theorem route_ne_zero
    {anchor next : RouteEnv} {rest : List RouteEnv}
    (chain : d.anchors = anchor :: next :: rest) : d.route ≠ fun _ => {} := by
  intro zero
  have first : d.route firstHop = anchor.hop := by
    unfold route
    rw [chain]
    rfl
  have second : d.route secondHop = next.hop := by
    unfold route
    rw [chain]
    rfl
  rw [zero] at first second
  have same : anchor.deviceId = next.deviceId :=
    congrArg RouteInfoEntry.deviceId (first.symm.trans second)
  have distinct := d.distinct
  rw [chain, List.map_cons, List.nodup_cons] at distinct
  exact distinct.1 (by simp [same])

/-- No packet with the reversal of a route that was relayed carries the route
of its chain. -/
theorem alone_of_route
    {ask : RouteEnv → RouteDiscovery} {info : RouteInfo}
    (answered : answers ask d.anchors = [info])
    (routed : d.route = reverseRoute info.routeInfo) :
    ∃ anchor, d.anchors = [anchor] := by
  rcases chain : d.anchors with _ | ⟨anchor, _ | ⟨next, rest⟩⟩
  · exact absurd chain d.nonempty
  · exact ⟨anchor, rfl⟩
  · have zero := @answers_relayed ask anchor next rest info
      (by rw [← chain, answered]; simp)
    rw [zero, reverseRoute_zero] at routed
    exact absurd routed (route_ne_zero chain)

section Alone

variable {anchor : RouteEnv} (alone : d.anchors = [anchor])

/-- The only anchor's answer to the discovery. -/
def answer (d : Download) (anchor : RouteEnv) (dataType : UInt8)
    (dataId : UInt16) : RouteInfo where
  hdr :=
    { deviceType := anchor.deviceType.code
      priority := packetPriorityHigh
      deviceId := anchor.parent.deviceId
      status := statusSuccess }
  deviceId := d.sensorId
  deviceType := DeviceType.sensor.code
  dataType := dataType
  dataId := dataId
  routeInfo := anchor.foundRoute

include alone

theorem alone_role : anchor.deviceType = .anchor :=
  d.anchorRole anchor (by simp [alone])

theorem alone_parent : anchor.parent.deviceId = d.gateway.deviceId := by
  have linked := d.linked
  rw [alone] at linked
  exact linked.1

theorem alone_serves :
    ∃ i, anchor.findSensor d.sensorId = some i := by
  have serves := d.serves anchor (by simp [alone])
  exact Option.isSome_iff_exists.mp serves

theorem answers_alone (dataType : UInt8) (dataId : UInt16) :
    answers (d.discovery dataType dataId) d.anchors =
      [d.answer anchor dataType dataId] := by
  obtain ⟨i, found⟩ := alone_serves alone
  have role := alone_role alone
  have accepts : anchor.accepts (d.discovery dataType dataId anchor).hdr =
      true := by
    simp [Env.accepts, discovery, alone_parent alone, knownDeviceType]
  have upstream : isUpstreamType
      (d.discovery dataType dataId anchor).hdr.deviceType = true := by
    simp [isUpstreamType, discovery, alone_parent alone]
  have sensor : ¬ ((d.discovery dataType dataId anchor).deviceType =
      DeviceType.anchor.code ∧
        (d.discovery dataType dataId anchor).deviceId = anchor.deviceId) :=
    fun both => absurd both.1 (by simp only [discovery]; decide)
  have search : anchor.findSensor
      (d.discovery dataType dataId anchor).deviceId = some i := found
  rw [alone, answers]
  unfold RouteEnv.handleRouteDiscovery
  simp only [accepts, role, upstream, sensor, search, Bool.not_true,
    Bool.false_eq_true, if_false, if_true]
  rw [if_neg (show ¬ (d.discovery dataType dataId anchor).hdr.status ≠
    statusSuccess from fun different => different rfl),
    if_pos (show (d.discovery dataType dataId anchor).deviceType =
      DeviceType.sensor.code from rfl)]
  rfl

theorem route_alone : d.route = anchor.foundRoute := by
  funext i
  unfold route RouteEnv.foundRoute
  rw [alone]
  by_cases first : i = firstHop
  · subst first
    rw [Function.update_self]
    rfl
  · have later : 0 < i.val :=
      Nat.pos_of_ne_zero fun zero => first (Fin.ext zero)
    rw [Function.update_of_ne first,
      List.getElem?_eq_none (show 1 ≤ i.val from later)]

/-- The gateway accepts the answer. -/
theorem gateway_accepts (dataType : UInt8) (dataId : UInt16) :
    d.gateway.accepts (d.answer anchor dataType dataId).hdr = true := by
  simp [Env.accepts, answer, alone_parent alone, alone_role alone,
    knownDeviceType]

omit alone in
theorem route_last : lastHop anchor.foundRoute = true := by
  simp [lastHop, RouteEnv.foundRoute, firstHop, secondHop, emptyHop]

end Alone

section Trips

/-- Some state takes a configuration exactly when it is whole. -/
theorem takes_iff {env : Env} {pkt : Config} :
    (∃ s : ConfigPlane, s.Takes env pkt) ↔
      (pkt.configLen ≠ 0 ∧ pkt.configLen.toNat ≤ maxConfigSize) ∧
        env.crc.ieee (pkt.config.bytes.take pkt.configLen.toNat) =
          pkt.configCrc32 := by
  constructor
  · rintro ⟨s, ranged, ⟨idx, -, -, intact⟩ | ⟨-, idx, -, intact⟩⟩
    all_goals exact ⟨ranged, not_not.mp fun wrong => intact (.inl wrong)⟩
  · rintro ⟨ranged, right⟩
    have empty : ConfigPlane.findConfigSlot {} pkt.dstDeviceId = none := by
      unfold ConfigPlane.findConfigSlot
      rw [Fin.find?_eq_none_iff]
      intro i
      exact decide_eq_false fun both => absurd both.1 Bool.false_ne_true
    have free : ConfigPlane.freeSlot {} = some ⟨0, by decide⟩ := by
      decide +kernel
    refine ⟨{}, ranged, .inr ⟨empty, _, free, ?_⟩⟩
    rintro (wrong | failed)
    · exact wrong right
    · have short : (pkt.config.bytes.take pkt.configLen.toNat).length ≤ 256 :=
        (List.length_take_le _ _).trans pkt.configLen.toNat_lt.le
      have start : configSlotPsramAddr ⟨0, by decide⟩ = psramConfigBase := rfl
      have base : psramConfigBase = 0x008000 := rfl
      have size : psramSize = 8 * 1024 * 1024 := rfl
      have reliable : ({} : Io).psram.Reliable := ⟨rfl, by simp⟩
      obtain ⟨after, wrote, -⟩ := Io.write_reliable reliable
        (show configSlotPsramAddr ⟨0, by decide⟩ +
          (pkt.config.bytes.take pkt.configLen.toNat).length ≤ psramSize by
          omega)
      exact failed (congrArg Prod.snd wrote)

/-- The last anchor hands a configuration that it takes to the sensor. -/
theorem sendsConfig_last
    {anchor : RouteEnv} {pkt : Config} {i : Fin maxSensors}
    (role : anchor.deviceType = .anchor)
    (accepts : anchor.accepts pkt.hdr = true)
    (upstream : isUpstreamType pkt.hdr.deviceType = true)
    (whole : ∃ s : ConfigPlane, s.Takes anchor.toEnv pkt)
    (sensor : pkt.dstDeviceType = DeviceType.sensor.code ∧
      lastHop pkt.routeInfo = true)
    (serves : anchor.findSensor pkt.dstDeviceId = some i) :
    SendsConfig anchor pkt
      { pkt with
        hdr := { pkt.hdr with
          deviceType := anchor.deviceType.code
          priority := packetPriorityHigh
          deviceId := pkt.dstDeviceId }
        routeInfo := endRoute pkt.routeInfo } := by
  refine ⟨whole, fun s srcId takes => ?_⟩
  obtain ⟨t, idx, given, quiet, -, out⟩ :=
    @ConfigPlane.handleConfig_relayed anchor.toEnv s pkt srcId role accepts
      upstream takes
  rw [out]
  unfold ConfigPlane.relayConfig
  rw [if_pos sensor, serves]
  simp [ConfigPlane.forwardConfig, ConfigPlane.sendConfig,
    ConfigPlane.setSlot, ConfigPlane.put, Io.put, quiet, configsOf, role]

theorem sendsReceived_last
    {anchor : RouteEnv} {pkt : ReportReceived} {i : Fin maxSensors}
    (role : anchor.deviceType = .anchor)
    (accepts : anchor.accepts pkt.hdr = true)
    (upstream : isUpstreamType pkt.hdr.deviceType = true)
    (last : lastHop pkt.routeInfo = true ∧
      (pkt.routeInfo firstHop).deviceId = anchor.deviceId)
    (serves : anchor.findSensor pkt.genDeviceId = some i) :
    SendsReceived anchor pkt
      { pkt with
        hdr := { pkt.hdr with
          deviceType := anchor.deviceType.code
          priority := packetPriorityHigh
          trackingId := 0
          deviceId := pkt.genDeviceId }
        routeInfo := endRoute pkt.routeInfo } := by
  intro s srcId
  have idle : s.clearOut.io.out = [] := rfl
  unfold ReportPlane.handleReportReceived
  simp only [accepts, role, upstream, Bool.not_true, Bool.false_eq_true,
    if_false, if_true]
  rw [if_pos last, serves]
  simp [ReportPlane.sendReportReceived, ReportPlane.put, Io.put, idle,
    receivedOf, role]

/-- A slot that was not handed over and can be read gives a packet. -/
theorem buildConfigPkt_pending
    {s : ConfigPlane} {info : RouteInfo} {idx : Fin configSlotCount}
    (index : info.dataId.toNat = idx.val)
    (pending : (s.slots idx).isTransfered = false)
    (readable : (s.io.read (configSlotPsramAddr idx)
      (s.slots idx).configLen.toNat).2.isOk = true) :
    ∃ io payload, s.io.read (configSlotPsramAddr idx)
        (s.slots idx).configLen.toNat = (io, .ok payload) ∧
      s.buildConfigPkt info =
        .ok
          (ConfigPlane.setSlot { s with io := io } idx
            { s.slots idx with isTransfered := true },
          { (s.slots idx).packet payload with
            dstDeviceId := info.deviceId
            dstDeviceType := info.deviceType
            dataType := info.dataType
            routeInfo := reverseRoute info.routeInfo }) := by
  have inside : info.dataId.toNat < configSlotCount := index ▸ idx.isLt
  have same : (⟨info.dataId.toNat, inside⟩ : Fin configSlotCount) = idx :=
    Fin.ext index
  unfold ConfigPlane.buildConfigPkt
  rw [dif_pos inside]
  simp only [same, pending, Bool.false_eq_true, if_false]
  split
  · next io errno read =>
    rw [read] at readable
    cases readable
  · next io payload read => exact ⟨io, payload, read, rfl⟩

/-- The gateway sends one packet, to the first anchor of its route. -/
theorem sendRoutedConfig_sent
    {s : ConfigPlane} {env : Env} {info : RouteInfo}
    {idx : Fin configSlotCount} (srcId : UInt16) (idle : s.io.out = [])
    (accepted : env.accepts info.hdr = true)
    (status : info.hdr.status = statusSuccess)
    (role : env.deviceType = .gateway)
    (sender : info.hdr.deviceType = DeviceType.anchor.code)
    (dataType : info.dataType = dataTypeConfig)
    (index : info.dataId.toNat = idx.val)
    (pending : (s.slots idx).isTransfered = false)
    (readable : (s.io.read (configSlotPsramAddr idx)
      (s.slots idx).configLen.toNat).2.isOk = true)
    (length : (s.slots idx).configLen ≠ 0) :
    ∃ s' io payload, s.io.read (configSlotPsramAddr idx)
        (s.slots idx).configLen.toNat = (io, .ok payload) ∧
      s.sendRoutedConfig env info srcId = .ok s' ∧ configsOf s'.io.out =
        [{ (s.slots idx).packet payload with
          hdr :=
            { deviceType := env.deviceType.code
              priority := statusSuccess
              deviceId :=
                (reverseRoute info.routeInfo firstHop).deviceId }
          dstDeviceId := info.deviceId
          dstDeviceType := info.deviceType
          dataType := info.dataType
          routeInfo := reverseRoute info.routeInfo }] := by
  obtain ⟨io, payload, read, built⟩ :=
    buildConfigPkt_pending index pending readable
  have out : io.out = [] := (Io.read_out_eq read).trans idle
  unfold ConfigPlane.sendRoutedConfig
  simp only [accepted, status, role, sender, dataType, built]
  rw [if_neg (by simp), 
    if_neg (show ¬ ((s.slots idx).packet payload).configLen = 0 from length)]
  refine ⟨_, io, payload, read, rfl, ?_⟩
  simp [ConfigPlane.put, ConfigPlane.sendConfig, ConfigPlane.setSlot, Io.put,
    out, configsOf, role, ConfigSlot.packet]

theorem sendRoutedReport_sent
    {s : ReportPlane} {env : Env} {info : RouteInfo}
    {idx : Fin dataSlotCount} (srcId : UInt16) (idle : s.io.out = [])
    (accepted : env.accepts info.hdr = true)
    (status : info.hdr.status = statusSuccess)
    (role : env.deviceType = .gateway)
    (sender : info.hdr.deviceType = DeviceType.anchor.code)
    (dataType : info.dataType = dataTypeReport)
    (index : info.dataId.toNat = idx.val)
    (pending : (s.slots idx).isTransfered = false)
    (named : (s.slots idx).dataId ≠ 0) :
    ∃ s', s.sendRoutedReport env info srcId = .ok s' ∧
      receivedOf s'.io.out =
        [{
          hdr :=
            { deviceType := env.deviceType.code
              priority := packetPriorityHigh
              deviceId := (reverseRoute info.routeInfo firstHop).deviceId
              status := statusSuccess }
          genDeviceId := info.deviceId
          dataId := (s.slots idx).dataId
          routeInfo := reverseRoute info.routeInfo }] := by
  have inside : info.dataId.toNat < dataSlotCount := index ▸ idx.isLt
  have same : (⟨info.dataId.toNat, inside⟩ : Fin dataSlotCount) = idx :=
    Fin.ext index
  unfold ReportPlane.sendRoutedReport ReportPlane.buildReportReceivedPkt
  simp only [accepted, status, role, sender, dataType, dif_pos inside, same,
    pending]
  rw [if_neg (by simp)]
  simp only [Bool.false_eq_true, if_false, named]
  refine ⟨_, rfl, ?_⟩
  simp [ReportPlane.put, ReportPlane.sendReportReceived, ReportPlane.setSlot,
    Io.put, idle, receivedOf, role]

/-- The index of a slot comes back from the discovery. -/
theorem slotIndex {i : Nat} (small : i < 65536) : (UInt16.ofNat i).toNat = i :=
  UInt16.toNat_ofNat_of_lt' small

/-- The packet carries what was stored. -/
theorem stored_payload
    {io io' : Io} {addr : Nat} {len : UInt8} {payload : List UInt8}
    (fits : len.toNat ≤ maxConfigSize)
    (read : io.read addr len.toNat = (io', .ok payload)) :
    (Buffer.ofData maxConfigSize payload).bytes.take len.toNat =
      slice io.psram.mem addr len.toNat := by
  have bytes := Io.read_bytes read
  have length : payload.length = len.toNat := by
    rw [bytes]
    exact slice_length _ _ _
  rw [← bytes, ← length, Buffer.take_ofData (by omega)]

variable {anchor : RouteEnv}

theorem head_found : (anchor.foundRoute firstHop).deviceId = anchor.deviceId :=
  congrArg RouteInfoEntry.deviceId
    (show anchor.foundRoute firstHop = anchor.hop from
      Function.update_self _ _ _)

theorem configTrip_of_alone
    (alone : d.anchors = [anchor])
    (sentinel : anchor.deviceId = 0xFFFF → anchor.hopNum = 0xFF)
    (pending : d.Pending anchor.crc) : d.ConfigTrip := by
  obtain ⟨i, serves⟩ := alone_serves alone
  have role := alone_role alone
  have index := slotIndex (i := d.configIdx.val)
    (Nat.lt_trans d.configIdx.isLt (by decide))
  have routed : reverseRoute (d.answer anchor dataTypeConfig
      (UInt16.ofNat d.configIdx.val)).routeInfo = anchor.foundRoute :=
    reverseRoute_found_iff.mpr sentinel
  obtain ⟨s', io, payload, read, sent, packets⟩ :=
    @sendRoutedConfig_sent d.config.clearOut d.gateway
      (d.answer anchor dataTypeConfig (UInt16.ofNat d.configIdx.val))
      d.configIdx d.top rfl (gateway_accepts alone _ _) rfl d.gatewayRole
      (congrArg DeviceType.code role) rfl index pending.config pending.readable
      pending.length
  rw [routed] at packets
  refine ⟨_, s', _, answers_alone alone _ _, sent, packets,
    (route_alone alone).symm, ?_⟩
  rw [alone]
  refine ⟨head_found, _, sendsConfig_last role ?_ ?_ (takes_iff.mpr ?_)
    ⟨rfl, route_last⟩ serves, rfl⟩
  · simp [Env.accepts, d.gatewayRole, knownDeviceType, head_found]
  · simp [isUpstreamType, d.gatewayRole]
  · refine ⟨⟨pending.length, pending.fits⟩, ?_⟩
    have whole := stored_payload pending.fits read
    exact (congrArg anchor.crc.ieee whole).trans pending.checksum

theorem reportTrip_of_alone
    (alone : d.anchors = [anchor])
    (sentinel : anchor.deviceId = 0xFFFF → anchor.hopNum = 0xFF)
    (pending : d.Pending anchor.crc) : d.ReportTrip := by
  obtain ⟨i, serves⟩ := alone_serves alone
  have role := alone_role alone
  have index := slotIndex (i := d.reportIdx.val)
    (Nat.lt_trans d.reportIdx.isLt (by decide))
  have routed : reverseRoute (d.answer anchor dataTypeReport
      (UInt16.ofNat d.reportIdx.val)).routeInfo = anchor.foundRoute :=
    reverseRoute_found_iff.mpr sentinel
  obtain ⟨s', sent, packets⟩ := @sendRoutedReport_sent d.report.clearOut
    d.gateway (d.answer anchor dataTypeReport (UInt16.ofNat d.reportIdx.val))
    d.reportIdx d.top rfl (gateway_accepts alone _ _) rfl d.gatewayRole
    (congrArg DeviceType.code role) rfl index pending.report pending.named
  rw [routed] at packets
  refine ⟨_, s', _, answers_alone alone _ _, sent, packets,
    (route_alone alone).symm, ?_⟩
  rw [alone]
  refine ⟨head_found, _, sendsReceived_last role ?_ ?_
    ⟨route_last, head_found⟩ serves, rfl⟩
  · simp [Env.accepts, d.gatewayRole, knownDeviceType, head_found]
  · simp [isUpstreamType, d.gatewayRole]

theorem alone_of_configTrip (trip : d.ConfigTrip) :
    ∃ anchor, d.anchors = [anchor] := by
  obtain ⟨info, s', pkt, answered, sent, packets, routed, -⟩ := trip
  have member : pkt ∈ configsOf s'.io.out := by
    rw [packets]
    exact List.mem_singleton_self pkt
  obtain ⟨_, _, _, -, -, -, -, rfl⟩ := sendRoutedConfig_packet rfl sent member
  exact alone_of_route answered routed.symm

theorem alone_of_reportTrip (trip : d.ReportTrip) :
    ∃ anchor, d.anchors = [anchor] := by
  obtain ⟨info, s', pkt, answered, sent, packets, routed, -⟩ := trip
  have member : pkt ∈ receivedOf s'.io.out := by
    rw [packets]
    exact List.mem_singleton_self pkt
  obtain ⟨_, -, -, -, rfl⟩ := sendRoutedReport_packet rfl sent member
  exact alone_of_route answered routed.symm

/-- Both trips need a single anchor, slots that wait and a whole
configuration. -/
theorem alone_of_trips (config : d.ConfigTrip) (report : d.ReportTrip) :
    ∃ anchor, d.anchors = [anchor] ∧
      (anchor.deviceId = 0xFFFF → anchor.hopNum = 0xFF) ∧
        d.Pending anchor.crc := by
  obtain ⟨anchor, alone⟩ := alone_of_configTrip config
  obtain ⟨info, s', pkt, answered, sent, packets, routed, visits⟩ := config
  have member : pkt ∈ configsOf s'.io.out := by
    rw [packets]
    exact List.mem_singleton_self pkt
  obtain ⟨idx, io, payload, index, waiting, length, read, rfl⟩ :=
    sendRoutedConfig_packet rfl sent member
  refine ⟨anchor, alone, ?_⟩
  rw [answers_alone alone, List.singleton_inj] at answered
  subst answered
  obtain rfl : idx = d.configIdx := Fin.ext
    (index.symm.trans (slotIndex (Nat.lt_trans d.configIdx.isLt (by decide))))
  have reversed : reverseRoute anchor.foundRoute = anchor.foundRoute :=
    routed.trans (route_alone alone)
  rw [alone] at visits
  obtain ⟨-, next, ⟨takes, -⟩, -⟩ := visits
  obtain ⟨⟨-, fits⟩, right⟩ := takes_iff.mp takes
  obtain ⟨info, t', pkt, answered, sent, packets, -⟩ := report
  replace member : pkt ∈ receivedOf t'.io.out := by
    rw [packets]
    exact List.mem_singleton_self pkt
  obtain ⟨idx, index, untouched, named, -⟩ :=
    sendRoutedReport_packet rfl sent member
  rw [answers_alone alone, List.singleton_inj] at answered
  subst answered
  obtain rfl : idx = d.reportIdx := Fin.ext
    (index.symm.trans (slotIndex (Nat.lt_trans d.reportIdx.isLt (by decide))))
  refine ⟨reverseRoute_found_iff.mp reversed, waiting, length, fits, ?_, ?_,
    untouched, named⟩
  · have result : (d.config.clearOut.io.read _ _).2 = .ok payload :=
      congrArg Prod.snd read
    exact congrArg Except.isOk result
  · have whole := stored_payload fits read
    exact (congrArg anchor.crc.ieee whole).symm.trans right

end Trips

/-- A configuration and a confirmation make the round trip exactly when a
single anchor stands between the gateway and the sensor, which is not taken for
the end of the route, and the gateway has both to send. -/
theorem roundTrip_iff (d : Download) :
    d.ConfigTrip ∧ d.ReportTrip ↔
      ∃ anchor, d.anchors = [anchor] ∧
        (anchor.deviceId = 0xFFFF → anchor.hopNum = 0xFF) ∧
          d.Pending anchor.crc := by
  constructor
  · exact fun trips => alone_of_trips trips.1 trips.2
  · rintro ⟨anchor, alone, sentinel, pending⟩
    exact ⟨configTrip_of_alone alone sentinel pending,
      reportTrip_of_alone alone sentinel pending⟩

section Samples

/-- Anchor `deviceId` below `parent`, with sensor 5. -/
def sampleAnchor (deviceId parent : UInt16) (hopNum : UInt8) : RouteEnv where
  deviceType := .anchor
  deviceId := deviceId
  crc := Checksum.crc32Ieee
  infraDevices := fun _ => { deviceId := parent }
  infraCount := 1
  sensorDevices := fun _ => 5
  sensorCount := 1
  hopNum := hopNum

/-- Gateway 1 holds a one-byte configuration and a report for sensor 5 behind
anchor 2. -/
def sampleDownload : Download where
  gateway :=
    { deviceType := .gateway, deviceId := 1, crc := Checksum.crc32Ieee }
  anchors := [sampleAnchor 2 1 1]
  sensorId := 5
  hopNum := 1
  config :=
    { slots := fun _ =>
        { active := true, configLen := 1, configCrc32 := 0x4C667A2E }
      io := { psram := { mem := fun _ => 7 } } }
  configIdx := ⟨0, by decide⟩
  report := { slots := fun _ => { active := true, dataId := 1 } }
  reportIdx := slotZero
  gatewayRole := rfl
  anchorRole := by
    intro anchor member
    rw [List.mem_singleton.mp member]
    rfl
  distinct := List.nodup_singleton _
  nonempty := List.cons_ne_nil _ _
  depth := by decide
  linked := ⟨rfl, trivial⟩
  serves := by
    intro last member
    simp only [List.getLast?_singleton, Option.mem_def,
      Option.some.injEq] at member
    subst member
    decide +kernel

/-- The same with anchor 3 between anchor 2 and the sensor. -/
def sampleDetour : Download :=
  { sampleDownload with
    anchors := [sampleAnchor 2 1 1, sampleAnchor 3 2 2]
    anchorRole := by simp [sampleAnchor]
    distinct := by simp [sampleAnchor]
    nonempty := by simp
    depth := by decide
    linked := ⟨rfl, rfl, trivial⟩
    serves := by
      intro last member
      simp only [List.getLast?_cons_cons, List.getLast?_singleton,
        Option.mem_def, Option.some.injEq] at member
      subst member
      decide +kernel }

theorem roundTrip_oneAnchor :
    sampleDownload.ConfigTrip ∧ sampleDownload.ReportTrip :=
  (roundTrip_iff sampleDownload).mpr
    ⟨sampleAnchor 2 1 1, rfl, by decide,
      ⟨rfl, by decide, by decide, by decide +kernel, by decide +kernel, rfl,
        by decide⟩⟩

/-- With two anchors the gateway receives an answer, but its route is a table
of zeros, and so is that of the configuration it would send. -/
theorem roundTrip_twoAnchors :
    (∃ info, answers (sampleDetour.discovery dataTypeConfig 0)
        sampleDetour.anchors = [info] ∧ info.routeInfo = fun _ => {}) ∧
      ¬ sampleDetour.ConfigTrip ∧ ¬ sampleDetour.ReportTrip := by
  have answered : (answers (sampleDetour.discovery dataTypeConfig 0)
      sampleDetour.anchors).length = 1 := by
    decide +kernel
  obtain ⟨info, same⟩ := List.length_eq_one_iff.mp answered
  refine ⟨⟨info, same, ?_⟩, fun trip => ?_, fun trip => ?_⟩
  · exact @answers_relayed (sampleDetour.discovery dataTypeConfig 0)
      (sampleAnchor 2 1 1) (sampleAnchor 3 2 2) [] info
      (by
        rw [show answers (sampleDetour.discovery dataTypeConfig 0)
          [sampleAnchor 2 1 1, sampleAnchor 3 2 2] = [info] from same]
        simp)
  · obtain ⟨anchor, alone⟩ := alone_of_configTrip trip
    cases alone
  · obtain ⟨anchor, alone⟩ := alone_of_reportTrip trip
    cases alone

end Samples

end Download

end DectMesh
