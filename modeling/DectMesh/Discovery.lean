import DectMesh.Routing

/-!
# Where a discovery gets to

The gateway asks its neighbours for a device, and each anchor either answers
or asks the neighbours below it.  This module follows a discovery down a chain
of anchors when no packet is lost.
-/

namespace DectMesh

/-- The neighbours of `env` that are anchors of the mesh are stored with their
own hop number. -/
def StoresHops (anchor : UInt16 → Option RouteEnv) (env : Env) : Prop :=
  ∀ i, i.val < env.infraCount → ∀ below,
    anchor (env.infraDevices i).deviceId = some below →
      (env.infraDevices i).hopNum = below.hopNum

/-- A gateway and the anchors of its mesh, by address. -/
structure DiscoveryNet where
  gateway : Env
  anchor : UInt16 → Option RouteEnv
  gatewayRole : gateway.deviceType = .gateway
  anchorRole : ∀ {id env}, anchor id = some env → env.deviceType = .anchor
  address : ∀ {id env}, anchor id = some env → env.deviceId = id
  realId : ∀ {id env}, anchor id = some env → id ≠ 0 ∧ id ≠ 0xFFFF
  apart : anchor gateway.deviceId = none
  gatewayHops : StoresHops anchor gateway
  anchorHops : ∀ {id env}, anchor id = some env → StoresHops anchor env.toEnv

/-- The device a discovery is for. -/
structure DiscoveryTarget where
  deviceId : UInt16
  deviceType : DeviceType

/-- The packet asks for the target. -/
structure RouteDiscovery.AsksFor
    (pkt : RouteDiscovery) (target : DiscoveryTarget) : Prop where
  deviceId : pkt.deviceId = target.deviceId
  deviceType : pkt.deviceType = target.deviceType.code

/-- What the gateway has sent when it asked for the target: for a pending
configuration, or once the host has answered a report. -/
inductive Requested (gateway : Env) (target : DiscoveryTarget) :
    List Action → Prop
  | config (s : ConfigPlane) (idx : Fin configSlotCount)
      (deviceId : (s.slots idx).dstDeviceId = target.deviceId)
      (deviceType : (s.slots idx).dstDeviceType = target.deviceType.code) :
      Requested gateway target (s.clearOut.gatewaySendSlot gateway idx).io.out
  | report (s after : ReportPlane) (reportId : UInt16)
      (idx : Fin dataSlotCount)
      (sensor : target.deviceType = .sensor)
      (known : target.deviceId ≠ 0xFFFF)
      (pending : s.findSentSlot target.deviceId reportId = some idx)
      (released : s.clearOut.reportSlotReleaseById gateway target.deviceId
        reportId true = .ok after) :
      Requested gateway target after.io.out

section Sending

variable {gateway env : Env} {base pkt : RouteDiscovery}
  {target : DiscoveryTarget} {sent : List Action}

/-- `send_route_discovery`, once its destination is known. -/
def RouteDiscovery.sentTo
    (base : RouteDiscovery) (deviceType : DeviceType) (dstId : UInt16)
    (status : UInt8) : RouteDiscovery :=
  { base with
    hdr :=
      { deviceType := deviceType.code
        priority := packetPriorityHigh
        deviceId := dstId
        status := status } }

theorem RouteDiscovery.AsksFor.sentTo
    (asks : base.AsksFor target) (deviceType : DeviceType) (dstId : UInt16)
    (status : UInt8) : (base.sentTo deviceType dstId status).AsksFor target :=
  ⟨asks.deviceId, asks.deviceType⟩

theorem routeDiscovery_mem_routeDiscoveries_iff :
    .request (.routeDiscovery pkt) ∈ env.routeDiscoveries base ↔
      ∃ i, i.val < env.infraCount ∧
        pkt = base.sentTo env.deviceType (env.infraDevices i).deviceId
          statusSuccess := by
  unfold Env.routeDiscoveries
  rw [List.mem_map]
  constructor
  · rintro ⟨i, listed, same⟩
    have inside : i.val < env.infraCount := by
      simpa using (List.mem_filter.mp listed).2
    injection same with same
    injection same with same
    exact ⟨i, inside, same.symm⟩
  · rintro ⟨i, inside, rfl⟩
    exact ⟨i, List.mem_filter.mpr ⟨List.mem_finRange i, by simpa using inside⟩,
      rfl⟩

theorem ConfigPlane.foldl_put_out (actions : List Action) (s : ConfigPlane) :
    (actions.foldl ConfigPlane.put s).io.out = s.io.out ++ actions := by
  induction actions generalizing s with
  | nil => simp
  | cons action rest ih =>
      rw [List.foldl_cons, ih]
      simp [ConfigPlane.put, Io.put]

theorem ReportPlane.foldl_put_out (actions : List Action) (s : ReportPlane) :
    (actions.foldl ReportPlane.put s).io.out = s.io.out ++ actions := by
  induction actions generalizing s with
  | nil => simp
  | cons action rest ih =>
      rw [List.foldl_cons, ih]
      simp [ReportPlane.put, Io.put]

/-- `send_cmd_configres` writes at most a line. -/
theorem ConfigPlane.sendCmdConfigres_requests
    {s : ConfigPlane} {deviceId : UInt16} {status : UInt8} {packet : Packet}
    (member : .request packet ∈ (s.sendCmdConfigres env deviceId status).io.out) :
    .request packet ∈ s.io.out := by
  unfold ConfigPlane.sendCmdConfigres at member
  split at member
  · exact member
  · split at member
    · exact member
    · split at member
      · simp only [ConfigPlane.setSlot, ConfigPlane.sendLine, Io.sendLine,
          Io.txWrite] at member
        split at member <;> simpa [Io.put] using member
      · simpa [ConfigPlane.configSlotFree, ConfigPlane.setSlot] using member

/-- What is known of a discovery that the gateway sent: which packet it is, and
to whom it went. -/
theorem Requested.spec (requested : Requested gateway target sent) :
    ∃ base : RouteDiscovery, base.AsksFor target ∧
      base.hopNum =
        gateway.findHopNum target.deviceId target.deviceType.code ∧
        ∀ pkt, .request (.routeDiscovery pkt) ∈ sent ↔
          base.hopNum ≠ 0xFF ∧ base.hopNum ≠ 0 ∧
            .request (.routeDiscovery pkt) ∈
              gateway.routeDiscoveries base := by
  cases requested with
  | config s idx deviceId deviceType =>
      refine ⟨{ deviceId := (s.slots idx).dstDeviceId
                deviceType := (s.slots idx).dstDeviceType
                hopNum := gateway.findHopNum (s.slots idx).dstDeviceId
                  (s.slots idx).dstDeviceType
                dataType := dataTypeConfig
                dataId := UInt16.ofNat idx.val },
        ⟨deviceId, deviceType⟩, by rw [← deviceId, ← deviceType], fun pkt => ?_⟩
      unfold ConfigPlane.gatewaySendSlot
      have same : s.clearOut.slots idx = s.slots idx := rfl
      simp only [same]
      split
      · next missing =>
        refine iff_of_false (fun member => ?_) fun sends => sends.1 missing
        have before := @ConfigPlane.sendCmdConfigres_requests _ s.clearOut _ _ _
          (by simpa [ConfigPlane.configSlotFree, ConfigPlane.setSlot]
            using member)
        cases before
      · next found =>
        split
        · next direct =>
          refine iff_of_false (fun member => ?_) fun sends => sends.2.1 direct
          split at member
          · next reading =>
            have kept := congrArg (fun result => result.1.out) reading
            simp only [Io.read] at kept
            rw [← kept] at member
            cases member
          · next reading =>
            have kept := congrArg (fun result => result.1.out) reading
            simp only [Io.read] at kept
            simp only [ConfigPlane.markSent, ConfigPlane.setSlot,
              ConfigPlane.sendConfig, ConfigPlane.put, Io.put, ← kept]
              at member
            simp [ConfigPlane.clearOut] at member
        · next indirect =>
          have out := ConfigPlane.foldl_put_out (gateway.routeDiscoveries
            { deviceId := (s.slots idx).dstDeviceId
              deviceType := (s.slots idx).dstDeviceType
              hopNum := gateway.findHopNum (s.slots idx).dstDeviceId
                (s.slots idx).dstDeviceType
              dataType := dataTypeConfig
              dataId := UInt16.ofNat idx.val }) s.clearOut
          have empty : s.clearOut.io.out = [] := rfl
          rw [empty, List.nil_append] at out
          simp only [ConfigPlane.markSent, ConfigPlane.setSlot, out]
          exact ⟨fun member => ⟨found, indirect, member⟩, fun sends => sends.2.2⟩
  | report s after reportId idx sensor known pending released =>
      have device : (s.slots idx).genDeviceId = target.deviceId := by
        have found := Fin.eq_true_of_find?_eq_some pending
        simp only [decide_eq_true_eq] at found
        exact found.1
      refine ⟨{ deviceId := (s.slots idx).genDeviceId
                deviceType := DeviceType.sensor.code
                hopNum := gateway.findHopNum (s.slots idx).genDeviceId
                  DeviceType.sensor.code
                dataType := dataTypeReport
                dataId := UInt16.ofNat idx.val },
        ⟨device, by rw [sensor]⟩, by rw [device, sensor], fun pkt => ?_⟩
      have same : s.clearOut.findSentSlot target.deviceId reportId =
          some idx := pending
      unfold ReportPlane.reportSlotReleaseById at released
      rw [if_neg known, same] at released
      have slot : s.clearOut.slots idx = s.slots idx := rfl
      simp only [slot, if_true] at released
      split at released
      · next missing =>
        cases released
        refine iff_of_false (fun member => ?_) fun sends => sends.1 missing
        cases member
      · next found =>
        split at released
        · next direct =>
          cases released
          refine iff_of_false (fun member => ?_) fun sends => sends.2.1 direct
          simp [ReportPlane.sendReportReceived, ReportPlane.put, Io.put,
            ReportPlane.clearOut] at member
        · next indirect =>
          cases released
          unfold ReportPlane.discoverRoute
          rw [ReportPlane.foldl_put_out]
          have empty : s.clearOut.io.out = [] := rfl
          rw [empty, List.nil_append]
          exact ⟨fun member => ⟨found, indirect, member⟩, fun sends => sends.2.2⟩

end Sending

section Handling

variable {env : RouteEnv} {heard pkt : RouteDiscovery} {src : UInt16}
  {target : DiscoveryTarget}

theorem RouteEnv.routeDiscovery_mem_forwardDiscovery_iff :
    .request (.routeDiscovery pkt) ∈ env.forwardDiscovery heard src ↔
      ∃ i, (i.val < env.infraCount ∧
          (env.infraDevices i).hopNum ≤ heard.hopNum ∧
            env.hopNum < (env.infraDevices i).hopNum ∧
              (env.infraDevices i).deviceId ≠ src) ∧
        pkt = heard.sentTo env.deviceType (env.infraDevices i).deviceId
          heard.hdr.status := by
  unfold RouteEnv.forwardDiscovery
  rw [List.mem_map]
  constructor
  · rintro ⟨i, listed, same⟩
    have inside := (List.mem_filter.mp listed).2
    injection same with same
    injection same with same
    exact ⟨i, by simpa using inside, same.symm⟩
  · rintro ⟨i, inside, rfl⟩
    exact ⟨i, List.mem_filter.mpr ⟨List.mem_finRange i, by simpa using inside⟩,
      rfl⟩

/-- An anchor passes on a discovery that is not for a sensor, and only one
with status `SUCCESS`. -/
theorem RouteEnv.passed_on
    (member : .request (.routeDiscovery pkt) ∈
      env.handleRouteDiscovery heard src) :
    heard.hdr.status = statusSuccess ∧
      heard.deviceType ≠ DeviceType.sensor.code ∧
        .request (.routeDiscovery pkt) ∈ env.forwardDiscovery heard src := by
  unfold RouteEnv.handleRouteDiscovery at member
  dsimp only at member
  split at member
  · cases member
  · split at member
    · cases member
    · next success =>
      split at member
      · cases member
      · cases member
      · cases member
      · split at member
        · split at member
          · simp [RouteEnv.sendRouteInfo] at member
          · split at member
            · split at member <;> simp [RouteEnv.sendRouteInfo] at member
            · next other =>
              refine ⟨by simpa using success, other, ?_⟩
              simpa using member
        · cases member

/-- The packet passes the checks at the head of an anchor's handler. -/
structure RouteEnv.Takes (env : RouteEnv) (heard : RouteDiscovery) : Prop where
  accepted : env.accepts heard.hdr = true
  success : heard.hdr.status = statusSuccess
  role : env.deviceType = .anchor
  upstream : isUpstreamType heard.hdr.deviceType = true

/-- Asked for itself, an anchor answers. -/
theorem RouteEnv.answers_self
    (takes : env.Takes heard)
    (asks : heard.AsksFor ⟨env.deviceId, .anchor⟩) :
    env.sendRouteInfo (env.routeFound heard) ∈
      env.handleRouteDiscovery heard src := by
  unfold RouteEnv.handleRouteDiscovery
  simp [takes.accepted, takes.success, takes.role, takes.upstream,
    asks.deviceId, asks.deviceType]

/-- Asked for what is neither itself nor a sensor, it passes the discovery
on. -/
theorem RouteEnv.passes_on
    (takes : env.Takes heard)
    (other : ¬ (heard.deviceType = DeviceType.anchor.code ∧
      heard.deviceId = env.deviceId))
    (kind : heard.deviceType ≠ DeviceType.sensor.code)
    (member : .request (.routeDiscovery pkt) ∈ env.forwardDiscovery heard src) :
    .request (.routeDiscovery pkt) ∈ env.handleRouteDiscovery heard src := by
  unfold RouteEnv.handleRouteDiscovery
  simp [takes.accepted, takes.success, takes.role, takes.upstream, other, kind,
    member]

/-- The anchor is the target, or has it in its sensor table. -/
def RouteEnv.Owns (env : RouteEnv) (heard : RouteDiscovery) : Prop :=
  heard.deviceType = DeviceType.anchor.code ∧ heard.deviceId = env.deviceId ∨
    heard.deviceType = DeviceType.sensor.code ∧
      (env.findSensor heard.deviceId).isSome = true

/-- Neighbour `i` is further down than the anchor, not further than the
discovery goes, and not where it came from. -/
def RouteEnv.InWindow
    (env : RouteEnv) (heard : RouteDiscovery) (src : UInt16)
    (i : Fin maxAnchors) : Prop :=
  i.val < env.infraCount ∧ (env.infraDevices i).hopNum ≤ heard.hopNum ∧
    env.hopNum < (env.infraDevices i).hopNum ∧
      (env.infraDevices i).deviceId ≠ src

/-- The anchor passes the discovery on to all neighbours in the window. -/
def RouteEnv.Relays
    (env : RouteEnv) (heard : RouteDiscovery) (src : UInt16) : Prop :=
  ∀ i, env.InWindow heard src i →
    .request (.routeDiscovery (heard.sentTo env.deviceType
      (env.infraDevices i).deviceId heard.hdr.status)) ∈
        env.handleRouteDiscovery heard src

/-- An anchor that does not own the target relays a discovery as it should
exactly when the target is no sensor, or nobody is in the window. -/
theorem RouteEnv.relays_iff
    (takes : env.Takes heard) (foreign : ¬ env.Owns heard) :
    env.Relays heard src ↔
      heard.deviceType ≠ DeviceType.sensor.code ∨
        ∀ i, ¬ env.InWindow heard src i := by
  constructor
  · intro relays
    rw [or_iff_not_imp_right]
    intro somebody
    obtain ⟨i, window⟩ := not_forall_not.mp somebody
    exact (RouteEnv.passed_on (relays i window)).2.1
  · rintro (kind | nobody) i window
    · refine RouteEnv.passes_on takes (fun self => foreign (.inl self)) kind ?_
      exact RouteEnv.routeDiscovery_mem_forwardDiscovery_iff.mpr
        ⟨i, window, rfl⟩
    · exact absurd window (nobody i)

/-- Asked for a sensor, an anchor answers when the sensor is its own. -/
theorem RouteEnv.answers_sensor_iff
    (takes : env.Takes heard) (asks : heard.AsksFor target)
    (sensor : target.deviceType = .sensor) :
    (∃ info, .request (.routeInfo info) ∈ env.handleRouteDiscovery heard src ∧
      info.deviceId = target.deviceId ∧
        info.deviceType = target.deviceType.code) ↔
      (env.findSensor target.deviceId).isSome = true := by
  have distinct : DeviceType.sensor.code ≠ DeviceType.anchor.code := by decide
  unfold RouteEnv.handleRouteDiscovery
  simp only [takes.accepted, takes.success, takes.role, takes.upstream,
    asks.deviceId, asks.deviceType, sensor, distinct, false_and, if_false,
    if_true, Bool.not_true, Bool.false_eq_true, ne_eq, not_true_eq_false]
  cases found : env.findSensor target.deviceId with
  | none => simp
  | some i =>
      refine iff_of_true ⟨_, List.mem_cons_self, asks.deviceId, ?_⟩ rfl
      exact asks.deviceType.trans (by rw [sensor])

end Handling

namespace DiscoveryNet

variable (net : DiscoveryNet)

/-- `node` receives the discovery from `src`: the gateway sent it, or an
anchor that had received one before.  All packets are delivered. -/
inductive Heard (sent : List Action) : UInt16 → UInt16 → RouteDiscovery → Prop
  | first {pkt : RouteDiscovery}
      (member : .request (.routeDiscovery pkt) ∈ sent) :
      Heard sent pkt.hdr.deviceId net.gateway.deviceId pkt
  | passed {node src : UInt16} {env : RouteEnv} {heard pkt : RouteDiscovery}
      (before : Heard sent node src heard) (here : net.anchor node = some env)
      (member : .request (.routeDiscovery pkt) ∈
        env.handleRouteDiscovery heard src) :
      Heard sent pkt.hdr.deviceId node pkt

/-- `node` receives a discovery for the target from `src`. -/
def Asked (sent : List Action) (target : DiscoveryTarget)
    (src node : UInt16) : Prop :=
  ∃ pkt, net.Heard sent node src pkt ∧ pkt.AsksFor target

/-- `node` answers a discovery from `src` with a `ROUTE_INFO` for the
target. -/
def Answers (sent : List Action) (target : DiscoveryTarget)
    (src node : UInt16) : Prop :=
  ∃ pkt env info, net.Heard sent node src pkt ∧
    net.anchor node = some env ∧
      .request (.routeInfo info) ∈ env.handleRouteDiscovery pkt src ∧
        info.deviceId = target.deviceId ∧
          info.deviceType = target.deviceType.code

/-- The discovery goes down the chain, and the last anchor answers. -/
def GoesDown (sent : List Action) (target : DiscoveryTarget) :
    UInt16 → List UInt16 → Prop
  | _, [] => True
  | src, [last] =>
      net.Asked sent target src last ∧ net.Answers sent target src last
  | src, node :: next :: rest =>
      net.Asked sent target src node ∧ GoesDown sent target node (next :: rest)

/-- The board stores the anchor `id`. -/
def Stores (env : Env) (id : UInt16) : Prop :=
  ∃ i, i.val < env.infraCount ∧ (env.infraDevices i).deviceId = id ∧
    (env.infraDevices i).deviceType = DeviceType.anchor.code

/-- Every anchor is stored by the board above it, one hop further down. -/
def Leads : Env → Nat → List UInt16 → Prop
  | _, _, [] => True
  | env, hop, node :: rest =>
      Stores env node ∧ ∃ anchor, net.anchor node = some anchor ∧
        anchor.hopNum.toNat = hop + 1 ∧ Leads anchor.toEnv (hop + 1) rest

/-- A chain of anchors of hops 1, 2, … from the gateway to `owner`. -/
structure Chain (owner : RouteEnv) where
  ids : List UInt16
  leads : net.Leads net.gateway 0 ids
  last : ids.getLast? = some owner.deviceId
  known : net.anchor owner.deviceId = some owner
  depth : ids.length ≤ maxDepth

/-- The target is the owner itself, or a sensor that the mesh table of the
gateway has under the owner, whose hop number it has too. -/
def Recorded (owner : RouteEnv) (target : DiscoveryTarget) : Prop :=
  target = ⟨owner.deviceId, .anchor⟩ ∨
    target.deviceType = .sensor ∧ target.deviceId ≠ 0xFFFF ∧ ∃ i j,
      net.gateway.findMesh (fun entry =>
        entry.deviceId = target.deviceId ∧
          entry.deviceType = DeviceType.sensor.code) = some i ∧
        (net.gateway.meshDevices i).connectedDeviceId = owner.deviceId ∧
          net.gateway.findMesh (fun entry =>
            owner.deviceId = entry.deviceId) = some j ∧
            (net.gateway.meshDevices j).hopNum = owner.hopNum

/-- The owner is next to the gateway and has the sensor in its own table, or
is the target and stored by the gateway. -/
def Found (owner : RouteEnv) (target : DiscoveryTarget) : Prop :=
  match target.deviceType with
  | .sensor =>
      owner.hopNum = 1 ∧ (owner.findSensor target.deviceId).isSome = true
  | _ => Stores net.gateway owner.deviceId

section Descent

variable {net : DiscoveryNet} {owner : RouteEnv} {target : DiscoveryTarget}
  {sent : List Action} {base : RouteDiscovery}

/-- What every board below the gateway reads in a discovery. -/
structure Carries (base : RouteDiscovery) (target : DiscoveryTarget)
    (node : UInt16) (pkt : RouteDiscovery) : Prop where
  asks : pkt.AsksFor target
  hopNum : pkt.hopNum = base.hopNum
  success : pkt.hdr.status = statusSuccess
  dstId : pkt.hdr.deviceId = node
  known : knownDeviceType pkt.hdr.deviceType = true
  upstream : isUpstreamType pkt.hdr.deviceType = true

/-- The packets that the gateway sends are the ones of `base`. -/
structure Starts (net : DiscoveryNet) (target : DiscoveryTarget)
    (sent : List Action) (base : RouteDiscovery) : Prop where
  asks : base.AsksFor target
  hopNum : base.hopNum =
    net.gateway.findHopNum target.deviceId target.deviceType.code
  packets : ∀ pkt, .request (.routeDiscovery pkt) ∈ sent ↔
    base.hopNum ≠ 0xFF ∧ base.hopNum ≠ 0 ∧
      .request (.routeDiscovery pkt) ∈ net.gateway.routeDiscoveries base

theorem Heard.carries
    {node src : UInt16} {pkt : RouteDiscovery}
    (starts : net.Starts target sent base) (heard : net.Heard sent node src pkt) :
    Carries base target node pkt := by
  induction heard with
  | first member =>
      obtain ⟨_, _, listed⟩ := (starts.packets _).mp member
      obtain ⟨i, _, rfl⟩ := routeDiscovery_mem_routeDiscoveries_iff.mp listed
      rw [net.gatewayRole]
      have known : knownDeviceType DeviceType.gateway.code = true := by decide
      have upstream : isUpstreamType DeviceType.gateway.code = true := by decide
      exact ⟨starts.asks.sentTo .gateway _ _, rfl, rfl, rfl, known, upstream⟩
  | passed before here member ih =>
      obtain ⟨_, _, listed⟩ := RouteEnv.passed_on member
      obtain ⟨i, _, rfl⟩ :=
        RouteEnv.routeDiscovery_mem_forwardDiscovery_iff.mp listed
      rw [net.anchorRole here]
      have known : knownDeviceType DeviceType.anchor.code = true := by decide
      have upstream : isUpstreamType DeviceType.anchor.code = true := by decide
      exact ⟨ih.asks.sentTo .anchor _ _, ih.hopNum, ih.success, rfl, known,
        upstream⟩

theorem Carries.takes
    {node : UInt16} {pkt : RouteDiscovery} {env : RouteEnv}
    (carries : Carries base target node pkt)
    (here : net.anchor node = some env) : env.Takes pkt where
  accepted := by
    simp [Env.accepts, carries.dstId, net.address here, carries.known]
  success := carries.success
  role := net.anchorRole here
  upstream := carries.upstream

/-- A discovery for a sensor is heard from the gateway only. -/
theorem Heard.from_gateway
    {node src : UInt16} {pkt : RouteDiscovery}
    (starts : net.Starts target sent base) (sensor : target.deviceType = .sensor)
    (heard : net.Heard sent node src pkt) : src = net.gateway.deviceId := by
  cases heard with
  | first => rfl
  | passed before here member =>
      have asks := (before.carries starts).asks
      exact absurd (asks.deviceType.trans (by rw [sensor]))
        (RouteEnv.passed_on member).2.1

/-- The hop number of the last anchor of a chain. -/
theorem Leads.last_hop
    {env : Env} {hop : Nat} {ids : List UInt16}
    (leads : net.Leads env hop ids) (nonempty : ids ≠ [])
    (last : ids.getLast? = some owner.deviceId)
    (known : net.anchor owner.deviceId = some owner) :
    owner.hopNum.toNat = hop + ids.length := by
  induction ids generalizing env hop with
  | nil => exact absurd rfl nonempty
  | cons node rest ih =>
      obtain ⟨_, anchor, here, own, below⟩ := leads
      cases rest with
      | nil =>
          obtain rfl : node = owner.deviceId := by simpa using last
          rw [known] at here
          cases here
          simpa using own
      | cons next rest =>
          rw [List.getLast?_cons_cons] at last
          rw [ih below (List.cons_ne_nil _ _) last]
          simp only [List.length_cons]
          omega

/-- A discovery for the owner that reached the first anchor of a chain to it
reaches all of them. -/
theorem goesDown_of_asked
    (starts : net.Starts ⟨owner.deviceId, .anchor⟩ sent base)
    (known : net.anchor owner.deviceId = some owner)
    (depth : base.hopNum = owner.hopNum) :
    ∀ {env : Env} {hop : Nat} {ids : List UInt16} {src : UInt16},
      net.Leads env hop ids →
      ids.getLast? = some owner.deviceId →
      (∀ above, net.anchor src = some above → above.hopNum.toNat ≤ hop) →
      (∀ node ∈ ids.head?, net.Asked sent ⟨owner.deviceId, .anchor⟩ src node) →
      net.GoesDown sent ⟨owner.deviceId, .anchor⟩ src ids := by
  intro env hop ids
  induction ids generalizing env hop with
  | nil => exact fun _ _ _ _ => trivial
  | cons node rest ih =>
      intro src leads last above asked
      obtain ⟨pkt, heard, asks⟩ := asked node rfl
      have carries := heard.carries starts
      cases rest with
      | nil =>
          obtain rfl : node = owner.deviceId := by simpa using last
          refine ⟨⟨pkt, heard, asks⟩, pkt, owner, _, heard, known,
            RouteEnv.answers_self (carries.takes known) asks, asks.deviceId,
            asks.deviceType⟩
      | cons next rest =>
          obtain ⟨_, anchor, here, own, below⟩ := leads
          rw [List.getLast?_cons_cons] at last
          have far := Leads.last_hop below (List.cons_ne_nil _ _) last known
          obtain ⟨⟨i, inside, stored, _⟩, nextAnchor, there, nextHop, _⟩ := below
          have other : owner.deviceId ≠ anchor.deviceId := by
            intro same
            rw [net.address here] at same
            rw [same, here] at known
            cases known
            rw [List.length_cons] at far
            omega
          have hops : (anchor.infraDevices i).hopNum = nextAnchor.hopNum :=
            net.anchorHops here i inside nextAnchor (by rw [stored, there])
          have window : (anchor.infraDevices i).hopNum ≤ pkt.hopNum ∧
              anchor.hopNum < (anchor.infraDevices i).hopNum := by
            rw [hops, carries.hopNum, depth]
            rw [List.length_cons] at far
            exact ⟨UInt8.le_iff_toNat_le.mpr (by omega),
              UInt8.lt_iff_toNat_lt.mpr (by omega)⟩
          have onward : (anchor.infraDevices i).deviceId ≠ src := by
            intro back
            rw [stored] at back
            rw [back] at there
            have := above nextAnchor there
            omega
          have listed := RouteEnv.routeDiscovery_mem_forwardDiscovery_iff.mpr
            ⟨i, ⟨inside, window.1, window.2, onward⟩, rfl⟩
          have kind : pkt.deviceType ≠ DeviceType.sensor.code := by
            rw [asks.deviceType]
            exact (by decide : DeviceType.anchor.code ≠ DeviceType.sensor.code)
          have member := RouteEnv.passes_on (carries.takes here)
            (fun self => other (asks.deviceId.symm.trans self.2)) kind listed
          refine ⟨⟨pkt, heard, asks⟩, ih ⟨⟨i, inside, stored, by assumption⟩,
            nextAnchor, there, nextHop, by assumption⟩ last
              (fun self same => ?_) fun asked same => ?_⟩
          · rw [here] at same
            cases same
            omega
          · obtain rfl : next = asked := by simpa using same
            rw [← stored]
            exact ⟨_, .passed heard here member, asks.sentTo _ _ _⟩

theorem findHopNum_stored
    (known : net.anchor owner.deviceId = some owner)
    (stores : Stores net.gateway owner.deviceId) :
    net.gateway.findHopNum owner.deviceId DeviceType.anchor.code =
      owner.hopNum := by
  have real : owner.deviceId ≠ 0xFFFF := (net.realId known).2
  have distinct : DeviceType.anchor.code ≠ DeviceType.sensor.code := by decide
  obtain ⟨i, inside, id, type⟩ := stores
  unfold Env.findHopNum
  rw [if_neg real, if_neg distinct, if_pos rfl]
  cases found : net.gateway.findInfra fun entry =>
      entry.deviceId = owner.deviceId ∧
        entry.deviceType = DeviceType.anchor.code with
  | none =>
      unfold Env.findInfra at found
      have missed := Fin.find?_eq_none_iff.mp found i
      simp [inside, id, type] at missed
  | some j =>
      unfold Env.findInfra at found
      have stored := Fin.eq_true_of_find?_eq_some found
      simp only [decide_eq_true_eq] at stored
      exact net.gatewayHops j stored.1 owner (by rw [stored.2.1, known])

theorem findHopNum_not_stored
    (known : net.anchor owner.deviceId = some owner)
    (missing : ¬ Stores net.gateway owner.deviceId) :
    net.gateway.findHopNum owner.deviceId DeviceType.anchor.code = 0xFF := by
  have real : owner.deviceId ≠ 0xFFFF := (net.realId known).2
  have distinct : DeviceType.anchor.code ≠ DeviceType.sensor.code := by decide
  unfold Env.findHopNum
  rw [if_neg real, if_neg distinct, if_pos rfl]
  split
  · rfl
  · next j found =>
    unfold Env.findInfra at found
    have stored := Fin.eq_true_of_find?_eq_some found
    simp only [decide_eq_true_eq] at stored
    exact absurd ⟨j, stored.1, stored.2⟩ missing

theorem findHopNum_recorded
    (known : net.anchor owner.deviceId = some owner)
    (sensor : target.deviceType = .sensor)
    (recorded : net.Recorded owner target) :
    net.gateway.findHopNum target.deviceId target.deviceType.code =
      owner.hopNum := by
  rcases recorded with rfl | ⟨_, real, i, j, found, connected, listed, hop⟩
  · cases sensor
  · have direct : owner.deviceId ≠ net.gateway.deviceId := by
      intro same
      rw [same, net.apart] at known
      cases known
    have valid := net.realId known
    unfold Env.findHopNum
    rw [if_neg real, if_pos (by rw [sensor])]
    rw [sensor]
    simp only [found, connected, valid.1, valid.2, or_self, if_false, direct,
      listed, hop]

/-- The anchors next to the gateway receive what it sends. -/
theorem asked_by_gateway
    {node : UInt16} (starts : net.Starts target sent base)
    (routed : base.hopNum ≠ 0xFF) (indirect : base.hopNum ≠ 0)
    (stores : Stores net.gateway node) :
    net.Asked sent target net.gateway.deviceId node := by
  obtain ⟨i, inside, rfl, _⟩ := stores
  have listed := routeDiscovery_mem_routeDiscoveries_iff.mpr
    ⟨i, inside, (rfl : base.sentTo net.gateway.deviceType _ _ = _)⟩
  exact ⟨_, .first ((starts.packets _).mpr ⟨routed, indirect, listed⟩),
    starts.asks.sentTo _ _ _⟩

/-- Nothing is heard of a discovery the gateway has no hop number for. -/
theorem Heard.routed
    {node src : UInt16} {pkt : RouteDiscovery}
    (starts : net.Starts target sent base) (heard : net.Heard sent node src pkt) :
    base.hopNum ≠ 0xFF := by
  induction heard with
  | first member => exact ((starts.packets _).mp member).1
  | passed _ _ _ ih => exact ih

/-- A chain is never empty, and as long as the hop number of its owner. -/
theorem Chain.hop (chain : net.Chain owner) :
    chain.ids ≠ [] ∧ owner.hopNum.toNat = chain.ids.length := by
  have nonempty : chain.ids ≠ [] := by
    intro empty
    have last := chain.last
    rw [empty] at last
    cases last
  refine ⟨nonempty, ?_⟩
  rw [Leads.last_hop chain.leads nonempty chain.last chain.known, Nat.zero_add]

/-- The hop number of the owner is one that the gateway asks for. -/
theorem Chain.routable (chain : net.Chain owner) :
    owner.hopNum ≠ 0xFF ∧ owner.hopNum ≠ 0 := by
  obtain ⟨nonempty, hop⟩ := chain.hop
  have positive := List.length_pos_iff.mpr nonempty
  have depth := chain.depth
  have bound : maxDepth = 4 := rfl
  constructor
  · intro same
    rw [same] at hop
    have large : (0xFF : UInt8).toNat = 255 := rfl
    omega
  · intro same
    rw [same] at hop
    have zero : (0 : UInt8).toNat = 0 := rfl
    omega

theorem goesDown_sensor_iff
    (chain : net.Chain owner) (sensor : target.deviceType = .sensor)
    (recorded : net.Recorded owner target)
    (starts : net.Starts target sent base) :
    net.GoesDown sent target net.gateway.deviceId chain.ids ↔
      owner.hopNum = 1 ∧ (owner.findSensor target.deviceId).isSome = true := by
  obtain ⟨nonempty, hop⟩ := chain.hop
  have hopNum := starts.hopNum.trans
    (findHopNum_recorded chain.known sensor recorded)
  have one : (1 : UInt8).toNat = 1 := rfl
  have last := chain.last
  have leads := chain.leads
  cases ids : chain.ids with
  | nil => exact absurd ids nonempty
  | cons node rest =>
      rw [ids] at hop last leads
      cases rest with
      | nil =>
          obtain rfl : node = owner.deviceId := by simpa using last
          have next : owner.hopNum = 1 := UInt8.toNat_inj.mp (hop.trans one.symm)
          have asked := asked_by_gateway starts
            (by rw [hopNum]; exact chain.routable.1)
            (by rw [hopNum]; exact chain.routable.2) leads.1
          constructor
          · rintro ⟨_, pkt, env, info, heard, here, answer⟩
            rw [chain.known] at here
            cases here
            have carries := heard.carries starts
            exact ⟨next, (RouteEnv.answers_sensor_iff
              (carries.takes chain.known) carries.asks sensor).mp
                ⟨info, answer⟩⟩
          · rintro ⟨_, own⟩
            obtain ⟨pkt, heard, asks⟩ := asked
            obtain ⟨info, answer⟩ := (RouteEnv.answers_sensor_iff
              ((heard.carries starts).takes chain.known) asks sensor).mpr own
            exact ⟨⟨pkt, heard, asks⟩, pkt, owner, info, heard, chain.known,
              answer⟩
      | cons next rest =>
          refine iff_of_false (fun down => ?_) fun found => ?_
          · have second : net.Asked sent target node next := by
              cases rest with
              | nil => exact down.2.1
              | cons _ _ => exact down.2.1
            obtain ⟨pkt, heard, _⟩ := second
            have gateway := heard.from_gateway starts sensor
            obtain ⟨_, anchor, here, _⟩ := leads
            rw [gateway, net.apart] at here
            cases here
          · rw [found.1, List.length_cons, List.length_cons] at hop
            omega

theorem goesDown_anchor_iff
    (chain : net.Chain owner)
    (starts : net.Starts ⟨owner.deviceId, .anchor⟩ sent base) :
    net.GoesDown sent ⟨owner.deviceId, .anchor⟩ net.gateway.deviceId
        chain.ids ↔
      Stores net.gateway owner.deviceId := by
  by_cases stores : Stores net.gateway owner.deviceId
  · refine iff_of_true ?_ stores
    have hopNum := starts.hopNum.trans (findHopNum_stored chain.known stores)
    have leads := chain.leads
    refine goesDown_of_asked starts chain.known hopNum leads chain.last
      (fun above here => ?_) fun node first => ?_
    · rw [net.apart] at here
      cases here
    · cases ids : chain.ids with
      | nil =>
          rw [ids] at first
          cases first
      | cons head rest =>
          rw [ids] at first leads
          cases first
          exact asked_by_gateway starts
            (by rw [hopNum]; exact chain.routable.1)
            (by rw [hopNum]; exact chain.routable.2) leads.1
  · refine iff_of_false (fun down => ?_) stores
    have hopNum := starts.hopNum.trans
      (findHopNum_not_stored chain.known stores)
    have asked : ∃ node, net.Asked sent ⟨owner.deviceId, .anchor⟩
        net.gateway.deviceId node := by
      cases ids : chain.ids with
      | nil => exact absurd ids chain.hop.1
      | cons head rest =>
          rw [ids] at down
          cases rest with
          | nil => exact ⟨head, down.1⟩
          | cons _ _ => exact ⟨head, down.1⟩
    obtain ⟨node, pkt, heard, _⟩ := asked
    exact heard.routed starts hopNum

/-- When no packet is lost, a discovery gets down the chain of anchors to the
owner of its target, which answers, exactly when the owner is next to the
gateway and has the sensor in its table, or is the target itself and stored by
the gateway.  On the way an anchor relays it except when it is for a sensor. -/
theorem goesDown_iff
    (chain : net.Chain owner) (recorded : net.Recorded owner target)
    (requested : Requested net.gateway target sent) :
    (net.GoesDown sent target net.gateway.deviceId chain.ids ↔
      net.Found owner target) ∧
      ∀ (node src : UInt16) (env : RouteEnv) (heard : RouteDiscovery),
        net.Heard sent node src heard → net.anchor node = some env →
          ¬ env.Owns heard →
            (env.Relays heard src ↔
              target.deviceType ≠ .sensor ∨
                ∀ i, ¬ env.InWindow heard src i) := by
  obtain ⟨base, asks, hopNum, packets⟩ := requested.spec
  have starts : net.Starts target sent base := ⟨asks, hopNum, packets⟩
  constructor
  · rcases recorded with rfl | sensor
    · exact goesDown_anchor_iff chain starts
    · unfold Found
      rw [sensor.1]
      exact goesDown_sensor_iff chain sensor.1 (.inr sensor) starts
  · intro node src env packet heard here foreign
    have carries := heard.carries starts
    rw [RouteEnv.relays_iff (carries.takes here) foreign,
      carries.asks.deviceType]
    have same : target.deviceType.code = DeviceType.sensor.code ↔
        target.deviceType = .sensor := by
      cases target.deviceType <;> decide
    rw [ne_eq, same]

end Descent

end DiscoveryNet

section Samples

/-- The anchor next to the gateway, with sensor 4. -/
def nearAnchor : RouteEnv :=
  { deviceType := .anchor, deviceId := 2, crc := Checksum.crc32Ieee, hopNum := 1
    infraCount := 2
    infraDevices := fun i =>
      if i.val = 0 then
        { deviceType := DeviceType.gateway.code, deviceId := 1, hopNum := 0 }
      else
        { deviceType := DeviceType.anchor.code, deviceId := 3, hopNum := 2 }
    sensorCount := 1
    sensorDevices := fun _ => 4 }

/-- The anchor below it, with sensor 5. -/
def farAnchor : RouteEnv :=
  { deviceType := .anchor, deviceId := 3, crc := Checksum.crc32Ieee, hopNum := 2
    infraCount := 1
    infraDevices := fun _ =>
      { deviceType := DeviceType.anchor.code, deviceId := 2, hopNum := 1 }
    sensorCount := 1
    sensorDevices := fun _ => 5 }

/-- The gateway, which stores the first anchor and knows of all devices. -/
def discoveringGateway : Env :=
  { deviceType := .gateway, deviceId := 1, crc := Checksum.crc32Ieee
    infraCount := 1
    infraDevices := fun _ =>
      { deviceType := DeviceType.anchor.code, deviceId := 2, hopNum := 1 }
    meshCount := 4
    meshDevices := fun i =>
      if i.val = 0 then
        { deviceType := DeviceType.anchor.code, deviceId := 2, hopNum := 1 }
      else if i.val = 1 then
        { deviceType := DeviceType.anchor.code, deviceId := 3, hopNum := 2 }
      else if i.val = 2 then
        { deviceType := DeviceType.sensor.code, deviceId := 4
          connectedDeviceId := 2 }
      else
        { deviceType := DeviceType.sensor.code, deviceId := 5
          connectedDeviceId := 3 } }

def twoAnchors (id : UInt16) : Option RouteEnv :=
  if id = 2 then
    some nearAnchor
  else if id = 3 then
    some farAnchor
  else
    none

theorem twoAnchors_some
    {id : UInt16} {env : RouteEnv} (here : twoAnchors id = some env) :
    id = 2 ∧ env = nearAnchor ∨ id = 3 ∧ env = farAnchor := by
  unfold twoAnchors at here
  split at here
  · next same =>
    cases here
    exact .inl ⟨same, rfl⟩
  · split at here
    · next same =>
      cases here
      exact .inr ⟨same, rfl⟩
    · cases here

/-- A gateway with two anchors in a row. -/
def twoAnchorNet : DiscoveryNet where
  gateway := discoveringGateway
  anchor := twoAnchors
  gatewayRole := rfl
  anchorRole here := by
    rcases twoAnchors_some here with ⟨_, rfl⟩ | ⟨_, rfl⟩ <;> rfl
  address here := by
    rcases twoAnchors_some here with ⟨rfl, rfl⟩ | ⟨rfl, rfl⟩ <;> rfl
  realId here := by
    rcases twoAnchors_some here with ⟨rfl, _⟩ | ⟨rfl, _⟩ <;> decide
  apart := rfl
  gatewayHops i _ below here := by
    rcases twoAnchors_some here with ⟨_, rfl⟩ | ⟨wrong, _⟩
    · rfl
    · cases wrong
  anchorHops here := by
    rcases twoAnchors_some here with ⟨_, rfl⟩ | ⟨_, rfl⟩
    · intro i _ below there
      rcases Nat.eq_zero_or_pos i.val with first | later
      · rcases twoAnchors_some there with ⟨wrong, _⟩ | ⟨wrong, _⟩ <;>
          simp [nearAnchor, first] at wrong
      · rcases twoAnchors_some there with ⟨wrong, _⟩ | ⟨_, rfl⟩
        · simp [nearAnchor, later.ne'] at wrong
        · simp [nearAnchor, farAnchor, later.ne']
    · intro i _ below there
      rcases twoAnchors_some there with ⟨_, rfl⟩ | ⟨wrong, _⟩
      · rfl
      · cases wrong

/-- The chain to the first anchor. -/
def nearChain : twoAnchorNet.Chain nearAnchor where
  ids := [2]
  leads := ⟨⟨⟨0, by decide⟩, by decide, rfl, rfl⟩, nearAnchor, rfl, rfl, trivial⟩
  last := rfl
  known := rfl
  depth := by decide

/-- The chain to the second. -/
def farChain : twoAnchorNet.Chain farAnchor where
  ids := [2, 3]
  leads :=
    ⟨⟨⟨0, by decide⟩, by decide, rfl, rfl⟩, nearAnchor, rfl, rfl,
      ⟨⟨1, by decide⟩, by decide, rfl, rfl⟩, farAnchor, rfl, rfl, trivial⟩
  last := rfl
  known := rfl
  depth := by decide

/-- A configuration waits in slot 0 for sensor `deviceId`. -/
def waitingConfig (deviceId : UInt16) : ConfigPlane :=
  { slots := fun _ =>
      { active := true, dstDeviceId := deviceId
        dstDeviceType := DeviceType.sensor.code, configLen := 1 } }

/-- What the gateway sends for it. -/
def askedFor (deviceId : UInt16) : List Action :=
  ((waitingConfig deviceId).clearOut.gatewaySendSlot discoveringGateway
    ⟨0, configSlotCount_pos⟩).io.out

/-- The discovery for the first anchor's sensor is answered. -/
theorem goesDown_near :
    twoAnchorNet.GoesDown (askedFor 4) ⟨4, .sensor⟩
      discoveringGateway.deviceId nearChain.ids := by
  have recorded : twoAnchorNet.Recorded nearAnchor ⟨4, .sensor⟩ :=
    .inr ⟨rfl, by decide, ⟨2, by decide⟩, ⟨0, by decide⟩, by decide +kernel, rfl,
      by decide +kernel, rfl⟩
  have requested : Requested twoAnchorNet.gateway ⟨4, .sensor⟩ (askedFor 4) :=
    .config (waitingConfig 4) ⟨0, by decide⟩ rfl rfl
  have owned : (nearAnchor.findSensor 4).isSome = true := by decide +kernel
  exact (DiscoveryNet.goesDown_iff nearChain recorded requested).1.mpr
    ⟨rfl, owned⟩

/-- The discovery for the second anchor's sensor is not. -/
theorem goesDown_far :
    ¬ twoAnchorNet.GoesDown (askedFor 5) ⟨5, .sensor⟩
      discoveringGateway.deviceId farChain.ids := by
  have recorded : twoAnchorNet.Recorded farAnchor ⟨5, .sensor⟩ :=
    .inr ⟨rfl, by decide, ⟨3, by decide⟩, ⟨1, by decide⟩, by decide +kernel, rfl,
      by decide +kernel, rfl⟩
  have requested : Requested twoAnchorNet.gateway ⟨5, .sensor⟩ (askedFor 5) :=
    .config (waitingConfig 5) ⟨0, by decide⟩ rfl rfl
  obtain ⟨base, asks, hopNum, packets⟩ := requested.spec
  intro down
  have found := (DiscoveryNet.goesDown_sensor_iff farChain rfl recorded
    ⟨asks, hopNum, packets⟩).mp down
  exact absurd found.1 (by decide)

end Samples

end DectMesh
