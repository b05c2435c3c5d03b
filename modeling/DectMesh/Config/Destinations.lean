import DectMesh.Config.Model

/-!
# Where a configuration goes

The receivers of the packets that are passed on from board to board, and of
those among them that a configuration plane puts out.
-/

namespace DectMesh

/-- The receiver of a packet that is passed on from board to board. -/
def Packet.routedTo : Packet → Option UInt16
  | .reportInit pkt => some pkt.hdr.deviceId
  | .reportReceived pkt => some pkt.hdr.deviceId
  | .largeDataInit pkt => some pkt.hdr.deviceId
  | .routeInfo pkt => some pkt.hdr.deviceId
  | .config pkt => some pkt.hdr.deviceId
  | .configReceived pkt => some pkt.hdr.deviceId
  | _ => none

def Action.routedTo : Action → Option UInt16
  | .request pkt | .announce pkt | .reply pkt => pkt.routedTo
  | .untrack _ | .line _ => none

namespace Io

variable {io io' : Io}

/-- The receivers of the packets that were put out. -/
def routed (io : Io) : List UInt16 := io.out.filterMap Action.routedTo

/-- Whatever was added goes to one of these. -/
def Adds (known : UInt16 → Prop) (io io' : Io) : Prop :=
  ∀ dst ∈ io'.routed, dst ∈ io.routed ∨ known dst

@[simp]
theorem put_routed (action : Action) :
    (io.put action).routed = io.routed ++ action.routedTo.toList := by
  cases receiver : action.routedTo <;>
    simp [routed, put, List.filterMap_append, receiver]

@[simp]
theorem txWrite_routed (text : AtLine) :
    (io.txWrite text).1.routed = io.routed := by
  unfold txWrite
  split
  · exact (put_routed _).trans (List.append_nil _)
  · rfl
  · exact (put_routed _).trans (List.append_nil _)

@[simp]
theorem sendLine_routed (text : AtLine) :
    (io.sendLine text).routed = io.routed := txWrite_routed text

variable {known : UInt16 → Prop}

theorem Adds.of_same (same : io'.routed = io.routed) : Adds known io io' :=
  fun _ sent => .inl (same ▸ sent)

theorem Adds.refl (io : Io) : Adds known io io := .of_same rfl

theorem Adds.trans {after : Io} (first : Adds known io io')
    (second : Adds known io' after) : Adds known io after := by
  intro dst sent
  rcases second dst sent with before | new
  · exact first dst before
  · exact .inr new

theorem Adds.put {action : Action}
    (allowed : ∀ dst, action.routedTo = some dst → known dst) :
    Adds known io (io.put action) := by
  intro dst sent
  rw [put_routed, List.mem_append] at sent
  rcases sent with before | new
  · exact .inl before
  · exact .inr (allowed dst (Option.mem_toList.mp new))

end Io

namespace ConfigPlane

variable {env : Env} {s s' : ConfigPlane}

/-- The event makes the board send to `infra_devices[0]`. -/
def SendsUp (env : Env) (s : ConfigPlane) : ConfigEvent → Prop
  | .config pkt _ =>
      env.deviceType = .sensor ∧ env.accepts pkt.hdr = true ∧
        isUpstreamType pkt.hdr.deviceType = true ∧
          ∃ idx, s.findConfigSlot pkt.dstDeviceId = some idx ∧
            (s.slots idx).holdsSame pkt.configCrc32 pkt.configLen.toNat =
              true ∧ (s.slots idx).isApplied = true
  | .configReceived pkt _ =>
      env.deviceType = .anchor ∧ env.accepts pkt.hdr = true ∧
        isDownstreamType pkt.hdr.deviceType = true
  | .hostAnswer _ =>
      s.pendingAck.dataType = dataTypeConfig ∧
        s.findSentSlot s.pendingAck.id ≠ none
  | _ => False

/-- The event makes the board send to this device without a look at its
tables. -/
def NextHop (env : Env) (s : ConfigPlane) (dst : UInt16) :
    ConfigEvent → Prop
  | .config pkt _ =>
      env.deviceType = .anchor ∧ env.accepts pkt.hdr = true ∧
        isUpstreamType pkt.hdr.deviceType = true ∧
          (s.validateConfig env pkt).2.1 = statusSuccess ∧
            ¬ (pkt.dstDeviceType = DeviceType.sensor.code ∧
              lastHop pkt.routeInfo = true) ∧
                dst = (shiftRoute pkt.routeInfo firstHop).deviceId
  | .routeInfo pkt _ =>
      env.deviceType = .gateway ∧ env.accepts pkt.hdr = true ∧
        pkt.hdr.status = statusSuccess ∧
          pkt.hdr.deviceType = DeviceType.anchor.code ∧
            pkt.dataType = dataTypeConfig ∧
              (∃ inside : pkt.dataId.toNat < configSlotCount,
                (s.slots ⟨pkt.dataId.toNat, inside⟩).isTransfered = false ∧
                  (s.slots ⟨pkt.dataId.toNat, inside⟩).configLen ≠ 0) ∧
                dst = (reverseRoute pkt.routeInfo firstHop).deviceId
  | .tick =>
      env.deviceType = .gateway ∧ ∃ idx, (s.slots idx).active = true ∧
        (s.slots idx).isSent = false ∧
          env.findHopNum (s.slots idx).dstDeviceId
            (s.slots idx).dstDeviceType = 0 ∧
              dst = (s.slots idx).dstDeviceId
  | _ => False

/-- The receivers that an event may have: the parent, the next hop and stored
sensors. -/
def Receives (env : Env) (s : ConfigPlane) (event : ConfigEvent)
    (dst : UInt16) : Prop :=
  s.SendsUp env event ∧ dst = env.parent.deviceId ∨
    s.NextHop env dst event ∨ env.findSensor dst ≠ none

section Quiet

variable (s : ConfigPlane)

@[simp]
theorem sendCmdConfigres_routed (deviceId : UInt16) (status : UInt8) :
    (s.sendCmdConfigres env deviceId status).io.routed = s.io.routed := by
  unfold sendCmdConfigres
  split
  · rfl
  · split
    · rfl
    · split
      · exact Io.sendLine_routed _
      · rfl

theorem storeConfig_routed (idx : Fin configSlotCount) (pkt : Config) :
    (s.storeConfig env idx pkt).1.io.routed = s.io.routed := by
  unfold storeConfig
  dsimp only
  split
  · rfl
  · split
    · next io _ wrote =>
      exact congrArg (fun outcome => outcome.1.routed) wrote.symm
    · next io wrote =>
      exact congrArg (fun outcome => outcome.1.routed) wrote.symm

theorem validateConfig_routed (pkt : Config) :
    (s.validateConfig env pkt).1.io.routed = s.io.routed := by
  have validation := validateConfig_validation env s pkt
  generalize s.validateConfig env pkt = outcome at validation ⊢
  cases validation with
  | foreign => rfl
  | known => rfl
  | full => rfl
  | @replaced _ _ idx _ _ _ stored =>
      have quiet := @storeConfig_routed env s idx pkt
      rw [stored] at quiet
      exact quiet
  | @placed base _ _ idx _ _ allocated stored =>
      have quiet := @storeConfig_routed env base idx pkt
      rw [stored] at quiet
      obtain ⟨-, rfl⟩ := allocConfigSlot_allocated allocated
      exact quiet

end Quiet

section Handlers

theorem sendConfig_adds {known : UInt16 → Prop} {pkt : Config} {dstId : UInt16}
    {priority : UInt8} (allowed : known dstId) :
    Io.Adds known s.io (s.sendConfig env pkt dstId priority).io := by
  refine Io.Adds.put fun dst sent => ?_
  cases sent
  exact allowed

theorem sendConfigReceived_adds {known : UInt16 → Prop} {pkt : ConfigReceived}
    (allowed : known env.parent.deviceId) :
    Io.Adds known s.io (s.sendConfigReceived env pkt).io := by
  refine Io.Adds.put fun dst sent => ?_
  cases sent
  exact allowed

theorem relayConfig_adds {known : UInt16 → Prop} {idx : Fin configSlotCount}
    {pkt : Config}
    (stored : ∀ dst, env.findSensor dst ≠ none → known dst)
    (hop : ¬ (pkt.dstDeviceType = DeviceType.sensor.code ∧
      lastHop pkt.routeInfo = true) →
        known (shiftRoute pkt.routeInfo firstHop).deviceId) :
    Io.Adds known s.io (s.relayConfig env idx pkt).1.io := by
  unfold relayConfig
  split
  · split
    · next found =>
      exact sendConfig_adds (stored _ (by rw [found]; simp))
    · exact .refl _
  · next other => exact sendConfig_adds (hop other)

/-- A configuration that a slot already holds changes nothing. -/
theorem validateConfig_exists {pkt : Config} {idx : Fin configSlotCount}
    (validated : s.validateConfig env pkt =
      (s', statusAlreadyExists, some idx)) :
    s' = s ∧ s.findConfigSlot pkt.dstDeviceId = some idx ∧
      (s.slots idx).holdsSame pkt.configCrc32 pkt.configLen.toNat = true := by
  have stores (t : ConfigPlane) (there : Fin configSlotCount) :
      (t.storeConfig env there pkt).2 ≠ statusAlreadyExists := by
    have crcFail : statusCrcFail ≠ statusAlreadyExists := by decide
    have failure : statusFailure ≠ statusAlreadyExists := by decide
    have success : statusSuccess ≠ statusAlreadyExists := by decide
    unfold storeConfig
    dsimp only
    split
    · exact crcFail
    · split
      · exact failure
      · exact success
  have validation := validateConfig_validation env s pkt
  rw [validated] at validation
  cases validation with
  | known found same => exact ⟨rfl, found, same⟩
  | @replaced _ _ _ _ _ _ stored =>
      exact absurd (congrArg Prod.snd stored) (stores s idx)
  | @placed base _ _ _ _ _ _ stored =>
      exact absurd (congrArg Prod.snd stored) (stores base idx)

theorem handleConfig_adds {pkt : Config} {srcId : UInt16} :
    Io.Adds (s.Receives env (.config pkt srcId)) s.io
      (s.handleConfig env pkt srcId).io := by
  have acked {t : ConfigPlane} {status : UInt8} (adds : Io.Adds
      (s.Receives env (.config pkt srcId)) s.io t.io) :
      Io.Adds (s.Receives env (.config pkt srcId)) s.io
        (t.put (configAnswer env pkt srcId status)).io :=
    adds.trans (.put fun dst sent => by cases sent)
  have validated := @validateConfig_routed env s pkt
  generalize handled : s.handleConfig env pkt srcId = s'
  cases handleConfig_taken handled with
  | ignored => exact .refl _
  | unranged => exact acked (.refl _)
  | answered _ outcome =>
      rw [outcome] at validated
      exact acked (.of_same validated)
  | relayed anchor valid outcome =>
      rw [outcome] at validated
      have stored : Io.Adds (s.Receives env (.config pkt srcId)) s.io _ :=
        .of_same validated
      refine acked (stored.trans (relayConfig_adds ?_ ?_))
      · exact fun dst known => .inr (.inr known)
      · intro other
        have accepted : (s.validateConfig env pkt).2.1 = statusSuccess := by
          rw [outcome]
        exact .inr (.inl
          ⟨anchor, valid.1, valid.2.2.2.2, accepted, other, rfl⟩)
  | @confirmed _ idx sensor valid outcome applied =>
      rw [outcome] at validated
      obtain ⟨rfl, found, same⟩ := validateConfig_exists outcome
      exact (acked (.of_same validated)).trans (sendConfigReceived_adds (.inl
        ⟨⟨sensor, valid.1, valid.2.2.2.2, idx, found, same, applied⟩, rfl⟩))

theorem handleConfigAck_routed {pkt : ConfigAck}
    (handled : s.handleConfigAck env pkt = .ok s') :
    s'.io.routed = s.io.routed := by
  have untracked : (s.put (.untrack pkt.hdr.trackingId)).io.routed =
      s.io.routed := (Io.put_routed _).trans (List.append_nil _)
  cases handleConfigAck_taken handled with
  | ignored => rfl
  | _ => exact untracked

theorem handleConfigReceived_adds {pkt : ConfigReceived} {srcId : UInt16} :
    Io.Adds (s.Receives env (.configReceived pkt srcId)) s.io
      (s.handleConfigReceived env pkt srcId).io := by
  have acked {io io' : Io} (adds : Io.Adds
      (s.Receives env (.configReceived pkt srcId)) io io')
      (ack : ConfigReceivedAck) :
      Io.Adds (s.Receives env (.configReceived pkt srcId)) io
        (io'.put (.reply (.configReceivedAck ack))) :=
    adds.trans (.put fun dst sent => by cases sent)
  generalize handled : s.handleConfigReceived env pkt srcId = s'
  cases handleConfigReceived_taken handled with
  | ignored => exact .refl _
  | told => exact acked (.of_same (sendCmdConfigres_routed _ _ _)) _
  | passed anchor accepted downstream =>
      exact acked (sendConfigReceived_adds
        (.inl ⟨⟨anchor, accepted, downstream⟩, rfl⟩)) _

theorem handleConfigReceivedAck_routed {pkt : ConfigReceivedAck} :
    (s.handleConfigReceivedAck env pkt).io.routed = s.io.routed := by
  have untracked : (s.put (.untrack pkt.hdr.trackingId)).io.routed =
      s.io.routed := (Io.put_routed _).trans (List.append_nil _)
  generalize handled : s.handleConfigReceivedAck env pkt = s'
  cases handleConfigReceivedAck_taken handled with
  | ignored => rfl
  | untracked => exact untracked
  | passed => exact (Io.put_routed _).trans ((List.append_nil _).trans untracked)

theorem buildConfigPkt_built {pkt : RouteInfo} {built : Config}
    (found : s.buildConfigPkt pkt = .ok (s', built)) :
    s'.io.routed = s.io.routed ∧
      (built.configLen ≠ 0 →
        built.routeInfo = reverseRoute pkt.routeInfo ∧
          ∃ inside : pkt.dataId.toNat < configSlotCount,
            (s.slots ⟨pkt.dataId.toNat, inside⟩).isTransfered = false ∧
              (s.slots ⟨pkt.dataId.toNat, inside⟩).configLen ≠ 0) := by
  unfold buildConfigPkt at found
  dsimp only at found
  split at found
  · next inside =>
    split at found
    · cases found
      exact ⟨rfl, fun empty => absurd rfl empty⟩
    · next waiting =>
      split at found
      · next io _ read =>
        cases found
        refine ⟨?_, fun empty => absurd rfl empty⟩
        exact congrArg (fun outcome => outcome.1.routed) read.symm
      · next io payload read =>
        cases found
        refine ⟨?_, fun full => ⟨rfl, inside, ?_, full⟩⟩
        · exact congrArg (fun outcome => outcome.1.routed) read.symm
        · exact Bool.not_eq_true _ ▸ waiting
  · cases found

theorem sendRoutedConfig_adds {pkt : RouteInfo} {srcId : UInt16}
    (sent : s.sendRoutedConfig env pkt srcId = .ok s') :
    Io.Adds (s.Receives env (.routeInfo pkt srcId)) s.io s'.io := by
  have acked {io io' : Io} (adds : Io.Adds
      (s.Receives env (.routeInfo pkt srcId)) io io') (ack : RouteInfoAck) :
      Io.Adds (s.Receives env (.routeInfo pkt srcId)) io
        (io'.put (.reply (.routeInfoAck ack))) :=
    adds.trans (.put fun dst sent => by cases sent)
  unfold sendRoutedConfig at sent
  dsimp only at sent
  split at sent
  · cases sent
    exact .refl _
  · next taken =>
    simp only [not_or, Bool.not_eq_true', Bool.not_eq_false, not_not] at taken
    obtain ⟨accepted, status, gateway, fromAnchor, config⟩ := taken
    split at sent
    · cases sent
    · next after built found =>
      obtain ⟨quiet, route⟩ := buildConfigPkt_built found
      have reached : Io.Adds (s.Receives env (.routeInfo pkt srcId)) s.io
          after.io := .of_same quiet
      split at sent
      · cases sent
        exact acked reached _
      · next full =>
        cases sent
        refine acked (reached.trans (sendConfig_adds ?_)) _
        obtain ⟨reversed, held⟩ := route full
        rw [reversed]
        exact .inr (.inl
          ⟨gateway, accepted, status, fromAnchor, config, held, rfl⟩)

theorem hostAnswer_adds {ok : Bool} :
    Io.Adds (s.Receives env (.hostAnswer ok)) s.io
      (s.hostAnswer env ok).io := by
  unfold hostAnswer
  dsimp only
  split
  · next pending =>
    unfold configSlotReleaseById
    split
    · exact .refl _
    · next idx found =>
      have sent : Io.Adds (s.Receives env (.hostAnswer ok)) s.io
          (s.sendConfigReceived env
            { hdr := { status := answerStatus ok }
              dstDeviceId := (s.slots idx).dstDeviceId
              dstDeviceType := (s.slots idx).dstDeviceType
              dataType := dataTypeConfig
              dataId := (s.slots idx).configId }).io := by
        refine sendConfigReceived_adds (.inl ⟨⟨pending, ?_⟩, rfl⟩)
        rw [found]
        simp
      dsimp only
      split
      · exact sent
      · exact sent
  · exact .refl _

end Handlers

section Ticks

/-- What the second loop of a gateway's tick may still send was pending at the
start of the tick. -/
def StillPending (s t : ConfigPlane) : Prop :=
  ∀ idx, (t.slots idx).active = true → (t.slots idx).isSent = false →
    (s.slots idx).active = true ∧ (s.slots idx).isSent = false ∧
      (t.slots idx).dstDeviceId = (s.slots idx).dstDeviceId ∧
        (t.slots idx).dstDeviceType = (s.slots idx).dstDeviceType

theorem StillPending.update {t : ConfigPlane} (pending : StillPending s t)
    (idx : Fin configSlotCount) (slot : ConfigSlot)
    (kept : slot.active = true → slot.isSent = false →
      (t.slots idx).active = true ∧ (t.slots idx).isSent = false ∧
        slot.dstDeviceId = (t.slots idx).dstDeviceId ∧
          slot.dstDeviceType = (t.slots idx).dstDeviceType) :
    StillPending s { t with slots := Function.update t.slots idx slot } := by
  intro there active unsent
  by_cases same : there = idx
  · subst same
    simp only [Function.update_self] at active unsent ⊢
    obtain ⟨active, unsent, id, type⟩ := kept active unsent
    obtain ⟨before, waiting, sameId, sameType⟩ := pending there active unsent
    exact ⟨before, waiting, id.trans sameId, type.trans sameType⟩
  · simp only [Function.update_of_ne same] at active unsent ⊢
    exact pending there active unsent

theorem StillPending.freed {t : ConfigPlane} (pending : StillPending s t)
    (idx : Fin configSlotCount) : StillPending s (t.configSlotFree idx) :=
  pending.update idx (t.slots idx).freed fun active => by cases active

theorem StillPending.sendCmdConfigres {t : ConfigPlane}
    (pending : StillPending s t) (deviceId : UInt16) (status : UInt8) :
    StillPending s (t.sendCmdConfigres env deviceId status) := by
  unfold ConfigPlane.sendCmdConfigres
  split
  · exact pending
  · next idx _ =>
    split
    · exact pending
    · split
      · exact pending.update idx { t.slots idx with isApplied := true }
          fun active unsent => ⟨active, unsent, rfl, rfl⟩
      · exact pending.freed idx

theorem StillPending.markSent {t : ConfigPlane} (pending : StillPending s t)
    (idx : Fin configSlotCount) : StillPending s (t.markSent env idx) := by
  refine pending.update idx { (t.slots idx).startTimeout env.now
    gatewayConfigTimeoutMs 0 with isSent := true } fun _ unsent => ?_
  cases unsent

theorem gatewaySendSlot_adds {t : ConfigPlane}
    (role : env.deviceType = .gateway) (pending : StillPending s t)
    {idx : Fin configSlotCount} (active : (t.slots idx).active = true)
    (unsent : (t.slots idx).isSent = false) :
    Io.Adds (s.Receives env .tick) t.io (t.gatewaySendSlot env idx).io ∧
      StillPending s (t.gatewaySendSlot env idx) := by
  unfold gatewaySendSlot
  dsimp only
  split
  · exact ⟨.of_same (sendCmdConfigres_routed _ _ _),
      (pending.sendCmdConfigres _ _).freed idx⟩
  · split
    · next near =>
      split
      · next io _ read =>
        have quiet : io.routed = t.io.routed :=
          congrArg (fun outcome => outcome.1.routed) read.symm
        exact ⟨.of_same quiet, pending⟩
      · next io payload read =>
        have quiet : io.routed = t.io.routed :=
          congrArg (fun outcome => outcome.1.routed) read.symm
        obtain ⟨before, waiting, id, type⟩ := pending idx active unsent
        rw [id, type] at near
        refine ⟨?_, StillPending.markSent (t := ({ t with io := io } :
          ConfigPlane).sendConfig env _ _ _) pending idx⟩
        have loaded : Io.Adds (s.Receives env .tick) t.io io := .of_same quiet
        exact loaded.trans (sendConfig_adds (s := { t with io := io })
          (.inr (.inl ⟨role, idx, before, waiting, near, id⟩)))
    · next far =>
      have discovered (actions : List Action)
          (quiet : ∀ action ∈ actions, action.routedTo = none)
          (u : ConfigPlane) :
          (actions.foldl put u).io.routed = u.io.routed ∧
            (actions.foldl put u).slots = u.slots := by
        induction actions generalizing u with
        | nil => exact ⟨rfl, rfl⟩
        | cons action rest ih =>
            obtain ⟨routed, slots⟩ := ih
              (fun other member => quiet other (List.mem_cons_of_mem _ member))
              (u.put action)
            have silent := quiet action List.mem_cons_self
            refine ⟨routed.trans ?_, slots⟩
            exact (Io.put_routed action).trans (by rw [silent]; simp)
      obtain ⟨routed, slots⟩ := discovered (env.routeDiscoveries
        { deviceId := (t.slots idx).dstDeviceId
          deviceType := (t.slots idx).dstDeviceType
          hopNum := env.findHopNum (t.slots idx).dstDeviceId
            (t.slots idx).dstDeviceType
          dataType := dataTypeConfig
          dataId := UInt16.ofNat idx.val }) (fun action member => by
            obtain ⟨sent, rfl⟩ := Env.mem_routeDiscoveries member
            rfl) t
      refine ⟨.of_same routed, StillPending.markSent ?_ idx⟩
      intro there
      rw [slots]
      exact pending there

theorem gatewaySendLoop_adds (role : env.deviceType = .gateway)
    (budget : Nat) (slots : List (Fin configSlotCount)) {t : ConfigPlane}
    (pending : StillPending s t) :
    Io.Adds (s.Receives env .tick) t.io
      (gatewaySendLoop env budget slots t).io := by
  refine (gatewaySendLoop_invariant env (fun u =>
    Io.Adds (s.Receives env .tick) t.io u.io ∧ StillPending s u)
      (fun u idx before active unsent => ?_) budget slots
        ⟨.refl _, pending⟩).1
  obtain ⟨first, after⟩ := gatewaySendSlot_adds role before.2 active unsent
  exact ⟨before.1.trans first, after⟩

theorem reportTimeouts_pending (slots : List (Fin configSlotCount))
    {t : ConfigPlane} (pending : StillPending s t) :
    (slots.foldl (fun t idx => t.reportTimeout env idx) t).io.routed =
        t.io.routed ∧
      StillPending s (slots.foldl (fun t idx => t.reportTimeout env idx) t) := by
  induction slots generalizing t with
  | nil => exact ⟨rfl, pending⟩
  | cons idx rest ih =>
      have first : (t.reportTimeout env idx).io.routed = t.io.routed ∧
          StillPending s (t.reportTimeout env idx) := by
        unfold reportTimeout
        dsimp only
        split
        · exact ⟨sendCmdConfigres_routed _ _ _, pending.sendCmdConfigres _ _⟩
        · exact ⟨rfl, pending⟩
      obtain ⟨routed, after⟩ := ih first.2
      exact ⟨routed.trans first.1, after⟩

theorem expireRelayed_io (idx : Fin configSlotCount) :
    (s.expireRelayed env idx).io = s.io := by
  unfold expireRelayed retrySlot
  dsimp only
  split
  · split <;> rfl
  · split
    · split <;> rfl
    · rfl

theorem expireUnconfirmed_io (idx : Fin configSlotCount) :
    (s.expireUnconfirmed env idx).io = s.io := by
  unfold expireUnconfirmed retrySlot
  dsimp only
  split
  · split
    · rfl
    · split
      · split <;> rfl
      · rfl
  · rfl

theorem foldl_routed {f : ConfigPlane → Fin configSlotCount → ConfigPlane}
    (quiet : ∀ t idx, (f t idx).io = t.io)
    (slots : List (Fin configSlotCount)) (t : ConfigPlane) :
    (slots.foldl f t).io.routed = t.io.routed := by
  induction slots generalizing t with
  | nil => rfl
  | cons idx rest ih =>
      have first : (f t idx).io.routed = t.io.routed :=
        congrArg Io.routed (quiet t idx)
      exact (ih (f t idx)).trans first

theorem anchorSendSlot_adds (idx : Fin configSlotCount)
    {event : ConfigEvent} {t : ConfigPlane} :
    Io.Adds (s.Receives env event) t.io (t.anchorSendSlot env idx).io := by
  unfold anchorSendSlot
  dsimp only
  split
  · split
    · exact .refl _
    · next found =>
      split
      · next io _ read =>
        exact .of_same (congrArg (fun outcome => outcome.1.routed) read.symm)
      · next io payload read =>
        have loaded : Io.Adds (s.Receives env event) t.io io :=
          .of_same (congrArg (fun outcome => outcome.1.routed) read.symm)
        refine loaded.trans (Io.Adds.put fun dst sent => ?_)
        cases sent
        refine .inr (.inr ?_)
        rw [found]
        simp
  · exact .refl _

theorem sensorSendLoop_routed (budget : Nat)
    (slots : List (Fin configSlotCount)) (t : ConfigPlane) :
    (sensorSendLoop env budget slots t).io.routed = t.io.routed := by
  have one (t : ConfigPlane) (idx : Fin configSlotCount) :
      (t.sensorSendSlot env idx).io.routed = t.io.routed := by
    unfold sensorSendSlot
    dsimp only
    split
    · next io _ read =>
      exact congrArg (fun outcome => outcome.1.routed) read.symm
    · next io payload read =>
      have quiet : io.routed = t.io.routed :=
        congrArg (fun outcome => outcome.1.routed) read.symm
      split
      · next after wrote =>
        have sent : after.routed = t.io.routed := by
          rw [← quiet, ← io.txWrite_routed, wrote]
        exact sent
      · next after wrote =>
        have sent : after.routed = t.io.routed := by
          rw [← quiet, ← io.txWrite_routed, wrote]
        exact sent
  apply sensorSendLoop_invariant env
    (fun u => u.io.routed = t.io.routed) _ _ _ rfl
  intro u idx before _
  exact (one u idx).trans before

theorem configTick_adds :
    Io.Adds (s.Receives env .tick) s.io (s.configTick env).io := by
  unfold configTick
  split
  · exact .refl _
  · split
    · next role =>
      have pending : StillPending s s :=
        fun idx active unsent => ⟨active, unsent, rfl, rfl⟩
      obtain ⟨routed, after⟩ :=
        @reportTimeouts_pending env s allConfigSlots s pending
      exact Io.Adds.trans (.of_same routed)
        (gatewaySendLoop_adds role _ _ after)
    · have relayed (slots : List (Fin configSlotCount)) (t : ConfigPlane) :
          Io.Adds (s.Receives env .tick) t.io
            (slots.foldl (fun t idx => t.anchorSendSlot env idx) t).io := by
        induction slots generalizing t with
        | nil => exact .refl _
        | cons idx rest ih =>
            exact (anchorSendSlot_adds idx).trans (ih _)
      exact Io.Adds.trans
        (.of_same (foldl_routed (fun t idx => t.expireRelayed_io idx) _ s))
        (relayed _ _)
    · exact .of_same ((sensorSendLoop_routed _ _ _).trans
        (foldl_routed (fun t idx => t.expireUnconfirmed_io idx) _ s))
    · exact .refl _

end Ticks

theorem cmdConfig_routed (args : List Char) :
    (s.cmdConfig env args).io.routed = s.io.routed := by
  have stored (config : SlmAtStructure) (data : List UInt8) (t : ConfigPlane)
      (idx : Fin configSlotCount) :
      (t.storePush idx config data).1.io.routed = t.io.routed := by
    unfold storePush
    dsimp only
    split
    · rfl
    · split
      · next io _ wrote =>
        exact congrArg (fun outcome => outcome.1.routed) wrote.symm
      · next io wrote =>
        exact congrArg (fun outcome => outcome.1.routed) wrote.symm
  have validated (config : SlmAtStructure) (data : List UInt8) :
      (s.validateAtConfig config data).1.io.routed = s.io.routed := by
    unfold validateAtConfig
    split
    · rfl
    · split
      · exact stored config data s _
      · split
        · rfl
        · next after idx allocated =>
          obtain ⟨-, rfl⟩ := allocConfigSlot_allocated allocated
          exact stored config data _ idx
  have command : (s.storeCommand env args).1.io.routed = s.io.routed := by
    unfold storeCommand
    split
    · rfl
    · next command _ =>
      have quiet := validated command.config command.payload
      split
      · next after _ stored =>
        rw [stored] at quiet
        exact quiet
      · next after stored =>
        rw [stored] at quiet
        exact quiet
  unfold cmdConfig
  split
  · next after refused =>
    rw [refused] at command
    exact (Io.sendLine_routed _).trans command
  · next after command_ stored =>
    rw [stored] at command
    exact (Io.sendLine_routed _).trans ((Io.sendLine_routed _).trans command)

/-- Every packet that is passed on goes to the parent, to the next hop or to a
stored sensor. -/
theorem step_receives {event : ConfigEvent}
    (stepped : s.step env event = .ok s') :
    ∀ dst ∈ s'.io.routed, s.clearOut.Receives env event dst := by
  have received (adds : Io.Adds (s.clearOut.Receives env event) s.clearOut.io
      s'.io) : ∀ dst ∈ s'.io.routed, s.clearOut.Receives env event dst := by
    intro dst sent
    rcases adds dst sent with before | new
    · cases before
    · exact new
  apply received
  cases event with
  | config pkt srcId =>
      cases stepped
      exact handleConfig_adds
  | configAck pkt => exact .of_same (handleConfigAck_routed stepped)
  | configReceived pkt srcId =>
      cases stepped
      exact handleConfigReceived_adds
  | configReceivedAck pkt =>
      cases stepped
      exact .of_same handleConfigReceivedAck_routed
  | routeInfo pkt srcId => exact sendRoutedConfig_adds stepped
  | tick =>
      cases stepped
      exact configTick_adds
  | cmdConfig args =>
      cases stepped
      exact .of_same (cmdConfig_routed args)
  | cmdConfigAck args =>
      cases stepped
      refine .of_same ?_
      split
      · unfold cmdConfigAck
        split
        · split <;> rfl
        · rfl
      · rfl
  | hostAnswer ok =>
      cases stepped
      exact hostAnswer_adds
  | otherPending pending =>
      cases stepped
      exact .refl _
  | restart =>
      cases stepped
      exact .refl _
  | elsewhere psram uart =>
      cases stepped
      exact .refl _

end ConfigPlane

end DectMesh
