import DectMesh.Config.Push
import DectMesh.Library.Tally

/-!
# The counter of active configurations

`active_config_count` against the slots: the operations that activate or free
a slot keep the two in step when they act on a slot in the state they expect.
-/

namespace DectMesh

open Tally

namespace ConfigPlane

variable {env : Env} {s s' s'' : ConfigPlane}

/-- The number of active slots. -/
def activeSlots (s : ConfigPlane) : Nat := tally ConfigSlot.active s.slots

/-- The counter is exact. -/
def Counted (s : ConfigPlane) : Prop :=
  s.activeConfigCount.toNat = s.activeSlots

/-- No slot was activated or freed, and the counter did not change. -/
structure Steady (s s' : ConfigPlane) : Prop where
  slots : ∀ idx, (s'.slots idx).active = (s.slots idx).active
  count : s'.activeConfigCount = s.activeConfigCount

section Steps

theorem activeSlots_le (s : ConfigPlane) : s.activeSlots ≤ 256 := by
  have bound := @tally_le _ _ _ ConfigSlot.active s.slots
  rw [Fintype.card_fin] at bound
  exact bound

theorem activeSlots_pos
    {idx : Fin configSlotCount} (active : (s.slots idx).active = true) :
    0 < s.activeSlots :=
  tally_pos active

namespace Steady

theorem refl (s : ConfigPlane) : Steady s s := ⟨fun _ => rfl, rfl⟩

theorem trans (first : Steady s s') (second : Steady s' s'') :
    Steady s s'' where
  slots := fun idx => (second.slots idx).trans (first.slots idx)
  count := second.count.trans first.count

theorem counted (steady : Steady s s') (counted : s.Counted) : s'.Counted := by
  unfold Counted activeSlots
  rw [steady.count, tally_congr steady.slots]
  exact counted

theorem of_slots (slots : s'.slots = s.slots)
    (count : s'.activeConfigCount = s.activeConfigCount) : Steady s s' :=
  ⟨fun _ => by rw [slots], count⟩

theorem put (s : ConfigPlane) (action : Action) : Steady s (s.put action) :=
  .of_slots rfl rfl

theorem setSlot
    {idx : Fin configSlotCount} {slot : ConfigSlot}
    (same : slot.active = (s.slots idx).active) :
    Steady s (s.setSlot idx slot) where
  slots := by
    intro other
    simp only [ConfigPlane.setSlot]
    by_cases equal : other = idx
    · rw [equal, Function.update_self, same]
    · rw [Function.update_of_ne equal]
  count := rfl

theorem sendLine (s : ConfigPlane) (text : AtLine) :
    Steady s (s.sendLine text) :=
  .of_slots rfl rfl

theorem foldl_put (actions : List Action) (s : ConfigPlane) :
    Steady s (actions.foldl ConfigPlane.put s) := by
  induction actions generalizing s with
  | nil => exact .refl s
  | cons action rest ih => exact (put s action).trans (ih _)

end Steady

/-- Freeing an active slot takes one off both numbers. -/
theorem Counted.free (counted : s.Counted) {idx : Fin configSlotCount}
    (active : (s.slots idx).active = true) :
    (s.configSlotFree idx).Counted := by
  have positive := activeSlots_pos active
  have changed := @tally_update _ _ _ ConfigSlot.active s.slots _ idx
    (s.slots idx).freed
  rw [active] at changed
  have freed : (s.slots idx).freed.active.toNat = 0 := rfl
  unfold Counted activeSlots at counted ⊢
  have nonzero : 0 < s.activeConfigCount := by
    rw [UInt16.lt_iff_toNat_lt, counted]
    exact positive
  simp only [configSlotFree, setSlot, nonzero, if_true]
  have one : (1 : UInt16).toNat = 1 := rfl
  have enough : (1 : UInt16) ≤ s.activeConfigCount := by
    rw [UInt16.le_iff_toNat_le, counted, one]
    exact positive
  rw [freed, Bool.toNat_true] at changed
  rw [UInt16.toNat_sub_of_le _ _ enough, counted, one]
  omega

/-- Freeing an inactive slot changes nothing once the counter is zero. -/
theorem Counted.freeAgain (counted : s.Counted)
    {idx : Fin configSlotCount} (none : ∀ other, (s.slots other).active = false) :
    (s.configSlotFree idx).Counted := by
  have empty : s.activeConfigCount.toNat = 0 :=
    counted.trans (tally_eq_zero.mpr none)
  have zero : ¬ 0 < s.activeConfigCount := by
    rw [UInt16.lt_iff_toNat_lt, empty]
    exact Nat.lt_irrefl 0
  refine Steady.counted ?_ counted
  simp only [configSlotFree, zero, if_false]
  exact .setSlot (none idx).symm

/-- `alloc_config_slot` counts the slot it returns; once the caller activates
it, the counter is exact again. -/
theorem Counted.alloc (counted : s.Counted) {idx : Fin configSlotCount}
    (allocated : s.allocConfigSlot = some (s', idx))
    {slot : ConfigSlot} (active : slot.active = true) :
    (s'.setSlot idx slot).Counted := by
  obtain ⟨free, rfl⟩ := allocConfigSlot_allocated allocated
  have few := activeSlots_le s
  have changed := @tally_update_of_not _ _ _ ConfigSlot.active s.slots _ idx
    slot (freeSlot_some free)
  rw [active, Bool.toNat_true] at changed
  have small : s.activeConfigCount.toNat < 65535 := by
    rw [show s.activeConfigCount.toNat = s.activeSlots from counted]
    omega
  have one : (1 : UInt16).toNat = 1 := rfl
  unfold Counted activeSlots at counted ⊢
  simp only [setSlot, small, if_true, Function.update_idem]
  rw [changed, UInt16.toNat_add, one, counted]
  rw [counted] at small
  omega

end Steps

section Handlers

theorem sendConfig_steady (pkt : Config) (dstId : UInt16) (priority : UInt8)
    (s : ConfigPlane) : Steady s (s.sendConfig env pkt dstId priority) :=
  .put s _

theorem sendConfigReceived_steady (pkt : ConfigReceived) (s : ConfigPlane) :
    Steady s (s.sendConfigReceived env pkt) :=
  .put s _

/-- `send_cmd_configres` frees the slot it finds or marks it. -/
theorem Counted.sendCmdConfigres (counted : s.Counted) (deviceId : UInt16)
    (status : UInt8) : (s.sendCmdConfigres env deviceId status).Counted := by
  unfold ConfigPlane.sendCmdConfigres
  split
  · exact counted
  · next idx found =>
    split
    · exact counted
    · split
      · refine Steady.counted ?_ counted
        exact (Steady.sendLine s _).trans (.setSlot rfl)
      · exact counted.free (findConfigSlot_some found).1

/-- The rest of `validate_config`, once the slot it fills is counted. -/
theorem storeConfig_counted {idx : Fin configSlotCount} {pkt : Config}
    (counted : (s.setSlot idx (receivedSlot (s.slots idx) pkt)).Counted) :
    (s.storeConfig env idx pkt).1.Counted := by
  have active : ((s.setSlot idx (receivedSlot (s.slots idx) pkt)).slots
      idx).active = true := by
    simp [setSlot, receivedSlot]
  unfold storeConfig
  dsimp only
  split
  · exact counted.free active
  · split
    · refine Counted.free ?_ active
      exact (Steady.of_slots rfl rfl).counted counted
    · exact (Steady.of_slots rfl rfl).counted counted

theorem Counted.validateConfig (counted : s.Counted) (pkt : Config) :
    (s.validateConfig env pkt).1.Counted := by
  have validation := validateConfig_validation env s pkt
  generalize s.validateConfig env pkt = outcome at validation ⊢
  cases validation with
  | foreign => exact counted
  | known => exact counted
  | full => exact counted
  | @replaced _ _ idx _ found _ stored =>
      have steady : Steady s (s.setSlot idx (receivedSlot (s.slots idx) pkt)) :=
        .setSlot (findConfigSlot_some found).1.symm
      have kept := @storeConfig_counted env s idx pkt
        (steady.counted counted)
      rw [stored] at kept
      exact kept
  | @placed base _ _ idx _ _ allocated stored =>
      have kept := @storeConfig_counted env base idx pkt
        (counted.alloc allocated rfl)
      rw [stored] at kept
      exact kept

theorem forwardConfig_steady
    (idx : Fin configSlotCount) (pkt : Config) (dstId : UInt16)
    (durationMs maxRetries : Nat) (s : ConfigPlane) :
    Steady s (s.forwardConfig env idx pkt dstId durationMs maxRetries) :=
  (sendConfig_steady pkt dstId packetPriorityHigh s).trans (.setSlot rfl)

theorem relayConfig_steady (idx : Fin configSlotCount) (pkt : Config)
    (s : ConfigPlane) : Steady s (s.relayConfig env idx pkt).1 := by
  unfold relayConfig
  split
  · split
    · exact forwardConfig_steady _ _ _ _ _ s
    · exact .refl s
  · exact forwardConfig_steady _ _ _ _ _ s

theorem Counted.handleConfig (counted : s.Counted) (pkt : Config)
    (srcId : UInt16) : (s.handleConfig env pkt srcId).Counted := by
  have validated := @Counted.validateConfig env s counted pkt
  generalize handled : s.handleConfig env pkt srcId = s'
  cases handleConfig_taken handled with
  | ignored => exact counted
  | unranged => exact (Steady.put s _).counted counted
  | answered _ outcome =>
      rw [outcome] at validated
      exact (Steady.put _ _).counted validated
  | relayed _ _ outcome =>
      rw [outcome] at validated
      exact ((relayConfig_steady _ _ _).trans (.put _ _)).counted validated
  | confirmed _ _ outcome =>
      rw [outcome] at validated
      exact ((Steady.put _ _).trans
        (sendConfigReceived_steady _ _)).counted validated

theorem Counted.handleConfigReceived (counted : s.Counted)
    (pkt : ConfigReceived) (srcId : UInt16) :
    (s.handleConfigReceived env pkt srcId).Counted := by
  generalize handled : s.handleConfigReceived env pkt srcId = s'
  cases handleConfigReceived_taken handled with
  | ignored => exact counted
  | told => exact (Steady.put _ _).counted (counted.sendCmdConfigres _ _)
  | passed =>
      exact ((sendConfigReceived_steady _ _).trans (.put _ _)).counted counted

theorem handleConfigReceivedAck_steady (pkt : ConfigReceivedAck)
    (s : ConfigPlane) : Steady s (s.handleConfigReceivedAck env pkt) := by
  generalize handled : s.handleConfigReceivedAck env pkt = s'
  cases handleConfigReceivedAck_taken handled with
  | ignored => exact .refl s
  | untracked => exact .put _ _
  | passed => exact (Steady.put _ _).trans (.put _ _)

theorem buildConfigPkt_count {pkt : RouteInfo} {built : Config}
    (ok : s.buildConfigPkt pkt = .ok (s', built)) :
    s'.activeConfigCount = s.activeConfigCount := by
  unfold buildConfigPkt at ok
  split at ok
  · dsimp only at ok
    split at ok
    · cases ok
      rfl
    · split at ok
      · cases ok
        rfl
      · cases ok
        rfl
  · cases ok

theorem sendRoutedConfig_steady {pkt : RouteInfo} {srcId : UInt16}
    (ok : s.sendRoutedConfig env pkt srcId = .ok s') : Steady s s' := by
  have same := sendRoutedConfig_same ok
  refine ⟨fun idx => (same.fields idx).1, ?_⟩
  unfold sendRoutedConfig at ok
  dsimp only at ok
  split at ok
  · cases ok
    rfl
  · split at ok
    · cases ok
    · next built =>
      have kept := buildConfigPkt_count built
      split at ok
      · cases ok
        exact kept
      · cases ok
        exact kept

end Handlers

theorem foldl_put_slots (actions : List Action) (s : ConfigPlane) :
    (actions.foldl put s).slots = s.slots := by
  induction actions generalizing s with
  | nil => rfl
  | cons action rest ih => exact ih (s.put action)

section Acks

/-- A `CONFIG_ACK` that a gateway accepts names the configuration its slot
holds. -/
def AckMatches (env : Env) (s : ConfigPlane) (pkt : ConfigAck) : Prop :=
  env.deviceType = .gateway → env.accepts pkt.hdr = true →
    isDownstreamType pkt.hdr.deviceType = true →
      acceptedStatus pkt.hdr.status = true →
        ∀ idx, s.findConfigSlot pkt.dstDeviceId = some idx →
          pkt.dataId = (s.slots idx).configId

theorem Counted.handleConfigAck (counted : s.Counted) {pkt : ConfigAck}
    (ackMatches : AckMatches env s pkt)
    (ok : s.handleConfigAck env pkt = .ok s') : s'.Counted := by
  have untracked := (Steady.put s (.untrack pkt.hdr.trackingId)).counted
    counted
  cases handleConfigAck_taken ok with
  | ignored => exact counted
  | untracked => exact untracked
  | disowned idx role accepted answer found other =>
      exact absurd (ackMatches role accepted answer.1 answer.2 idx found) other
  | transfered idx role =>
      refine Steady.counted ?_ untracked
      exact .setSlot rfl
  | freed idx role found => exact untracked.free (findConfigSlot_some found).1

end Acks

section Ticks

/-- During a tick no slot becomes active, pending or another device's. -/
structure Fewer (s s' : ConfigPlane) : Prop where
  active : ∀ idx, (s'.slots idx).active = true → (s.slots idx).active = true
  pending : ∀ idx, (s'.slots idx).active = true →
    (s'.slots idx).isSent = false → (s.slots idx).isSent = false
  device : ∀ idx, (s'.slots idx).dstDeviceId = (s.slots idx).dstDeviceId
  kind : ∀ idx, (s'.slots idx).dstDeviceType = (s.slots idx).dstDeviceType

namespace Fewer

theorem refl (s : ConfigPlane) : Fewer s s :=
  ⟨fun _ active => active, fun _ _ pending => pending, fun _ => rfl,
    fun _ => rfl⟩

theorem trans (first : Fewer s s') (second : Fewer s' s'') : Fewer s s'' where
  active := fun idx active => first.active idx (second.active idx active)
  pending := fun idx active pending =>
    first.pending idx (second.active idx active)
      (second.pending idx active pending)
  device := fun idx => (second.device idx).trans (first.device idx)
  kind := fun idx => (second.kind idx).trans (first.kind idx)

theorem of_slots (slots : s'.slots = s.slots) : Fewer s s' where
  active := fun idx active => slots ▸ active
  pending := fun idx _ pending => slots ▸ pending
  device := fun idx => by rw [slots]
  kind := fun idx => by rw [slots]

theorem setSlot
    {idx : Fin configSlotCount} {slot : ConfigSlot}
    (active : slot.active = true → (s.slots idx).active = true)
    (pending : slot.active = true → slot.isSent = false →
      (s.slots idx).isSent = false)
    (device : slot.dstDeviceId = (s.slots idx).dstDeviceId)
    (kind : slot.dstDeviceType = (s.slots idx).dstDeviceType) :
    Fewer s (s.setSlot idx slot) := by
  have cell (other : Fin configSlotCount) :
      (s.setSlot idx slot).slots other =
        if other = idx then slot else s.slots other := by
    simp only [ConfigPlane.setSlot, Function.update_apply]
  constructor
  · intro other held
    rw [cell] at held
    split at held
    · next same => exact same ▸ active held
    · exact held
  · intro other held waits
    rw [cell] at held waits
    split at held
    · next same =>
      rw [if_pos same] at waits
      exact same ▸ pending held waits
    · next different =>
      rw [if_neg different] at waits
      exact waits
  · intro other
    rw [cell]
    split
    · next same => exact same ▸ device
    · rfl
  · intro other
    rw [cell]
    split
    · next same => exact same ▸ kind
    · rfl

theorem free (idx : Fin configSlotCount) (s : ConfigPlane) :
    Fewer s (s.configSlotFree idx) := by
  have slots : Fewer s (s.setSlot idx (s.slots idx).freed) :=
    setSlot (fun active => by cases active) (fun active => by cases active)
      rfl rfl
  exact slots.trans (.of_slots rfl)

theorem sendCmdConfigres (deviceId : UInt16) (status : UInt8)
    (s : ConfigPlane) :
    Fewer s (s.sendCmdConfigres env deviceId status) := by
  unfold ConfigPlane.sendCmdConfigres
  split
  · exact .refl s
  · split
    · exact .refl s
    · split
      · next entry =>
        exact (Fewer.of_slots rfl : Fewer s (s.sendLine _)).trans
          (.setSlot id (fun _ => id) rfl rfl)
      · exact free _ s

end Fewer

/-- Of the pending slots of a gateway, only one that is alone may lack both a
route and a place in the mesh table. -/
def RoutesKnown (env : Env) (s : ConfigPlane) : Prop :=
  ∀ idx, (s.slots idx).active = true → (s.slots idx).isSent = false →
    env.findHopNum (s.slots idx).dstDeviceId (s.slots idx).dstDeviceType =
      0xFF →
      env.meshCount ≠ 0 →
        (env.findMesh fun entry =>
          entry.deviceId = (s.slots idx).dstDeviceId) = none →
          ∀ other, (s.slots other).active = true → other = idx

theorem RoutesKnown.fewer (known : RoutesKnown env s) (fewer : Fewer s s') :
    RoutesKnown env s' := by
  intro idx active pending noRoute listed missing other held
  rw [fewer.device idx, fewer.kind idx] at noRoute
  rw [fewer.device idx] at missing
  exact known idx (fewer.active idx active) (fewer.pending idx active pending)
    noRoute listed missing other (fewer.active other held)

theorem reportTimeout_keeps (counted : s.Counted)
    (idx : Fin configSlotCount) :
    (s.reportTimeout env idx).Counted ∧ Fewer s (s.reportTimeout env idx) := by
  unfold reportTimeout
  dsimp only
  split
  · exact ⟨counted.sendCmdConfigres _ _, .sendCmdConfigres _ _ s⟩
  · exact ⟨counted, .refl s⟩

theorem reportTimeouts_keep (list : List (Fin configSlotCount))
    (counted : s.Counted) :
    (list.foldl (fun s idx => s.reportTimeout env idx) s).Counted ∧
      Fewer s (list.foldl (fun s idx => s.reportTimeout env idx) s) := by
  induction list generalizing s with
  | nil => exact ⟨counted, .refl s⟩
  | cons idx rest ih =>
      obtain ⟨first, fewer⟩ := @reportTimeout_keeps env s counted idx
      obtain ⟨last, rest⟩ := ih first
      exact ⟨last, fewer.trans rest⟩

/-- A pending slot without a route is freed; only if its device is missing
from the mesh table as well is it freed twice. -/
theorem dropUnrouted_counted (counted : s.Counted) (known : RoutesKnown env s)
    {idx : Fin configSlotCount} (active : (s.slots idx).active = true)
    (pending : (s.slots idx).isSent = false)
    (noRoute : env.findHopNum (s.slots idx).dstDeviceId
      (s.slots idx).dstDeviceType = 0xFF) (status : UInt8) :
    ((s.sendCmdConfigres env (s.slots idx).dstDeviceId status).configSlotFree
      idx).Counted := by
  unfold ConfigPlane.sendCmdConfigres
  split
  · exact counted.free active
  · next found idx' =>
    split
    · exact counted.free active
    · next listed =>
      split
      · next entry =>
        have marked (text : AtLine) :
            Steady s ((s.sendLine text).setSlot found
              { s.slots found with isApplied := true }) := by
          exact (Steady.sendLine s _).trans (.setSlot rfl)
        refine Counted.free ((marked _).counted counted) ?_
        rw [(marked _).slots idx]
        exact active
      · next missing =>
        have alone := known idx active pending noRoute listed missing
        have held := (findConfigSlot_some idx').1
        have same := alone found held
        subst same
        refine (counted.free active).freeAgain fun other => ?_
        by_contra still
        rw [Bool.not_eq_false] at still
        have before := (Fewer.free found s).active other still
        cases alone other before
        simp [configSlotFree, setSlot, ConfigSlot.freed] at still

theorem gatewaySendSlot_keeps (counted : s.Counted)
    (known : RoutesKnown env s) {idx : Fin configSlotCount}
    (active : (s.slots idx).active = true)
    (pending : (s.slots idx).isSent = false) :
    (s.gatewaySendSlot env idx).Counted ∧
      Fewer s (s.gatewaySendSlot env idx) := by
  have marked (s : ConfigPlane) : Steady s (s.markSent env idx) :=
    .setSlot rfl
  have markedFewer (s : ConfigPlane) : Fewer s (s.markSent env idx) :=
    .setSlot id (fun _ sent => by cases sent) rfl rfl
  unfold gatewaySendSlot
  dsimp only
  split
  · next noRoute =>
    exact ⟨dropUnrouted_counted counted known active pending noRoute _,
      (Fewer.sendCmdConfigres _ _ s).trans (.free idx _)⟩
  · split
    · split
      · exact ⟨(Steady.of_slots rfl rfl).counted counted, .of_slots rfl⟩
      · next io payload read =>
        have sent : Steady s ({ s with io := io }.sendConfig env
            ((s.slots idx).packet payload) (s.slots idx).dstDeviceId
            packetPriorityHigh) := .of_slots rfl rfl
        have sentFewer : Fewer s ({ s with io := io }.sendConfig env
            ((s.slots idx).packet payload) (s.slots idx).dstDeviceId
            packetPriorityHigh) := .of_slots rfl
        exact ⟨(sent.trans (marked _)).counted counted,
          sentFewer.trans (markedFewer _)⟩
    · have discovered := fun actions => Steady.foldl_put actions s
      refine ⟨((discovered _).trans (marked _)).counted counted, ?_⟩
      refine Fewer.trans (.of_slots ?_) (markedFewer _)
      exact foldl_put_slots _ s

theorem gatewaySendLoop_keeps (list : List (Fin configSlotCount))
    (budget : Nat) (counted : s.Counted) (known : RoutesKnown env s) :
    (gatewaySendLoop env budget list s).Counted := by
  refine (gatewaySendLoop_invariant env (fun t => t.Counted ∧ RoutesKnown env t)
    (fun t idx before active unsent => ?_) budget list ⟨counted, known⟩).1
  obtain ⟨after, fewer⟩ :=
    gatewaySendSlot_keeps before.1 before.2 active unsent
  exact ⟨after, before.2.fewer fewer⟩

theorem gatewayConfigTick_counted (counted : s.Counted)
    (known : RoutesKnown env s) : (s.gatewayConfigTick env).Counted := by
  obtain ⟨reported, fewer⟩ :=
    @reportTimeouts_keep env s allConfigSlots counted
  exact gatewaySendLoop_keeps _ _ reported (known.fewer fewer)

theorem retrySlot_counted (counted : s.Counted) {idx : Fin configSlotCount}
    (active : (s.slots idx).active = true) :
    (s.retrySlot env idx).Counted := by
  have kept (slot : ConfigSlot) (same : slot.active = (s.slots idx).active) :
      (s.setSlot idx slot).Counted := (Steady.setSlot same).counted counted
  unfold retrySlot
  dsimp only
  split
  · refine (kept _ ?_).free ?_
    · rfl
    · simp [setSlot, active]
  · exact kept _ rfl

theorem expireRelayed_counted (counted : s.Counted)
    (idx : Fin configSlotCount) : (s.expireRelayed env idx).Counted := by
  unfold expireRelayed
  dsimp only
  split
  · next relayed =>
    split
    · exact counted.free relayed.1
    · exact counted
  · split
    · next sent => exact retrySlot_counted counted sent.1
    · exact counted

theorem anchorSendSlot_steady (idx : Fin configSlotCount) (s : ConfigPlane) :
    Steady s (s.anchorSendSlot env idx) := by
  unfold anchorSendSlot
  dsimp only
  split
  · split
    · exact .refl s
    · split
      · exact .of_slots rfl rfl
      · next io payload read =>
        have opened : Steady s { s with io := io } := .of_slots rfl rfl
        have marked : Steady s ({ s with io := io }.setSlot idx
            { s.slots idx with isSent := true }) := by
          exact opened.trans (.setSlot rfl)
        exact marked.trans (sendConfig_steady _ _ _ _)
  · exact .refl s

theorem expireUnconfirmed_counted (counted : s.Counted)
    (idx : Fin configSlotCount) : (s.expireUnconfirmed env idx).Counted := by
  unfold expireUnconfirmed
  dsimp only
  split
  · next sent =>
    split
    · refine Steady.counted ?_ counted
      exact .setSlot rfl
    · split
      · exact retrySlot_counted counted sent.1
      · exact counted
  · exact counted

theorem sensorSendSlot_steady (idx : Fin configSlotCount) (s : ConfigPlane) :
    Steady s (s.sensorSendSlot env idx) := by
  unfold sensorSendSlot
  dsimp only
  split
  · exact .of_slots rfl rfl
  · split
    · exact .of_slots rfl rfl
    · next io written =>
      have opened : Steady s { s with io := io } := .of_slots rfl rfl
      refine opened.trans (.setSlot ?_)
      dsimp only
      split
      · rfl
      · rfl

theorem sensorSendLoop_steady (list : List (Fin configSlotCount))
    (budget : Nat) (s : ConfigPlane) :
    Steady s (sensorSendLoop env budget list s) := by
  apply sensorSendLoop_invariant _ (Steady s) _ _ _ (.refl s)
  intro t idx before _
  exact before.trans (sensorSendSlot_steady idx t)

/-- A loop over the slots keeps the counter when each round does. -/
theorem foldl_counted {round : ConfigPlane → Fin configSlotCount → ConfigPlane}
    (keeps : ∀ s idx, s.Counted → (round s idx).Counted)
    (list : List (Fin configSlotCount)) (counted : s.Counted) :
    (list.foldl round s).Counted := by
  induction list generalizing s with
  | nil => exact counted
  | cons idx rest ih => exact ih (keeps s idx counted)

theorem Counted.configTick (counted : s.Counted)
    (known : env.deviceType = .gateway → RoutesKnown env s) :
    (s.configTick env).Counted := by
  unfold ConfigPlane.configTick
  split
  · exact counted
  · split
    · next gateway => exact gatewayConfigTick_counted counted (known gateway)
    · refine foldl_counted ?_ _ (foldl_counted ?_ _ counted)
      · intro s idx counted
        exact (anchorSendSlot_steady idx s).counted counted
      · intro s idx counted
        exact expireRelayed_counted counted idx
    · refine (sensorSendLoop_steady _ _ _).counted (foldl_counted ?_ _ counted)
      intro s idx counted
      exact expireUnconfirmed_counted counted idx
    · exact counted

end Ticks

section Host

theorem findSentSlot_some {configId : UInt16} {idx : Fin configSlotCount}
    (found : s.findSentSlot configId = some idx) :
    (s.slots idx).active = true ∧ (s.slots idx).isSent = true ∧
      (s.slots idx).configId = configId := by
  unfold findSentSlot at found
  simpa using Fin.eq_true_of_find?_eq_some found

theorem Counted.hostAnswer (counted : s.Counted) (ok : Bool) :
    (s.hostAnswer env ok).Counted := by
  have released (id : UInt16) (status : UInt8) :
      (s.configSlotReleaseById env id status).Counted := by
    unfold configSlotReleaseById
    split
    · exact counted
    · next idx found =>
      have active := (findSentSlot_some found).1
      have flagged (applied : Bool) (pkt : ConfigReceived) :
          Steady s ((s.sendConfigReceived env pkt).setSlot idx
            { s.slots idx with isApplied := applied }) := by
        exact (sendConfigReceived_steady pkt s).trans (.setSlot rfl)
      dsimp only
      split
      · exact (flagged true _).counted counted
      · refine ((flagged false _).counted counted).free ?_
        rw [(flagged false _).slots idx]
        exact active
  unfold ConfigPlane.hostAnswer
  dsimp only
  split
  · exact (Steady.of_slots rfl rfl).counted (released _ _)
  · exact (Steady.of_slots rfl rfl).counted counted

theorem cmdConfigAck_steady (args : List Char) (s : ConfigPlane) :
    Steady s (s.cmdConfigAck env args) := by
  unfold cmdConfigAck
  split
  · split
    · exact .refl s
    · exact .of_slots rfl rfl
  · exact .refl s

/-- The rest of `validate_at_config`, once the slot it fills is counted. -/
theorem storePush_counted {idx : Fin configSlotCount}
    {config : SlmAtStructure} {data : List UInt8}
    (counted : (s.setSlot idx (pendingSlot (s.slots idx))).Counted) :
    (s.storePush idx config data).1.Counted := by
  have filled : (s.setSlot idx
      (pushedSlot (pendingSlot (s.slots idx)) config)).Counted := by
    have steady : Steady (s.setSlot idx (pendingSlot (s.slots idx)))
        (s.setSlot idx (pushedSlot (pendingSlot (s.slots idx)) config)) := by
      refine ⟨fun other => ?_, rfl⟩
      by_cases same : other = idx
      · simp [setSlot, same, pushedSlot]
      · simp [setSlot, Function.update_of_ne same]
    exact steady.counted counted
  unfold storePush
  dsimp only
  split
  · exact counted
  · split
    · refine Counted.free ((Steady.of_slots rfl rfl).counted filled) ?_
      simp [setSlot, pushedSlot, pendingSlot]
    · exact (Steady.of_slots rfl rfl).counted filled

theorem Counted.cmdConfig (counted : s.Counted) (args : List Char) :
    (s.cmdConfig env args).Counted := by
  have stored : (s.storeCommand env args).1.Counted := by
    have validated (config : SlmAtStructure) (data : List UInt8) :
        (s.validateAtConfig config data).1.Counted := by
      unfold validateAtConfig
      split
      · exact counted
      · split
        · next idx found =>
          refine storePush_counted ((Steady.setSlot ?_).counted counted)
          exact (findDeviceSlot_some found).1.symm
        · split
          · exact counted
          · next s' idx allocated =>
            exact storePush_counted (counted.alloc allocated rfl)
    unfold storeCommand
    split
    · exact counted
    · next command admitted =>
      have after := validated command.config command.payload
      split
      · next outcome =>
        rw [outcome] at after
        exact after
      · next outcome =>
        rw [outcome] at after
        exact after
  unfold ConfigPlane.cmdConfig
  split
  · next outcome =>
    rw [outcome] at stored
    exact (Steady.sendLine _ _).counted stored
  · next outcome =>
    rw [outcome] at stored
    exact ((Steady.sendLine _ _).trans (.sendLine _ _)).counted stored

end Host

section Runs

/-- The steps that keep the counter exact. -/
def CountKept (env : Env) (s : ConfigPlane) : ConfigEvent → Prop
  | .configAck pkt => AckMatches env s pkt
  | .tick => env.deviceType = .gateway → RoutesKnown env s
  | .restart => ∀ idx, (s.slots idx).active = false
  | _ => True

theorem Counted.step (counted : s.Counted) {event : ConfigEvent}
    (kept : CountKept env s event)
    (stepped : s.step env event = .ok s') : s'.Counted := by
  have cleared : s.clearOut.Counted :=
    (Steady.of_slots rfl rfl).counted counted
  cases event with
  | config pkt srcId =>
      cases stepped
      exact cleared.handleConfig pkt srcId
  | configAck pkt =>
      refine cleared.handleConfigAck ?_ stepped
      intro gateway accepted downstream status idx found
      refine kept gateway accepted downstream status idx ?_
      rw [← found]
      unfold findConfigSlot
      rfl
  | configReceived pkt srcId =>
      cases stepped
      exact cleared.handleConfigReceived pkt srcId
  | configReceivedAck pkt =>
      cases stepped
      exact (handleConfigReceivedAck_steady pkt _).counted cleared
  | routeInfo pkt srcId =>
      exact (sendRoutedConfig_steady stepped).counted cleared
  | tick =>
      cases stepped
      exact cleared.configTick kept
  | cmdConfig args =>
      cases stepped
      exact cleared.cmdConfig args
  | cmdConfigAck args =>
      cases stepped
      split
      · exact (cmdConfigAck_steady args _).counted cleared
      · exact cleared
  | hostAnswer ok =>
      cases stepped
      exact cleared.hostAnswer ok
  | otherPending pending =>
      cases stepped
      exact (Steady.of_slots rfl rfl).counted cleared
  | restart =>
      cases stepped
      have none : ∀ idx, (s.slots idx).active = false := kept
      have steady : Steady s s.clearOut.configInit :=
        ⟨fun idx => (none idx).symm, rfl⟩
      exact steady.counted counted
  | elsewhere psram uart =>
      cases stepped
      exact (Steady.of_slots rfl rfl).counted cleared

/-- One event with the surroundings it happens in. -/
def counterStep (s : ConfigPlane) (occurrence : Env × ConfigEvent) :
    Except Fault ConfigPlane :=
  s.step occurrence.1 occurrence.2

/-- The tick of the role, without the early return of `config_tick`. -/
def roleTick (s : ConfigPlane) (env : Env) : ConfigPlane :=
  match env.deviceType with
  | .gateway => s.gatewayConfigTick env
  | .anchor => s.anchorConfigTick env
  | .sensor => s.sensorConfigTick env
  | .unknown => s

/-- In every run of a board of any role whose steps keep it, the counter is
the number of active slots, and no tick is skipped while one is active. -/
theorem configCounter_exact {io : Io}
    (reach : Trace.Reach counterStep
      (fun s occurrence => CountKept occurrence.1 s occurrence.2)
      { io := io } s) :
    s.activeConfigCount.toNat = s.activeSlots ∧
      ∀ idx, (s.slots idx).active = true →
        ∀ env, s.configTick env = s.roleTick env := by
  have counted : s.Counted := by
    apply reach.invariant
    · exact (tally_eq_zero.mpr fun _ => rfl).symm
    · intro before occurrence after counted kept stepped
      exact counted.step kept stepped
  refine ⟨counted, fun idx active env => ?_⟩
  have positive := activeSlots_pos active
  have nonzero : s.activeConfigCount ≠ 0 := by
    intro zero
    rw [Counted, zero] at counted
    rw [← counted] at positive
    exact Nat.lt_irrefl 0 positive
  rw [configTick, if_neg nonzero]
  rfl

theorem configCounter_exact_push :
    Trace.Ends counterStep {} [(pushGateway, firstPush)] fun s =>
      s.activeConfigCount.toNat = s.activeSlots := by
  obtain ⟨s, executed, -⟩ :
      Trace.Ends counterStep {} [(pushGateway, firstPush)] fun s =>
        s.activeConfigCount = 1 := by
    decide +kernel
  have admitted : ∀ occurrence ∈ [(pushGateway, firstPush)], ∀ before,
      CountKept occurrence.1 before occurrence.2 := by
    intro occurrence member before
    cases List.mem_singleton.mp member
    trivial
  exact ⟨s, executed, (configCounter_exact (.of_run admitted executed)).1⟩

/-- After a late answer to an earlier push no slot is active, but one is
counted. -/
theorem configCounter_drifts :
    Trace.Ends counterStep {}
      [(pushGateway, firstPush), (pushGateway, .tick),
        (pushGateway, secondPush), (pushGateway, firstAck)]
      fun s => s.activeConfigCount = 1 ∧
        ∀ idx, (s.slots idx).active = false := by
  decide +kernel

end Runs

end ConfigPlane

end DectMesh
