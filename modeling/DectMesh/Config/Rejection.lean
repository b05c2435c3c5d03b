import DectMesh.Config.Acceptance
import DectMesh.Config.Destinations

/-!
# Rejected configurations

What a `CONFIG` that an anchor or a sensor turns away leaves behind.
`validate_config` fills its slot before it looks at the checksum, and an
anchor looks for the sensor after the slot was filled.
-/

namespace DectMesh

namespace ConfigPlane

variable {env : Env} {board : Board} {s s' s'' : ConfigPlane}

/-- The packet is answered, and not with `SUCCESS` or `ALREADY_EXISTS`. -/
def Rejects (env : Env) (s : ConfigPlane) (pkt : Config) (srcId : UInt16) :
    Prop :=
  ∃ ack : ConfigAck,
    .reply (.configAck ack) ∈ (s.clearOut.handleConfig env pkt srcId).io.out ∧
      acceptedStatus ack.hdr.status = false

/-- The configuration is sent on, or a sensor hands it to its host. -/
def Delivers (board : Board) (entry : ConfigEntry) : Action → Prop
  | .request (.config pkt) => pkt.entry = entry
  | .line (.config _ id len crc32 payload) =>
      board.deviceId = entry.dstDeviceId ∧ id = entry.configId ∧
        len = entry.configLen ∧ crc32 = entry.configCrc32 ∧
          payload = entry.bytes
  | _ => False

/-- The events of an anchor or a sensor whose other modules stay out of the
configuration region. -/
def OnSelf (board : Board) (s : ConfigPlane)
    (occurrence : Env × ConfigEvent) : Prop :=
  occurrence.1.toBoard = board ∧ s.Elsewhere occurrence.2

/-- Such an event that does not bring the configuration once more. -/
def Later (board : Board) (entry : ConfigEntry) (s : ConfigPlane)
    (occurrence : Env × ConfigEvent) : Prop :=
  OnSelf board s occurrence ∧
    ∀ pkt srcId, occurrence.2 = .config pkt srcId → pkt.entry ≠ entry

/-- Nothing in the state tells that the packet arrived, and nothing of it
leaves the board later. -/
structure LeavesNoTrace
    (board : Board) (s s' : ConfigPlane) (pkt : Config) : Prop where
  slots : s'.slots = s.slots
  count : s'.activeConfigCount = s.activeConfigCount
  stored : ∀ idx, (s.slots idx).active = true →
    s'.payload idx = s.payload idx
  never : ∀ later,
    Trace.Reach counterStep (Later board pkt.entry) s' later →
      ∀ action ∈ later.io.out, ¬ Delivers board pkt.entry action

/-- The packet does not have its checksum, or the PSRAM does not take it. -/
def Damaged (env : Env) (s : ConfigPlane) (pkt : Config)
    (idx : Fin configSlotCount) : Prop :=
  env.crc.ieee (pkt.config.bytes.take pkt.configLen.toNat) ≠
      pkt.configCrc32 ∨
    (s.io.write (configSlotPsramAddr idx)
      (pkt.config.bytes.take pkt.configLen.toNat)).2 ≠ none

/-- The packet is turned away once it is in its slot, but the slot was free and
already looked like it. -/
structure Repeated
    (env : Env) (s : ConfigPlane) (pkt : Config)
    (idx : Fin configSlotCount) : Prop where
  damaged : Damaged env s pkt idx
  same : (receivedSlot (s.slots idx) pkt).freed = s.slots idx
  counted : s.activeConfigCount.toNat < 65535

/-- The packet is turned away before a slot is touched, or its slot already
looks like it. -/
def Untouched (env : Env) (s : ConfigPlane) (pkt : Config) : Prop :=
  pkt.configLen = 0 ∨ maxConfigSize < pkt.configLen.toNat ∨
    (env.deviceType = .sensor ∧ pkt.dstDeviceId ≠ env.deviceId) ∨
      s.findConfigSlot pkt.dstDeviceId = none ∧
        ∀ idx, s.freeSlot = some idx → Repeated env s pkt idx

section Validation

variable {pkt : Config}

/-- How `validate_config` goes on once it has a slot. -/
theorem storeConfig_cases (env : Env) (s : ConfigPlane)
    (idx : Fin configSlotCount) (pkt : Config) :
    (Damaged env s pkt idx ∧
      (s.storeConfig env idx pkt).2 ≠ statusSuccess ∧
        (s.storeConfig env idx pkt).1.slots = Function.update s.slots idx
          (receivedSlot (s.slots idx) pkt).freed ∧
          (s.storeConfig env idx pkt).1.activeConfigCount =
            (s.configSlotFree idx).activeConfigCount) ∨
      ¬ Damaged env s pkt idx ∧
        (s.storeConfig env idx pkt).2 = statusSuccess ∧
          (s.storeConfig env idx pkt).1.slots =
            Function.update s.slots idx (receivedSlot (s.slots idx) pkt) := by
  have crcFail : statusCrcFail ≠ statusSuccess := by decide
  have failure : statusFailure ≠ statusSuccess := by decide
  have freed (io : Io) :
      (ConfigPlane.configSlotFree
        { s.setSlot idx (receivedSlot (s.slots idx) pkt) with io := io }
          idx).slots = Function.update s.slots idx
            (receivedSlot (s.slots idx) pkt).freed := by
    simp [configSlotFree, setSlot]
  unfold storeConfig
  dsimp only
  split
  · next damaged => exact .inl ⟨.inl damaged, crcFail, freed _, rfl⟩
  · next checksum =>
    split
    · next io errno wrote =>
      have wrote : s.io.write (configSlotPsramAddr idx)
          (pkt.config.bytes.take pkt.configLen.toNat) = (io, some errno) :=
        wrote
      refine .inl ⟨.inr ?_, failure, freed io, rfl⟩
      rw [wrote]
      exact Option.some_ne_none errno
    · next io wrote =>
      have wrote : s.io.write (configSlotPsramAddr idx)
          (pkt.config.bytes.take pkt.configLen.toNat) = (io, none) := wrote
      refine .inr ⟨?_, rfl, rfl⟩
      rintro (damaged | failed)
      · exact checksum damaged
      · rw [wrote] at failed
        exact failed rfl

end Validation

section Outputs

/-- Whatever was put out in between satisfies `P`. -/
def Puts (P : Action → Prop) (s s' : ConfigPlane) : Prop :=
  ∀ action ∈ s'.io.out, action ∈ s.io.out ∨ P action

variable {P : Action → Prop}

theorem Puts.of_same (same : s'.io.out = s.io.out) : Puts P s s' :=
  fun _ member => .inl (same ▸ member)

theorem Puts.refl (s : ConfigPlane) : Puts P s s := .of_same rfl

theorem Puts.trans (first : Puts P s s') (second : Puts P s' s'') :
    Puts P s s'' := by
  intro action member
  rcases second action member with before | new
  · exact first action before
  · exact .inr new

theorem Puts.put {action : Action} (allowed : P action) :
    Puts P s (s.put action) := by
  intro other member
  rcases List.mem_append.mp member with before | new
  · exact .inl before
  · exact .inr (List.mem_singleton.mp new ▸ allowed)

theorem Puts.sendLine {text : AtLine} (allowed : P (.line text)) :
    Puts P s (s.sendLine text) := by
  intro other member
  rcases Io.txWrite_out s.io text with shown | ⟨hidden, -⟩
  · have member : other ∈ s.io.out ++ [.line text] := shown ▸ member
    rcases List.mem_append.mp member with before | new
    · exact .inl before
    · exact .inr (List.mem_singleton.mp new ▸ allowed)
  · exact .inl (hidden ▸ member)

/-- The property holds of all that an anchor or a sensor puts out outside its
ticks, apart from the configurations it relays. -/
structure Plain (P : Action → Prop) : Prop where
  reply : ∀ pkt, P (.reply pkt)
  untrack : ∀ trackingId, P (.untrack trackingId)
  received : ∀ pkt, P (.request (.configReceived pkt))
  error : P (.line .error)

variable {entry : ConfigEntry}

/-- Nothing put out in between delivers the configuration. -/
abbrev Withholds (board : Board) (entry : ConfigEntry) :
    ConfigPlane → ConfigPlane → Prop :=
  Puts fun action => ¬ Delivers board entry action

theorem plain_withholds (board : Board) (entry : ConfigEntry) :
    Plain fun action => ¬ Delivers board entry action where
  reply := fun _ => id
  untrack := fun _ => id
  received := fun _ => id
  error := id

theorem storeConfig_out {idx : Fin configSlotCount} {pkt : Config} :
    (s.storeConfig env idx pkt).1.io.out = s.io.out := by
  unfold storeConfig
  dsimp only
  split
  · rfl
  · split
    · next wrote => exact Io.write_out_eq wrote
    · next wrote => exact Io.write_out_eq wrote

theorem validateConfig_out {pkt : Config} :
    (s.validateConfig env pkt).1.io.out = s.io.out := by
  have validation := validateConfig_validation env s pkt
  generalize s.validateConfig env pkt = outcome at validation
  cases validation with
  | foreign => rfl
  | known => rfl
  | full => rfl
  | @replaced _ _ idx _ _ _ stored =>
      have quiet := @storeConfig_out env s idx pkt
      rw [stored] at quiet
      exact quiet
  | @placed base _ _ idx _ _ allocated stored =>
      have quiet := @storeConfig_out env base idx pkt
      rw [stored] at quiet
      exact quiet.trans (congrArg Io.out (allocConfigSlot_some allocated).2.2)

/-- What a packet makes an anchor relay is its own configuration. -/
theorem relayConfig_puts {idx : Fin configSlotCount} {pkt : Config}
    (relayed : ∀ sent : Config, sent.entry = pkt.entry →
      P (.request (.config sent))) :
    Puts P s (s.relayConfig env idx pkt).1 := by
  have forwarded (sent : Config) (same : sent.entry = pkt.entry)
      (dstId : UInt16) (durationMs maxRetries : Nat) :
      Puts P s (s.forwardConfig env idx sent dstId durationMs maxRetries) :=
    Puts.put (relayed _ same)
  unfold relayConfig
  split
  · split
    · exact forwarded { pkt with routeInfo := endRoute pkt.routeInfo } rfl
        _ _ _
    · exact .refl s
  · exact forwarded { pkt with routeInfo := shiftRoute pkt.routeInfo } rfl
      _ _ _

theorem handleConfig_puts (plain : Plain P) {pkt : Config} {srcId : UInt16}
    (relayed : ∀ sent : Config, sent.entry = pkt.entry →
      P (.request (.config sent))) :
    Puts P s (s.handleConfig env pkt srcId) := by
  have acked {t : ConfigPlane} {ack : ConfigAck} (puts : Puts P s t) :
      Puts P s (t.put (.reply (.configAck ack))) :=
    puts.trans (.put (plain.reply _))
  have validated := @validateConfig_out env s pkt
  generalize handled : s.handleConfig env pkt srcId = s'
  cases handleConfig_taken handled with
  | ignored => exact .refl s
  | unranged => exact acked (.refl s)
  | answered _ outcome =>
      rw [outcome] at validated
      exact acked (.of_same validated)
  | relayed _ _ outcome =>
      rw [outcome] at validated
      exact acked (Puts.trans (.of_same validated) (relayConfig_puts relayed))
  | confirmed _ _ outcome =>
      rw [outcome] at validated
      exact (acked (.of_same validated)).trans (.put (plain.received _))

theorem handleConfigAck_puts (plain : Plain P) {pkt : ConfigAck}
    (handled : s.handleConfigAck env pkt = .ok s') : Puts P s s' := by
  have untracked : Puts P s (s.put (.untrack pkt.hdr.trackingId)) :=
    .put (plain.untrack _)
  cases handleConfigAck_taken handled with
  | ignored => exact .refl _
  | _ => exact untracked

theorem handleConfigReceived_puts (plain : Plain P)
    (role : env.deviceType ≠ .gateway) {pkt : ConfigReceived}
    {srcId : UInt16} : Puts P s (s.handleConfigReceived env pkt srcId) := by
  generalize handled : s.handleConfigReceived env pkt srcId = s'
  cases handleConfigReceived_taken handled with
  | ignored => exact .refl s
  | told gateway => exact absurd gateway role
  | passed => exact Puts.trans (.put (plain.received _)) (.put (plain.reply _))

theorem handleConfigReceivedAck_puts (plain : Plain P)
    {pkt : ConfigReceivedAck} :
    Puts P s (s.handleConfigReceivedAck env pkt) := by
  have untracked : Puts P s (s.put (.untrack pkt.hdr.trackingId)) :=
    .put (plain.untrack _)
  generalize handled : s.handleConfigReceivedAck env pkt = s'
  cases handleConfigReceivedAck_taken handled with
  | ignored => exact .refl s
  | untracked => exact untracked
  | passed => exact untracked.trans (.put (plain.reply _))

theorem hostAnswer_puts (plain : Plain P) {ok : Bool} :
    Puts P s (s.hostAnswer env ok) := by
  unfold hostAnswer
  dsimp only
  split
  · unfold configSlotReleaseById
    split
    · exact .refl s
    · dsimp only
      split
      · exact .put (plain.received _)
      · exact .put (plain.received _)
  · exact .refl s

/-- Outside its ticks an anchor or a sensor puts out plain actions and what it
relays. -/
theorem step_puts (plain : Plain P) (role : env.deviceType ≠ .gateway)
    {event : ConfigEvent} (notTick : event ≠ .tick)
    (relayed : ∀ pkt srcId, event = .config pkt srcId →
      ∀ sent : Config, sent.entry = pkt.entry → P (.request (.config sent)))
    (stepped : s.step env event = .ok s') : Puts P s.clearOut s' := by
  cases event with
  | config pkt srcId =>
      cases stepped
      exact handleConfig_puts plain (relayed pkt srcId rfl)
  | configAck pkt => exact handleConfigAck_puts plain stepped
  | configReceived pkt srcId =>
      cases stepped
      exact handleConfigReceived_puts plain role
  | configReceivedAck pkt =>
      cases stepped
      exact handleConfigReceivedAck_puts plain
  | routeInfo pkt srcId =>
      have stepped : s.clearOut.sendRoutedConfig env pkt srcId = .ok s' :=
        stepped
      rw [sendRoutedConfig_other role stepped]
      exact .refl _
  | tick => exact absurd rfl notTick
  | cmdConfig args =>
      cases stepped
      rw [cmdConfig_other role]
      exact .sendLine plain.error
  | cmdConfigAck args =>
      cases stepped
      split
      · unfold cmdConfigAck
        split
        · split
          · exact .refl _
          · exact .refl _
        · exact .refl _
      · exact .refl _
  | hostAnswer ok =>
      cases stepped
      exact hostAnswer_puts plain
  | otherPending pending =>
      cases stepped
      exact .refl _
  | restart =>
      cases stepped
      exact .refl _
  | elsewhere psram uart =>
      cases stepped
      exact .of_same rfl

/-- An anchor's tick prints nothing. -/
theorem anchorTick_packets :
    Puts (fun action => ∃ pkt, action = .request pkt) s
      (s.anchorConfigTick env) := by
  have expired (list : List (Fin configSlotCount)) (t : ConfigPlane) :
      (list.foldl (fun t idx => t.expireRelayed env idx) t).io = t.io := by
    induction list generalizing t with
    | nil => rfl
    | cons idx rest ih => exact (ih _).trans (t.expireRelayed_io idx)
  have one (t : ConfigPlane) (idx : Fin configSlotCount) :
      Puts (fun action => ∃ pkt, action = .request pkt) t
        (t.anchorSendSlot env idx) := by
    unfold anchorSendSlot
    dsimp only
    split
    · split
      · exact .refl t
      · split
        · next read => exact .of_same (Io.read_out_eq read)
        · next io payload read =>
          have loaded : Puts (fun action => ∃ pkt, action = .request pkt) t
              { t with io := io } := .of_same (Io.read_out_eq read)
          exact loaded.trans (Puts.put ⟨_, rfl⟩)
    · exact .refl t
  have sent (list : List (Fin configSlotCount)) (t : ConfigPlane) :
      Puts (fun action => ∃ pkt, action = .request pkt) t
        (list.foldl (fun t idx => t.anchorSendSlot env idx) t) := by
    induction list generalizing t with
    | nil => exact .refl t
    | cons idx rest ih => exact (one t idx).trans (ih _)
  exact Puts.trans (.of_same (congrArg Io.out (expired _ s))) (sent _ _)

end Outputs

section Later

variable {entry : ConfigEntry}

/-- The slots in use have sound lengths, and a sensor's are its own. -/
structure Housed (board : Board) (s : ConfigPlane) : Prop where
  sized : s.Sized
  own : board.deviceType = .sensor → ∀ idx, (s.slots idx).active = true →
    (s.slots idx).dstDeviceId = board.deviceId

theorem Sized.short (sized : s.Sized) : s.Short :=
  fun idx active => (sized idx active).2

theorem Housed.shrinks (housed : Housed board s) (shrinks : Shrinks s s') :
    Housed board s' where
  sized := housed.sized.shrinks shrinks
  own := by
    intro sensor idx active
    have held := shrinks idx (s'.entry idx) (ledger_some.mpr ⟨active, rfl⟩)
    obtain ⟨before, same⟩ := ledger_some.mp held
    have dst : (s.slots idx).dstDeviceId = (s'.slots idx).dstDeviceId :=
      congrArg ConfigEntry.dstDeviceId same
    rw [← dst]
    exact housed.own sensor idx before

/-- A sensor accepts configurations for itself only. -/
theorem accepted_own {event : ConfigEvent}
    (accepted : s.accepted env event = some entry)
    (sensor : env.deviceType = .sensor) :
    entry.dstDeviceId = env.deviceId := by
  unfold ConfigPlane.accepted at accepted
  split at accepted
  · next pkt srcId =>
    split at accepted
    · next taken =>
      cases accepted
      by_contra other
      have refused : (s.clearOut.validateConfig env pkt).2.1 =
          statusFailure := by
        unfold validateConfig
        rw [if_pos ⟨other, sensor⟩]
      rw [refused] at taken
      exact absurd taken.2 (by decide)
    · cases accepted
  · cases accepted

theorem Housed.step (housed : Housed board s)
    (role : board.deviceType = .anchor ∨ board.deviceType = .sensor)
    {occurrence : Env × ConfigEvent} (admitted : OnSelf board s occurrence)
    (stepped : counterStep s occurrence = .ok s') : Housed board s' := by
  obtain ⟨env, event⟩ := occurrence
  obtain ⟨rfl, allowed⟩ := admitted
  have stepped : s.step env event = .ok s' := stepped
  cases event with
  | config pkt srcId =>
      cases stepped
      rcases @config_ledger env s pkt srcId housed.sized.short with
        ⟨accepted, sound, idx, -, stored⟩ | ⟨-, shrinks⟩
      · have held {other : Fin configSlotCount}
            (active : ((s.clearOut.handleConfig env pkt srcId).slots
              other).active = true) :
            s.ledger other = some ((s.clearOut.handleConfig env pkt
                srcId).entry other) ∨
              (s.clearOut.handleConfig env pkt srcId).entry other =
                pkt.entry := by
          have there := ledger_some.mpr ⟨active, rfl⟩
          rw [stored] at there
          by_cases here : other = idx
          · rw [here, Function.update_self, Option.some.injEq] at there
            rw [here]
            exact .inr there.symm
          · rw [Function.update_of_ne here] at there
            exact .inl there
        constructor
        · intro other active
          rcases held active with before | new
          · obtain ⟨was, same⟩ := ledger_some.mp before
            have len : (s.slots other).configLen =
                ((s.clearOut.handleConfig env pkt srcId).slots
                  other).configLen := congrArg ConfigEntry.configLen same
            rw [← len]
            exact housed.sized other was
          · have len : ((s.clearOut.handleConfig env pkt srcId).slots
                other).configLen = pkt.entry.configLen :=
              congrArg ConfigEntry.configLen new
            rw [len]
            exact ⟨sound.nonempty, sound.fits⟩
        · intro sensor other active
          rcases held active with before | new
          · obtain ⟨was, same⟩ := ledger_some.mp before
            have dst : (s.slots other).dstDeviceId =
                ((s.clearOut.handleConfig env pkt srcId).slots
                  other).dstDeviceId := congrArg ConfigEntry.dstDeviceId same
            rw [← dst]
            exact housed.own sensor other was
          · have dst : ((s.clearOut.handleConfig env pkt srcId).slots
                other).dstDeviceId = pkt.entry.dstDeviceId :=
              congrArg ConfigEntry.dstDeviceId new
            rw [dst]
            exact accepted_own accepted sensor
      · exact housed.shrinks shrinks
  | _ =>
      refine housed.shrinks (step_shrinks role housed.sized.short allowed ?_
        stepped)
      exact fun _ _ same => by cases same

/-- A tick delivers only what a slot in use holds. -/
theorem configTick_withholds
    (role : env.deviceType = .anchor ∨ env.deviceType = .sensor)
    (housed : Housed env.toBoard s)
    (absent : ∀ idx, s.ledger idx ≠ some entry) :
    Withholds env.toBoard entry s (s.configTick env) := by
  have emits : Emits s (s.configTick env) :=
    configTick_emits housed.sized.short role
  intro action member
  rcases emits.out action member with before | fromSlot
  · exact .inl before
  · cases action with
    | request pkt =>
      cases pkt with
      | config pkt =>
        obtain ⟨idx, held⟩ := fromSlot
        refine .inr fun delivers => ?_
        have same : pkt.entry = entry := delivers
        rw [same] at held
        exact absent idx held
      | _ => exact .inr id
    | line text =>
      cases text with
      | config sn id len crc32 payload =>
        rcases role with anchor | sensor
        · have packets := @anchorTick_packets env s
          unfold configTick at member
          rw [anchor] at member
          split at member
          · exact .inl member
          · dsimp only at member
            rcases packets _ member with before | ⟨pkt, request⟩
            · exact .inl before
            · cases request
        · refine .inr fun delivers => ?_
          obtain ⟨idx, held, there, sameId, sameLen, sameCrc, sameBytes⟩ :=
            fromSlot
          obtain ⟨dst, id_, len_, crc_, bytes_⟩ := delivers
          obtain ⟨active, rfl⟩ := ledger_some.mp there
          have device : (s.slots idx).dstDeviceId = env.deviceId :=
            housed.own sensor idx active
          refine absent idx (there.trans (congrArg some ?_))
          cases entry with
          | mk entryDst entryId entryLen entryCrc entryBytes =>
            dsimp only at dst id_ len_ crc_ bytes_
            rw [← dst, ← id_, ← len_, ← crc_, ← bytes_, sameId, sameLen,
              sameCrc, sameBytes, ← device]
            rfl
      | _ => exact .inr id
    | _ => exact .inr id

theorem step_absent
    (role : board.deviceType = .anchor ∨ board.deviceType = .sensor)
    (housed : Housed board s) (absent : ∀ idx, s.ledger idx ≠ some entry)
    {occurrence : Env × ConfigEvent} (later : Later board entry s occurrence)
    (stepped : counterStep s occurrence = .ok s') :
    ∀ idx, s'.ledger idx ≠ some entry := by
  obtain ⟨env, event⟩ := occurrence
  obtain ⟨⟨rfl, allowed⟩, different⟩ := later
  have stepped : s.step env event = .ok s' := stepped
  cases event with
  | config pkt srcId =>
      cases stepped
      rcases @config_ledger env s pkt srcId housed.sized.short with
        ⟨-, -, there, -, stored⟩ | ⟨-, shrinks⟩
      · intro idx held
        rw [stored] at held
        by_cases here : idx = there
        · rw [here, Function.update_self, Option.some.injEq] at held
          exact different pkt srcId rfl held
        · rw [Function.update_of_ne here] at held
          exact absent idx held
      · exact fun idx held => absent idx (shrinks idx entry held)
  | _ =>
      have shrinks : Shrinks s s' :=
        step_shrinks role housed.sized.short allowed
          (fun _ _ same => by cases same) stepped
      exact fun idx held => absent idx (shrinks idx entry held)

theorem step_withholds
    (role : board.deviceType = .anchor ∨ board.deviceType = .sensor)
    (housed : Housed board s) (absent : ∀ idx, s.ledger idx ≠ some entry)
    {occurrence : Env × ConfigEvent} (later : Later board entry s occurrence)
    (stepped : counterStep s occurrence = .ok s') :
    Withholds board entry s.clearOut s' := by
  obtain ⟨env, event⟩ := occurrence
  obtain ⟨⟨rfl, -⟩, different⟩ := later
  have stepped : s.step env event = .ok s' := stepped
  have notGateway : env.deviceType ≠ .gateway := by
    rcases role with anchor | sensor
    · rw [anchor]
      decide
    · rw [sensor]
      decide
  by_cases isTick : event = .tick
  · subst isTick
    cases stepped
    have cleared : Housed env.toBoard s.clearOut := ⟨housed.sized, housed.own⟩
    exact configTick_withholds role cleared absent
  · refine step_puts (plain_withholds _ _) notGateway isTick ?_ stepped
    intro pkt srcId same sent copy delivers
    exact different pkt srcId same (copy.symm.trans delivers)

/-- A configuration that no slot holds is not delivered until it arrives. -/
theorem never_delivered
    (role : board.deviceType = .anchor ∨ board.deviceType = .sensor)
    (housed : Housed board s) (absent : ∀ idx, s.ledger idx ≠ some entry)
    (quiet : ∀ action ∈ s.io.out, ¬ Delivers board entry action)
    (reach : Trace.Reach counterStep (Later board entry) s s') :
    ∀ action ∈ s'.io.out, ¬ Delivers board entry action := by
  have kept : Housed board s' ∧ (∀ idx, s'.ledger idx ≠ some entry) ∧
      ∀ action ∈ s'.io.out, ¬ Delivers board entry action := by
    apply reach.invariant
    · exact ⟨housed, absent, quiet⟩
    · rintro before occurrence after ⟨housed, absent, -⟩ later stepped
      refine ⟨housed.step role later.1 stepped,
        step_absent role housed absent later stepped, fun action member => ?_⟩
      rcases step_withholds role housed absent later stepped action member with
        old | new
      · cases old
      · exact new
  exact kept.2.2

end Later

section Rejections

variable {pkt : Config} {srcId : UInt16}

/-- The relay of a stored configuration fails only without a sensor, and then
it changes nothing. -/
theorem relayConfig_refused {idx : Fin configSlotCount}
    (refused : acceptedStatus (s.relayConfig env idx pkt).2 = false) :
    (s.relayConfig env idx pkt).1 = s := by
  have success : acceptedStatus statusSuccess ≠ false := by decide
  unfold relayConfig at refused ⊢
  split
  · next last =>
    rw [if_pos last] at refused
    split
    · next found =>
      rw [found] at refused
      exact absurd refused success
    · rfl
  · next other =>
    rw [if_neg other] at refused
    exact absurd refused success

theorem relayConfig_requests {idx : Fin configSlotCount} :
    Puts (fun action => ∃ sent, action = .request sent) s
      (s.relayConfig env idx pkt).1 := by
  unfold relayConfig
  split
  · split
    · exact .put ⟨_, rfl⟩
    · exact .refl s
  · exact .put ⟨_, rfl⟩

theorem mem_acked {t : ConfigPlane} {ack given : ConfigAck}
    (quiet : .reply (.configAck ack) ∉ t.io.out)
    (member : .reply (.configAck ack) ∈
      (t.put (.reply (.configAck given))).io.out) : ack = given := by
  rcases List.mem_append.mp member with before | new
  · exact absurd before quiet
  · cases List.mem_singleton.mp new
    rfl

/-- The packet was answered, and nothing else happened. -/
structure Answered (s s' : ConfigPlane) : Prop where
  slots : s'.slots = s.slots
  count : s'.activeConfigCount = s.activeConfigCount
  same : SameContent s s'
  quiet : ∀ board entry, Withholds board entry s s'

theorem Answered.put (ack : ConfigAck) (s : ConfigPlane) :
    Answered s (s.put (.reply (.configAck ack))) :=
  ⟨rfl, rfl, .put s _, fun _ _ => .put id⟩

/-- Of a rejected packet either nothing was looked at but its length, or its
validation decides what becomes of the slots. -/
theorem rejects_cases (rejects : Rejects env s pkt srcId) :
    ((pkt.configLen = 0 ∨ maxConfigSize < pkt.configLen.toNat) ∧
        Answered s.clearOut (s.clearOut.handleConfig env pkt srcId)) ∨
      Validated env pkt ∧
        (s.clearOut.validateConfig env pkt).2.1 ≠ statusAlreadyExists ∧
          Answered (s.clearOut.validateConfig env pkt).1
            (s.clearOut.handleConfig env pkt srcId) := by
  obtain ⟨ack, member, refused⟩ := rejects
  have quiet : .reply (.configAck ack) ∉
      (s.clearOut.validateConfig env pkt).1.io.out := by
    rw [validateConfig_out]
    exact List.not_mem_nil
  have known {status : UInt8} (refused : acceptedStatus status = false) :
      status ≠ statusAlreadyExists := by
    rintro rfl
    exact absurd refused (by decide)
  have given {t : ConfigPlane} {status : UInt8}
      (quiet : .reply (.configAck ack) ∉ t.io.out)
      (member : .reply (.configAck ack) ∈
        (t.put (configAnswer env pkt srcId status)).io.out) :
      ack.hdr.status = status := by
    rw [mem_acked quiet member]
    rfl
  generalize handled : s.clearOut.handleConfig env pkt srcId = s' at member ⊢
  cases handleConfig_taken handled with
  | ignored => cases member
  | unranged length => exact .inl ⟨length, .put _ _⟩
  | answered valid outcome =>
      rw [outcome] at quiet ⊢
      rw [given quiet member] at refused
      exact .inr ⟨valid, known refused, .put _ _⟩
  | @relayed t idx anchor valid outcome =>
      rw [outcome] at quiet ⊢
      have relayed : .reply (.configAck ack) ∉
          (t.relayConfig env idx pkt).1.io.out := by
        intro before
        rcases relayConfig_requests _ before with old | ⟨_, request⟩
        · exact quiet old
        · cases request
      rw [given relayed member] at refused
      rw [relayConfig_refused refused]
      have success : statusSuccess ≠ statusAlreadyExists := by decide
      exact .inr ⟨valid, success, .put _ _⟩
  | confirmed sensor valid outcome =>
      rw [outcome] at quiet
      rcases List.mem_append.mp member with before | new
      · rw [given quiet before] at refused
        exact absurd rfl (known refused)
      · cases List.mem_singleton.mp new

@[simp]
theorem findConfigSlot_clearOut (s : ConfigPlane) (dst : UInt16) :
    s.clearOut.findConfigSlot dst = s.findConfigSlot dst := by
  unfold findConfigSlot
  rfl

@[simp]
theorem freeSlot_clearOut (s : ConfigPlane) :
    s.clearOut.freeSlot = s.freeSlot := by
  unfold freeSlot
  rfl

/-- A number that is counted up and down again is the same, unless it was the
largest one. -/
theorem counted_back (count up : UInt16)
    (counted : up = if count.toNat < 65535 then count + 1 else count) :
    (if 0 < up then up - 1 else up) = count ↔ count.toNat < 65535 := by
  have below := count.toNat_lt
  have one : (1 : UInt16).toNat = 1 := rfl
  have zero : (0 : UInt16).toNat = 0 := rfl
  by_cases room : count.toNat < 65535
  · rw [if_pos room] at counted
    have next : (count + 1).toNat = count.toNat + 1 := by
      rw [UInt16.toNat_add, one]
      omega
    have positive : 0 < up := by
      rw [counted, UInt16.lt_iff_toNat_lt, next, zero]
      exact Nat.succ_pos _
    rw [if_pos positive, counted]
    exact ⟨fun _ => room, fun _ => UInt16.add_sub_cancel _ _⟩
  · rw [if_neg room] at counted
    subst counted
    have lower : (1 : UInt16) ≤ up := by
      rw [UInt16.le_iff_toNat_le, one]
      omega
    have positive : 0 < up := by
      rw [UInt16.lt_iff_toNat_lt, zero]
      omega
    rw [if_pos positive]
    refine ⟨fun same => ?_, fun small => absurd small room⟩
    have numbers := congrArg UInt16.toNat same
    rw [UInt16.toNat_sub_of_le _ _ lower, one] at numbers
    omega

/-- A slot that was allocated and freed again was counted once and uncounted
once, unless the counter was full. -/
theorem allocated_freed_count {base : ConfigPlane} {idx : Fin configSlotCount}
    (allocated : s.allocConfigSlot = some (base, idx)) :
    (base.configSlotFree idx).activeConfigCount = s.activeConfigCount ↔
      s.activeConfigCount.toNat < 65535 := by
  obtain ⟨-, rfl⟩ := allocConfigSlot_allocated allocated
  exact counted_back s.activeConfigCount _ rfl

theorem leavesNoTrace_of
    (role : board.deviceType = .anchor ∨ board.deviceType = .sensor)
    (housed : Housed board s) (absent : ∀ idx, s.ledger idx ≠ some pkt.entry)
    (slots : s'.slots = s.slots)
    (count : s'.activeConfigCount = s.activeConfigCount)
    (shrinks : Shrinks s s')
    (quiet : ∀ action ∈ s'.io.out, ¬ Delivers board pkt.entry action) :
    LeavesNoTrace board s s' pkt where
  slots := slots
  count := count
  stored := by
    intro idx active
    have there : s'.ledger idx = some (s'.entry idx) :=
      ledger_some.mpr ⟨slots ▸ active, rfl⟩
    obtain ⟨-, same⟩ := ledger_some.mp (shrinks idx _ there)
    exact (congrArg ConfigEntry.bytes same).symm
  never := by
    intro later reach
    refine never_delivered role (housed.shrinks shrinks) ?_ quiet reach
    exact fun idx held => absent idx (shrinks idx _ held)

/-- A slot that was cleared for the packet looks as if it had been freed. -/
theorem allocated_slots {base : ConfigPlane} {idx : Fin configSlotCount}
    (allocated : s.allocConfigSlot = some (base, idx)) :
    Function.update base.slots idx
        (receivedSlot (base.slots idx) pkt).freed =
      Function.update s.slots idx (receivedSlot (s.slots idx) pkt).freed := by
  obtain ⟨-, rfl⟩ := allocConfigSlot_allocated allocated
  simp [setSlot, receivedSlot, ConfigSlot.freed]

/-- A rejected packet that was turned away late had a free slot that already
looked like it. -/
theorem untouched_of_traceless (rejects : Rejects env s pkt srcId)
    (slots : (s.clearOut.handleConfig env pkt srcId).slots = s.slots)
    (count : (s.clearOut.handleConfig env pkt srcId).activeConfigCount =
      s.activeConfigCount) : Untouched env s pkt := by
  rcases rejects_cases rejects with ⟨length, -⟩ | ⟨-, refused, answered⟩
  · rcases length with empty | long
    · exact .inl empty
    · exact .inr (.inl long)
  · have validation := validateConfig_validation env s.clearOut pkt
    have validSlots := answered.slots.symm.trans slots
    have validCount := answered.count.symm.trans count
    generalize s.clearOut.validateConfig env pkt = outcome at *
    cases validation with
    | foreign sensor other => exact .inr (.inr (.inl ⟨sensor, other⟩))
    | known found => exact absurd rfl refused
    | full missing none_ =>
        rw [findConfigSlot_clearOut] at missing
        rw [freeSlot_clearOut] at none_
        refine .inr (.inr (.inr ⟨missing, fun idx free => ?_⟩))
        rw [none_] at free
        cases free
    | @replaced after status idx _ found other stored =>
        exfalso
        obtain ⟨active, -⟩ := findConfigSlot_some found
        have here := congrFun validSlots idx
        rcases storeConfig_cases env s.clearOut idx pkt with
          ⟨-, -, freed, -⟩ | ⟨-, -, kept⟩
        · rw [stored] at freed
          dsimp only at here
          rw [freed, Function.update_self] at here
          have idle : (s.slots idx).active = false :=
            (congrArg ConfigSlot.active here).symm
          exact absurd (idle.symm.trans active) (by decide)
        · rw [stored] at kept
          dsimp only at here
          rw [kept, Function.update_self] at here
          have crc32 : pkt.configCrc32 = (s.slots idx).configCrc32 :=
            congrArg ConfigSlot.configCrc32 here
          have length : pkt.configLen = (s.slots idx).configLen :=
            congrArg ConfigSlot.configLen here
          have same : (s.slots idx).holdsSame pkt.configCrc32
              pkt.configLen.toNat = true := by
            simp [ConfigSlot.holdsSame, crc32, length]
          exact absurd (other.symm.trans same) (by decide)
    | @placed base after status idx _ missing allocated stored =>
        rw [findConfigSlot_clearOut] at missing
        have free : s.freeSlot = some idx := by
          rw [← freeSlot_clearOut]
          exact (allocConfigSlot_some allocated).1
        have io := (allocConfigSlot_some allocated).2.2
        have here := congrFun validSlots idx
        refine .inr (.inr (.inr ⟨missing, fun other found => ?_⟩))
        rw [free, Option.some.injEq] at found
        subst found
        rcases storeConfig_cases env base idx pkt with
          ⟨damaged, -, freed, counted⟩ | ⟨-, -, kept⟩
        · rw [stored] at freed counted
          dsimp only at here validCount
          rw [freed, allocated_slots allocated, Function.update_self] at here
          refine ⟨?_, here, ?_⟩
          · unfold Damaged at damaged ⊢
            rw [io] at damaged
            exact damaged
          · exact (allocated_freed_count allocated).mp
              (counted.symm.trans validCount)
        · exfalso
          rw [stored] at kept
          dsimp only at here
          rw [kept, Function.update_self] at here
          have active : (s.slots idx).active = true :=
            (congrArg ConfigSlot.active here).symm
          exact absurd ((freeSlot_some free).symm.trans active) (by decide)

/-- The slots and the counter after a rejection that touched nothing. -/
theorem untouched_same (housed : Housed env.toBoard s)
    (rejects : Rejects env s pkt srcId) (untouched : Untouched env s pkt) :
    (s.clearOut.handleConfig env pkt srcId).slots = s.slots ∧
      (s.clearOut.handleConfig env pkt srcId).activeConfigCount =
        s.activeConfigCount ∧
        Shrinks s (s.clearOut.handleConfig env pkt srcId) ∧
          ∀ idx, s.ledger idx ≠ some pkt.entry := by
  have device {idx : Fin configSlotCount}
      (held : s.ledger idx = some pkt.entry) :
      (s.slots idx).active = true ∧
        (s.slots idx).dstDeviceId = pkt.dstDeviceId := by
    obtain ⟨active, same⟩ := ledger_some.mp held
    exact ⟨active, congrArg ConfigEntry.dstDeviceId same⟩
  have unknown (missing : s.findConfigSlot pkt.dstDeviceId = none) :
      ∀ idx, s.ledger idx ≠ some pkt.entry := by
    intro idx held
    exact findConfigSlot_none missing idx (device held).1 (device held).2
  have cleared : Shrinks s s.clearOut := Shrinks.refl s
  rcases rejects_cases rejects with ⟨length, answered⟩ | ⟨valid, refused,
    answered⟩
  · refine ⟨answered.slots, answered.count,
      cleared.trans (.of_same answered.same), ?_⟩
    intro idx held
    obtain ⟨active, same⟩ := ledger_some.mp held
    have len : (s.slots idx).configLen = pkt.configLen :=
      congrArg ConfigEntry.configLen same
    obtain ⟨low, high⟩ := housed.sized idx active
    rw [len] at low high
    rcases length with empty | long
    · rw [empty] at low
      exact absurd low (by decide)
    · exact absurd high (Nat.not_le.mpr long)
  · obtain ⟨-, nonempty, fits, -⟩ := valid
    have late (own : env.deviceType = .sensor →
        pkt.dstDeviceId = env.deviceId) :
        s.findConfigSlot pkt.dstDeviceId = none ∧
          ∀ idx, s.freeSlot = some idx → Repeated env s pkt idx := by
      rcases untouched with empty | long | ⟨sensor, foreign⟩ | last
      · exact absurd empty nonempty
      · exact absurd fits (Nat.not_le.mpr long)
      · exact absurd (own sensor) foreign
      · exact last
    have validation := validateConfig_validation env s.clearOut pkt
    generalize s.clearOut.validateConfig env pkt = outcome at *
    cases validation with
    | foreign sensor other =>
        refine ⟨answered.slots, answered.count,
          cleared.trans (.of_same answered.same), ?_⟩
        intro idx held
        obtain ⟨active, same⟩ := device held
        exact other (same.symm.trans (housed.own sensor idx active))
    | known found => exact absurd rfl refused
    | full none_ _ =>
        rw [findConfigSlot_clearOut] at none_
        exact ⟨answered.slots, answered.count,
          cleared.trans (.of_same answered.same), unknown none_⟩
    | @replaced after status idx own found other stored =>
        rw [findConfigSlot_clearOut, (late own).1] at found
        cases found
    | @placed base after status idx own none_ allocated stored =>
        rw [findConfigSlot_clearOut] at none_
        obtain ⟨free, same, io⟩ := allocConfigSlot_some allocated
        have free : s.freeSlot = some idx := (freeSlot_clearOut s).symm.trans free
        have repeated := (late own).2 idx free
        have short : base.Short := by
          intro other active
          obtain ⟨activeSame, -, -, -, len, -⟩ := same.fields other
          rw [len]
          exact (housed.sized other (activeSame ▸ active)).2
        rcases storeConfig_cases env base idx pkt with
          ⟨-, failed, freed, counted⟩ | ⟨intact, -⟩
        · have shrinks : Shrinks base (base.storeConfig env idx pkt).1 := by
            rcases @storeConfig_ledger env base idx pkt short fits with
              ⟨success, -⟩ | ⟨-, shrinks⟩
            · exact absurd success failed
            · exact shrinks
          rw [stored] at freed counted shrinks
          refine ⟨answered.slots.trans ?_, answered.count.trans ?_, ?_,
            unknown none_⟩
          · dsimp only
            rw [freed, allocated_slots allocated]
            change Function.update s.slots idx
              (receivedSlot (s.slots idx) pkt).freed = s.slots
            rw [repeated.same, Function.update_eq_self]
          · exact counted.trans
              ((allocated_freed_count allocated).mpr repeated.counted)
          · exact ((cleared.trans (.of_same same)).trans shrinks).trans
              (.of_same answered.same)
        · refine absurd ?_ intact
          have damaged := repeated.damaged
          unfold Damaged at damaged ⊢
          rw [io]
          exact damaged

/-- For every packet that an anchor or a sensor turns away, in every state it
reaches: the slots, their counter and the configurations in use are as before
and the configuration never goes out, exactly when the packet is turned away
before a slot was touched or its free slot already looked like it. -/
theorem rejectedConfig_traceless {io : Io}
    (role : board.deviceType = .anchor ∨ board.deviceType = .sensor)
    (reach : Trace.Reach counterStep (OnSelf board) { io := io } s)
    (here : env.toBoard = board) (rejects : Rejects env s pkt srcId) :
    LeavesNoTrace board s (s.clearOut.handleConfig env pkt srcId) pkt ↔
      Untouched env s pkt := by
  subst here
  have housed : Housed env.toBoard s := by
    apply reach.invariant
    · exact ⟨fun _ active => (by cases active),
        fun _ _ active => (by cases active)⟩
    · intro before event after housed admitted stepped
      exact housed.step role admitted stepped
  constructor
  · intro traceless
    exact untouched_of_traceless rejects traceless.slots traceless.count
  · intro untouched
    obtain ⟨slots, count, shrinks, absent⟩ :=
      untouched_same housed rejects untouched
    refine leavesNoTrace_of role housed absent slots count shrinks ?_
    intro action member
    rcases rejects_cases rejects with ⟨-, answered⟩ | ⟨-, -, answered⟩
    · rcases answered.quiet env.toBoard pkt.entry action member with old | new
      · cases old
      · exact new
    · rcases answered.quiet env.toBoard pkt.entry action member with old | new
      · rw [validateConfig_out] at old
        cases old
      · exact new

end Rejections

section Samples

open ConfigHolder (configSensor arrivedConfig)

/-- A configuration of no bytes for the sensor 5. -/
def emptyConfig : Config where
  hdr := { deviceType := 1, deviceId := 5 }
  dstDeviceId := 5
  dstDeviceType := 3
  dataType := dataTypeConfig
  dataId := 2
  routeInfo := fun _ => {}
  configLen := 0
  configCrc32 := 0
  config := Buffer.ofData maxConfigSize []

/-- The configuration `08` with id 2 for the sensor 5, with a wrong
checksum. -/
def damagedConfig : Config :=
  { emptyConfig with
    configLen := 1
    configCrc32 := 0
    config := Buffer.ofData maxConfigSize [8] }

/-- An anchor with address 9 and the sensor 7. -/
def configAnchor : Env :=
  { deviceType := .anchor, deviceId := 9, crc := Checksum.crc32Ieee
    sensorDevices := fun _ => 7, sensorCount := 1 }

/-- The configuration `07` with id 1 for the sensor 5, by way of the
anchor. -/
def strayConfig : Config where
  hdr := { deviceType := 1, deviceId := 9 }
  dstDeviceId := 5
  dstDeviceType := 3
  dataType := dataTypeConfig
  dataId := 1
  routeInfo := fun _ => {}
  configLen := 1
  configCrc32 := 0x4C667A2E
  config := Buffer.ofData maxConfigSize [7]

/-- The answer to a packet from the device 1. -/
def answerTo (env : Env) (pkt : Config) (status : UInt8) : ConfigAck where
  hdr := env.replyHeader status 1 pkt.hdr.priority pkt.hdr.trackingId
  dstDeviceId := pkt.dstDeviceId
  dstDeviceType := pkt.dstDeviceType
  dataType := pkt.dataType
  dataId := pkt.dataId

theorem rejects_of_out {pkt : Config} {status : UInt8}
    (out : (s.clearOut.handleConfig env pkt 1).io.out =
      [.reply (.configAck (answerTo env pkt status))])
    (refused : acceptedStatus status = false) : Rejects env s pkt 1 :=
  ⟨answerTo env pkt status, out ▸ List.mem_singleton_self _, refused⟩

/-- A packet without content leaves a sensor the configuration that it has. -/
theorem rejectedConfig_traceless_empty :
    Trace.Ends counterStep {} [(configSensor, arrivedConfig)] fun s =>
      (s.slots ⟨0, by decide⟩).active = true ∧
        LeavesNoTrace configSensor.toBoard s
          (s.clearOut.handleConfig configSensor emptyConfig 1) emptyConfig := by
  obtain ⟨s, executed, active, out⟩ :
      Trace.Ends counterStep {} [(configSensor, arrivedConfig)] fun s =>
        (s.slots ⟨0, by decide⟩).active = true ∧
          (s.clearOut.handleConfig configSensor emptyConfig 1).io.out =
            [.reply (.configAck
              (answerTo configSensor emptyConfig statusInvalidParameter))] := by
    decide +kernel
  have reach : Trace.Reach counterStep (OnSelf configSensor.toBoard)
      { io := {} } s := by
    refine .of_run (fun event member before => ?_) executed
    cases List.mem_singleton.mp member
    exact ⟨rfl, trivial⟩
  have sensor : configSensor.toBoard.deviceType = .sensor := rfl
  have rejects := rejects_of_out out (by decide)
  exact ⟨s, executed, active, (rejectedConfig_traceless (.inr sensor) reach rfl
    rejects).mpr (.inl rfl)⟩

/-- A damaged packet costs a sensor the configuration it had, and an anchor
delivers a configuration it had answered with `NOT_FOUND` once it knows the
sensor. -/
theorem rejectedConfig_traced :
    (Trace.Ends counterStep {} [(configSensor, arrivedConfig)] fun s =>
      Rejects configSensor s damagedConfig 1 ∧
        ¬ LeavesNoTrace configSensor.toBoard s
          (s.clearOut.handleConfig configSensor damagedConfig 1)
            damagedConfig) ∧
      Rejects configAnchor {} strayConfig 1 ∧
        ∃ later, Trace.Reach counterStep
            (Later configAnchor.toBoard strayConfig.entry)
            ((clearOut {}).handleConfig configAnchor strayConfig 1) later ∧
          ∃ action ∈ later.io.out,
            Delivers configAnchor.toBoard strayConfig.entry action := by
  refine ⟨?_, ?_, ?_⟩
  · obtain ⟨s, executed, out, held, lost⟩ :
        Trace.Ends counterStep {} [(configSensor, arrivedConfig)] fun s =>
          (s.clearOut.handleConfig configSensor damagedConfig 1).io.out =
              [.reply (.configAck
                (answerTo configSensor damagedConfig statusCrcFail))] ∧
            (s.slots ⟨0, by decide⟩).active = true ∧
              ((s.clearOut.handleConfig configSensor damagedConfig 1).slots
                ⟨0, by decide⟩).active = false := by
      decide +kernel
    refine ⟨s, executed, rejects_of_out out (by decide), fun traceless => ?_⟩
    rw [traceless.slots, held] at lost
    cases lost
  · exact @rejects_of_out _ _ _ statusNotFound (by decide +kernel)
      (by decide)
  · have joined : Trace.Ends counterStep
        ((clearOut {}).handleConfig configAnchor strayConfig 1)
        [({ configAnchor with sensorDevices := fun _ => 5 }, .tick)]
        fun later => later.io.out =
          [.request (.config { strayConfig with
            hdr := { deviceType := 2, priority := packetPriorityHigh
                     deviceId := 5 } })] := by
      decide +kernel
    obtain ⟨later, executed, out⟩ := joined
    have sent := List.mem_singleton_self (Action.request (.config
      { strayConfig with
        hdr := { deviceType := 2, priority := packetPriorityHigh
                 deviceId := 5 } }))
    rw [← out] at sent
    refine ⟨later, .of_run ?_ executed, _, sent, ?_⟩
    · intro event member before
      cases List.mem_singleton.mp member
      exact ⟨⟨rfl, trivial⟩, fun _ _ same => by cases same⟩
    · rfl

end Samples

end ConfigPlane

end DectMesh
