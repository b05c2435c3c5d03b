import DectMesh.Config.Counter
import DectMesh.Library.Ledger

/-!
# What the slots of anchors and sensors hold

A slot in use holds the last configuration that was accepted for its device,
with its own bytes: whatever fails while a slot is filled frees it, and nothing
else fills one.
-/

namespace DectMesh

open ByteStore

/-- A configuration: its device, its id and its bytes. -/
structure ConfigEntry where
  dstDeviceId : UInt16
  configId : UInt16
  configLen : UInt8
  configCrc32 : UInt32
  bytes : List UInt8
  deriving DecidableEq

/-- The bytes are as many as announced and have the announced checksum. -/
structure ConfigEntry.Sound (crc : Checksum) (entry : ConfigEntry) : Prop where
  checksum : crc.ieee entry.bytes = entry.configCrc32
  length : entry.bytes.length = entry.configLen.toNat
  nonempty : 1 ≤ entry.configLen.toNat
  fits : entry.configLen.toNat ≤ maxConfigSize

/-- The configuration a packet carries. -/
def Config.entry (pkt : Config) : ConfigEntry where
  dstDeviceId := pkt.dstDeviceId
  configId := pkt.dataId
  configLen := pkt.configLen
  configCrc32 := pkt.configCrc32
  bytes := pkt.config.bytes.take pkt.configLen.toNat

namespace ConfigPlane

/-- The configuration a slot holds. -/
def entry (s : ConfigPlane) (idx : Fin configSlotCount) : ConfigEntry where
  dstDeviceId := (s.slots idx).dstDeviceId
  configId := (s.slots idx).configId
  configLen := (s.slots idx).configLen
  configCrc32 := (s.slots idx).configCrc32
  bytes := s.payload idx

/-- The configurations of the slots in use. -/
def ledger (s : ConfigPlane) (idx : Fin configSlotCount) :
    Option ConfigEntry :=
  if (s.slots idx).active then some (s.entry idx) else none

/-- Slots were at most given up. -/
def Shrinks (s s' : ConfigPlane) : Prop :=
  ∀ idx entry, s'.ledger idx = some entry → s.ledger idx = some entry

/-- A line or a packet carries the configuration of a slot in use. -/
def FromSlot (s : ConfigPlane) : Action → Prop
  | .line (.config _ id len crc32 payload) =>
      ∃ idx entry, s.ledger idx = some entry ∧ id = entry.configId ∧
        len = entry.configLen ∧ crc32 = entry.configCrc32 ∧
          payload = entry.bytes
  | .request (.config pkt) =>
      ∃ idx, s.ledger idx = some pkt.entry
  | _ => True

/-- Slots were at most given up, and what was put out comes from them. -/
structure Emits (s s' : ConfigPlane) : Prop where
  shrinks : Shrinks s s'
  out : ∀ action ∈ s'.io.out, action ∈ s.io.out ∨ FromSlot s action

/-- The configuration that `validate_config` answers with `SUCCESS`. -/
def accepted (s : ConfigPlane) (env : Env) : ConfigEvent → Option ConfigEntry
  | .config pkt _ =>
      if Validated env pkt ∧
          (s.clearOut.validateConfig env pkt).2.1 = statusSuccess then
        some pkt.entry
      else
        none
  | _ => none

/-- Another module's use of the PSRAM leaves the configuration region alone. -/
def Elsewhere (s : ConfigPlane) : ConfigEvent → Prop
  | .elsewhere psram _ =>
      AgreeOn psram.mem s.io.psram.mem psramConfigBase configRegionEnd
  | _ => True

variable {env : Env} {s s' s'' : ConfigPlane}

theorem ledger_some {idx : Fin configSlotCount} {entry : ConfigEntry} :
    s.ledger idx = some entry ↔
      (s.slots idx).active = true ∧ s.entry idx = entry := by
  unfold ledger
  split
  · next active => simp [active]
  · next idle => simp [idle]

section Shrinking

namespace Shrinks

theorem refl (s : ConfigPlane) : Shrinks s s := fun _ _ held => held

theorem trans (first : Shrinks s s') (second : Shrinks s' s'') :
    Shrinks s s'' :=
  fun idx entry held => first idx entry (second idx entry held)

theorem of_same (same : SameContent s s') : Shrinks s s' := by
  intro idx entry held
  obtain ⟨active, rfl⟩ := ledger_some.mp held
  obtain ⟨activeSame, dst, -, id, len, crc⟩ := same.fields idx
  refine ledger_some.mpr ⟨activeSame ▸ active, ?_⟩
  simp only [ConfigPlane.entry, dst, id, len, crc, same.payload idx]

/-- One slot was freed, and the bytes of the others are as before. -/
theorem free {idx : Fin configSlotCount} {slot : ConfigSlot}
    (slots : s'.slots = Function.update s.slots idx slot)
    (idle : slot.active = false)
    (bytes : ∀ other, other ≠ idx → (s.slots other).active = true →
      s'.payload other = s.payload other) : Shrinks s s' := by
  intro other entry held
  obtain ⟨active, rfl⟩ := ledger_some.mp held
  by_cases same : other = idx
  · rw [slots, same, Function.update_self, idle] at active
    cases active
  · have kept : s'.slots other = s.slots other := by
      rw [slots, Function.update_of_ne same]
    rw [kept] at active
    refine ledger_some.mpr ⟨active, ?_⟩
    simp only [ConfigPlane.entry, kept, bytes other same active]

theorem configSlotFree (idx : Fin configSlotCount) (s : ConfigPlane) :
    Shrinks s (s.configSlotFree idx) := by
  refine free rfl rfl fun other different _ => ?_
  unfold payload
  rw [show (s.configSlotFree idx).slots other = s.slots other from
    Function.update_of_ne different _ _]
  rfl

end Shrinks

end Shrinking

section Storing

/-- The lengths of the slots in use are those of slots. -/
def Short (s : ConfigPlane) : Prop :=
  ∀ idx, (s.slots idx).active = true →
    (s.slots idx).configLen.toNat ≤ maxConfigSize

/-- Where a configuration is put: in the slot of its device, or in a free
slot. -/
def Place (s : ConfigPlane) (idx : Fin configSlotCount) (entry : ConfigEntry) :
    Prop :=
  (∃ old, s.ledger idx = some old ∧ old.dstDeviceId = entry.dstDeviceId) ∨
    ∀ other held, s.ledger other = some held →
      held.dstDeviceId ≠ entry.dstDeviceId

theorem taken_length {pkt : Config} (fits : pkt.configLen.toNat ≤ maxConfigSize) :
    (pkt.config.bytes.take pkt.configLen.toNat).length =
      pkt.configLen.toNat := by
  rw [List.length_take, pkt.config.full]
  exact Nat.min_eq_left fits

/-- A configuration is stored whole, or its slot is given up. -/
theorem storeConfig_ledger {idx : Fin configSlotCount} {pkt : Config}
    (short : s.Short) (fits : pkt.configLen.toNat ≤ maxConfigSize) :
    ((s.storeConfig env idx pkt).2 = statusSuccess ∧
      env.crc.ieee pkt.entry.bytes = pkt.configCrc32 ∧
        (s.storeConfig env idx pkt).1.ledger =
          Function.update s.ledger idx (some pkt.entry)) ∨
      (s.storeConfig env idx pkt).2 ≠ statusSuccess ∧
        Shrinks s (s.storeConfig env idx pkt).1 := by
  have crcFail : statusCrcFail ≠ statusSuccess := by decide
  have failure : statusFailure ≠ statusSuccess := by decide
  have length := taken_length fits
  -- whatever is written into this slot's region, the other slots keep theirs
  have others {block : List UInt8} {mem : Store}
      (written : mem = splice s.io.psram.mem (configSlotPsramAddr idx) block)
      (short_ : block.length ≤ maxConfigSize) (other : Fin configSlotCount)
      (different : other ≠ idx) (active : (s.slots other).active = true) :
      slice mem (configSlotPsramAddr other) (s.slots other).configLen.toNat =
        s.payload other := by
    rw [written]
    exact slice_splice_other _ different short_ (short other active)
  unfold storeConfig
  dsimp only
  split
  · refine .inr ⟨crcFail, Shrinks.free (Function.update_idem _ _ _) ?_ ?_⟩
    · rfl
    · intro other different _
      simp [payload, ConfigPlane.configSlotFree, setSlot,
        Function.update_of_ne different]
  · next checksum =>
    split
    · next io errno wrote =>
      obtain ⟨written, contents⟩ := Io.write_failed wrote
      have few : ((pkt.config.bytes.take pkt.configLen.toNat).take
          written).length ≤ maxConfigSize := by
        rw [List.length_take]
        omega
      refine .inr ⟨failure, Shrinks.free (Function.update_idem _ _ _) ?_ ?_⟩
      · rfl
      · intro other different active
        have kept := others contents few other different active
        simpa [payload, ConfigPlane.configSlotFree, setSlot,
          Function.update_of_ne different] using kept
    · next io wrote =>
      have contents := Io.write_stored wrote
      refine .inl ⟨rfl, not_not.mp checksum, ?_⟩
      funext other
      by_cases same : other = idx
      · have own : slice io.psram.mem (configSlotPsramAddr idx)
            pkt.configLen.toNat =
              pkt.config.bytes.take pkt.configLen.toNat := by
          have back := slice_splice s.io.psram.mem (configSlotPsramAddr idx)
            (pkt.config.bytes.take pkt.configLen.toNat)
          rw [length] at back
          rw [contents]
          exact back
        rw [same, Function.update_self]
        refine ledger_some.mpr ⟨by simp [setSlot, receivedSlot], ?_⟩
        simpa [ConfigPlane.entry, Config.entry, payload, setSlot,
          receivedSlot] using own
      · rw [Function.update_of_ne same]
        unfold ledger
        have slot : (s.setSlot idx (receivedSlot (s.slots idx) pkt)).slots
            other = s.slots other := Function.update_of_ne same _ _
        dsimp only
        rw [slot]
        split
        · next active =>
          have kept := others contents (by omega) other same active
          rw [payload] at kept
          simp only [ConfigPlane.entry, payload, slot, kept]
        · rfl

theorem ledger_congr (same : SameContent s s') : s'.ledger = s.ledger := by
  funext idx
  obtain ⟨active, dst, -, id, len, crc⟩ := same.fields idx
  unfold ledger
  simp only [active, ConfigPlane.entry, dst, id, len, crc, same.payload idx]

/-- `validate_config` takes a configuration over whole, or gives at most a
slot up. -/
theorem validateConfig_ledger {pkt : Config} (short : s.Short)
    (fits : pkt.configLen.toNat ≤ maxConfigSize) :
    ((s.validateConfig env pkt).2.1 = statusSuccess ∧
      env.crc.ieee pkt.entry.bytes = pkt.configCrc32 ∧
        ∃ idx, Place s idx pkt.entry ∧
          (s.validateConfig env pkt).1.ledger =
            Function.update s.ledger idx (some pkt.entry)) ∨
      (s.validateConfig env pkt).2.1 ≠ statusSuccess ∧
        Shrinks s (s.validateConfig env pkt).1 := by
  have failure : statusFailure ≠ statusSuccess := by decide
  have exists_ : statusAlreadyExists ≠ statusSuccess := by decide
  have unavailable : statusResourceUnavailable ≠ statusSuccess := by decide
  have validation := validateConfig_validation env s pkt
  generalize s.validateConfig env pkt = outcome at validation ⊢
  cases validation with
  | foreign => exact .inr ⟨failure, .refl s⟩
  | known => exact .inr ⟨exists_, .refl s⟩
  | full => exact .inr ⟨unavailable, .refl s⟩
  | @replaced _ _ idx _ found _ stored =>
      obtain ⟨active, device⟩ := findConfigSlot_some found
      have filled := @storeConfig_ledger env s idx pkt short fits
      rw [stored] at filled
      rcases filled with ⟨success, checksum, copied⟩ | refused
      · exact .inl ⟨success, checksum, idx,
          .inl ⟨_, ledger_some.mpr ⟨active, rfl⟩, device⟩, copied⟩
      · exact .inr refused
  | @placed base _ _ idx _ missing allocated stored =>
      obtain ⟨-, same, -⟩ := allocConfigSlot_some allocated
      have baseShort : base.Short := by
        intro other active
        obtain ⟨activeSame, -, -, -, len, -⟩ := same.fields other
        rw [len]
        exact short other (activeSame ▸ active)
      have filled := @storeConfig_ledger env base idx pkt baseShort fits
      rw [stored] at filled
      rcases filled with ⟨success, checksum, copied⟩ | ⟨refused, shrinks⟩
      · rw [ledger_congr same] at copied
        refine .inl ⟨success, checksum, idx, .inr ?_, copied⟩
        intro other held there
        obtain ⟨active, rfl⟩ := ledger_some.mp there
        exact findConfigSlot_none missing other active
      · exact .inr ⟨refused, (Shrinks.of_same same).trans shrinks⟩

theorem forwardConfig_same (idx : Fin configSlotCount) (pkt : Config)
    (dstId : UInt16) (durationMs maxRetries : Nat) (s : ConfigPlane) :
    SameContent s (s.forwardConfig env idx pkt dstId durationMs maxRetries) := by
  have sent : SameContent s (s.sendConfig env pkt dstId packetPriorityHigh) :=
    .put s _
  exact sent.trans (.setSlot rfl)

theorem relayConfig_same (idx : Fin configSlotCount) (pkt : Config)
    (s : ConfigPlane) : SameContent s (s.relayConfig env idx pkt).1 := by
  unfold relayConfig
  split
  · split
    · exact forwardConfig_same idx _ _ _ _ s
    · exact .refl s
  · exact forwardConfig_same idx _ _ _ _ s

/-- A packet whose configuration is not accepted gives at most a slot up. -/
theorem config_ledger {pkt : Config} {srcId : UInt16} (short : s.Short) :
    (s.accepted env (.config pkt srcId) = some pkt.entry ∧
      pkt.entry.Sound env.crc ∧
        ∃ idx, Place s idx pkt.entry ∧
          (s.clearOut.handleConfig env pkt srcId).ledger =
            Function.update s.ledger idx (some pkt.entry)) ∨
      s.accepted env (.config pkt srcId) = none ∧
        Shrinks s (s.clearOut.handleConfig env pkt srcId) := by
  have cleared : Shrinks s s.clearOut := Shrinks.refl s
  by_cases valid : Validated env pkt
  · -- what both roles do after `validate_config` changes no content
    have same : SameContent (s.clearOut.validateConfig env pkt).1
        (s.clearOut.handleConfig env pkt srcId) := by
      generalize handled : s.clearOut.handleConfig env pkt srcId = s'
      cases handleConfig_taken handled with
      | ignored other => exact absurd valid other
      | unranged length =>
          obtain ⟨-, nonempty, fits, -⟩ := valid
          exact absurd length (not_or.mpr ⟨nonempty, Nat.not_lt.mpr fits⟩)
      | answered _ outcome =>
          rw [outcome]
          exact .put _ _
      | relayed _ _ outcome =>
          rw [outcome]
          exact (relayConfig_same _ pkt _).trans (.put _ _)
      | confirmed _ _ outcome =>
          rw [outcome]
          exact (SameContent.put _ _).trans (.put _ _)
    obtain ⟨-, nonempty, fits, -⟩ := id valid
    rcases @validateConfig_ledger env s.clearOut pkt short fits with
      ⟨success, checksum, idx, place, stored⟩ | ⟨refused, shrinks⟩
    · refine .inl ⟨if_pos ⟨valid, success⟩, ?_, idx, place, ?_⟩
      · have positive : pkt.configLen.toNat ≠ 0 := fun zero =>
          nonempty (UInt8.toNat_inj.mp zero)
        exact
          { checksum := checksum
            length := taken_length fits
            nonempty := Nat.pos_of_ne_zero positive
            fits := fits }
      · rw [ledger_congr same, stored]
        rfl
    · exact .inr ⟨if_neg fun both => refused both.2,
        Shrinks.trans shrinks (.of_same same)⟩
  · refine .inr ⟨if_neg fun both => valid both.1, cleared.trans (.of_same ?_)⟩
    generalize handled : s.clearOut.handleConfig env pkt srcId = s'
    cases handleConfig_taken handled with
    | ignored => exact .refl _
    | unranged => exact .put _ _
    | answered reached => exact absurd reached valid
    | relayed _ reached => exact absurd reached valid
    | confirmed _ reached => exact absurd reached valid

end Storing

section Ticks

namespace Emits

theorem refl (s : ConfigPlane) : Emits s s :=
  ⟨.refl s, fun _ member => .inl member⟩

theorem FromSlot_mono (shrinks : Shrinks s s') {action : Action}
    (from_ : FromSlot s' action) : FromSlot s action := by
  cases action with
  | line text =>
      cases text with
      | config sn id len crc payload =>
          obtain ⟨idx, entry, held, same⟩ := from_
          exact ⟨idx, entry, shrinks idx entry held, same⟩
      | _ => trivial
  | request pkt =>
      cases pkt with
      | config pkt =>
          obtain ⟨idx, held⟩ := from_
          exact ⟨idx, shrinks idx _ held⟩
      | _ => trivial
  | _ => trivial

theorem trans (first : Emits s s') (second : Emits s' s'') : Emits s s'' where
  shrinks := first.shrinks.trans second.shrinks
  out := by
    intro action member
    rcases second.out action member with before | from_
    · exact first.out action before
    · exact .inr (FromSlot_mono first.shrinks from_)

/-- Nothing was put out. -/
theorem quiet (shrinks : Shrinks s s') (out : s'.io.out = s.io.out) :
    Emits s s' := by
  refine ⟨shrinks, fun action member => .inl ?_⟩
  rw [← out]
  exact member

theorem foldl {round : ConfigPlane → Fin configSlotCount → ConfigPlane}
    (emits : ∀ s idx, Emits s (round s idx))
    (list : List (Fin configSlotCount)) (s : ConfigPlane) :
    Emits s (list.foldl round s) := by
  induction list generalizing s with
  | nil => exact .refl s
  | cons idx rest ih => exact (emits s idx).trans (ih _)

end Emits

theorem retrySlot_emits (idx : Fin configSlotCount) (s : ConfigPlane) :
    Emits s (s.retrySlot env idx) := by
  unfold retrySlot
  dsimp only
  split
  · next timeout _ =>
    have counted : SameContent s
        (s.setSlot idx { s.slots idx with timeout := timeout }) := .setSlot rfl
    exact .quiet ((Shrinks.of_same counted).trans (.configSlotFree idx _)) rfl
  · next timeout _ =>
    have again : SameContent s (s.setSlot idx
        { s.slots idx with timeout := timeout, isSent := false }) :=
      .setSlot rfl
    exact .quiet (.of_same again) rfl

theorem expireRelayed_emits (idx : Fin configSlotCount) (s : ConfigPlane) :
    Emits s (s.expireRelayed env idx) := by
  unfold expireRelayed
  dsimp only
  split
  · split
    · exact .quiet (.configSlotFree idx s) rfl
    · exact .refl s
  · split
    · exact retrySlot_emits idx s
    · exact .refl s

theorem expireUnconfirmed_emits (idx : Fin configSlotCount)
    (s : ConfigPlane) : Emits s (s.expireUnconfirmed env idx) := by
  unfold expireUnconfirmed
  dsimp only
  split
  · split
    · have reset : SameContent s (s.setSlot idx
          { s.slots idx with timeout := (s.slots idx).timeout.reset }) :=
        .setSlot rfl
      exact .quiet (.of_same reset) rfl
    · split
      · exact retrySlot_emits idx s
      · exact .refl s
  · exact .refl s

/-- An anchor sends a slot's own configuration again. -/
theorem anchorSendSlot_emits (short : s.Short) (idx : Fin configSlotCount) :
    Emits s (s.anchorSendSlot env idx) := by
  unfold anchorSendSlot
  dsimp only
  split
  · next pending =>
    split
    · exact .refl s
    · split
      · next io errno read =>
        exact .quiet (.of_same (.read read)) (Io.read_out_eq read)
      · next io payload read =>
        have opened : SameContent s { s with io := io } := .read read
        have marked : SameContent s ({ s with io := io }.setSlot idx
            { s.slots idx with isSent := true }) := opened.trans (.setSlot rfl)
        refine ⟨.of_same (marked.trans (.put _ _)), fun action member => ?_⟩
        rcases List.mem_append.mp member with before | new
        · refine .inl ?_
          rw [← Io.read_out_eq read]
          exact before
        · rw [List.mem_singleton.mp new]
          refine .inr ⟨idx, ledger_some.mpr ⟨pending.1, ?_⟩⟩
          have own : payload = s.payload idx := Io.read_bytes read
          have length : payload.length = (s.slots idx).configLen.toNat := by
            rw [own, ConfigPlane.payload, slice_length]
          have fits : payload.length ≤ maxConfigSize :=
            length ▸ short idx pending.1
          have carried := Buffer.take_ofData fits
          rw [length] at carried
          simp only [ConfigPlane.entry, Config.entry, ConfigSlot.packet, ← own,
            carried]
  · exact .refl s

/-- A sensor hands a slot's own configuration to its host. -/
theorem sensorSendSlot_emits {idx : Fin configSlotCount}
    (active : (s.slots idx).active = true) :
    Emits s (s.sensorSendSlot env idx) := by
  unfold sensorSendSlot
  dsimp only
  split
  · next io errno read =>
    exact .quiet (.of_same (.read read)) (Io.read_out_eq read)
  · next io payload read =>
    have opened : SameContent s { s with io := io } := .read read
    have line : Emits s { s with io := (io.txWrite (.config env.serialNumber
        (s.slots idx).configId (s.slots idx).configLen
        (s.slots idx).configCrc32 payload)).1 } := by
      refine ⟨?_, fun action member => ?_⟩
      · exact .of_same (opened.trans (.sendLine { s with io := io } _))
      · have shown := io.txWrite_out (.config env.serialNumber
          (s.slots idx).configId (s.slots idx).configLen
          (s.slots idx).configCrc32 payload)
        have before : io.out = s.io.out := Io.read_out_eq read
        rcases shown with added | ⟨hidden, -⟩
        · dsimp only at member
          rw [added, before] at member
          rcases List.mem_append.mp member with earlier | new
          · exact .inl earlier
          · rw [List.mem_singleton.mp new]
            exact .inr ⟨idx, s.entry idx, ledger_some.mpr ⟨active, rfl⟩, rfl,
              rfl, rfl, Io.read_bytes read⟩
        · dsimp only at member
          rw [hidden, before] at member
          exact .inl member
    split
    · next io' wrote =>
      rw [wrote] at line
      exact line
    · next io' wrote =>
      rw [wrote] at line
      refine line.trans (.quiet (.of_same (.setSlot ?_)) rfl)
      dsimp only
      split
      · rfl
      · rfl

theorem sensorSendLoop_emits (list : List (Fin configSlotCount))
    (budget : Nat) (s : ConfigPlane) :
    Emits s (sensorSendLoop env budget list s) := by
  apply sensorSendLoop_invariant _ (Emits s) _ _ _ (.refl s)
  intro t idx before active
  exact before.trans (sensorSendSlot_emits active)

theorem Short.shrinks (short : s.Short) (shrinks : Shrinks s s') :
    s'.Short := by
  intro idx active
  have held := shrinks idx (s'.entry idx) (ledger_some.mpr ⟨active, rfl⟩)
  obtain ⟨before, same⟩ := ledger_some.mp held
  have len : (s.slots idx).configLen = (s'.slots idx).configLen :=
    congrArg ConfigEntry.configLen same
  rw [← len]
  exact short idx before

theorem anchorSendLoop_emits (short : s.Short)
    (list : List (Fin configSlotCount)) :
    Emits s (list.foldl (fun s idx => s.anchorSendSlot env idx) s) := by
  induction list generalizing s with
  | nil => exact .refl s
  | cons idx rest ih =>
      have first := @anchorSendSlot_emits env s short idx
      exact first.trans (ih (short.shrinks first.shrinks))

theorem configTick_emits (short : s.Short)
    (role : env.deviceType = .anchor ∨ env.deviceType = .sensor) :
    Emits s (s.configTick env) := by
  unfold configTick
  split
  · exact .refl s
  · rcases role with anchor | sensor
    · rw [anchor]
      have expired : Emits s (allConfigSlots.foldl
          (fun s idx => s.expireRelayed env idx) s) :=
        .foldl (fun s idx => expireRelayed_emits idx s) _ s
      exact expired.trans
        (anchorSendLoop_emits (short.shrinks expired.shrinks) _)
    · rw [sensor]
      have expired : Emits s (allConfigSlots.foldl
          (fun s idx => s.expireUnconfirmed env idx) s) :=
        .foldl (fun s idx => expireUnconfirmed_emits idx s) _ s
      exact expired.trans (sensorSendLoop_emits _ _ _)

end Ticks

section Others

theorem setSlot_shrinks {idx : Fin configSlotCount} {slot : ConfigSlot}
    (same : slot.content = (s.slots idx).content ∨ slot.active = false) :
    Shrinks s (s.setSlot idx slot) := by
  rcases same with equal | idle
  · exact .of_same (.setSlot equal)
  · refine .free rfl idle fun other different _ => ?_
    simp [payload, setSlot, Function.update_of_ne different]

theorem handleConfigAck_shrinks {pkt : ConfigAck}
    (ok : s.handleConfigAck env pkt = .ok s') : Shrinks s s' := by
  have untracked : Shrinks s (s.put (.untrack pkt.hdr.trackingId)) :=
    .of_same (.put s _)
  cases handleConfigAck_taken ok with
  | ignored => exact .refl _
  | untracked => exact untracked
  | disowned idx role accepted answer found other =>
      exact untracked.trans (setSlot_shrinks (.inr rfl))
  | transfered idx role => exact untracked.trans (setSlot_shrinks (.inl rfl))
  | freed idx role found => exact untracked.trans (.configSlotFree _ _)

theorem sendConfigReceived_same (pkt : ConfigReceived) (s : ConfigPlane) :
    SameContent s (s.sendConfigReceived env pkt) :=
  .put s _

theorem handleConfigReceived_same (role : env.deviceType ≠ .gateway)
    (pkt : ConfigReceived) (srcId : UInt16) (s : ConfigPlane) :
    SameContent s (s.handleConfigReceived env pkt srcId) := by
  generalize handled : s.handleConfigReceived env pkt srcId = s'
  cases handleConfigReceived_taken handled with
  | ignored => exact .refl s
  | told gateway => exact absurd gateway role
  | passed => exact (sendConfigReceived_same _ s).trans (.put _ _)

theorem sendRoutedConfig_other (role : env.deviceType ≠ .gateway)
    {pkt : RouteInfo} {srcId : UInt16}
    (ok : s.sendRoutedConfig env pkt srcId = .ok s') : s' = s := by
  unfold sendRoutedConfig at ok
  rw [if_pos (.inr (.inr (.inl role)))] at ok
  cases ok
  rfl

theorem cmdConfig_other (role : env.deviceType ≠ .gateway)
    (args : List Char) (s : ConfigPlane) :
    s.cmdConfig env args = s.sendLine .error := by
  have refused : s.storeCommand env args = (s, none) := by
    unfold storeCommand admitConfig
    rw [if_pos role]
  unfold cmdConfig
  rw [refused]

theorem hostAnswer_shrinks (ok : Bool) (s : ConfigPlane) :
    Shrinks s (s.hostAnswer env ok) := by
  have released (id : UInt16) (status : UInt8) :
      Shrinks s (s.configSlotReleaseById env id status) := by
    unfold configSlotReleaseById
    split
    · exact .refl s
    · next idx found =>
      have flagged (applied : Bool) (pkt : ConfigReceived) :
          SameContent s ((s.sendConfigReceived env pkt).setSlot idx
            { s.slots idx with isApplied := applied }) := by
        exact (sendConfigReceived_same pkt s).trans (.setSlot rfl)
      dsimp only
      split
      · exact .of_same (flagged true _)
      · exact (Shrinks.of_same (flagged false _)).trans
          (.configSlotFree idx _)
  unfold hostAnswer
  dsimp only
  split
  · exact released _ _
  · exact .refl s

theorem elsewhere_shrinks (short : s.Short)
    (slots : s'.slots = s.slots)
    (region : AgreeOn s'.io.psram.mem s.io.psram.mem psramConfigBase
      configRegionEnd) : Shrinks s s' := by
  intro idx entry held
  obtain ⟨active, rfl⟩ := ledger_some.mp held
  rw [slots] at active
  refine ledger_some.mpr ⟨active, ?_⟩
  obtain ⟨lower, upper⟩ := configSlot_inside idx
  have fits := short idx active
  have same : s'.payload idx = s.payload idx := by
    unfold payload
    rw [slots]
    exact slice_congr region lower (by omega)
  simp only [ConfigPlane.entry, slots, same]

/-- Apart from accepted configurations, slots are at most given up. -/
theorem step_shrinks {event : ConfigEvent}
    (role : env.deviceType = .anchor ∨ env.deviceType = .sensor)
    (short : s.Short) (allowed : s.Elsewhere event)
    (other : ∀ pkt srcId, event ≠ .config pkt srcId)
    (stepped : s.step env event = .ok s') : Shrinks s s' := by
  have notGateway : env.deviceType ≠ .gateway := by
    rcases role with anchor | sensor
    · rw [anchor]
      decide
    · rw [sensor]
      decide
  have cleared : Shrinks s s.clearOut := Shrinks.refl s
  cases event with
  | config pkt srcId => exact absurd rfl (other pkt srcId)
  | configAck pkt =>
      have stepped : s.clearOut.handleConfigAck env pkt = .ok s' := stepped
      exact cleared.trans (handleConfigAck_shrinks stepped)
  | configReceived pkt srcId =>
      cases stepped
      exact cleared.trans
        (.of_same (handleConfigReceived_same notGateway pkt srcId _))
  | configReceivedAck pkt =>
      cases stepped
      exact cleared.trans (.of_same (handleConfigReceivedAck_same pkt))
  | routeInfo pkt srcId =>
      have stepped : s.clearOut.sendRoutedConfig env pkt srcId = .ok s' :=
        stepped
      rw [sendRoutedConfig_other notGateway stepped]
      exact cleared
  | tick =>
      cases stepped
      have ticked : Emits s.clearOut (s.clearOut.configTick env) :=
        configTick_emits short role
      exact cleared.trans ticked.shrinks
  | cmdConfig args =>
      cases stepped
      rw [cmdConfig_other notGateway]
      exact cleared.trans (.of_same (.sendLine _ _))
  | cmdConfigAck args =>
      cases stepped
      split
      · unfold cmdConfigAck
        split
        · split
          · exact cleared
          · exact cleared
        · exact cleared
      · exact cleared
  | hostAnswer ok =>
      cases stepped
      exact cleared.trans (hostAnswer_shrinks ok _)
  | otherPending pending =>
      cases stepped
      exact cleared
  | restart =>
      cases stepped
      intro idx entry held
      cases held
  | elsewhere psram uart =>
      cases stepped
      exact elsewhere_shrinks short rfl allowed

end Others

end ConfigPlane

open ConfigPlane Ledger

/-- An anchor or a sensor, and the last configuration it accepted for each
device. -/
structure ConfigHolder where
  plane : ConfigPlane := {}
  accepted : UInt16 → Option ConfigEntry := fun _ => none

namespace ConfigHolder

/-- The record after one event. -/
def note (holder : ConfigHolder) (env : Env) (event : ConfigEvent) :
    UInt16 → Option ConfigEntry :=
  match holder.plane.accepted env event with
  | some entry =>
      Function.update holder.accepted entry.dstDeviceId (some entry)
  | none => holder.accepted

def step (holder : ConfigHolder) (event : Env × ConfigEvent) :
    Except Fault ConfigHolder :=
  match holder.plane.step event.1 event.2 with
  | .error fault => .error fault
  | .ok plane =>
      .ok { plane := plane, accepted := holder.note event.1 event.2 }

/-- The steps of an anchor or a sensor. -/
def OnHolder (board : Board) (holder : ConfigHolder)
    (event : Env × ConfigEvent) : Prop :=
  event.1.toBoard = board ∧
    (board.deviceType = .anchor ∨ board.deviceType = .sensor) ∧
      holder.plane.Elsewhere event.2

/-- What is on record is sound, and the slots in use hold what is on record. -/
structure Intact (board : Board) (holder : ConfigHolder) : Prop where
  sound : ∀ deviceId entry, holder.accepted deviceId = some entry →
    entry.Sound board.crc
  faithful :
    Faithful ConfigEntry.dstDeviceId holder.accepted holder.plane.ledger

variable {board : Board} {env : Env} {event : Env × ConfigEvent}
variable {holder after : ConfigHolder} {io : Io}

theorem Intact.short (intact : Intact board holder) : holder.plane.Short := by
  intro idx active
  have recorded := intact.faithful.recorded idx _
    (ledger_some.mpr ⟨active, rfl⟩)
  exact (intact.sound _ _ recorded).fits

theorem Intact.step (intact : Intact board holder)
    (admitted : OnHolder board holder event)
    (stepped : holder.step event = .ok after) : Intact board after := by
  obtain ⟨env, event⟩ := event
  obtain ⟨rfl, role, allowed⟩ := admitted
  have short := intact.short
  unfold ConfigHolder.step at stepped
  split at stepped
  · cases stepped
  · next plane moved =>
    cases stepped
    cases event with
    | config pkt srcId =>
      have handled : plane = holder.plane.clearOut.handleConfig env pkt srcId :=
        (Except.ok.inj moved).symm
      subst handled
      rcases @config_ledger env holder.plane pkt srcId short with
        ⟨accepted, sound, idx, place, stored⟩ | ⟨refused, shrinks⟩
      · have noted : holder.note env (.config pkt srcId) =
            Function.update holder.accepted pkt.entry.dstDeviceId
              (some pkt.entry) := by
          rw [note, accepted]
        refine ⟨fun deviceId entry recorded => ?_, ?_⟩
        · dsimp only at recorded
          rw [noted] at recorded
          by_cases own : deviceId = pkt.entry.dstDeviceId
          · rw [own, Function.update_self, Option.some.injEq] at recorded
            exact recorded ▸ sound
          · rw [Function.update_of_ne own] at recorded
            exact intact.sound deviceId entry recorded
        · dsimp only
          rw [noted, stored]
          exact intact.faithful.accept place
      · have noted : holder.note env (.config pkt srcId) = holder.accepted := by
          rw [note, refused]
        refine ⟨fun deviceId entry recorded => ?_, ?_⟩
        · dsimp only at recorded
          rw [noted] at recorded
          exact intact.sound deviceId entry recorded
        · dsimp only
          rw [noted]
          exact intact.faithful.shrink shrinks
    | _ =>
      have shrinks : Shrinks holder.plane plane :=
        step_shrinks role short allowed (fun _ _ same => by cases same) moved
      exact ⟨intact.sound, intact.faithful.shrink shrinks⟩

/-- In every run of an anchor or a sensor, every slot in use holds what was
last accepted for its device. -/
theorem reach_intact
    (reach : Trace.Reach ConfigHolder.step (OnHolder board)
      { plane := { io := io } } holder) :
    Intact board holder := by
  apply reach.invariant
  · exact ⟨fun _ _ recorded => (by cases recorded), Faithful.empty _ _⟩
  · intro before event after intact admitted stepped
    exact intact.step admitted stepped

/-- What carries an accepted configuration: its id, and its own bytes. -/
def Carries (holder : ConfigHolder) (crc : Checksum) : Action → Prop
  | .line (.config _ id len crc32 payload) =>
      ∃ entry, holder.accepted entry.dstDeviceId = some entry ∧
        entry.Sound crc ∧ id = entry.configId ∧ len = entry.configLen ∧
          crc32 = entry.configCrc32 ∧ payload = entry.bytes
  | .request (.config pkt) =>
      holder.accepted pkt.dstDeviceId = some pkt.entry ∧ pkt.entry.Sound crc
  | _ => True

theorem tick_carries (intact : Intact env.toBoard holder)
    (role : env.deviceType = .anchor ∨ env.deviceType = .sensor)
    (stepped : holder.step (env, .tick) = .ok after) :
    ∀ action ∈ after.plane.io.out, after.Carries env.crc action := by
  unfold ConfigHolder.step at stepped
  split at stepped
  · cases stepped
  · next plane moved =>
    cases stepped
    have ticked : plane = holder.plane.clearOut.configTick env :=
      (Except.ok.inj moved).symm
    subst ticked
    have short : holder.plane.clearOut.Short := intact.short
    intro action sent
    have emits : Emits holder.plane.clearOut
        (holder.plane.clearOut.configTick env) := configTick_emits short role
    have emitted := emits.out action sent
    rcases emitted with before | fromSlot
    · cases before
    · have recorded (idx : Fin configSlotCount) (entry : ConfigEntry)
          (held : holder.plane.clearOut.ledger idx = some entry) :
          holder.accepted entry.dstDeviceId = some entry ∧
            entry.Sound env.crc := by
        have recorded := intact.faithful.recorded idx entry held
        exact ⟨recorded, intact.sound _ _ recorded⟩
      cases action with
      | line line =>
        cases line with
        | config first id len crc32 payload =>
          obtain ⟨idx, entry, held, fields⟩ := fromSlot
          obtain ⟨known, sound⟩ := recorded idx entry held
          exact ⟨entry, known, sound, fields⟩
        | _ => trivial
      | request request =>
        cases request with
        | config pkt =>
          obtain ⟨idx, held⟩ := fromSlot
          exact recorded idx pkt.entry held
        | _ => trivial
      | _ => trivial

/-- In every run of an anchor or a sensor: every slot in use holds one accepted
configuration, whole and with its own bytes; no two slots in use are for the
same device; and every `AT#CONFIG` line and every `CONFIG` that a tick puts out
carries an accepted configuration with its own bytes. -/
theorem configSlots_intact
    (reach : Trace.Reach ConfigHolder.step (OnHolder board)
      { plane := { io := io } } holder) :
    (∀ idx, (holder.plane.slots idx).active = true →
      ∃ entry, holder.accepted (holder.plane.slots idx).dstDeviceId =
          some entry ∧
        (holder.plane.slots idx).dstDeviceId = entry.dstDeviceId ∧
        (holder.plane.slots idx).configId = entry.configId ∧
        (holder.plane.slots idx).configLen = entry.configLen ∧
        (holder.plane.slots idx).configCrc32 = entry.configCrc32 ∧
        holder.plane.payload idx = entry.bytes ∧
        board.crc.ieee (holder.plane.payload idx) =
          (holder.plane.slots idx).configCrc32 ∧
        1 ≤ (holder.plane.slots idx).configLen.toNat ∧
        (holder.plane.slots idx).configLen.toNat ≤ maxConfigSize) ∧
      (∀ left right, (holder.plane.slots left).active = true →
        (holder.plane.slots right).active = true →
          (holder.plane.slots left).dstDeviceId =
            (holder.plane.slots right).dstDeviceId → left = right) ∧
      ∀ env after, OnHolder board holder (env, .tick) →
        holder.step (env, .tick) = .ok after →
          ∀ action ∈ after.plane.io.out, after.Carries board.crc action := by
  have intact := reach_intact reach
  refine ⟨fun idx active => ?_, fun left right activeLeft activeRight same => ?_,
    fun env after admitted stepped => ?_⟩
  · have recorded := intact.faithful.recorded idx _
      (ledger_some.mpr ⟨active, rfl⟩)
    have sound := intact.sound _ _ recorded
    exact ⟨_, recorded, rfl, rfl, rfl, rfl, rfl, sound.checksum,
      sound.nonempty, sound.fits⟩
  · exact intact.faithful.distinct left right _ _
      (ledger_some.mpr ⟨activeLeft, rfl⟩)
      (ledger_some.mpr ⟨activeRight, rfl⟩) same
  · obtain ⟨rfl, role, -⟩ := admitted
    exact tick_carries intact role stepped

/-- A sensor with address 5. -/
def configSensor : Env :=
  { deviceType := .sensor, deviceId := 5, crc := Checksum.crc32Ieee }

/-- The one-byte configuration `07` with id 1 for the sensor arrives. -/
def arrivedConfig : ConfigEvent :=
  .config
    { hdr := { deviceType := 1, deviceId := 5 }
      dstDeviceId := 5, dstDeviceType := 3, dataType := dataTypeConfig
      dataId := 1, routeInfo := fun _ => {}, configLen := 1
      configCrc32 := 0x4C667A2E, config := Buffer.ofData maxConfigSize [7] } 1

theorem configSlots_intact_sensor :
    Trace.Ends ConfigHolder.step {} [(configSensor, arrivedConfig)]
      fun holder => ∃ entry, holder.accepted 5 = some entry ∧
        holder.plane.payload ⟨0, by decide⟩ = entry.bytes := by
  obtain ⟨holder, executed, active, device⟩ :
      Trace.Ends ConfigHolder.step {} [(configSensor, arrivedConfig)]
        fun holder =>
          (holder.plane.slots ⟨0, by decide⟩).active = true ∧
            (holder.plane.slots ⟨0, by decide⟩).dstDeviceId = 5 := by
    decide +kernel
  have admitted : ∀ event ∈ [(configSensor, arrivedConfig)], ∀ before,
      OnHolder configSensor.toBoard before event := by
    intro event member before
    cases List.mem_singleton.mp member
    exact ⟨rfl, .inr rfl, trivial⟩
  obtain ⟨entry, accepted, -, -, -, -, bytes, -⟩ :=
    (configSlots_intact (.of_run admitted executed)).1 _ active
  rw [device] at accepted
  exact ⟨holder, executed, entry, accepted, bytes⟩

end ConfigHolder

end DectMesh
