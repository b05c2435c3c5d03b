import DectMesh.Library.ByteStore
import DectMesh.Config.Model

/-!
# What a configuration slot holds

The device, the id and the payload of a slot, the searches over the table, and
the many operations that leave all of this alone and only move progress flags
or put something out.
-/

namespace DectMesh

open ByteStore

/-- A slot without its progress flags and its timeout. -/
def ConfigSlot.content (slot : ConfigSlot) : ConfigSlot :=
  { slot with
    isSent := false
    isApplied := false
    isTransfered := false
    timeout := {} }

/-- The bytes of a slot's configuration. -/
def ConfigPlane.payload (s : ConfigPlane) (idx : Fin configSlotCount) :
    List UInt8 :=
  slice s.io.psram.mem (configSlotPsramAddr idx)
    (s.slots idx).configLen.toNat

/-- The slots hold what they held, and nothing put out was taken back. -/
structure SameContent (s s' : ConfigPlane) : Prop where
  slots : ∀ idx, (s'.slots idx).content = (s.slots idx).content
  mem : s'.io.psram.mem = s.io.psram.mem
  pending : s'.pendingAck = s.pendingAck
  out : ∀ action ∈ s.io.out, action ∈ s'.io.out

namespace SameContent

variable {s s' s'' : ConfigPlane}

theorem refl (s : ConfigPlane) : SameContent s s :=
  ⟨fun _ => rfl, rfl, rfl, fun _ member => member⟩

theorem trans (left : SameContent s s') (right : SameContent s' s'') :
    SameContent s s'' where
  slots := fun idx => (right.slots idx).trans (left.slots idx)
  mem := right.mem.trans left.mem
  pending := right.pending.trans left.pending
  out := fun action member => right.out action (left.out action member)

theorem put (s : ConfigPlane) (action : Action) :
    SameContent s (s.put action) where
  slots := fun _ => rfl
  mem := rfl
  pending := rfl
  out := fun _ member => List.mem_append_left _ member

theorem sendLine (s : ConfigPlane) (text : AtLine) :
    SameContent s (s.sendLine text) where
  slots := fun _ => rfl
  mem := congrArg Psram.mem (Io.sendLine_psram s.io text)
  pending := rfl
  out := by
    intro action member
    rcases Io.txWrite_out s.io text with shown | ⟨hidden, _⟩
    · exact shown ▸ List.mem_append_left _ member
    · exact hidden ▸ member

theorem read
    {addr length : Nat} {io : Io} {result : Except Errno (List UInt8)}
    (read : s.io.read addr length = (io, result)) :
    SameContent s { s with io := io } where
  slots := fun _ => rfl
  mem := Io.read_mem_eq read
  pending := rfl
  out := fun _ member => (Io.read_out_eq read) ▸ member

/-- Only progress flags of one slot changed. -/
theorem setSlot
    {idx : Fin configSlotCount} {slot : ConfigSlot}
    (same : slot.content = (s.slots idx).content) :
    SameContent s (s.setSlot idx slot) where
  slots := by
    intro other
    by_cases equal : other = idx
    · subst equal
      simpa [ConfigPlane.setSlot] using same
    · simp [ConfigPlane.setSlot, Function.update_of_ne equal]
  mem := rfl
  pending := rfl
  out := fun _ member => member

theorem fields (same : SameContent s s') (idx : Fin configSlotCount) :
    (s'.slots idx).active = (s.slots idx).active ∧
      (s'.slots idx).dstDeviceId = (s.slots idx).dstDeviceId ∧
      (s'.slots idx).dstDeviceType = (s.slots idx).dstDeviceType ∧
      (s'.slots idx).configId = (s.slots idx).configId ∧
      (s'.slots idx).configLen = (s.slots idx).configLen ∧
      (s'.slots idx).configCrc32 = (s.slots idx).configCrc32 := by
  simpa [ConfigSlot.content] using same.slots idx

theorem payload (same : SameContent s s') (idx : Fin configSlotCount) :
    s'.payload idx = s.payload idx := by
  obtain ⟨_, _, _, _, length, _⟩ := same.fields idx
  unfold ConfigPlane.payload
  rw [length, same.mem]

end SameContent

namespace ConfigPlane

variable {env : Env} {s s' : ConfigPlane}

section Searches

theorem findConfigSlot_some
    {dst : UInt16} {idx : Fin configSlotCount}
    (found : s.findConfigSlot dst = some idx) :
    (s.slots idx).active = true ∧ (s.slots idx).dstDeviceId = dst := by
  unfold findConfigSlot at found
  simpa using Fin.eq_true_of_find?_eq_some found

theorem findConfigSlot_none
    {dst : UInt16} (missing : s.findConfigSlot dst = none)
    (idx : Fin configSlotCount) (active : (s.slots idx).active = true) :
    (s.slots idx).dstDeviceId ≠ dst := by
  unfold findConfigSlot at missing
  simp only [Fin.find?_eq_none_iff] at missing
  have different := missing idx
  simp only [active, true_and, decide_eq_false_iff_not] at different
  exact different

theorem freeSlot_some
    {idx : Fin configSlotCount} (found : s.freeSlot = some idx) :
    (s.slots idx).active = false := by
  unfold freeSlot at found
  simpa using Fin.eq_true_of_find?_eq_some found

theorem findDeviceSlot_some
    {deviceId : UInt16} {deviceType : UInt8} {idx : Fin configSlotCount}
    (found : s.findDeviceSlot deviceId deviceType = some idx) :
    (s.slots idx).active = true ∧ (s.slots idx).dstDeviceId = deviceId ∧
      (s.slots idx).dstDeviceType = deviceType := by
  unfold findDeviceSlot at found
  simpa using Fin.eq_true_of_find?_eq_some found

theorem findDeviceSlot_none
    {deviceId : UInt16} {deviceType : UInt8}
    (missing : s.findDeviceSlot deviceId deviceType = none)
    (idx : Fin configSlotCount) (active : (s.slots idx).active = true)
    (device : (s.slots idx).dstDeviceId = deviceId) :
    (s.slots idx).dstDeviceType ≠ deviceType := by
  unfold findDeviceSlot at missing
  simp only [Fin.find?_eq_none_iff] at missing
  have different := missing idx
  simp only [active, device, true_and, decide_eq_false_iff_not] at different
  exact different

theorem allocConfigSlot_some
    {idx : Fin configSlotCount}
    (allocated : s.allocConfigSlot = some (s', idx)) :
    s.freeSlot = some idx ∧ SameContent s s' ∧ s'.io = s.io := by
  obtain ⟨found, rfl⟩ := allocConfigSlot_allocated allocated
  refine ⟨found, ⟨?_, rfl, rfl, fun _ member => member⟩, rfl⟩
  intro other
  by_cases equal : other = idx
  · subst equal
    simp [setSlot, ConfigSlot.content]
  · simp [setSlot, Function.update_of_ne equal]

end Searches

section Regions

/-- The bytes of a slot lie inside the configuration region. -/
theorem configSlot_inside (idx : Fin configSlotCount) :
    psramConfigBase ≤ configSlotPsramAddr idx ∧
      configSlotPsramAddr idx + maxConfigSize ≤ configRegionEnd := by
  have below : idx.val < 256 := idx.isLt
  have region : configRegionEnd = psramConfigBase + 256 * 128 := rfl
  have size : maxConfigSize = 128 := rfl
  unfold configSlotPsramAddr
  rw [region, size]
  omega

/-- The bytes of two slots do not overlap. -/
theorem configSlots_apart
    {idx other : Fin configSlotCount} (different : other ≠ idx) :
    configSlotPsramAddr other + maxConfigSize ≤ configSlotPsramAddr idx ∨
      configSlotPsramAddr idx + maxConfigSize ≤ configSlotPsramAddr other := by
  have distinct : other.val ≠ idx.val := fun same => different (Fin.ext same)
  have size : maxConfigSize = 128 := rfl
  unfold configSlotPsramAddr
  rw [size]
  omega

/-- A write of a configuration leaves the bytes of every other slot alone. -/
theorem slice_splice_other
    {idx other : Fin configSlotCount} {block : List UInt8} {length : Nat}
    (mem : Store) (different : other ≠ idx)
    (fits : block.length ≤ maxConfigSize) (short : length ≤ maxConfigSize) :
    slice (splice mem (configSlotPsramAddr idx) block)
        (configSlotPsramAddr other) length =
      slice mem (configSlotPsramAddr other) length := by
  have apart := configSlots_apart different
  apply slice_splice_of_disjoint
  omega

end Regions

section Same

theorem foldl_put_same (actions : List Action) (s : ConfigPlane) :
    SameContent s (actions.foldl put s) := by
  induction actions generalizing s with
  | nil => exact .refl s
  | cons action rest inductionHypothesis =>
      exact (SameContent.put s action).trans (inductionHypothesis _)

theorem sendConfig_same
    (pkt : Config) (dstId : UInt16) (priority : UInt8) (s : ConfigPlane) :
    SameContent s (s.sendConfig env pkt dstId priority) :=
  .put s _

theorem markSent_same (idx : Fin configSlotCount) (s : ConfigPlane) :
    SameContent s (s.markSent env idx) :=
  .setSlot rfl

theorem buildConfigPkt_same
    {pkt : RouteInfo} {built : Config}
    (ok : s.buildConfigPkt pkt = .ok (s', built)) : SameContent s s' := by
  unfold buildConfigPkt at ok
  split at ok
  · dsimp only at ok
    split at ok
    · cases ok
      exact .refl s
    · split at ok
      · next reading =>
        cases ok
        exact .read reading
      · next reading =>
        cases ok
        exact (SameContent.read reading).trans (.setSlot rfl)
  · cases ok

theorem sendRoutedConfig_same
    {pkt : RouteInfo} {srcId : UInt16}
    (ok : s.sendRoutedConfig env pkt srcId = .ok s') : SameContent s s' := by
  unfold sendRoutedConfig at ok
  dsimp only at ok
  split at ok
  · cases ok
    exact .refl s
  · split at ok
    · cases ok
    · next built =>
      have same := buildConfigPkt_same built
      split at ok
      · cases ok
        exact same.trans (.put _ _)
      · cases ok
        exact (same.trans (sendConfig_same _ _ _ _)).trans (.put _ _)

end Same

end ConfigPlane

end DectMesh
