import DectMesh.Mesh.Destinations
import DectMesh.Mesh.ParentRun

/-!
# The hop numbers of the neighbours

A handler leaves the entries of the infrastructure neighbours as they are,
removes some, or writes the one of a single device.
-/

namespace DectMesh

namespace MeshPlane

variable {env : MeshEnv} {s s' s'' : MeshPlane}

/-- The neighbours with their hop numbers. -/
def hops (s : MeshPlane) : List (UInt16 × UInt8) :=
  s.entries.map fun entry => (entry.deviceId, entry.hopNum)

theorem hops_ids (s : MeshPlane) : s.hops.map Prod.fst = s.infraIds := by
  simp [hops, infraIds]

/-- The entry of the device was written, with this hop number. -/
structure Writes (deviceId : UInt16) (hopNum : UInt8) (s s' : MeshPlane) :
    Prop where
  distinct : s.infraIds.Nodup → s'.infraIds.Nodup
  written : (deviceId, hopNum) ∈ s'.hops
  others : ∀ pair ∈ s'.hops, pair.1 ≠ deviceId → pair ∈ s.hops
  sorted : s'.entries.Pairwise CloserFirst

namespace Keeps

theorem hops (keeps : Keeps s s') : s'.hops ⊆ s.hops := fun _ member => by
  obtain ⟨entry, inside, rfl⟩ := List.mem_map.mp member
  exact List.mem_map_of_mem (keeps.subset inside)

theorem distinct (keeps : Keeps s s') (distinct : s.infraIds.Nodup) :
    s'.infraIds.Nodup := by
  obtain ⟨known, perm, sub⟩ := keeps.ids
  exact perm.nodup_iff.mp (List.Nodup.sublist sub distinct)

end Keeps

namespace Writes

variable {deviceId : UInt16} {hopNum : UInt8}

theorem after (keeps : Keeps s s') (writes : Writes deviceId hopNum s' s'') :
    Writes deviceId hopNum s s'' where
  distinct distinct := writes.distinct (keeps.distinct distinct)
  written := writes.written
  others pair member other := keeps.hops (writes.others pair member other)
  sorted := writes.sorted

theorem then_same (writes : Writes deviceId hopNum s s')
    (same : SameParent s' s'') : Writes deviceId hopNum s s'' := by
  obtain ⟨distinct, written, others, sorted⟩ := writes
  unfold infraIds hops at *
  refine ⟨?_, ?_, ?_, ?_⟩
  · unfold infraIds
    rw [same.entries]
    exact distinct
  · rw [hops, same.entries]
    exact written
  · rw [hops, same.entries]
    exact others
  · rw [same.entries]
    exact sorted

/-- The hop number of the device is the one that was written. -/
theorem only (writes : Writes deviceId hopNum s s')
    (distinct : s.infraIds.Nodup) {pair : UInt16 × UInt8}
    (member : pair ∈ s'.hops) (same : pair.1 = deviceId) :
    pair.2 = hopNum := by
  have ids : (s'.hops.map Prod.fst).Nodup :=
    s'.hops_ids ▸ writes.distinct distinct
  have pairs := List.inj_on_of_nodup_map ids member writes.written same
  exact congrArg Prod.snd pairs

end Writes

/-- The table after a neighbour was added, in the EEPROM or not. -/
theorem storageInfraAdd_entries
    (room : s.storage.infra.count < maxAnchors) (entry : InfraRecord) :
    (s.setStorage (s.storage.storageInfraAdd entry).1).entries.Perm
        (s.entries ++ [entry]) ∧
      (s.setStorage (s.storage.storageInfraAdd entry).1).entries.Pairwise
        CloserFirst := by
  unfold Storage.storageInfraAdd
  split
  · next full => exact absurd full (Nat.not_le.mpr room)
  · unfold entries infra
    rw [setStorage_storage, flushInfra_infra]
    refine ⟨?_, Storage.sortInfraDevices_sorted _⟩
    refine (Storage.sortInfraDevices_perm _).trans (.of_eq ?_)
    simp [Storage.tables, RamTable.append]

theorem addInfra_entries
    (room : s.storage.infra.count < maxAnchors) {entry : InfraRecord}
    {flag : Bool} (up : s.addInfra env entry = .ok (s', flag)) :
    s'.entries.Perm (s.entries ++ [entry]) ∧
      s'.entries.Pairwise CloserFirst := by
  have stored := storageInfraAdd_entries room entry
  unfold addInfra at up
  split at up
  · next added =>
    rw [added] at stored
    cases up
    exact stored
  · next storage added =>
    rw [added] at stored
    have linked : (s.setStorage storage).infra ≠ [] := by
      intro empty
      have length := stored.1.length_eq
      rw [entries, empty, List.length_append] at length
      cases length
    split at up
    · cases up
    · next done =>
      cases up
      rw [deviceInfoUpdate_entries linked done]
      exact stored

theorem addInfra_writes
    (room : s.storage.infra.count < maxAnchors) {entry : InfraRecord}
    (fresh : s.findInfra entry.deviceId = none) {flag : Bool}
    (up : s.addInfra env entry = .ok (s', flag)) :
    Writes entry.deviceId entry.hopNum s s' := by
  obtain ⟨perm, sorted⟩ := addInfra_entries room up
  refine ⟨fun distinct => ?_, ?_, ?_, sorted⟩
  · refine (perm.map InfraRecord.deviceId).nodup_iff.mpr ?_
    exact nodup_append_fresh distinct (findInfra_none fresh)
  · refine List.mem_map.mpr ⟨entry, perm.mem_iff.mpr ?_, rfl⟩
    exact List.mem_append_right _ List.mem_cons_self
  · intro pair member other
    obtain ⟨known, inside, rfl⟩ := List.mem_map.mp member
    rcases List.mem_append.mp (perm.mem_iff.mp inside) with old | new
    · exact List.mem_map_of_mem old
    · rw [List.mem_singleton.mp new] at other
      exact absurd rfl other

/-- The value that `update_infra_storage` writes over a hop number. -/
def refreshedHop (hopNum old : UInt8) : UInt8 :=
  if hopNum ≠ 0xFF then hopNum else old

theorem updateInfraStorage_writes
    {deviceId : UInt16} {hopNum : UInt8} {rssi2 : Int16} {flag : Bool}
    (known : s.findInfra deviceId ≠ none)
    (up : s.updateInfraStorage env deviceId hopNum rssi2 = .ok (s', flag)) :
    ∃ old, (deviceId, old) ∈ s.hops ∧
      Writes deviceId (refreshedHop hopNum old) s s' := by
  rcases updateInfraStorage_entries up with
    ⟨missing, -⟩ | ⟨index, entry, found, here, perm, sorted⟩
  · exact absurd missing known
  · obtain ⟨same, here', address⟩ := findInfra_entry found
    rw [here] at here'
    obtain rfl := Option.some.inj here'
    have inside := (List.getElem?_eq_some_iff.mp here).1
    refine ⟨entry.hopNum, ?_, fun distinct => ?_, ?_, ?_, sorted⟩
    · exact List.mem_map.mpr ⟨entry, List.mem_of_getElem? here,
        Prod.ext address rfl⟩
    · refine (perm.map InfraRecord.deviceId).nodup_iff.mpr ?_
      have ids : (s.entries.set index (updatedInfra hopNum rssi2 entry)).map
          InfraRecord.deviceId = s.infraIds := map_set_same here rfl
      rw [ids]
      exact distinct
    · refine List.mem_map.mpr ⟨updatedInfra hopNum rssi2 entry,
        perm.mem_iff.mpr (List.mem_set inside _), ?_⟩
      exact Prod.ext address rfl
    · intro pair member other
      obtain ⟨after, present, rfl⟩ := List.mem_map.mp member
      rcases List.mem_or_eq_of_mem_set (perm.mem_iff.mp present) with
        old | rfl
      · exact List.mem_map_of_mem old
      · exact absurd address other

end MeshPlane

end DectMesh
