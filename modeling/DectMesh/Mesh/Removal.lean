import DectMesh.Mesh.Handshake
import DectMesh.Mesh.ParentRun

/-!
# The removal of infrastructure neighbours

An entry is removed when a ping or an update asks for it, when the device does
not answer any more, and when the board starts over.
-/

namespace DectMesh

namespace MeshPlane

variable {env : MeshEnv} {s s' s'' : MeshPlane}

/-- Entries were removed at most. -/
def Keeps (s s' : MeshPlane) : Prop := s'.entries.Subperm s.entries

namespace Keeps

theorem refl (s : MeshPlane) : Keeps s s := List.Subperm.refl _

theorem of_entries (same : s'.entries = s.entries) : Keeps s s' := by
  rw [Keeps, same]

theorem of_parent (same : SameParent s s') : Keeps s s' :=
  of_entries same.entries

theorem trans (first : Keeps s s') (second : Keeps s' s'') : Keeps s s'' :=
  List.Subperm.trans second first

theorem of_erase {index : Nat}
    (same : s'.entries = s.entries.eraseIdx index) : Keeps s s' := by
  rw [Keeps, same]
  exact (List.eraseIdx_sublist _ _).subperm

theorem of_empty (empty : s'.entries = []) : Keeps s s' := by
  rw [Keeps, empty]
  exact List.nil_subperm

theorem deviceInfoUpdate (up : s.deviceInfoUpdate env = .ok s') :
    Keeps s s' := by
  by_cases empty : s.infra = []
  · unfold MeshPlane.deviceInfoUpdate at up
    split at up
    · cases up
      exact .refl s
    · cases up
      exact .of_empty rfl
  · exact .of_entries (deviceInfoUpdate_entries empty up)

theorem storageInfraRemove (index : Nat) :
    Keeps s (s.setStorage (s.storage.storageInfraRemove index).1) := by
  have live := storageInfraRemove_live s.storage index
  refine @Keeps.of_erase _ _ index ?_
  unfold entries infra
  rw [setStorage_storage, live, List.eraseIdx_map]

theorem dropInfra {deviceId : UInt16} (up : s.dropInfra env deviceId = .ok s') :
    Keeps s s' := by
  unfold MeshPlane.dropInfra at up
  split at up
  · cases up
    exact .refl s
  · exact (storageInfraRemove _).trans (.deviceInfoUpdate up)

theorem forgetInfra (pkt : PingDevice) : Keeps s (s.forgetInfra env pkt) := by
  have entries := @forgetInfra_entries env s pkt
  split at entries
  · exact .of_entries entries
  · exact .of_erase entries

theorem knownDeviceUpdateCommTime {deviceId : UInt16}
    (up : s.knownDeviceUpdateCommTime env deviceId = .ok s') : Keeps s s' := by
  unfold MeshPlane.knownDeviceUpdateCommTime at up
  split at up
  · cases up
    exact .of_empty rfl
  · split at up
    · next index found =>
      have marked : Keeps s (s.updateInfra index (failed env.now)) :=
        .of_parent (.updateInfra s index fun _ => rfl)
      dsimp only at up
      split at up
      · cases up
        exact marked
      · split at up
        · exact marked.trans
            ((storageInfraRemove index).trans (.deviceInfoUpdate up))
        · cases up
          exact marked
    · split at up
      · cases up
        exact .refl s
      · next index found =>
        dsimp only at up
        split at up
        · cases up
          exact .refl s
        · split at up
          · cases up
            have infra := storageSensorRemove_infra
              (s.updateSensor index (failed env.now)).storage index
            refine .of_parent ⟨?_, rfl, rfl⟩
            exact congrArg (fun table => table.live.map Neighbour.entry) infra
          · cases up
            exact .refl s

theorem trackerExhausted {isPing isPairing : Bool} {dstId : UInt16}
    (up : s.trackerExhausted env isPing isPairing dstId = .ok s') :
    Keeps s s' := by
  unfold MeshPlane.trackerExhausted at up
  dsimp only at up
  split at up
  · cases up
    split
    · exact .refl s
    · exact .refl s
  · split at up
    · have kept : Keeps { s with tempId := 0xFFFF } s' :=
        .knownDeviceUpdateCommTime up
      exact kept
    · exact .knownDeviceUpdateCommTime up

theorem handleDeviceUpdatedAck {pkt : DeviceUpdatedAck} {srcId : UInt16}
    (up : s.handleDeviceUpdatedAck env pkt srcId = .ok s') : Keeps s s' := by
  unfold MeshPlane.handleDeviceUpdatedAck at up
  split at up
  · cases up
    exact .refl s
  · dsimp only at up
    split at up
    · cases up
      exact .refl s
    · split at up
      · cases up
        exact .refl s
      · have dropped : Keeps (s.put (.untrack pkt.hdr.trackingId)) s' :=
          .dropInfra up
        exact dropped

end Keeps

end MeshPlane

end DectMesh
