import DectMesh.Mesh.Destinations
import DectMesh.Mesh.Spares

/-!
# The handshakes and the selection

The answers of a handshake and the forgetting of a device leave the five
variables of the selection alone.
-/

namespace DectMesh

namespace MeshPlane

variable {env : MeshEnv} {s : MeshPlane}

theorem admitNeighbour_selection
    (deviceType : UInt8) (srcId version : UInt16) (wanted : Bool)
    (entry : InfraRecord) {answer : MeshPlane → UInt8 → MeshPlane}
    (silent : ∀ t status, (answer t status).selection = t.selection) :
    (plane (s.admitNeighbour env deviceType srcId version wanted entry
      answer)).selection = s.selection := by
  unfold admitNeighbour
  split
  · dsimp only
    split
    · have added := (@addInfra_spares env s entry).selection
      split
      · next down => rwa [down] at added
      · next failed => rwa [failed] at added
      · next stored =>
        rw [stored] at added
        exact (silent _ _).trans added
    · exact silent _ _
  · split
    · dsimp only
      split
      · have added := (@addSensor_spares s srcId version).selection
        split
        · next failed => rwa [failed] at added
        · next stored =>
          rw [stored] at added
          exact (silent _ _).trans added
      · exact silent _ _
    · rfl

theorem handlePairConfirm_selection
    (pkt : PairConfirm) (srcId : UInt16) (rssi2 : Int16) :
    (plane (s.handlePairConfirm env pkt srcId rssi2)).selection =
      s.selection := by
  unfold handlePairConfirm
  split
  · rfl
  · split
    · exact admitNeighbour_selection _ _ _ _ _ fun _ _ => rfl
    · exact admitNeighbour_selection _ _ _ _ _ fun _ _ => rfl
    · rfl
    · rfl

theorem handleRepairRequest_selection
    (pkt : RepairRequest) (srcId : UInt16) (rssi2 : Int16) :
    (plane (s.handleRepairRequest env pkt srcId rssi2)).selection =
      s.selection := by
  unfold handleRepairRequest
  split
  · rfl
  · split
    · rfl
    · split
      · exact admitNeighbour_selection _ _ _ _ _ fun _ _ => rfl
      · exact admitNeighbour_selection _ _ _ _ _ fun _ _ => rfl
      · rfl
      · rfl

theorem pinged_selection (pkt : PingDevice) :
    (s.pinged env pkt).selection = s.selection := by
  unfold pinged
  split
  · rfl
  · exact (forget_spares pkt).selection

end MeshPlane

end DectMesh
