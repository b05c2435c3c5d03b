import DectMesh.Queue

/-!
# The radio

`radio.c`: what a transmission carries, and what the callbacks of the modem do
with one that is received.  The modem reports the control channel of a
transmission first and then its data channel.
-/

namespace DectMesh

/-- What goes over the air: the data, and of `struct phy_ctrl_field_common`
the fields that are no constants of the build. -/
structure Transmission where
  packetLength : UInt8
  transmitterIdHi : UInt8
  transmitterIdLo : UInt8
  data : List UInt8
  deriving DecidableEq

section Transmit

/-- The subslots that `data_len` bytes need, 14 bytes each. -/
def subslotsNeeded (dataLen : Nat) : UInt8 :=
  let packetLength := UInt8.ofNat ((dataLen + 13) / 14)
  if packetLength = 0 then 1 else packetLength

/-- The `packet_length` of a transmission, for which 0 stands for what the
data needs. -/
def subslots (packetLength : UInt8) (dataLen : Nat) : UInt8 :=
  let packetLength :=
    if packetLength = 0 then subslotsNeeded dataLen else packetLength
  if 15 < packetLength then 15 else packetLength

/-- `transmit`. -/
def transmit (deviceId : UInt16) (data : List UInt8) (packetLength : UInt8) :
    Transmission where
  packetLength := subslots packetLength data.length
  transmitterIdHi := (deviceId >>> 8).toUInt8
  transmitterIdLo := deviceId.toUInt8
  data := data

/-- The sender that `on_pcc` reads. -/
def Transmission.transmitterId (t : Transmission) : UInt16 :=
  t.transmitterIdHi.toUInt16 <<< 8 ||| t.transmitterIdLo.toUInt16

/-- The receiver reads the id of the sender. -/
theorem transmit_transmitterId (deviceId : UInt16) (data : List UInt8)
    (packetLength : UInt8) :
    (transmit deviceId data packetLength).transmitterId = deviceId := by
  apply UInt16.toNat_inj.mp
  have bound := deviceId.toNat_lt
  have low : deviceId.toNat % 256 < 2 ^ 8 := Nat.mod_lt _ (by decide)
  simp only [Transmission.transmitterId, transmit, UInt16.toNat_or,
    UInt16.toNat_shiftLeft, UInt16.toNat_shiftRight, UInt8.toNat_toUInt16,
    UInt16.toNat_toUInt8, UInt16.reduceToNat, Nat.reduceMod,
    Nat.shiftRight_eq_div_pow]
  rw [Nat.mod_eq_of_lt, ← Nat.shiftLeft_add_eq_or_of_lt low, Nat.shiftLeft_eq]
  · omega
  · rw [Nat.shiftLeft_eq]
    omega

/-- What fits into an item of the queues fits into the subslots that are asked
for, and their number into the four bits of the header. -/
theorem subslots_fit {dataLen : Nat} (fits : dataLen ≤ queueDataMax) :
    1 ≤ (subslots 0 dataLen).toNat ∧ (subslots 0 dataLen).toNat ≤ 15 ∧
      dataLen ≤ 14 * (subslots 0 dataLen).toNat := by
  have most : queueDataMax = 200 := rfl
  have size : UInt8.size = 256 := rfl
  have needed : (UInt8.ofNat ((dataLen + 13) / 14)).toNat =
      (dataLen + 13) / 14 := UInt8.toNat_ofNat_of_lt' (by omega)
  have one : (1 : UInt8).toNat = 1 := rfl
  have fifteen : (15 : UInt8).toNat = 15 := rfl
  unfold subslots subslotsNeeded
  dsimp only
  rw [if_pos rfl]
  by_cases none : UInt8.ofNat ((dataLen + 13) / 14) = 0
  · have empty : (dataLen + 13) / 14 = 0 := by
      rw [← needed, none]
      rfl
    rw [if_pos none, if_neg (by decide), one]
    omega
  · have some : (dataLen + 13) / 14 ≠ 0 := by
      intro zero
      rw [zero] at none
      exact none rfl
    have short : ¬ 15 < UInt8.ofNat ((dataLen + 13) / 14) := by
      rw [UInt8.lt_iff_toNat_lt, needed, fifteen]
      omega
    rw [if_neg none, if_neg short, needed]
    omega

end Transmit

section Receive

/-- `last_sender_id`, and the transmission whose control channel the modem
reported last. -/
structure Radio where
  lastSenderId : UInt16 := 0
  arriving : Option Transmission := none

/-- `on_pcc`. -/
def onPcc (t : Transmission) : Radio where
  lastSenderId := t.transmitterId
  arriving := some t

/-- The packets that `should_enqueue` takes from anybody. -/
def controlPacket (packetType : UInt8) : Bool :=
  0x01 ≤ packetType ∧ packetType ≤ 0x04 ∨ packetType = 0x0B ∨
    packetType = 0x0C

/-- The item of `on_pdc`. -/
def RxDataItem.ofEvent (senderId : UInt16) (rssi2 : Int16)
    (data : List UInt8) : RxDataItem where
  senderId := senderId
  rssi2 := rssi2
  dataLen := min data.length queueDataMax
  data := .ofData queueDataMax data

/-- What was sent stands at the front of the item, whatever the modem reports
behind it. -/
theorem RxDataItem.ofEvent_data (senderId : UInt16) (rssi2 : Int16)
    {sent : List UInt8} (padding : List UInt8)
    (fits : sent.length ≤ queueDataMax) :
    ∃ rest, (ofEvent senderId rssi2 (sent ++ padding)).data.bytes =
      sent ++ rest := by
  unfold ofEvent Buffer.ofData
  dsimp only
  rw [List.append_assoc, List.take_append, List.take_of_length_le fits]
  exact ⟨_, rfl⟩

end Receive

end DectMesh
