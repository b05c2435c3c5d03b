import DectMesh.Library.PackedLayout
import DectMesh.Mesh.Model

/-!
# Frames

The packed structures of the protocol byte for byte, and the switch of
`process_rx` that casts a received buffer to one of them.
-/

namespace DectMesh

/-- A packet of either part of the protocol. -/
inductive AirPacket where
  | mesh (pkt : MeshPacket)
  | data (pkt : Packet)
  deriving DecidableEq

namespace Wire

open PackedLayout

section Fields

def word16 : PackedLayout UInt16 :=
  (number 2).struct (fun value => UInt16.ofNat value)
    (fun value => ⟨value.toNat, value.toNat_lt⟩)
    (fun value => Fin.ext (UInt16.toNat_ofNat_of_lt' value.isLt))
    fun _ => UInt16.ofNat_toNat

def word32 : PackedLayout UInt32 :=
  (number 4).struct (fun value => UInt32.ofNat value)
    (fun value => ⟨value.toNat, value.toNat_lt⟩)
    (fun value => Fin.ext (UInt32.toNat_ofNat_of_lt' value.isLt))
    fun _ => UInt32.ofNat_toNat

def word64 : PackedLayout UInt64 :=
  (number 8).struct (fun value => UInt64.ofNat value)
    (fun value => ⟨value.toNat, value.toNat_lt⟩)
    (fun value => Fin.ext (UInt64.toNat_ofNat_of_lt' value.isLt))
    fun _ => UInt64.ofNat_toNat

theorem bytes_length {capacity : Nat}
    (data : {data : List UInt8 // data.length = capacity}) :
    data.1.length = capacity := data.2

def buffer (capacity : Nat) : PackedLayout (Buffer capacity) :=
  (bytes capacity).struct (fun data => ⟨data.1, bytes_length data⟩)
    fun data => ⟨data.bytes, data.full⟩

/-- `packet_header_t` behind the packet type. -/
def header : PackedLayout PacketHeader :=
  (byte.pair (byte.pair (byte.pair (word16.pair byte)))).struct
    (fun (deviceType, priority, trackingId, deviceId, status) =>
      { deviceType, priority, trackingId, deviceId, status })
    fun hdr => (hdr.deviceType, hdr.priority, hdr.trackingId, hdr.deviceId,
      hdr.status)

/-- `route_info_entry_t`. -/
def routeEntry : PackedLayout RouteInfoEntry :=
  (word16.pair byte).struct (fun (deviceId, hopNum) => { deviceId, hopNum })
    fun entry => (entry.deviceId, entry.hopNum)

/-- `route_info[MAX_DEPTH]`. -/
def routeTable : PackedLayout RouteInfoTable := routeEntry.array maxDepth

end Fields

section Packets

/-- `pair_request_t`. -/
def pairRequest : PackedLayout PairRequest :=
  (header.pair (word32.pair word32)).struct
    (fun (hdr, randomNum, hash) => { hdr, randomNum, hash })
    fun pkt => (pkt.hdr, pkt.randomNum, pkt.hash)

/-- `pair_response_t`. -/
def pairResponse : PackedLayout PairResponse :=
  (header.pair byte).struct
    (fun (hdr, hopNum) => { hdr, hopNum })
    fun pkt => (pkt.hdr, pkt.hopNum)

/-- `pair_confirm_t`. -/
def pairConfirm : PackedLayout PairConfirm :=
  (header.pair (word16.pair byte)).struct
    (fun (hdr, version, hopNum) => { hdr, version, hopNum })
    fun pkt => (pkt.hdr, pkt.version, pkt.hopNum)

/-- `pair_ack_t`. -/
def pairAck : PackedLayout PairAck :=
  (header.pair (word16.pair byte)).struct
    (fun (hdr, version, hopNum) => { hdr, version, hopNum })
    fun pkt => (pkt.hdr, pkt.version, pkt.hopNum)

/-- `joined_network_t`. -/
def joinedNetwork : PackedLayout JoinedNetwork :=
  (header.pair (byte.pair (word16.pair (word64.pair (word16.pair (
    word16.pair (byte.pair byte))))))).struct
    (fun (hdr, deviceType, deviceId, serialNum, version, connectedDeviceId,
        hopNum, sensorCount) =>
      { hdr, deviceType, deviceId, serialNum, version, connectedDeviceId,
        hopNum, sensorCount })
    fun pkt => (pkt.hdr, pkt.deviceType, pkt.deviceId, pkt.serialNum,
      pkt.version, pkt.connectedDeviceId, pkt.hopNum, pkt.sensorCount)

/-- `joined_network_ack_t`. -/
def joinedNetworkAck : PackedLayout JoinedNetworkAck :=
  (header.pair (word16.pair byte)).struct
    (fun (hdr, dstDeviceId, dstDeviceType) =>
      { hdr, dstDeviceId, dstDeviceType })
    fun pkt => (pkt.hdr, pkt.dstDeviceId, pkt.dstDeviceType)

/-- `ping_device_t`. -/
def pingDevice : PackedLayout PingDevice :=
  (header.pair (word16.pair (byte.pair (word16.pair (word16.pair
    word64))))).struct
    (fun (hdr, dstDeviceId, hopNum, version, totalDevices, timestamp) =>
      { hdr, dstDeviceId, hopNum, version, totalDevices, timestamp })
    fun pkt => (pkt.hdr, pkt.dstDeviceId, pkt.hopNum, pkt.version,
      pkt.totalDevices, pkt.timestamp)

/-- `ping_ack_t`. -/
def pingAck : PackedLayout PingAck :=
  (header.pair (word16.pair (byte.pair (word16.pair word64)))).struct
    (fun (hdr, dstDeviceId, hopNum, version, timestamp) =>
      { hdr, dstDeviceId, hopNum, version, timestamp })
    fun pkt => (pkt.hdr, pkt.dstDeviceId, pkt.hopNum, pkt.version,
      pkt.timestamp)

/-- `device_updated_t`. -/
def deviceUpdated : PackedLayout DeviceUpdated :=
  (header.pair (byte.pair (word16.pair (word64.pair (word16.pair (
    word16.pair (byte.pair byte))))))).struct
    (fun (hdr, deviceType, deviceId, serialNum, version, connectedDeviceId,
        hopNum, sensorCount) =>
      { hdr, deviceType, deviceId, serialNum, version, connectedDeviceId,
        hopNum, sensorCount })
    fun pkt => (pkt.hdr, pkt.deviceType, pkt.deviceId, pkt.serialNum,
      pkt.version, pkt.connectedDeviceId, pkt.hopNum, pkt.sensorCount)

/-- `device_updated_ack_t`. -/
def deviceUpdatedAck : PackedLayout DeviceUpdatedAck :=
  (header.pair (word16.pair byte)).struct
    (fun (hdr, dstDeviceId, dstDeviceType) =>
      { hdr, dstDeviceId, dstDeviceType })
    fun pkt => (pkt.hdr, pkt.dstDeviceId, pkt.dstDeviceType)

/-- `repair_request_t`. -/
def repairRequest : PackedLayout RepairRequest :=
  (header.pair (word32.pair (word32.pair (word16.pair byte)))).struct
    (fun (hdr, randomNum, hash, version, hopNum) =>
      { hdr, randomNum, hash, version, hopNum })
    fun pkt => (pkt.hdr, pkt.randomNum, pkt.hash, pkt.version, pkt.hopNum)

/-- `repair_response_t`. -/
def repairResponse : PackedLayout RepairResponse :=
  (header.pair (word16.pair byte)).struct
    (fun (hdr, version, hopNum) => { hdr, version, hopNum })
    fun pkt => (pkt.hdr, pkt.version, pkt.hopNum)

/-- `route_discovery_t`. -/
def routeDiscovery : PackedLayout RouteDiscovery :=
  (header.pair (word16.pair (byte.pair (byte.pair (byte.pair
    word16))))).struct
    (fun (hdr, deviceId, deviceType, hopNum, dataType, dataId) =>
      { hdr, deviceId, deviceType, hopNum, dataType, dataId })
    fun pkt => (pkt.hdr, pkt.deviceId, pkt.deviceType, pkt.hopNum,
      pkt.dataType, pkt.dataId)

/-- `route_discovery_ack_t`. -/
def routeDiscoveryAck : PackedLayout RouteDiscoveryAck :=
  (header.pair (word16.pair (byte.pair byte))).struct
    (fun (hdr, deviceId, deviceType, hopNum) =>
      { hdr, deviceId, deviceType, hopNum })
    fun pkt => (pkt.hdr, pkt.deviceId, pkt.deviceType, pkt.hopNum)

/-- `route_info_t`. -/
def routeInfo : PackedLayout RouteInfo :=
  (header.pair (word16.pair (byte.pair (byte.pair (word16.pair
    routeTable))))).struct
    (fun (hdr, deviceId, deviceType, dataType, dataId, routeInfo) =>
      { hdr, deviceId, deviceType, dataType, dataId, routeInfo })
    fun pkt => (pkt.hdr, pkt.deviceId, pkt.deviceType, pkt.dataType,
      pkt.dataId, pkt.routeInfo)

/-- `route_info_ack_t`. -/
def routeInfoAck : PackedLayout RouteInfoAck :=
  (header.pair (word16.pair (byte.pair (byte.pair word16)))).struct
    (fun (hdr, deviceId, deviceType, dataType, dataId) =>
      { hdr, deviceId, deviceType, dataType, dataId })
    fun pkt => (pkt.hdr, pkt.deviceId, pkt.deviceType, pkt.dataType,
      pkt.dataId)

/-- `report_init_t`. -/
def reportInit : PackedLayout ReportInit :=
  (header.pair (word16.pair (byte.pair (word64.pair (word16.pair (
    byte.pair (byte.pair word32))))))).struct
    (fun (hdr, genDeviceId, dataId, reportTimeMs, totalSize, chunkCount,
        lastChunkSize, crc32) =>
      { hdr, genDeviceId, dataId, reportTimeMs, totalSize, chunkCount,
        lastChunkSize, crc32 })
    fun pkt => (pkt.hdr, pkt.genDeviceId, pkt.dataId, pkt.reportTimeMs,
      pkt.totalSize, pkt.chunkCount, pkt.lastChunkSize, pkt.crc32)

/-- `report_init_ack_t`. -/
def reportInitAck : PackedLayout ReportInitAck :=
  (header.pair (word16.pair byte)).struct
    (fun (hdr, genDeviceId, dataId) => { hdr, genDeviceId, dataId })
    fun pkt => (pkt.hdr, pkt.genDeviceId, pkt.dataId)

/-- `report_chunk_t`. -/
def reportChunk : PackedLayout ReportChunk :=
  (header.pair (word16.pair (byte.pair (byte.pair
    (buffer sendDataMax))))).struct
    (fun (hdr, genDeviceId, dataId, chunkIndex, data) =>
      { hdr, genDeviceId, dataId, chunkIndex, data })
    fun pkt => (pkt.hdr, pkt.genDeviceId, pkt.dataId, pkt.chunkIndex,
      pkt.data)

/-- `report_chunk_ack_t`. -/
def reportChunkAck : PackedLayout ReportChunkAck :=
  (header.pair (word16.pair (byte.pair byte))).struct
    (fun (hdr, genDeviceId, dataId, chunkIndex) =>
      { hdr, genDeviceId, dataId, chunkIndex })
    fun pkt => (pkt.hdr, pkt.genDeviceId, pkt.dataId, pkt.chunkIndex)

/-- `report_received_t`. -/
def reportReceived : PackedLayout ReportReceived :=
  (header.pair (word16.pair (byte.pair routeTable))).struct
    (fun (hdr, genDeviceId, dataId, routeInfo) =>
      { hdr, genDeviceId, dataId, routeInfo })
    fun pkt => (pkt.hdr, pkt.genDeviceId, pkt.dataId, pkt.routeInfo)

/-- `report_received_ack_t`. -/
def reportReceivedAck : PackedLayout ReportReceivedAck :=
  (header.pair (word16.pair byte)).struct
    (fun (hdr, genDeviceId, dataId) => { hdr, genDeviceId, dataId })
    fun pkt => (pkt.hdr, pkt.genDeviceId, pkt.dataId)

/-- `large_data_init_t`. -/
def largeDataInit : PackedLayout LargeDataInit :=
  (header.pair (word16.pair (byte.pair (word64.pair (word32.pair (
    byte.pair (word16.pair word32))))))).struct
    (fun (hdr, genDeviceId, dataId, reportTimeMs, totalSize, pageCount,
        lastChunkSize, crc32) =>
      { hdr, genDeviceId, dataId, reportTimeMs, totalSize, pageCount,
        lastChunkSize, crc32 })
    fun pkt => (pkt.hdr, pkt.genDeviceId, pkt.dataId, pkt.reportTimeMs,
      pkt.totalSize, pkt.pageCount, pkt.lastChunkSize, pkt.crc32)

/-- `large_data_init_ack_t`. -/
def largeDataInitAck : PackedLayout LargeDataInitAck :=
  (header.pair (word16.pair byte)).struct
    (fun (hdr, genDeviceId, dataId) => { hdr, genDeviceId, dataId })
    fun pkt => (pkt.hdr, pkt.genDeviceId, pkt.dataId)

/-- `large_data_chunk_t`. -/
def largeDataChunk : PackedLayout LargeDataChunk :=
  (header.pair (word16.pair (byte.pair (byte.pair (byte.pair
    (buffer sendLargeDataMax)))))).struct
    (fun (hdr, genDeviceId, dataId, pageIndex, chunkIndex, data) =>
      { hdr, genDeviceId, dataId, pageIndex, chunkIndex, data })
    fun pkt => (pkt.hdr, pkt.genDeviceId, pkt.dataId, pkt.pageIndex,
      pkt.chunkIndex, pkt.data)

/-- `large_data_chunk_ack_t`. -/
def largeDataChunkAck : PackedLayout LargeDataChunkAck :=
  (header.pair (word16.pair (byte.pair (byte.pair byte)))).struct
    (fun (hdr, genDeviceId, dataId, pageIndex, chunkIndex) =>
      { hdr, genDeviceId, dataId, pageIndex, chunkIndex })
    fun pkt => (pkt.hdr, pkt.genDeviceId, pkt.dataId, pkt.pageIndex,
      pkt.chunkIndex)

/-- `large_data_received_t`. -/
def largeDataReceived : PackedLayout LargeDataReceived :=
  (header.pair (word16.pair byte)).struct
    (fun (hdr, genDeviceId, dataId) => { hdr, genDeviceId, dataId })
    fun pkt => (pkt.hdr, pkt.genDeviceId, pkt.dataId)

/-- `large_data_received_ack_t`. -/
def largeDataReceivedAck : PackedLayout LargeDataReceivedAck :=
  (header.pair (word16.pair byte)).struct
    (fun (hdr, genDeviceId, dataId) => { hdr, genDeviceId, dataId })
    fun pkt => (pkt.hdr, pkt.genDeviceId, pkt.dataId)

/-- `config_t`. -/
def config : PackedLayout Config :=
  (header.pair (word16.pair (byte.pair (byte.pair (word16.pair (
    routeTable.pair (byte.pair (word32.pair
    (buffer maxConfigSize))))))))).struct
    (fun (hdr, dstDeviceId, dstDeviceType, dataType, dataId, routeInfo,
        configLen, configCrc32, config) =>
      { hdr, dstDeviceId, dstDeviceType, dataType, dataId, routeInfo,
        configLen, configCrc32, config })
    fun pkt => (pkt.hdr, pkt.dstDeviceId, pkt.dstDeviceType, pkt.dataType,
      pkt.dataId, pkt.routeInfo, pkt.configLen, pkt.configCrc32, pkt.config)

/-- `config_ack_t`. -/
def configAck : PackedLayout ConfigAck :=
  (header.pair (word16.pair (byte.pair (byte.pair word16)))).struct
    (fun (hdr, dstDeviceId, dstDeviceType, dataType, dataId) =>
      { hdr, dstDeviceId, dstDeviceType, dataType, dataId })
    fun pkt => (pkt.hdr, pkt.dstDeviceId, pkt.dstDeviceType, pkt.dataType,
      pkt.dataId)

/-- `config_received_t`. -/
def configReceived : PackedLayout ConfigReceived :=
  (header.pair (word16.pair (byte.pair (byte.pair word16)))).struct
    (fun (hdr, dstDeviceId, dstDeviceType, dataType, dataId) =>
      { hdr, dstDeviceId, dstDeviceType, dataType, dataId })
    fun pkt => (pkt.hdr, pkt.dstDeviceId, pkt.dstDeviceType, pkt.dataType,
      pkt.dataId)

/-- `config_received_ack_t`. -/
def configReceivedAck : PackedLayout ConfigReceivedAck :=
  (header.pair (word16.pair (byte.pair (byte.pair word16)))).struct
    (fun (hdr, dstDeviceId, dstDeviceType, dataType, dataId) =>
      { hdr, dstDeviceId, dstDeviceType, dataType, dataId })
    fun pkt => (pkt.hdr, pkt.dstDeviceId, pkt.dstDeviceType, pkt.dataType,
      pkt.dataId)

end Packets

end Wire

section Headers

/-- `hdr` behind the packet type. -/
def MeshPacket.hdr : MeshPacket → PacketHeader
  | .pairRequest pkt => pkt.hdr
  | .pairResponse pkt => pkt.hdr
  | .pairConfirm pkt => pkt.hdr
  | .pairAck pkt => pkt.hdr
  | .joinedNetwork pkt => pkt.hdr
  | .joinedNetworkAck pkt => pkt.hdr
  | .pingDevice pkt => pkt.hdr
  | .pingAck pkt => pkt.hdr
  | .deviceUpdated pkt => pkt.hdr
  | .deviceUpdatedAck pkt => pkt.hdr
  | .repairRequest pkt => pkt.hdr
  | .repairResponse pkt => pkt.hdr

def Packet.hdr : Packet → PacketHeader
  | .routeDiscovery pkt => pkt.hdr
  | .routeDiscoveryAck pkt => pkt.hdr
  | .routeInfo pkt => pkt.hdr
  | .routeInfoAck pkt => pkt.hdr
  | .reportInit pkt => pkt.hdr
  | .reportInitAck pkt => pkt.hdr
  | .reportChunk pkt => pkt.hdr
  | .reportChunkAck pkt => pkt.hdr
  | .reportReceived pkt => pkt.hdr
  | .reportReceivedAck pkt => pkt.hdr
  | .config pkt => pkt.hdr
  | .configAck pkt => pkt.hdr
  | .configReceived pkt => pkt.hdr
  | .configReceivedAck pkt => pkt.hdr
  | .largeDataInit pkt => pkt.hdr
  | .largeDataInitAck pkt => pkt.hdr
  | .largeDataChunk pkt => pkt.hdr
  | .largeDataChunkAck pkt => pkt.hdr
  | .largeDataReceived pkt => pkt.hdr
  | .largeDataReceivedAck pkt => pkt.hdr

/-- `hdr.tracking_id` is set. -/
def MeshPacket.stamp (trackingId : UInt8) : MeshPacket → MeshPacket
  | .pairRequest pkt => .pairRequest { pkt with hdr.trackingId := trackingId }
  | .pairResponse pkt =>
      .pairResponse { pkt with hdr.trackingId := trackingId }
  | .pairConfirm pkt => .pairConfirm { pkt with hdr.trackingId := trackingId }
  | .pairAck pkt => .pairAck { pkt with hdr.trackingId := trackingId }
  | .joinedNetwork pkt =>
      .joinedNetwork { pkt with hdr.trackingId := trackingId }
  | .joinedNetworkAck pkt =>
      .joinedNetworkAck { pkt with hdr.trackingId := trackingId }
  | .pingDevice pkt => .pingDevice { pkt with hdr.trackingId := trackingId }
  | .pingAck pkt => .pingAck { pkt with hdr.trackingId := trackingId }
  | .deviceUpdated pkt =>
      .deviceUpdated { pkt with hdr.trackingId := trackingId }
  | .deviceUpdatedAck pkt =>
      .deviceUpdatedAck { pkt with hdr.trackingId := trackingId }
  | .repairRequest pkt =>
      .repairRequest { pkt with hdr.trackingId := trackingId }
  | .repairResponse pkt =>
      .repairResponse { pkt with hdr.trackingId := trackingId }

def Packet.stamp (trackingId : UInt8) : Packet → Packet
  | .routeDiscovery pkt =>
      .routeDiscovery { pkt with hdr.trackingId := trackingId }
  | .routeDiscoveryAck pkt =>
      .routeDiscoveryAck { pkt with hdr.trackingId := trackingId }
  | .routeInfo pkt => .routeInfo { pkt with hdr.trackingId := trackingId }
  | .routeInfoAck pkt =>
      .routeInfoAck { pkt with hdr.trackingId := trackingId }
  | .reportInit pkt => .reportInit { pkt with hdr.trackingId := trackingId }
  | .reportInitAck pkt =>
      .reportInitAck { pkt with hdr.trackingId := trackingId }
  | .reportChunk pkt => .reportChunk { pkt with hdr.trackingId := trackingId }
  | .reportChunkAck pkt =>
      .reportChunkAck { pkt with hdr.trackingId := trackingId }
  | .reportReceived pkt =>
      .reportReceived { pkt with hdr.trackingId := trackingId }
  | .reportReceivedAck pkt =>
      .reportReceivedAck { pkt with hdr.trackingId := trackingId }
  | .config pkt => .config { pkt with hdr.trackingId := trackingId }
  | .configAck pkt => .configAck { pkt with hdr.trackingId := trackingId }
  | .configReceived pkt =>
      .configReceived { pkt with hdr.trackingId := trackingId }
  | .configReceivedAck pkt =>
      .configReceivedAck { pkt with hdr.trackingId := trackingId }
  | .largeDataInit pkt =>
      .largeDataInit { pkt with hdr.trackingId := trackingId }
  | .largeDataInitAck pkt =>
      .largeDataInitAck { pkt with hdr.trackingId := trackingId }
  | .largeDataChunk pkt =>
      .largeDataChunk { pkt with hdr.trackingId := trackingId }
  | .largeDataChunkAck pkt =>
      .largeDataChunkAck { pkt with hdr.trackingId := trackingId }
  | .largeDataReceived pkt =>
      .largeDataReceived { pkt with hdr.trackingId := trackingId }
  | .largeDataReceivedAck pkt =>
      .largeDataReceivedAck { pkt with hdr.trackingId := trackingId }

namespace AirPacket

def hdr : AirPacket → PacketHeader
  | .mesh pkt => pkt.hdr
  | .data pkt => pkt.hdr

def stamp (trackingId : UInt8) : AirPacket → AirPacket
  | .mesh pkt => .mesh (pkt.stamp trackingId)
  | .data pkt => .data (pkt.stamp trackingId)

end AirPacket

end Headers

section Frames

namespace AirPacket

/-- `hdr.packet_type`. -/
def packetType : AirPacket → UInt8
  | .mesh (.pairRequest _) => 0x01
  | .mesh (.pairResponse _) => 0x02
  | .mesh (.pairConfirm _) => 0x03
  | .mesh (.pairAck _) => 0x04
  | .mesh (.joinedNetwork _) => 0x05
  | .mesh (.joinedNetworkAck _) => 0x06
  | .mesh (.pingDevice _) => 0x07
  | .mesh (.pingAck _) => 0x08
  | .mesh (.deviceUpdated _) => 0x09
  | .mesh (.deviceUpdatedAck _) => 0x0A
  | .mesh (.repairRequest _) => 0x0B
  | .mesh (.repairResponse _) => 0x0C
  | .data (.routeDiscovery _) => 0x0D
  | .data (.routeDiscoveryAck _) => 0x0E
  | .data (.routeInfo _) => 0x0F
  | .data (.routeInfoAck _) => 0x10
  | .data (.reportInit _) => 0x11
  | .data (.reportInitAck _) => 0x12
  | .data (.reportChunk _) => 0x13
  | .data (.reportChunkAck _) => 0x14
  | .data (.reportReceived _) => 0x15
  | .data (.reportReceivedAck _) => 0x16
  | .data (.config _) => 0x17
  | .data (.configAck _) => 0x18
  | .data (.configReceived _) => 0x19
  | .data (.configReceivedAck _) => 0x1A
  | .data (.largeDataInit _) => 0x1B
  | .data (.largeDataInitAck _) => 0x1C
  | .data (.largeDataChunk _) => 0x1D
  | .data (.largeDataChunkAck _) => 0x1E
  | .data (.largeDataReceived _) => 0x1F
  | .data (.largeDataReceivedAck _) => 0x20

/-- The structure as the `send_` functions enqueue it. -/
def encode : AirPacket → List UInt8
  | .mesh (.pairRequest pkt) => 0x01 :: Wire.pairRequest.encode pkt
  | .mesh (.pairResponse pkt) => 0x02 :: Wire.pairResponse.encode pkt
  | .mesh (.pairConfirm pkt) => 0x03 :: Wire.pairConfirm.encode pkt
  | .mesh (.pairAck pkt) => 0x04 :: Wire.pairAck.encode pkt
  | .mesh (.joinedNetwork pkt) => 0x05 :: Wire.joinedNetwork.encode pkt
  | .mesh (.joinedNetworkAck pkt) => 0x06 :: Wire.joinedNetworkAck.encode pkt
  | .mesh (.pingDevice pkt) => 0x07 :: Wire.pingDevice.encode pkt
  | .mesh (.pingAck pkt) => 0x08 :: Wire.pingAck.encode pkt
  | .mesh (.deviceUpdated pkt) => 0x09 :: Wire.deviceUpdated.encode pkt
  | .mesh (.deviceUpdatedAck pkt) => 0x0A :: Wire.deviceUpdatedAck.encode pkt
  | .mesh (.repairRequest pkt) => 0x0B :: Wire.repairRequest.encode pkt
  | .mesh (.repairResponse pkt) => 0x0C :: Wire.repairResponse.encode pkt
  | .data (.routeDiscovery pkt) => 0x0D :: Wire.routeDiscovery.encode pkt
  | .data (.routeDiscoveryAck pkt) =>
      0x0E :: Wire.routeDiscoveryAck.encode pkt
  | .data (.routeInfo pkt) => 0x0F :: Wire.routeInfo.encode pkt
  | .data (.routeInfoAck pkt) => 0x10 :: Wire.routeInfoAck.encode pkt
  | .data (.reportInit pkt) => 0x11 :: Wire.reportInit.encode pkt
  | .data (.reportInitAck pkt) => 0x12 :: Wire.reportInitAck.encode pkt
  | .data (.reportChunk pkt) => 0x13 :: Wire.reportChunk.encode pkt
  | .data (.reportChunkAck pkt) => 0x14 :: Wire.reportChunkAck.encode pkt
  | .data (.reportReceived pkt) => 0x15 :: Wire.reportReceived.encode pkt
  | .data (.reportReceivedAck pkt) =>
      0x16 :: Wire.reportReceivedAck.encode pkt
  | .data (.config pkt) => 0x17 :: Wire.config.encode pkt
  | .data (.configAck pkt) => 0x18 :: Wire.configAck.encode pkt
  | .data (.configReceived pkt) => 0x19 :: Wire.configReceived.encode pkt
  | .data (.configReceivedAck pkt) =>
      0x1A :: Wire.configReceivedAck.encode pkt
  | .data (.largeDataInit pkt) => 0x1B :: Wire.largeDataInit.encode pkt
  | .data (.largeDataInitAck pkt) => 0x1C :: Wire.largeDataInitAck.encode pkt
  | .data (.largeDataChunk pkt) => 0x1D :: Wire.largeDataChunk.encode pkt
  | .data (.largeDataChunkAck pkt) =>
      0x1E :: Wire.largeDataChunkAck.encode pkt
  | .data (.largeDataReceived pkt) =>
      0x1F :: Wire.largeDataReceived.encode pkt
  | .data (.largeDataReceivedAck pkt) =>
      0x20 :: Wire.largeDataReceivedAck.encode pkt

end AirPacket

/-- `process_rx`: the structure that a received buffer is cast to and handed
over as.  The types from `0x20` on have no handler. -/
def processRx : List UInt8 → Option AirPacket
  | [] => none
  | packetType :: rest =>
    match packetType with
    | 0x01 => some (.mesh (.pairRequest (Wire.pairRequest.read rest)))
    | 0x02 => some (.mesh (.pairResponse (Wire.pairResponse.read rest)))
    | 0x03 => some (.mesh (.pairConfirm (Wire.pairConfirm.read rest)))
    | 0x04 => some (.mesh (.pairAck (Wire.pairAck.read rest)))
    | 0x05 => some (.mesh (.joinedNetwork (Wire.joinedNetwork.read rest)))
    | 0x06 =>
        some (.mesh (.joinedNetworkAck (Wire.joinedNetworkAck.read rest)))
    | 0x07 => some (.mesh (.pingDevice (Wire.pingDevice.read rest)))
    | 0x08 => some (.mesh (.pingAck (Wire.pingAck.read rest)))
    | 0x09 => some (.mesh (.deviceUpdated (Wire.deviceUpdated.read rest)))
    | 0x0A =>
        some (.mesh (.deviceUpdatedAck (Wire.deviceUpdatedAck.read rest)))
    | 0x0B => some (.mesh (.repairRequest (Wire.repairRequest.read rest)))
    | 0x0C => some (.mesh (.repairResponse (Wire.repairResponse.read rest)))
    | 0x0D => some (.data (.routeDiscovery (Wire.routeDiscovery.read rest)))
    | 0x0E =>
        some (.data (.routeDiscoveryAck (Wire.routeDiscoveryAck.read rest)))
    | 0x0F => some (.data (.routeInfo (Wire.routeInfo.read rest)))
    | 0x10 => some (.data (.routeInfoAck (Wire.routeInfoAck.read rest)))
    | 0x11 => some (.data (.reportInit (Wire.reportInit.read rest)))
    | 0x12 => some (.data (.reportInitAck (Wire.reportInitAck.read rest)))
    | 0x13 => some (.data (.reportChunk (Wire.reportChunk.read rest)))
    | 0x14 => some (.data (.reportChunkAck (Wire.reportChunkAck.read rest)))
    | 0x15 => some (.data (.reportReceived (Wire.reportReceived.read rest)))
    | 0x16 =>
        some (.data (.reportReceivedAck (Wire.reportReceivedAck.read rest)))
    | 0x17 => some (.data (.config (Wire.config.read rest)))
    | 0x18 => some (.data (.configAck (Wire.configAck.read rest)))
    | 0x19 => some (.data (.configReceived (Wire.configReceived.read rest)))
    | 0x1A =>
        some (.data (.configReceivedAck (Wire.configReceivedAck.read rest)))
    | 0x1B => some (.data (.largeDataInit (Wire.largeDataInit.read rest)))
    | 0x1C =>
        some (.data (.largeDataInitAck (Wire.largeDataInitAck.read rest)))
    | 0x1D => some (.data (.largeDataChunk (Wire.largeDataChunk.read rest)))
    | 0x1E =>
        some (.data (.largeDataChunkAck (Wire.largeDataChunkAck.read rest)))
    | 0x1F =>
        some (.data (.largeDataReceived (Wire.largeDataReceived.read rest)))
    | _ => none

namespace AirPacket

open PackedLayout Wire

/-- Every structure fits into an item of the queues. -/
theorem encode_length_le (pkt : AirPacket) : pkt.encode.length ≤ 192 := by
  cases pkt with
  | mesh pkt =>
      cases pkt <;>
        simp only [encode, List.length_cons, PackedLayout.encode_length] <;>
        decide
  | data pkt =>
      cases pkt <;>
        simp only [encode, List.length_cons, PackedLayout.encode_length] <;>
        decide

/-- A structure is cast back to itself, whatever stands behind it; the last
type has no handler. -/
theorem processRx_encode (pkt : AirPacket) (rest : List UInt8) :
    processRx (pkt.encode ++ rest) =
      if pkt.packetType = 0x20 then none else some pkt := by
  cases pkt with
  | mesh pkt =>
      cases pkt <;> simp [encode, packetType, processRx, read_encode]
  | data pkt =>
      cases pkt <;> simp [encode, packetType, processRx, read_encode]

theorem cast_front {Value : Type} (layout : PackedLayout Value)
    (packetType : UInt8) {rest : List UInt8}
    (enough : layout.size ≤ rest.length) :
    packetType :: layout.encode (layout.read rest) =
      (packetType :: rest).take
        (packetType :: layout.encode (layout.read rest)).length := by
  rw [List.length_cons, layout.encode_length, List.take_succ_cons,
    layout.encode_read enough]

/-- What a buffer is handed over as encodes to the front of the buffer. -/
theorem encode_processRx {bytes : List UInt8} {pkt : AirPacket}
    (enough : 192 ≤ bytes.length) (handed : processRx bytes = some pkt) :
    pkt.encode = bytes.take pkt.encode.length := by
  cases bytes with
  | nil => cases handed
  | cons packetType rest =>
      have room : 191 ≤ rest.length := Nat.le_of_succ_le_succ enough
      dsimp only [processRx] at handed
      split at handed
      all_goals cases handed
      all_goals exact cast_front _ _ (le_trans (by decide) room)

/-- A buffer that holds the longest structure is handed over as this packet
exactly if it begins with the bytes of it, except for the last type. -/
theorem processRx_iff {bytes : List UInt8} (enough : 192 ≤ bytes.length)
    (pkt : AirPacket) :
    processRx bytes = some pkt ↔
      pkt.packetType ≠ 0x20 ∧ ∃ rest, bytes = pkt.encode ++ rest := by
  constructor
  · intro handed
    have front := encode_processRx enough handed
    have whole : bytes = pkt.encode ++ bytes.drop pkt.encode.length := by
      conv_lhs => rw [← List.take_append_drop pkt.encode.length bytes]
      rw [← front]
    refine ⟨fun last => ?_, _, whole⟩
    rw [whole, processRx_encode, if_pos last] at handed
    cases handed
  · rintro ⟨handled, rest, rfl⟩
    rw [processRx_encode, if_neg handled]

theorem processRx_iff_joinedAck :
    ∃ rest, [6, 1, 2, 9, 7, 0, 0, 5, 3, 3] ++ List.replicate 190 0xFF =
      encode (.mesh (.joinedNetworkAck
        { hdr :=
            { deviceType := 1, priority := 2, trackingId := 9, deviceId := 7 }
          dstDeviceId := 0x0305, dstDeviceType := 3 })) ++ rest :=
  ((processRx_iff (by decide +kernel) _).mp (by decide +kernel)).2

end AirPacket

end Frames

end DectMesh
