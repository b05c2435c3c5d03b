import Mathlib.Data.Fintype.Basic
import Mathlib.Data.List.Basic

/-!
# Wire protocol

Constants, headers and packets of the DECT NR+ mesh.  A packet type that the
source identifies by `hdr.packet_type` is a constructor of `Packet` here, so
the header keeps the remaining five fields.  Multi-byte fields have the width
the packed C structure gives them; arithmetic between them is done in `Nat`
and narrowed back explicitly.
-/

namespace DectMesh

def maxDepth : Nat := 4
def maxAnchors : Nat := 8
def maxSensors : Nat := 64
def maxDevices : Nat := 256
def sendDataMax : Nat := 180
def sendLargeDataMax : Nat := 180
def maxConfigSize : Nat := 128

/-- `device_type_t`, the role a board is configured for. -/
inductive DeviceType where
  | unknown
  | gateway
  | anchor
  | sensor
  deriving DecidableEq, Repr

namespace DeviceType

/-- The enumerator's value on the wire. -/
def code : DeviceType → UInt8
  | unknown => 0x00
  | gateway => 0x01
  | anchor => 0x02
  | sensor => 0x03

end DeviceType

/-- The check every handler makes on the sender's type byte. -/
def knownDeviceType (deviceType : UInt8) : Bool :=
  deviceType = DeviceType.gateway.code ∨
    deviceType = DeviceType.anchor.code ∨
      deviceType = DeviceType.sensor.code

/-- `GATEWAY` or `ANCHOR`: what may answer from upstream. -/
def isUpstreamType (deviceType : UInt8) : Bool :=
  deviceType = DeviceType.gateway.code ∨ deviceType = DeviceType.anchor.code

/-- `ANCHOR` or `SENSOR`: what may send from downstream. -/
def isDownstreamType (deviceType : UInt8) : Bool :=
  deviceType = DeviceType.anchor.code ∨ deviceType = DeviceType.sensor.code

def dataTypeReport : UInt8 := 0x01
def dataTypeConfig : UInt8 := 0x02
def dataTypeLargeData : UInt8 := 0x03

def packetPriorityHigh : UInt8 := 0x00
def packetPriorityMedium : UInt8 := 0x01
def packetPriorityLow : UInt8 := 0x02

def statusSuccess : UInt8 := 0x00
def statusFailure : UInt8 := 0x01
def statusCrcFail : UInt8 := 0x02
def statusTimeout : UInt8 := 0x03
def statusResourceUnavailable : UInt8 := 0x04
def statusInvalidParameter : UInt8 := 0x05
def statusAlreadyExists : UInt8 := 0x08
def statusNotFound : UInt8 := 0x09
def statusBusy : UInt8 := 0x0A
def statusComplete : UInt8 := 0x10
def statusNoRoute : UInt8 := 0x11

/-- `packet_header_t` without the packet type. -/
structure PacketHeader where
  deviceType : UInt8 := 0
  priority : UInt8 := 0
  trackingId : UInt8 := 0
  deviceId : UInt16 := 0
  status : UInt8 := 0
  deriving DecidableEq, Repr

/-- `route_info_entry_t`. -/
structure RouteInfoEntry where
  deviceId : UInt16 := 0
  hopNum : UInt8 := 0
  deriving DecidableEq, Repr

/-- `route_info[MAX_DEPTH]`. -/
abbrev RouteInfoTable := Fin maxDepth → RouteInfoEntry

/-- The data field of a packet: always the whole buffer of `capacity` bytes. -/
structure Buffer (capacity : Nat) where
  bytes : List UInt8
  full : bytes.length = capacity
  deriving DecidableEq

namespace Buffer

/-- A buffer cleared by `memset` that then received `data`. -/
def ofData (capacity : Nat) (data : List UInt8) : Buffer capacity where
  bytes := (data ++ List.replicate capacity 0).take capacity
  full := by simp

theorem ofData_bytes
    {capacity : Nat} {data : List UInt8} (fits : data.length ≤ capacity) :
    (ofData capacity data).bytes =
      data ++ List.replicate (capacity - data.length) 0 := by
  simp only [ofData]
  rw [List.take_append, List.take_of_length_le fits, List.take_replicate]
  congr 2
  omega

/-- The payload put into a buffer is its prefix. -/
theorem take_ofData
    {capacity : Nat} {data : List UInt8} (fits : data.length ≤ capacity) :
    (ofData capacity data).bytes.take data.length = data := by
  rw [ofData_bytes fits, List.take_left]

end Buffer

structure RouteDiscovery where
  hdr : PacketHeader := {}
  deviceId : UInt16
  deviceType : UInt8
  hopNum : UInt8
  dataType : UInt8
  dataId : UInt16
  deriving DecidableEq

structure RouteDiscoveryAck where
  hdr : PacketHeader := {}
  deviceId : UInt16
  deviceType : UInt8
  hopNum : UInt8
  deriving DecidableEq

structure RouteInfo where
  hdr : PacketHeader := {}
  deviceId : UInt16
  deviceType : UInt8
  dataType : UInt8
  dataId : UInt16
  routeInfo : RouteInfoTable
  deriving DecidableEq

structure RouteInfoAck where
  hdr : PacketHeader := {}
  deviceId : UInt16
  deviceType : UInt8
  dataType : UInt8
  dataId : UInt16
  deriving DecidableEq

structure ReportInit where
  hdr : PacketHeader := {}
  genDeviceId : UInt16
  dataId : UInt8
  reportTimeMs : UInt64
  totalSize : UInt16
  chunkCount : UInt8
  lastChunkSize : UInt8
  crc32 : UInt32
  deriving DecidableEq

structure ReportInitAck where
  hdr : PacketHeader := {}
  genDeviceId : UInt16
  dataId : UInt8
  deriving DecidableEq

structure ReportChunk where
  hdr : PacketHeader := {}
  genDeviceId : UInt16
  dataId : UInt8
  chunkIndex : UInt8
  data : Buffer sendDataMax
  deriving DecidableEq

structure ReportChunkAck where
  hdr : PacketHeader := {}
  genDeviceId : UInt16
  dataId : UInt8
  chunkIndex : UInt8
  deriving DecidableEq

structure ReportReceived where
  hdr : PacketHeader := {}
  genDeviceId : UInt16
  dataId : UInt8
  routeInfo : RouteInfoTable := fun _ => {}
  deriving DecidableEq

structure ReportReceivedAck where
  hdr : PacketHeader := {}
  genDeviceId : UInt16
  dataId : UInt8
  deriving DecidableEq

structure LargeDataInit where
  hdr : PacketHeader := {}
  genDeviceId : UInt16
  dataId : UInt8
  reportTimeMs : UInt64
  totalSize : UInt32
  pageCount : UInt8
  lastChunkSize : UInt16
  crc32 : UInt32
  deriving DecidableEq

structure LargeDataInitAck where
  hdr : PacketHeader := {}
  genDeviceId : UInt16
  dataId : UInt8
  deriving DecidableEq

structure LargeDataChunk where
  hdr : PacketHeader := {}
  genDeviceId : UInt16
  dataId : UInt8
  pageIndex : UInt8
  chunkIndex : UInt8
  data : Buffer sendLargeDataMax
  deriving DecidableEq

structure LargeDataChunkAck where
  hdr : PacketHeader := {}
  genDeviceId : UInt16
  dataId : UInt8
  pageIndex : UInt8
  chunkIndex : UInt8
  deriving DecidableEq

structure LargeDataReceived where
  hdr : PacketHeader := {}
  genDeviceId : UInt16
  dataId : UInt8
  deriving DecidableEq

structure LargeDataReceivedAck where
  hdr : PacketHeader := {}
  genDeviceId : UInt16
  dataId : UInt8
  deriving DecidableEq

/-- `config_t`. -/
structure Config where
  hdr : PacketHeader := {}
  dstDeviceId : UInt16
  dstDeviceType : UInt8
  dataType : UInt8
  dataId : UInt16
  routeInfo : RouteInfoTable
  configLen : UInt8
  configCrc32 : UInt32
  config : Buffer maxConfigSize
  deriving DecidableEq

structure ConfigAck where
  hdr : PacketHeader := {}
  dstDeviceId : UInt16
  dstDeviceType : UInt8
  dataType : UInt8
  dataId : UInt16
  deriving DecidableEq

structure ConfigReceived where
  hdr : PacketHeader := {}
  dstDeviceId : UInt16
  dstDeviceType : UInt8
  dataType : UInt8
  dataId : UInt16
  deriving DecidableEq

structure ConfigReceivedAck where
  hdr : PacketHeader := {}
  dstDeviceId : UInt16
  dstDeviceType : UInt8
  dataType : UInt8
  dataId : UInt16
  deriving DecidableEq

/-- What the radio carries for the three data planes and their routing. -/
inductive Packet where
  | routeDiscovery (pkt : RouteDiscovery)
  | routeDiscoveryAck (pkt : RouteDiscoveryAck)
  | routeInfo (pkt : RouteInfo)
  | routeInfoAck (pkt : RouteInfoAck)
  | reportInit (pkt : ReportInit)
  | reportInitAck (pkt : ReportInitAck)
  | reportChunk (pkt : ReportChunk)
  | reportChunkAck (pkt : ReportChunkAck)
  | reportReceived (pkt : ReportReceived)
  | reportReceivedAck (pkt : ReportReceivedAck)
  | largeDataInit (pkt : LargeDataInit)
  | largeDataInitAck (pkt : LargeDataInitAck)
  | largeDataChunk (pkt : LargeDataChunk)
  | largeDataChunkAck (pkt : LargeDataChunkAck)
  | largeDataReceived (pkt : LargeDataReceived)
  | largeDataReceivedAck (pkt : LargeDataReceivedAck)
  | config (pkt : Config)
  | configAck (pkt : ConfigAck)
  | configReceived (pkt : ConfigReceived)
  | configReceivedAck (pkt : ConfigReceivedAck)
  deriving DecidableEq

end DectMesh
