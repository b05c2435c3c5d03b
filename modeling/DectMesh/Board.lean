import Mathlib.Data.Fin.Tuple.Basic
import DectMesh.Protocol
import DectMesh.Psram
import DectMesh.Timeout

/-!
# Boards and their surroundings

What the data planes read from the rest of the firmware (`product_info`, the
neighbour tables of `storage`, the uptime clock) and what they hand to it
(packets for the radio, acknowledgements for the tracker, lines for the host
UART).  A plane does not own its surroundings: every event of a run brings its
own, so nothing proved about a plane depends on how the mesh modules maintain
them.  The board itself, its role and its address, is fixed.
-/

namespace DectMesh

/-- What never changes while a board runs.  `crc` is Zephyr's CRC-32, of which
only the law of `Checksum` is used, and `crc16` its CRC-16 with the polynomial
and the seed of the AT lines. -/
structure Board where
  deviceType : DeviceType
  deviceId : UInt16
  crc : Checksum
  crc16 : List UInt8 → UInt16 := Checksum.crc16Ccitt

/-- The fields of `infra_entry_t` the data planes read. -/
structure InfraEntry where
  deviceType : UInt8 := 0
  deviceId : UInt16 := 0
  hopNum : UInt8 := 0
  deriving DecidableEq

/-- `mesh_t`. -/
structure MeshEntry where
  deviceType : UInt8 := 0
  deviceId : UInt16 := 0
  serialNum : UInt64 := 0
  connectedDeviceId : UInt16 := 0
  hopNum : UInt8 := 0
  deriving DecidableEq

/-- The surroundings of a board while it handles one event. -/
structure Env extends Board where
  now : Nat := 0
  serialNumber : UInt64 := 0
  connectedDeviceId : UInt16 := 0
  infraDevices : Fin maxAnchors → InfraEntry := fun _ => {}
  infraCount : Nat := 0
  sensorDevices : Fin maxSensors → UInt16 := fun _ => 0
  sensorCount : Nat := 0
  meshDevices : Fin maxDevices → MeshEntry := fun _ => {}
  meshCount : Nat := 0

/-- The C arrays whose bounds the model checks. -/
inductive Table where
  | reportSender
  | reportSlot
  | ldSender
  | ldSlot
  | configSlot
  | received
  | ldBitmap
  | meshDevices
  deriving DecidableEq, Repr

/-- An access outside an array.  `index` is the value the code uses. -/
structure Fault where
  table : Table
  index : Int
  deriving DecidableEq, Repr

namespace Env

/-- The two checks at the head of every packet handler: the packet is
addressed to this board and its sender names a known device type. -/
def accepts (env : Env) (hdr : PacketHeader) : Bool :=
  hdr.deviceId = env.deviceId ∧ knownDeviceType hdr.deviceType

/-- `infra_devices[0].entry`, the parent. -/
def parent (env : Env) : InfraEntry := env.infraDevices ⟨0, by decide⟩

/-- The loops over `mesh_devices` that stop at the first match below
`mesh_count`. -/
def findMesh (env : Env) (matching : MeshEntry → Bool) :
    Option (Fin maxDevices) :=
  Fin.find? fun i => i.val < env.meshCount ∧ matching (env.meshDevices i)

/-- The loops over `infra_devices`. -/
def findInfra (env : Env) (matching : InfraEntry → Bool) :
    Option (Fin maxAnchors) :=
  Fin.find? fun i => i.val < env.infraCount ∧ matching (env.infraDevices i)

/-- The loops over `sensor_devices`, which compare the device id. -/
def findSensor (env : Env) (deviceId : UInt16) : Option (Fin maxSensors) :=
  Fin.find? fun i =>
    i.val < env.sensorCount ∧ env.sensorDevices i = deviceId

/-- The index a search of `mesh_devices` by device id ends with: past the
last entry when there is no match. -/
def meshIndex (env : Env) (deviceId : UInt16) : Nat :=
  match env.findMesh fun entry => entry.deviceId = deviceId with
  | some i => i.val
  | none => env.meshCount

theorem findMesh_some
    {env : Env} {matching : MeshEntry → Bool} {i : Fin maxDevices}
    (found : env.findMesh matching = some i) :
    i.val < env.meshCount ∧ matching (env.meshDevices i) = true := by
  simpa [findMesh] using Fin.eq_true_of_find?_eq_some found

attribute [irreducible] findMesh findInfra findSensor

/-- An access to `mesh_devices`. -/
def meshDevice (env : Env) (index : Nat) : Except Fault MeshEntry :=
  if inside : index < maxDevices then
    .ok (env.meshDevices ⟨index, inside⟩)
  else
    .error ⟨.meshDevices, index⟩

/-- `find_hop_num`: for a sensor the hop number of the anchor it is connected
to, zero when that is this board; `0xFF` when there is no route. -/
def findHopNum (env : Env) (deviceId : UInt16) (deviceType : UInt8) : UInt8 :=
  if deviceId = 0xFFFF then
    0xFF
  else if deviceType = DeviceType.sensor.code then
    match env.findMesh fun entry =>
        entry.deviceId = deviceId ∧ entry.deviceType = deviceType with
    | none => 0xFF
    | some i =>
        let connected := (env.meshDevices i).connectedDeviceId
        if connected = 0xFFFF ∨ connected = 0 then
          0xFF
        else if connected = env.deviceId then
          0
        else
          match env.findMesh fun entry => connected = entry.deviceId with
          | none => 0xFF
          | some j => (env.meshDevices j).hopNum
  else if deviceType = DeviceType.anchor.code then
    match env.findInfra fun entry =>
        entry.deviceId = deviceId ∧ entry.deviceType = deviceType with
    | none => 0xFF
    | some i => (env.infraDevices i).hopNum
  else
    0xFF

end Env

/-- A line for the host MCU, with the values its format string prints. -/
inductive AtLine where
  | ok
  | error
  /-- `#REPORT:"sn","id","len","crc32"`, the answer to `AT#REPORT`. -/
  | reportAccepted (serialNum : UInt64) (id len : UInt16) (crc32 : UInt32)
  /-- `AT#REPORT="sn","id","time","size","crc32","payload"`. -/
  | report
      (serialNum : UInt64) (id : UInt8) (reportTimeMs : UInt64)
      (totalSize : UInt16) (crc32 : UInt32) (payload : List UInt8)
  /-- `#CONFIG:"sn","id","len","crc32"`, the answer to `AT#CONFIG`. -/
  | configAccepted (serialNum : UInt64) (id len : UInt16) (crc32 : UInt32)
  /-- `AT#CONFIG="sn","id","len","crc32","payload"`. -/
  | config
      (serialNum : UInt64) (id : UInt16) (len : UInt8) (crc32 : UInt32)
      (payload : List UInt8)
  /-- `AT#CONFIGRES="sn","id","status"`. -/
  | configRes (serialNum : UInt64) (id : UInt16) (status : UInt8)
  /-- `#LDINIT:"sn","id","size","chunks"`, the answer to `AT#LDINIT`. -/
  | ldInitAccepted
      (serialNum : UInt64) (id : UInt8) (totalSize : UInt32)
      (totalChunks : UInt16)
  /-- `AT#LDINIT="sn","id","time","size","chunks","last","crc32","crc16"`. -/
  | ldInit
      (serialNum : UInt64) (id : UInt8) (reportTimeMs : UInt64)
      (totalSize : UInt32) (totalChunks lastChunkSize : UInt16)
      (crc32 : UInt32) (crc16 : UInt16)
  /-- `AT#LD="device","id","page","chunk","payload"`. -/
  | ld
      (deviceId : UInt16) (id : UInt8) (page chunk : Nat)
      (payload : List UInt8)
  deriving DecidableEq

/-- `slm_at_structure_t`. -/
structure SlmAtStructure where
  deviceId : UInt16 := 0
  deviceType : UInt8 := 0
  dataId : UInt16
  dataLen : UInt16
  dataCrc32 : UInt32

/-- `at_pending_ack_t`; page and chunk are `int8_t`. -/
structure AtPendingAck where
  dataType : UInt8 := 0
  sn : UInt64 := 0
  id : UInt16 := 0
  page : Int := 0
  chunk : Int := 0
  deriving DecidableEq

/-- What a handler or a tick asks the rest of the firmware to do. -/
inductive Action where
  /-- Send with a fresh tracking id and a tracker entry that retries it. -/
  | request (pkt : Packet)
  /-- Send with a fresh tracking id and no tracker entry. -/
  | announce (pkt : Packet)
  /-- Send an answer; its header already holds the id it answers. -/
  | reply (pkt : Packet)
  /-- `tracker_remove_by_tracking_id`. -/
  | untrack (trackingId : UInt8)
  /-- A line that reached the UART. -/
  | line (text : AtLine)
  deriving DecidableEq

namespace Env

variable (env : Env)

/-- The header of an answer: the id of the packet it answers comes back. -/
def replyHeader
    (status : UInt8) (dstId : UInt16) (priority trackingId : UInt8) :
    PacketHeader where
  deviceType := env.deviceType.code
  priority := priority
  trackingId := trackingId
  deviceId := dstId
  status := status

/-- `send_route_discovery` to every stored infrastructure neighbour. -/
def routeDiscoveries (pkt : RouteDiscovery) : List Action :=
  ((List.finRange maxAnchors).filter fun i => i.val < env.infraCount).map
    fun i =>
      .request (.routeDiscovery { pkt with
        hdr :=
          { deviceType := env.deviceType.code
            priority := packetPriorityHigh
            deviceId := (env.infraDevices i).deviceId
            status := statusSuccess } })

theorem mem_routeDiscoveries
    {env : Env} {pkt : RouteDiscovery} {action : Action}
    (member : action ∈ env.routeDiscoveries pkt) :
    ∃ sent, action = .request (.routeDiscovery sent) := by
  obtain ⟨i, _, rfl⟩ := List.mem_map.mp member
  exact ⟨_, rfl⟩

end Env

/-- The outcome of one `slm_at_tx_write`.  `late` is the call that reports an
error after the whole line entered the ring buffer. -/
inductive UartOutcome where
  | sent
  | late
  | dropped
  deriving DecidableEq, Repr

/-- What a plane does its input and output on.  `out` lists the actions of the
event being handled, in order. -/
structure Io where
  psram : Psram := {}
  uart : List UartOutcome := []
  out : List Action := []

namespace Io

def put (io : Io) (action : Action) : Io :=
  { io with out := io.out ++ [action] }

/-- `slm_at_tx_write`; the flag tells whether it returned zero. -/
def txWrite (io : Io) (text : AtLine) : Io × Bool :=
  match io.uart with
  | .late :: coming => ({ io with uart := coming }.put (.line text), false)
  | .dropped :: coming => ({ io with uart := coming }, false)
  | _ => ({ io with uart := io.uart.tail }.put (.line text), true)

/-- `at_ok`, `at_error` and `at_send_line` ignore the result. -/
def sendLine (io : Io) (text : AtLine) : Io := (io.txWrite text).1

def read (io : Io) (addr length : Nat) : Io × Except Errno (List UInt8) :=
  ({ io with psram := (io.psram.read addr length).1 },
    (io.psram.read addr length).2)

def write (io : Io) (addr : Nat) (src : List UInt8) : Io × Option Errno :=
  ({ io with psram := (io.psram.write addr src).1 },
    (io.psram.write addr src).2)

@[simp]
theorem put_psram (io : Io) (action : Action) :
    (io.put action).psram = io.psram := rfl

@[simp]
theorem put_out (io : Io) (action : Action) :
    (io.put action).out = io.out ++ [action] := rfl

@[simp]
theorem txWrite_psram (io : Io) (text : AtLine) :
    (io.txWrite text).1.psram = io.psram := by
  unfold txWrite
  split <;> rfl

@[simp]
theorem sendLine_psram (io : Io) (text : AtLine) :
    (io.sendLine text).psram = io.psram :=
  txWrite_psram io text

/-- A write to the UART puts out its line or nothing. -/
theorem txWrite_out (io : Io) (text : AtLine) :
    (io.txWrite text).1.out = io.out ++ [.line text] ∨
      (io.txWrite text).1.out = io.out ∧ (io.txWrite text).2 = false := by
  unfold txWrite
  split
  · exact .inl rfl
  · exact .inr ⟨rfl, rfl⟩
  · exact .inl rfl

/-- Unless the next outcome is a lost line, the line is put out. -/
theorem txWrite_shown
    {io : Io} (notDropped : io.uart.head? ≠ some .dropped) (text : AtLine) :
    (io.txWrite text).1.out = io.out ++ [.line text] := by
  unfold txWrite
  split
  · rfl
  · next coming =>
    rw [coming] at notDropped
    exact absurd rfl notDropped
  · rfl

/-- Without failures to come a line is put out. -/
theorem sendLine_of_idle {io : Io} (idle : io.uart = []) (text : AtLine) :
    io.sendLine text = io.put (.line text) := by
  cases io
  subst idle
  rfl

/-- A write that succeeds stores its data. -/
theorem write_stored
    {io io' : Io} {addr : Nat} {src : List UInt8}
    (wrote : io.write addr src = (io', none)) :
    io'.psram.mem = ByteStore.splice io.psram.mem addr src := by
  have success : (io.psram.write addr src).2 = none := congrArg Prod.snd wrote
  rw [← congrArg (fun outcome => outcome.1.psram.mem) wrote]
  exact Psram.write_mem success

/-- On a reliable device what fits is stored. -/
theorem write_reliable
    {io : Io} (reliable : io.psram.Reliable) {addr : Nat} {src : List UInt8}
    (fits : addr + src.length ≤ psramSize) :
    ∃ io', io.write addr src = (io', none) ∧ io'.psram.Reliable ∧
      io'.psram.mem = ByteStore.splice io.psram.mem addr src := by
  obtain ⟨success, later⟩ := reliable.write fits
  have wrote : io.write addr src = ((io.write addr src).1, none) :=
    Prod.ext rfl success
  exact ⟨_, wrote, later, write_stored wrote⟩

/-- A write that fails stores a prefix of its data. -/
theorem write_failed
    {io io' : Io} {addr : Nat} {src : List UInt8} {errno : Errno}
    (wrote : io.write addr src = (io', some errno)) :
    ∃ written, io'.psram.mem =
      ByteStore.splice io.psram.mem addr (src.take written) := by
  obtain ⟨written, _, contents, _⟩ :=
    (Psram.write_spec io.psram addr src).written
  refine ⟨written, ?_⟩
  rw [← congrArg (fun outcome => outcome.1.psram.mem) wrote]
  exact contents

theorem write_out_eq
    {io io' : Io} {addr : Nat} {src : List UInt8} {result : Option Errno}
    (wrote : io.write addr src = (io', result)) : io'.out = io.out :=
  congrArg (fun outcome => outcome.1.out) wrote.symm

theorem read_out_eq
    {io io' : Io} {addr length : Nat} {result : Except Errno (List UInt8)}
    (read : io.read addr length = (io', result)) : io'.out = io.out :=
  congrArg (fun outcome => outcome.1.out) read.symm

/-- A read leaves the memory alone, and a successful one returns a slice. -/
theorem read_mem_eq
    {io io' : Io} {addr length : Nat} {result : Except Errno (List UInt8)}
    (read : io.read addr length = (io', result)) :
    io'.psram.mem = io.psram.mem := by
  rw [← congrArg (fun outcome => outcome.1.psram.mem) read]
  exact Psram.read_mem io.psram addr length

theorem read_bytes
    {io io' : Io} {addr length : Nat} {data : List UInt8}
    (read : io.read addr length = (io', .ok data)) :
    data = ByteStore.slice io.psram.mem addr length :=
  Psram.read_bytes (congrArg Prod.snd read)

end Io

end DectMesh
