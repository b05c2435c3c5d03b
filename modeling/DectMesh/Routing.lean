import DectMesh.Config.Model
import DectMesh.Report.Run

/-!
# Route discovery

`mesh_routing.c`: the anchor that knows a device answers a discovery, the
anchors above it pass the answer on, and the gateway turns it into a packet
with a source route.
-/

namespace DectMesh

/-- A board with its hop number. -/
structure RouteEnv extends Env where
  hopNum : UInt8 := 0

namespace RouteEnv

variable (env : RouteEnv)

/-- The route entry of this board. -/
def hop : RouteInfoEntry where
  deviceId := env.deviceId
  hopNum := env.hopNum

/-- The route an anchor answers a discovery with. -/
def foundRoute : RouteInfoTable :=
  Function.update (fun _ => emptyHop) firstHop env.hop

/-- `build_route_info`.  The route of the packet is not copied: the search for
an unused entry runs over a table of zeros. -/
def buildRouteInfo (pkt : RouteInfo) : RouteInfo :=
  let route : RouteInfoTable := fun _ => {}
  { deviceId := pkt.deviceId
    deviceType := pkt.deviceType
    dataType := pkt.dataType
    dataId := pkt.dataId
    routeInfo :=
      match Fin.find? fun i =>
          (route i).deviceId = 0xFFFF ∧ (route i).hopNum = 0xFF with
      | some i => Function.update route i env.hop
      | none => route }

/-- `send_route_info`, always to the parent. -/
def sendRouteInfo (pkt : RouteInfo) : Action :=
  .request (.routeInfo { pkt with
    hdr :=
      { deviceType := env.deviceType.code
        priority := packetPriorityHigh
        deviceId := env.parent.deviceId
        status := statusSuccess } })

/-- The answer of `handle_route_discovery` once the device was found. -/
def routeFound (pkt : RouteDiscovery) : RouteInfo where
  deviceId := pkt.deviceId
  deviceType := pkt.deviceType
  dataType := pkt.dataType
  dataId := pkt.dataId
  routeInfo := env.foundRoute

/-- The neighbours `handle_route_discovery` passes a discovery on to. -/
def forwardDiscovery (pkt : RouteDiscovery) (srcId : UInt16) : List Action :=
  ((List.finRange maxAnchors).filter fun i =>
    i.val < env.infraCount ∧ (env.infraDevices i).hopNum ≤ pkt.hopNum ∧
      env.hopNum < (env.infraDevices i).hopNum ∧
        (env.infraDevices i).deviceId ≠ srcId).map fun i =>
    .request (.routeDiscovery { pkt with
      hdr :=
        { deviceType := env.deviceType.code
          priority := packetPriorityHigh
          deviceId := (env.infraDevices i).deviceId
          status := pkt.hdr.status } })

/-- `handle_route_discovery`; `srcId` is the sender of the packet. -/
def handleRouteDiscovery (pkt : RouteDiscovery) (srcId : UInt16) :
    List Action :=
  let ack : Action :=
    .reply (.routeDiscoveryAck
      { hdr := env.replyHeader pkt.hdr.status srcId packetPriorityHigh
          pkt.hdr.trackingId
        deviceId := pkt.deviceId
        deviceType := pkt.deviceType
        hopNum := pkt.hopNum })
  if !env.accepts pkt.hdr then
    []
  else if pkt.hdr.status ≠ statusSuccess then
    []
  else
    match env.deviceType with
    | .gateway | .sensor | .unknown => []
    | .anchor =>
        if isUpstreamType pkt.hdr.deviceType then
          if pkt.deviceType = DeviceType.anchor.code ∧
              pkt.deviceId = env.deviceId then
            [env.sendRouteInfo (env.routeFound pkt), ack]
          else if pkt.deviceType = DeviceType.sensor.code then
            match env.findSensor pkt.deviceId with
            | some _ => [env.sendRouteInfo (env.routeFound pkt), ack]
            | none => [ack]
          else
            env.forwardDiscovery pkt srcId ++ [ack]
        else
          []

/-- `handle_route_info` on an anchor.  The source compares the address of the
packet, not the type of its sender, with the gateway's type. -/
def handleRouteInfo (pkt : RouteInfo) (srcId : UInt16) : List Action :=
  let ack : Action :=
    .reply (.routeInfoAck
      { hdr := env.replyHeader pkt.hdr.status srcId packetPriorityHigh
          pkt.hdr.trackingId
        deviceId := pkt.deviceId
        deviceType := pkt.deviceType
        dataType := pkt.dataType
        dataId := pkt.dataId })
  if !env.accepts pkt.hdr then
    []
  else if pkt.hdr.status ≠ statusSuccess then
    []
  else
    match env.deviceType with
    | .gateway | .sensor | .unknown => []
    | .anchor =>
        if pkt.hdr.deviceType = DeviceType.anchor.code ∨
            pkt.hdr.deviceId = DeviceType.gateway.code.toUInt16 then
          [env.sendRouteInfo (env.buildRouteInfo pkt), ack]
        else
          []

end RouteEnv

/-- The part of `handle_route_info` for a report, on a gateway. -/
def ReportPlane.sendRoutedReport
    (s : ReportPlane) (env : Env) (pkt : RouteInfo) (srcId : UInt16) :
    Except Fault ReportPlane :=
  let ack (status : UInt8) : Action :=
    .reply (.routeInfoAck
      { hdr := env.replyHeader status srcId packetPriorityHigh
          pkt.hdr.trackingId
        deviceId := pkt.deviceId
        deviceType := pkt.deviceType
        dataType := pkt.dataType
        dataId := pkt.dataId })
  if !env.accepts pkt.hdr ∨ pkt.hdr.status ≠ statusSuccess ∨
      env.deviceType ≠ .gateway ∨
      pkt.hdr.deviceType ≠ DeviceType.anchor.code ∨
      pkt.dataType ≠ dataTypeReport then
    .ok s
  else
    match s.buildReportReceivedPkt pkt with
    | .error fault => .error fault
    | .ok (s, built) =>
        if built.dataId = 0 then
          .ok (s.put (ack statusFailure))
        else
          .ok ((s.sendReportReceived env built
            (built.routeInfo firstHop).deviceId).put (ack pkt.hdr.status))

end DectMesh
