import Mathlib.Data.Fin.Tuple.Basic
import DectMesh.Protocol

/-!
# Source routes

A route lists the anchors between the gateway and a sensor.  The gateway
reverses the order in which the anchors added themselves, and every anchor on
the way down removes the first entry.
-/

namespace DectMesh

def firstHop : Fin maxDepth := ⟨0, by decide⟩

def secondHop : Fin maxDepth := ⟨1, by decide⟩

/-- The sentinel of an unused route entry. -/
def emptyHop : RouteInfoEntry := { deviceId := 0xFFFF, hopNum := 0xFF }

/-- The route after one hop: shifted by one entry, padded with the sentinel. -/
def shiftRoute (route : RouteInfoTable) : RouteInfoTable := fun i =>
  if next : i.val + 1 < maxDepth then
    route ⟨i.val + 1, next⟩
  else
    emptyHop

/-- The route a sensor gets: the first entry is the sentinel. -/
def endRoute (route : RouteInfoTable) : RouteInfoTable :=
  Function.update route firstHop emptyHop

/-- No anchor follows the first one in a route. -/
def lastHop (route : RouteInfoTable) : Bool :=
  (route secondHop).deviceId = 0xFFFF ∨ (route secondHop).deviceId = 0

/-- The number of entries before the first sentinel. -/
def routeLength (route : RouteInfoTable) : Nat :=
  match Fin.find? fun i => (route i).deviceId = 0xFFFF with
  | some i => i.val
  | none => maxDepth

/-- The reversal of `build_config_pkt` and `build_report_received_pkt`. -/
def reverseRoute (route : RouteInfoTable) : RouteInfoTable := fun i =>
  if inside : i.val < routeLength route ∧ routeLength route ≤ maxDepth then
    route ⟨routeLength route - 1 - i.val, by omega⟩
  else
    emptyHop

end DectMesh
