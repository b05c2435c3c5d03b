import DectMesh.Config.Origin
import DectMesh.LargeData.Origin
import DectMesh.LiveNet
import DectMesh.Report.Origin

/-!
# What one event does to the data planes of a board

An event is handled by one of the planes, and leaves the others as they are
but for the orders of the event before.  Only that plane brings reports, blobs
and configurations into the network or tells the host about them.
-/

namespace DectMesh

section Introducing

/-- The packet announces a report or a blob, or carries a configuration. -/
def Packet.introduces : Packet → Bool
  | .reportInit _ | .largeDataInit _ | .config _ => true
  | _ => false

/-- Such a packet, or a line for the host. -/
def Action.introduces : Action → Bool
  | .request pkt | .announce pkt | .reply pkt => pkt.introduces
  | .untrack _ => false
  | .line _ => true

def Enqueued.introduces : Enqueued → Bool
  | .mesh _ => false
  | .data action => action.introduces

/-- The line that an order writes. -/
def Enqueued.text : Enqueued → Option AtLine
  | .data (.line text) => some text
  | _ => none

theorem mem_of_text {orders : List Enqueued} {text : AtLine}
    (member : text ∈ orders.filterMap Enqueued.text) :
    .data (.line text) ∈ orders := by
  obtain ⟨order, inside, same⟩ := List.mem_filterMap.mp member
  unfold Enqueued.text at same
  split at same
  · cases same
    exact inside
  · cases same

theorem Action.introduces_of_routed {action : Action}
    (introduces : action.introduces = true) (here : action.routedTo = none) :
    ∃ text, action = .line text := by
  have passed (pkt : Packet) (introduces : pkt.introduces = true) :
      pkt.routedTo ≠ none := by
    unfold Packet.introduces at introduces
    split at introduces
    · exact Option.some_ne_none _
    · exact Option.some_ne_none _
    · exact Option.some_ne_none _
    · cases introduces
  cases action with
  | line text => exact ⟨text, rfl⟩
  | untrack id => cases introduces
  | request pkt => exact absurd here (passed pkt introduces)
  | announce pkt => exact absurd here (passed pkt introduces)
  | reply pkt => exact absurd here (passed pkt introduces)

variable {env : RouteEnv}

theorem handleRouteDiscovery_silent {pkt : RouteDiscovery} {srcId : UInt16}
    {action : Action} (sent : action ∈ env.handleRouteDiscovery pkt srcId) :
    action.introduces = false := by
  have forwarded (member : action ∈ env.forwardDiscovery pkt srcId) :
      action.introduces = false := by
    unfold RouteEnv.forwardDiscovery at member
    obtain ⟨i, -, rfl⟩ := List.mem_map.mp member
    rfl
  unfold RouteEnv.handleRouteDiscovery at sent
  dsimp only at sent
  split at sent
  · cases sent
  · split at sent
    · cases sent
    · split at sent
      · cases sent
      · cases sent
      · cases sent
      · split at sent
        · split at sent
          · simp only [List.mem_cons, List.not_mem_nil, or_false] at sent
            rcases sent with rfl | rfl <;> rfl
          · split at sent
            · split at sent
              · simp only [List.mem_cons, List.not_mem_nil, or_false] at sent
                rcases sent with rfl | rfl <;> rfl
              · cases List.mem_singleton.mp sent
                rfl
            · rcases List.mem_append.mp sent with member | member
              · exact forwarded member
              · cases List.mem_singleton.mp member
                rfl
        · cases sent

theorem handleRouteInfo_silent {pkt : RouteInfo} {srcId : UInt16}
    {action : Action} (sent : action ∈ env.handleRouteInfo pkt srcId) :
    action.introduces = false := by
  unfold RouteEnv.handleRouteInfo at sent
  dsimp only at sent
  split at sent
  · cases sent
  · split at sent
    · cases sent
    · split at sent
      · cases sent
      · cases sent
      · cases sent
      · split at sent
        · simp only [List.mem_cons, List.not_mem_nil, or_false] at sent
          rcases sent with rfl | rfl <;> rfl
        · cases sent

/-- A route to a report marks its slot at most, and passes the answer of the
host on. -/
theorem sendRoutedReport_moved {env : Env} {s s' : ReportPlane}
    {pkt : RouteInfo} {srcId : UInt16}
    (sent : s.sendRoutedReport env pkt srcId = .ok s') :
    (s'.clearOut = s.clearOut ∨ ∃ after built,
      s.buildReportReceivedPkt pkt = .ok (after, built) ∧
        s'.clearOut = after.clearOut) ∧
      ∀ action ∈ s'.io.out, action ∈ s.io.out ∨
        action.introduces = false := by
  have acked {t : ReportPlane} (ack : RouteInfoAck) {action : Action}
      (member : action ∈ (t.put (.reply (.routeInfoAck ack))).io.out) :
      action ∈ t.io.out ∨ action.introduces = false := by
    rcases List.mem_append.mp member with before | new
    · exact .inl before
    · cases List.mem_singleton.mp new
      exact .inr rfl
  unfold ReportPlane.sendRoutedReport at sent
  dsimp only at sent
  split at sent
  · cases sent
    exact ⟨.inl rfl, fun action member => .inl member⟩
  · split at sent
    · cases sent
    · next after built found =>
      have out : after.io = s.io := by
        unfold ReportPlane.buildReportReceivedPkt at found
        dsimp only at found
        split at found
        · split at found
          · cases found
            rfl
          · cases found
            rfl
        · cases found
      rw [← out]
      split at sent
      · cases sent
        exact ⟨.inr ⟨after, built, found, rfl⟩, fun action => acked _⟩
      · cases sent
        refine ⟨.inr ⟨after, built, found, rfl⟩, fun action member => ?_⟩
        rcases acked _ member with before | quiet
        · rcases List.mem_append.mp before with before | new
          · exact .inl before
          · cases List.mem_singleton.mp new
            exact .inr rfl
        · exact .inr quiet

end Introducing

namespace LiveBoard

variable {board : Board} {b b' : LiveBoard} {occurrence : LiveOccurrence}

/-- The data planes are the same but for the orders of the last event. -/
structure SameData (b b' : LiveBoard) : Prop where
  config : b'.config.clearOut = b.config.clearOut
  report : b'.report.clearOut = b.report.clearOut
  ld : b'.ld.clearOut = b.ld.clearOut

/-- What one event did to the data planes. -/
inductive Did (board : Board) (b : LiveBoard) (occurrence : LiveOccurrence)
    (b' : LiveBoard) : Prop
  /-- Other orders at most. -/
  | quiet (same : SameData b b')
      (awake : b'.mesh.isOk = true → b.mesh.isOk = true)
      (silent : ∀ order ∈ b'.out, order.introduces = false)
  | started (io : Io × Io × Io)
      (config : b'.config = { io := io.1 })
      (report : b'.report = .boot io.2.1) (ld : b'.ld = .boot io.2.2)
      (silent : ∀ order ∈ b'.out, order.introduces = false)
  | recovered
      (config : b'.config = b.config.clearOut.configInit)
      (report : b'.report = b.report.clearOut.reportInit)
      (ld : b'.ld = b.ld.clearOut.largeDataInit)
      (silent : ∀ order ∈ b'.out, order.introduces = false)
  | config (s : MeshPlane) (event : ConfigEvent) (up : b.mesh = .ok s)
      (handled : occurrence.event = .config event ∨
        ∃ pkt srcId, occurrence.event = .routeInfo pkt srcId ∧
          event = .routeInfo pkt srcId)
      (stepped : b.config.step (s.surroundings board occurrence.now).toEnv
        event = .ok b'.config)
      (report : b'.report.clearOut = b.report.clearOut)
      (ld : b'.ld = b.ld)
      (sent : ∀ order ∈ b'.out, order.introduces = true →
        ∃ action ∈ b'.config.io.out, order = .data action)
  | report (s : MeshPlane) (event : ReportEvent) (up : b.mesh = .ok s)
      (handled : occurrence.event = .report event)
      (stepped : b.report.step (s.surroundings board occurrence.now).toEnv
        event = .ok b'.report)
      (config : b'.config = b.config) (ld : b'.ld = b.ld)
      (sent : b'.out = b'.report.io.out.map .data)
  /-- `handle_route_info` answers for a slot. -/
  | answered (s : MeshPlane) (pkt : RouteInfo) (after : ReportPlane)
      (up : b.mesh = .ok s)
      (built : b.report.step (s.surroundings board occurrence.now).toEnv
        (.routeInfo pkt) = .ok after)
      (report : b'.report.clearOut = after.clearOut)
      (config : b'.config.clearOut = b.config.clearOut) (ld : b'.ld = b.ld)
      (silent : ∀ order ∈ b'.out, order.introduces = false)
  | largeData (s : MeshPlane) (event : LdEvent) (up : b.mesh = .ok s)
      (handled : occurrence.event = .largeData event)
      (stepped : b.ld.step (s.surroundings board occurrence.now).toEnv
        event = .ok b'.ld)
      (config : b'.config = b.config) (report : b'.report = b.report)
      (sent : b'.out = b'.ld.io.out.map .data)
  | button1 (s : MeshPlane) (up : b.mesh = .ok s)
      (handled : occurrence.event = .defaultButton1)
      (report : b'.report = b.report.clearOut.defaultButton1Handler
        (s.surroundings board occurrence.now).toEnv b.dataId)
      (config : b'.config = b.config) (ld : b'.ld = b.ld)
      (silent : ∀ order ∈ b'.out, order.introduces = false)
  | button2 (s : MeshPlane) (layout : SensorConfigLayout) (up : b.mesh = .ok s)
      (handled : occurrence.event = .defaultButton2 layout)
      (config : b'.config = b.config.clearOut.defaultButton2Handler
        (s.surroundings board occurrence.now).toEnv layout)
      (ld : b'.ld = b.ld.clearOut.defaultButton2Handler
        (s.surroundings board occurrence.now).toEnv)
      (report : b'.report = b.report)
      (silent : ∀ order ∈ b'.out, order.introduces = false)

theorem mesh_silent {actions : List MeshAction} {order : Enqueued}
    (member : order ∈ actions.map Enqueued.mesh) :
    order.introduces = false := by
  obtain ⟨action, -, rfl⟩ := List.mem_map.mp member
  rfl

theorem handle_did {s : MeshPlane} (up : b.mesh = .ok s)
    (fresh : ∀ index, occurrence.event ≠ .retry index)
    (handled : b.handle board s occurrence = .ok b') :
    Did board b occurrence b' := by
  have awake : b'.mesh.isOk = true → b.mesh.isOk = true := fun _ => by
    rw [up]
    rfl
  unfold handle at handled
  dsimp only at handled
  split at handled
  · cases handled
    exact .quiet ⟨rfl, rfl, rfl⟩ awake fun order member => by cases member
  · cases handled
    exact .quiet ⟨rfl, rfl, rfl⟩ awake fun order member => mesh_silent member
  · next event kind =>
    split at handled
    · cases handled
    · next config stepped =>
      cases handled
      exact .config s event up (.inl kind) stepped rfl rfl
        fun order member _ => by
          obtain ⟨action, inside, rfl⟩ := List.mem_map.mp member
          exact ⟨action, inside, rfl⟩
  · next event kind =>
    split at handled
    · cases handled
    · next report stepped =>
      cases handled
      exact .report s event up kind stepped rfl rfl rfl
  · next event kind =>
    split at handled
    · cases handled
    · next ld stepped =>
      cases handled
      exact .largeData s event up kind stepped rfl rfl rfl
  · cases handled
    refine .quiet ⟨rfl, rfl, rfl⟩ awake fun order member => ?_
    obtain ⟨action, inside, rfl⟩ := List.mem_map.mp member
    exact handleRouteDiscovery_silent inside
  · next pkt srcId kind =>
    split at handled
    · cases handled
    · next service routed =>
      cases handled
      have silent {action : Action} (inside : action ∈
          (s.surroundings board occurrence.now).handleRouteInfo pkt srcId) :=
        handleRouteInfo_silent inside
      unfold RouteService.handleRouteInfo at routed
      dsimp only at routed
      split at routed
      · split at routed
        · cases routed
        · next config sent =>
          cases routed
          refine .config s (.routeInfo pkt srcId) up
            (.inr ⟨pkt, srcId, kind, rfl⟩) sent rfl rfl
            fun order member introduces => ?_
          obtain ⟨action, inside, rfl⟩ := List.mem_map.mp member
          rcases List.mem_append.mp inside with route | inside
          · exact absurd (introduces.symm.trans (silent route)) (by decide)
          · rcases List.mem_append.mp inside with there | nothing
            · exact ⟨action, there, rfl⟩
            · cases nothing
      · split at routed
        · split at routed
          · cases routed
          · next report sent =>
            cases routed
            obtain ⟨moved, out⟩ := sendRoutedReport_moved sent
            have quiet : ∀ order ∈ ((s.surroundings board
                occurrence.now).handleRouteInfo pkt srcId ++
                  (b.config.clearOut.io.out ++ report.io.out)).map
                    Enqueued.data, order.introduces = false := by
              intro order member
              obtain ⟨action, inside, rfl⟩ := List.mem_map.mp member
              rcases List.mem_append.mp inside with route | inside
              · exact silent route
              · rcases List.mem_append.mp inside with nothing | there
                · cases nothing
                · rcases out action there with before | new
                  · cases before
                  · exact new
            rcases moved with same | ⟨after, built, found, same⟩
            · exact .quiet ⟨rfl, same, rfl⟩ awake quiet
            · have stepped : b.report.step
                  (s.surroundings board occurrence.now).toEnv
                  (.routeInfo pkt) = .ok after :=
                congrArg (Except.map Prod.fst) found
              exact .answered s pkt after up stepped same rfl rfl quiet
        · split at routed
          · cases routed
            refine .quiet ⟨rfl, rfl, rfl⟩ awake fun order member => ?_
            obtain ⟨action, inside, rfl⟩ := List.mem_map.mp member
            rcases List.mem_append.mp inside with route | nothing
            · exact silent route
            · cases nothing
          · cases routed
            refine .quiet ⟨rfl, rfl, rfl⟩ awake fun order member => ?_
            obtain ⟨action, inside, rfl⟩ := List.mem_map.mp member
            rcases List.mem_append.mp inside with route | answer
            · exact silent route
            · cases List.mem_singleton.mp answer
              rfl
  · next index kind => exact absurd kind (fresh index)
  · cases handled
    exact .recovered rfl rfl rfl fun order member => mesh_silent member
  · cases handled
    exact .quiet ⟨rfl, rfl, rfl⟩ awake fun order member => mesh_silent member
  · next kind =>
    cases handled
    refine .button1 s up kind rfl rfl rfl fun order member => ?_
    obtain ⟨action, inside, -⟩ := List.mem_map.mp member
    rw [ReportPlane.defaultButton1Handler_out] at inside
    cases inside
  · next layout kind =>
    cases handled
    refine .button2 s layout up kind rfl rfl rfl fun order member => ?_
    obtain ⟨action, inside, rfl⟩ := List.mem_map.mp member
    obtain ⟨pkt, rfl⟩ := button2_asks inside
    rfl
  · cases handled
    exact .quiet ⟨rfl, rfl, rfl⟩ awake fun order member => mesh_silent member

theorem step_did (fresh : ∀ index, occurrence.event ≠ .retry index)
    (stepped : b.step board occurrence = .ok b') :
    Did board b occurrence b' := by
  unfold step at stepped
  split at stepped
  · next s up => exact handle_did up fresh stepped
  · split at stepped
    · next config report ld _ =>
      cases stepped
      exact .started (config, report, ld) rfl rfl rfl
        fun order member => mesh_silent member
    · cases stepped
      exact .quiet ⟨rfl, rfl, rfl⟩ id fun order member => by cases member

section Told

variable {text : AtLine}

/-- The plane that handles an event puts out this line for it. -/
def Tells (board : Board) (b b' : LiveBoard) (s : MeshPlane) (now : Nat)
    (text : AtLine) : LiveEvent → Prop
  | .report event =>
      b.report.step (s.surroundings board now).toEnv event = .ok b'.report ∧
        .line text ∈ b'.report.io.out
  | .largeData event =>
      b.ld.step (s.surroundings board now).toEnv event = .ok b'.ld ∧
        .line text ∈ b'.ld.io.out
  | .config event =>
      b.config.step (s.surroundings board now).toEnv event = .ok b'.config ∧
        .line text ∈ b'.config.io.out
  | _ => True

/-- No other plane tells the host anything. -/
theorem told {event : LiveEvent} (kind : occurrence.event = event)
    (fresh : ∀ index, event ≠ .retry index)
    (stepped : b.step board occurrence = .ok b')
    (told : .data (.line text) ∈ b'.out) :
    ∃ s, b.mesh = .ok s ∧ Tells board b b' s occurrence.now text event := by
  subst kind
  cases step_did fresh stepped with
  | quiet same awake silent => cases silent _ told
  | started io config report ld silent => cases silent _ told
  | recovered config report ld silent => cases silent _ told
  | config s event up handled stepped report ld sent =>
      obtain ⟨action, inside, same⟩ := sent _ told rfl
      cases same
      rcases handled with handled | ⟨pkt, srcId, handled, -⟩
      · rw [handled]
        exact ⟨s, up, stepped, inside⟩
      · rw [handled]
        exact ⟨s, up, trivial⟩
  | report s event up handled stepped config ld sent =>
      rw [sent] at told
      obtain ⟨action, inside, same⟩ := List.mem_map.mp told
      cases same
      rw [handled]
      exact ⟨s, up, stepped, inside⟩
  | answered s pkt after up built report config ld silent =>
      cases silent _ told
  | button1 s up pressed report config ld silent => cases silent _ told
  | button2 s layout up pressed config ld report silent =>
      cases silent _ told
  | largeData s event up handled stepped config report sent =>
      rw [sent] at told
      obtain ⟨action, inside, same⟩ := List.mem_map.mp told
      cases same
      rw [handled]
      exact ⟨s, up, stepped, inside⟩

end Told

end LiveBoard

end DectMesh
