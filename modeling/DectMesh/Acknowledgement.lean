import DectMesh.Config.Rejection
import DectMesh.Report.Run

/-!
# What an anchor vouches for

An anchor answers a `CONFIG` or a `REPORT_RECEIVED` at once.  The answer
`SUCCESS` should mean that the packet is on its way, to the sensor it is for or
to the next anchor of its route.
-/

namespace DectMesh

/-- An id that stands for no device in a route. -/
def Padding (id : UInt16) : Prop := id = 0xFFFF ∨ id = 0

theorem lastHop_iff {route : RouteInfoTable} :
    lastHop route = true ↔ Padding (route secondHop).deviceId := by
  simp [lastHop, Padding]

/-- The same configuration under another header and another route. -/
def Config.Copies (sent pkt : Config) : Prop :=
  { sent with hdr := pkt.hdr, routeInfo := pkt.routeInfo } = pkt

/-- The same report under another header and another route. -/
def ReportReceived.Copies (sent pkt : ReportReceived) : Prop :=
  { sent with hdr := pkt.hdr, routeInfo := pkt.routeInfo } = pkt

section Answers

/-- The receiver is the device `dst`, a stored sensor, or the next anchor of
the route. -/
def OnItsWay (env : Env) (dst : UInt16) (route : RouteInfoTable)
    (receiver : UInt16) : Prop :=
  env.findSensor dst ≠ none ∧ receiver = dst ∨
    ¬ Padding (route secondHop).deviceId ∧
      receiver = (route secondHop).deviceId

/-- The answer `SUCCESS` is given only to what is on its way. -/
structure Truthful
    (env : Env) (dst : UInt16) (route : RouteInfoTable)
    (succeeded : Prop) (sentTo : UInt16 → Prop) : Prop where
  sent : succeeded → ∃ receiver, sentTo receiver ∧
    OnItsWay env dst route receiver
  unreachable : env.findSensor dst = none →
    Padding (route secondHop).deviceId → ¬ succeeded

/-- At the end of a route the anchor has some sensor, or the packet is not for
it and the end of the route happens to be the stored device itself.  `ends`
tells that the handler takes the anchor for the last one. -/
structure Answerable
    (env : Env) (dst : UInt16) (route : RouteInfoTable) (ends : Prop) :
    Prop where
  stored : Padding (route secondHop).deviceId → ends →
    env.findSensor dst = none → env.sensorCount ≠ 0
  routed : Padding (route secondHop).deviceId → ¬ ends →
    env.findSensor dst ≠ none ∧ (route secondHop).deviceId = dst

variable {env : Env} {dst : UInt16} {route : RouteInfoTable} {ends : Prop}
variable {succeeded : Prop} {sentTo : UInt16 → Prop}

/-- Both handlers have these three branches. -/
theorem truthful_iff
    (stored : Padding (route secondHop).deviceId → ends →
      env.findSensor dst ≠ none → sentTo dst)
    (missing : Padding (route secondHop).deviceId → ends →
      env.findSensor dst = none →
        (succeeded ↔ env.sensorCount = 0) ∧ ∀ receiver, ¬ sentTo receiver)
    (forwarded : ¬ (ends ∧ Padding (route secondHop).deviceId) →
      succeeded ∧
        ∀ receiver, sentTo receiver ↔
          receiver = (route secondHop).deviceId) :
    Truthful env dst route succeeded sentTo ↔
      Answerable env dst route ends := by
  constructor
  · intro truthful
    constructor
    · intro padding here none_ empty
      exact truthful.unreachable none_ padding
        ((missing padding here none_).1.mpr empty)
    · intro padding beyond
      obtain ⟨success, receivers⟩ := forwarded fun both => beyond both.1
      obtain ⟨receiver, sent, way⟩ := truthful.sent success
      have next := (receivers receiver).mp sent
      rcases way with ⟨known, same⟩ | ⟨named, -⟩
      · exact ⟨known, next.symm.trans same⟩
      · exact absurd padding named
  · intro answerable
    constructor
    · intro success
      by_cases padding : Padding (route secondHop).deviceId
      · by_cases here : ends
        · by_cases known : env.findSensor dst = none
          · have empty := (missing padding here known).1.mp success
            exact absurd empty (answerable.stored padding here known)
          · exact ⟨dst, stored padding here known, .inl ⟨known, rfl⟩⟩
        · obtain ⟨known, same⟩ := answerable.routed padding here
          obtain ⟨-, receivers⟩ := forwarded fun both => here both.1
          exact ⟨dst, (receivers dst).mpr same.symm, .inl ⟨known, rfl⟩⟩
      · obtain ⟨-, receivers⟩ := forwarded fun both => padding both.2
        exact ⟨_, (receivers _).mpr rfl, .inr ⟨padding, rfl⟩⟩
    · intro none_ padding success
      by_cases here : ends
      · exact answerable.stored padding here none_
          ((missing padding here none_).1.mp success)
      · exact (answerable.routed padding here).1 none_

end Answers

namespace ConfigPlane

variable {env : Env} {s s' : ConfigPlane} {pkt : Config} {srcId : UInt16}

/-- The packet has a slot that does not hold it yet, its checksum is right and
the PSRAM takes it. -/
def Takes (env : Env) (s : ConfigPlane) (pkt : Config) : Prop :=
  (pkt.configLen ≠ 0 ∧ pkt.configLen.toNat ≤ maxConfigSize) ∧
    ((∃ idx, s.findConfigSlot pkt.dstDeviceId = some idx ∧
        (s.slots idx).holdsSame pkt.configCrc32 pkt.configLen.toNat = false ∧
          ¬ Damaged env s pkt idx) ∨
      s.findConfigSlot pkt.dstDeviceId = none ∧
        ∃ idx, s.freeSlot = some idx ∧ ¬ Damaged env s pkt idx)

/-- The answer to the packet is `SUCCESS`. -/
def Succeeds (env : Env) (s : ConfigPlane) (pkt : Config) (srcId : UInt16) :
    Prop :=
  ∃ ack : ConfigAck,
    .reply (.configAck ack) ∈ (s.clearOut.handleConfig env pkt srcId).io.out ∧
      ack.hdr.status = statusSuccess

/-- The configuration is sent on to the receiver. -/
def PassesTo (env : Env) (s : ConfigPlane) (pkt : Config) (srcId : UInt16)
    (receiver : UInt16) : Prop :=
  ∃ sent : Config,
    .request (.config sent) ∈ (s.clearOut.handleConfig env pkt srcId).io.out ∧
      sent.Copies pkt ∧ sent.hdr.deviceId = receiver

theorem damaged_congr {t : ConfigPlane} (io : s.io.psram = t.io.psram)
    {idx : Fin configSlotCount} :
    Damaged env s pkt idx ↔ Damaged env t pkt idx := by
  unfold Damaged Io.write
  rw [io]

/-- An anchor stores what it takes, and only that. -/
theorem validateConfig_takes (anchor : env.deviceType = .anchor)
    (ranged : pkt.configLen ≠ 0 ∧ pkt.configLen.toNat ≤ maxConfigSize) :
    (Takes env s pkt ∧ ∃ after idx, s.clearOut.validateConfig env pkt =
        (after, statusSuccess, some idx)) ∨
      ¬ Takes env s pkt ∧
        (s.clearOut.validateConfig env pkt).2.1 ≠ statusSuccess := by
  have notSensor : env.deviceType ≠ .sensor := by
    rw [anchor]
    decide
  have known : statusAlreadyExists ≠ statusSuccess := by decide
  have full : statusResourceUnavailable ≠ statusSuccess := by decide
  unfold Takes
  simp only [ranged, ne_eq, not_false_eq_true, and_self, true_and]
  have validation := validateConfig_validation env s.clearOut pkt
  generalize s.clearOut.validateConfig env pkt = outcome at validation
  cases validation with
  | foreign sensor => exact absurd sensor notSensor
  | @known idx found same =>
      rw [findConfigSlot_clearOut] at found
      refine .inr ⟨?_, known⟩
      rintro (⟨other, there, different, -⟩ | ⟨none_, -⟩)
      · rw [found, Option.some.injEq] at there
        rw [← there] at different
        exact absurd (different.symm.trans same) (by decide)
      · rw [found] at none_
        cases none_
  | full missing none_ =>
      rw [findConfigSlot_clearOut] at missing
      rw [freeSlot_clearOut] at none_
      refine .inr ⟨?_, full⟩
      rintro (⟨other, there, -⟩ | ⟨-, other, free, -⟩)
      · rw [missing] at there
        cases there
      · rw [none_] at free
        cases free
  | @replaced after status idx _ found other stored =>
      rw [findConfigSlot_clearOut] at found
      rcases storeConfig_cases env s.clearOut idx pkt with
        ⟨damaged, failed, -⟩ | ⟨intact, success, -⟩
      · rw [stored] at failed
        refine .inr ⟨?_, failed⟩
        rintro (⟨there, same, -, intact⟩ | ⟨none_, -⟩)
        · rw [found, Option.some.injEq] at same
          rw [← same] at intact
          exact intact damaged
        · rw [found] at none_
          cases none_
      · rw [stored] at success
        have success : status = statusSuccess := success
        subst success
        exact .inl ⟨.inl ⟨idx, found, other, intact⟩, after, idx, rfl⟩
  | @placed base after status idx _ missing allocated stored =>
      rw [findConfigSlot_clearOut] at missing
      obtain ⟨free, -, io⟩ := allocConfigSlot_some allocated
      rw [freeSlot_clearOut] at free
      have psram : base.io.psram = s.io.psram := by
        rw [io]
        rfl
      rcases storeConfig_cases env base idx pkt with
        ⟨damaged, failed, -⟩ | ⟨intact, success, -⟩
      · rw [stored] at failed
        rw [damaged_congr psram] at damaged
        refine .inr ⟨?_, failed⟩
        rintro (⟨there, found, -⟩ | ⟨-, there, same, intact⟩)
        · rw [missing] at found
          cases found
        · rw [free, Option.some.injEq] at same
          rw [← same] at intact
          exact intact damaged
      · rw [stored] at success
        have success : status = statusSuccess := success
        subst success
        rw [damaged_congr psram] at intact
        exact .inl ⟨.inr ⟨missing, idx, free, intact⟩, after, idx, rfl⟩

/-- The answer `SUCCESS` to a packet that is not taken is never given. -/
theorem not_succeeds (anchor : env.deviceType = .anchor)
    (refused : ¬ Takes env s pkt) : ¬ Succeeds env s pkt srcId := by
  rintro ⟨ack, member, success⟩
  have invalid : statusInvalidParameter ≠ statusSuccess := by decide
  have quiet : .reply (.configAck ack) ∉
      (s.clearOut.validateConfig env pkt).1.io.out := by
    rw [validateConfig_out]
    exact List.not_mem_nil
  have given {t : ConfigPlane} {status : UInt8}
      (quiet : .reply (.configAck ack) ∉ t.io.out)
      (member : .reply (.configAck ack) ∈
        (t.put (configAnswer env pkt srcId status)).io.out) :
      status = statusSuccess := by
    rw [mem_acked quiet member] at success
    exact success
  have failed (valid : Validated env pkt) :
      (s.clearOut.validateConfig env pkt).2.1 ≠ statusSuccess := by
    rcases validateConfig_takes anchor ⟨valid.2.1, valid.2.2.1⟩ with
      ⟨taken, -⟩ | ⟨-, failed⟩
    · exact absurd taken refused
    · exact failed
  generalize handled : s.clearOut.handleConfig env pkt srcId = s' at member
  cases handleConfig_taken handled with
  | ignored => cases member
  | unranged =>
      have quiet : .reply (.configAck ack) ∉ s.clearOut.io.out :=
        List.not_mem_nil
      exact invalid (given quiet member)
  | answered valid outcome =>
      have failed := failed valid
      rw [outcome] at quiet failed
      exact failed (given quiet member)
  | relayed _ valid outcome =>
      have failed := failed valid
      rw [outcome] at failed
      exact failed rfl
  | confirmed sensor => cases anchor.symm.trans sensor

/-- What an anchor puts out for a packet that it takes. -/
theorem handleConfig_relayed (anchor : env.deviceType = .anchor)
    (accepts : env.accepts pkt.hdr = true)
    (upstream : isUpstreamType pkt.hdr.deviceType = true)
    (takes : Takes env s pkt) :
    ∃ (t : ConfigPlane) (idx : Fin configSlotCount) (given : ConfigAck),
      t.io.out = [] ∧ given.hdr.status = (t.relayConfig env idx pkt).2 ∧
        (s.clearOut.handleConfig env pkt srcId).io.out =
          (t.relayConfig env idx pkt).1.io.out ++
            [.reply (.configAck given)] := by
  obtain ⟨ranged, -⟩ := id takes
  rcases @validateConfig_takes env s pkt anchor ranged with
    ⟨-, after, idx, outcome⟩ | ⟨refused, -⟩
  · have quiet := @validateConfig_out env s.clearOut pkt
    rw [outcome] at quiet
    generalize handled : s.clearOut.handleConfig env pkt srcId = s'
    have valid : Validated env pkt :=
      ⟨accepts, ranged.1, ranged.2, .inl anchor, upstream⟩
    cases handleConfig_taken handled with
    | ignored other => exact absurd valid other
    | unranged length =>
        exact absurd length
          (not_or.mpr ⟨ranged.1, Nat.not_lt.mpr ranged.2⟩)
    | answered _ validated unrelayed =>
        rw [outcome] at validated
        cases validated
        cases unrelayed anchor rfl
    | relayed _ _ validated =>
        rw [outcome] at validated
        cases validated
        exact ⟨after, idx, _, quiet, rfl, rfl⟩
    | confirmed sensor => cases anchor.symm.trans sensor
  · exact absurd takes refused

/-- The one packet that `handle_config` puts out when it sends a
configuration on. -/
theorem mem_forwarded {t : ConfigPlane} {idx : Fin configSlotCount}
    {route : RouteInfoTable} {dstId : UInt16} {durationMs maxRetries : Nat}
    (quiet : t.io.out = []) (receiver : UInt16) :
    (∃ sent : Config,
      .request (.config sent) ∈ (t.forwardConfig env idx
          { pkt with routeInfo := route } dstId durationMs maxRetries).io.out ∧
        sent.Copies pkt ∧ sent.hdr.deviceId = receiver) ↔
      receiver = dstId := by
  have out : (t.forwardConfig env idx { pkt with routeInfo := route } dstId
      durationMs maxRetries).io.out =
        [.request (.config { pkt with
          routeInfo := route
          hdr := { pkt.hdr with
            deviceType := env.deviceType.code
            priority := packetPriorityHigh
            deviceId := dstId } })] :=
    congrArg (· ++ [_]) quiet
  rw [out]
  constructor
  · rintro ⟨sent, member, -, same⟩
    cases List.mem_singleton.mp member
    exact same.symm
  · rintro rfl
    exact ⟨_, List.mem_singleton_self _, rfl, rfl⟩

/-- A configuration that is taken is vouched for truly exactly when the anchor
has a sensor at the end of its route. -/
theorem config_truthful (anchor : env.deviceType = .anchor)
    (accepts : env.accepts pkt.hdr = true)
    (upstream : isUpstreamType pkt.hdr.deviceType = true) :
    Truthful env pkt.dstDeviceId pkt.routeInfo (Succeeds env s pkt srcId)
        (PassesTo env s pkt srcId) ↔
      (Takes env s pkt →
        Answerable env pkt.dstDeviceId pkt.routeInfo
          (pkt.dstDeviceType = DeviceType.sensor.code)) := by
  by_cases takes : Takes env s pkt
  · obtain ⟨t, idx, given, quiet, status, out⟩ :=
      @handleConfig_relayed env s pkt srcId anchor accepts upstream takes
    have succeeds : Succeeds env s pkt srcId ↔
        (t.relayConfig env idx pkt).2 = statusSuccess := by
      rw [← status]
      unfold Succeeds
      rw [out]
      constructor
      · rintro ⟨ack, member, success⟩
        rcases List.mem_append.mp member with before | new
        · rcases relayConfig_requests _ before with old | ⟨_, request⟩
          · rw [quiet] at old
            cases old
          · cases request
        · cases List.mem_singleton.mp new
          exact success
      · intro success
        exact ⟨given, List.mem_append_right _ (List.mem_singleton_self _),
          success⟩
    have passes (receiver : UInt16) : PassesTo env s pkt srcId receiver ↔
        ∃ sent : Config,
          .request (.config sent) ∈ (t.relayConfig env idx pkt).1.io.out ∧
            sent.Copies pkt ∧ sent.hdr.deviceId = receiver := by
      unfold PassesTo
      rw [out]
      constructor
      · rintro ⟨sent, member, rest⟩
        refine ⟨sent, ?_, rest⟩
        rcases List.mem_append.mp member with before | new
        · exact before
        · cases List.mem_singleton.mp new
      · rintro ⟨sent, member, rest⟩
        exact ⟨sent, List.mem_append_left _ member, rest⟩
    have only : (Takes env s pkt →
        Answerable env pkt.dstDeviceId pkt.routeInfo
          (pkt.dstDeviceType = DeviceType.sensor.code)) ↔
        Answerable env pkt.dstDeviceId pkt.routeInfo
          (pkt.dstDeviceType = DeviceType.sensor.code) :=
      ⟨fun all => all takes, fun holds _ => holds⟩
    rw [only]
    refine truthful_iff ?_ ?_ ?_
    · intro padding ends known
      obtain ⟨i, found⟩ := Option.ne_none_iff_exists'.mp known
      have relayed : t.relayConfig env idx pkt =
          (t.forwardConfig env idx
            { pkt with routeInfo := endRoute pkt.routeInfo } pkt.dstDeviceId
            (30 * 1000) 3, statusSuccess) := by
        unfold relayConfig
        rw [if_pos ⟨ends, lastHop_iff.mpr padding⟩, found]
      rw [passes, relayed]
      exact (mem_forwarded quiet _).mpr rfl
    · intro padding ends missing
      have relayed : t.relayConfig env idx pkt =
          (t, if env.sensorCount = 0 then statusSuccess
            else statusNotFound) := by
        unfold relayConfig
        rw [if_pos ⟨ends, lastHop_iff.mpr padding⟩, missing]
      refine ⟨?_, fun receiver => ?_⟩
      · rw [succeeds, relayed]
        dsimp only
        split
        · next empty => exact ⟨fun _ => empty, fun _ => rfl⟩
        · next some_ =>
          exact ⟨fun same => absurd same (by decide),
            fun empty => absurd empty some_⟩
      · rw [passes, relayed]
        rintro ⟨sent, member, -⟩
        rw [quiet] at member
        cases member
    · intro further
      have relayed : t.relayConfig env idx pkt =
          (t.forwardConfig env idx
            { pkt with routeInfo := shiftRoute pkt.routeInfo }
            (pkt.routeInfo secondHop).deviceId (60 * 1000) 0,
            statusSuccess) := by
        unfold relayConfig
        rw [if_neg fun both => further ⟨both.1, lastHop_iff.mp both.2⟩]
        rfl
      refine ⟨?_, fun receiver => ?_⟩
      · rw [succeeds, relayed]
      · rw [passes, relayed]
        exact mem_forwarded quiet _
  · have never : ¬ Succeeds env s pkt srcId := not_succeeds anchor takes
    exact ⟨fun _ taken => absurd taken takes,
      fun _ => ⟨fun success => absurd success never, fun _ _ => never⟩⟩

end ConfigPlane

namespace ReportPlane

variable {env : Env} {s : ReportPlane} {pkt : ReportReceived}
variable {srcId : UInt16}

/-- The answer to the packet is `SUCCESS`. -/
def Succeeds (env : Env) (s : ReportPlane) (pkt : ReportReceived)
    (srcId : UInt16) : Prop :=
  ∃ ack : ReportReceivedAck,
    .reply (.reportReceivedAck ack) ∈
        (s.clearOut.handleReportReceived env pkt srcId).io.out ∧
      ack.hdr.status = statusSuccess

/-- The packet is sent on to the receiver. -/
def PassesTo (env : Env) (s : ReportPlane) (pkt : ReportReceived)
    (srcId receiver : UInt16) : Prop :=
  ∃ sent : ReportReceived,
    .request (.reportReceived sent) ∈
        (s.clearOut.handleReportReceived env pkt srcId).io.out ∧
      sent.Copies pkt ∧ sent.hdr.deviceId = receiver

/-- The packet as it is sent on. -/
def forwardedReceipt (env : Env) (pkt : ReportReceived)
    (route : RouteInfoTable) (dstId : UInt16) : ReportReceived :=
  { pkt with
    routeInfo := route
    hdr := { pkt.hdr with
      deviceType := env.deviceType.code
      priority := packetPriorityHigh
      trackingId := 0
      deviceId := dstId } }

/-- What an anchor puts out for the receipt of a report: the packet it sends
on, if any, and its answer. -/
def receiptOut (env : Env) (pkt : ReportReceived) (srcId : UInt16)
    (sent : List ReportReceived) (status : UInt8) : List Action :=
  sent.map (fun sent => Action.request (.reportReceived sent)) ++
    [.reply (.reportReceivedAck
      { hdr := env.replyHeader status srcId pkt.hdr.priority
          pkt.hdr.trackingId
        genDeviceId := pkt.genDeviceId
        dataId := pkt.dataId })]

theorem succeeds_iff {sent : List ReportReceived} {status : UInt8}
    (out : (s.clearOut.handleReportReceived env pkt srcId).io.out =
      receiptOut env pkt srcId sent status) :
    Succeeds env s pkt srcId ↔ status = statusSuccess := by
  unfold Succeeds
  rw [out]
  constructor
  · rintro ⟨ack, member, success⟩
    rcases List.mem_append.mp member with before | new
    · obtain ⟨_, -, same⟩ := List.mem_map.mp before
      cases same
    · cases List.mem_singleton.mp new
      exact success
  · intro success
    exact ⟨_, List.mem_append_right _ (List.mem_singleton_self _), success⟩

theorem passesTo_iff {sent : List ReportReceived} {status : UInt8}
    (out : (s.clearOut.handleReportReceived env pkt srcId).io.out =
      receiptOut env pkt srcId sent status) (receiver : UInt16) :
    PassesTo env s pkt srcId receiver ↔
      ∃ copy ∈ sent, copy.Copies pkt ∧ copy.hdr.deviceId = receiver := by
  unfold PassesTo
  rw [out]
  constructor
  · rintro ⟨copy, member, rest⟩
    rcases List.mem_append.mp member with before | new
    · obtain ⟨_, inside, same⟩ := List.mem_map.mp before
      cases same
      exact ⟨copy, inside, rest⟩
    · cases List.mem_singleton.mp new
  · rintro ⟨copy, inside, rest⟩
    exact ⟨copy, List.mem_append_left _ (List.mem_map.mpr
      ⟨copy, inside, rfl⟩), rest⟩

theorem mem_forwardedReceipt {route : RouteInfoTable}
    {dstId receiver : UInt16} :
    (∃ copy ∈ [forwardedReceipt env pkt route dstId],
      copy.Copies pkt ∧ copy.hdr.deviceId = receiver) ↔ receiver = dstId := by
  constructor
  · rintro ⟨copy, member, -, same⟩
    cases List.mem_singleton.mp member
    exact same.symm
  · rintro rfl
    exact ⟨_, List.mem_singleton_self _, rfl, rfl⟩

/-- The receipt of a report is vouched for truly exactly when the anchor has a
sensor at the end of its route. -/
theorem reportReceived_truthful (anchor : env.deviceType = .anchor)
    (accepts : env.accepts pkt.hdr = true)
    (upstream : isUpstreamType pkt.hdr.deviceType = true) :
    Truthful env pkt.genDeviceId pkt.routeInfo (Succeeds env s pkt srcId)
        (PassesTo env s pkt srcId) ↔
      Answerable env pkt.genDeviceId pkt.routeInfo
        ((pkt.routeInfo firstHop).deviceId = env.deviceId) := by
  refine truthful_iff ?_ ?_ ?_
  · intro padding ends known
    obtain ⟨i, found⟩ := Option.ne_none_iff_exists'.mp known
    have out : (s.clearOut.handleReportReceived env pkt srcId).io.out =
        receiptOut env pkt srcId
          [forwardedReceipt env pkt (endRoute pkt.routeInfo) pkt.genDeviceId]
          statusSuccess := by
      unfold handleReportReceived
      dsimp only
      rw [if_neg (by simp [accepts]), anchor]
      dsimp only
      rw [if_pos upstream, if_pos ⟨lastHop_iff.mpr padding, ends⟩, found]
      rfl
    exact (passesTo_iff out _).mpr (mem_forwardedReceipt.mpr rfl)
  · intro padding ends missing
    have out : (s.clearOut.handleReportReceived env pkt srcId).io.out =
        receiptOut env pkt srcId []
          (if env.sensorCount = 0 then statusSuccess else statusNotFound) := by
      unfold handleReportReceived
      dsimp only
      rw [if_neg (by simp [accepts]), anchor]
      dsimp only
      rw [if_pos upstream, if_pos ⟨lastHop_iff.mpr padding, ends⟩, missing]
      rfl
    refine ⟨(succeeds_iff out).trans ?_, fun receiver => ?_⟩
    · split
      · next empty => exact ⟨fun _ => empty, fun _ => rfl⟩
      · next some_ =>
        exact ⟨fun same => absurd same (by decide),
          fun empty => absurd empty some_⟩
    · rw [passesTo_iff out]
      rintro ⟨copy, member, -⟩
      cases member
  · intro further
    have out : (s.clearOut.handleReportReceived env pkt srcId).io.out =
        receiptOut env pkt srcId
          [forwardedReceipt env pkt (shiftRoute pkt.routeInfo)
            (pkt.routeInfo secondHop).deviceId] statusSuccess := by
      unfold handleReportReceived
      dsimp only
      rw [if_neg (by simp [accepts]), anchor]
      dsimp only
      rw [if_pos upstream,
        if_neg fun both => further ⟨both.2, lastHop_iff.mp both.1⟩]
      rfl
    refine ⟨(succeeds_iff out).mpr rfl, fun receiver => ?_⟩
    rw [passesTo_iff out]
    exact mem_forwardedReceipt

end ReportPlane

/-- For every anchor and every `CONFIG` and `REPORT_RECEIVED` from a gateway or
an anchor: the answer `SUCCESS` means that the packet is on its way exactly when
a packet at the end of its route finds some sensor, and a packet that is passed
on has an anchor to go to. -/
theorem anchorAcks_truthful
    {env : Env} {plane : ConfigPlane} {reports : ReportPlane}
    {config : Config} {received : ReportReceived} {srcId : UInt16}
    (anchor : env.deviceType = .anchor)
    (accepts : env.accepts config.hdr = true)
    (upstream : isUpstreamType config.hdr.deviceType = true)
    (acceptsReceived : env.accepts received.hdr = true)
    (upstreamReceived : isUpstreamType received.hdr.deviceType = true) :
    (Truthful env config.dstDeviceId config.routeInfo
        (plane.Succeeds env config srcId) (plane.PassesTo env config srcId) ↔
      (plane.Takes env config →
        Answerable env config.dstDeviceId config.routeInfo
          (config.dstDeviceType = DeviceType.sensor.code))) ∧
    (Truthful env received.genDeviceId received.routeInfo
        (reports.Succeeds env received srcId)
        (reports.PassesTo env received srcId) ↔
      Answerable env received.genDeviceId received.routeInfo
        ((received.routeInfo firstHop).deviceId = env.deviceId)) :=
  ⟨plane.config_truthful anchor accepts upstream,
    reports.reportReceived_truthful anchor acceptsReceived upstreamReceived⟩

section Samples

open ConfigPlane (configAnchor strayConfig answerTo)

/-- An anchor with address 9 and the sensor 5. -/
def servingAnchor : Env := { configAnchor with sensorDevices := fun _ => 5 }

/-- The same anchor without any sensor. -/
def idleAnchor : Env := { servingAnchor with sensorCount := 0 }

/-- The receipt of the report 1 of the sensor 5, at the end of its route. -/
def lastReceipt : ReportReceived where
  hdr := { deviceType := 1, deviceId := 9 }
  genDeviceId := 5
  dataId := 1
  routeInfo := fun i => if i = firstHop then { deviceId := 9 } else {}

theorem anchorAcks_truthful_serving :
    Truthful servingAnchor 5 strayConfig.routeInfo
        (ConfigPlane.Succeeds servingAnchor {} strayConfig 1)
        (ConfigPlane.PassesTo servingAnchor {} strayConfig 1) ∧
      Truthful servingAnchor 5 lastReceipt.routeInfo
        (ReportPlane.Succeeds servingAnchor {} lastReceipt 1)
        (ReportPlane.PassesTo servingAnchor {} lastReceipt 1) := by
  have known : servingAnchor.findSensor 5 ≠ none := by decide +kernel
  obtain ⟨config, received⟩ :=
    @anchorAcks_truthful servingAnchor {} {} strayConfig lastReceipt 1 rfl rfl
      rfl rfl rfl
  constructor
  · exact config.mpr fun _ =>
      ⟨fun _ _ missing => absurd missing known, fun _ other => absurd rfl other⟩
  · exact received.mpr
      ⟨fun _ _ missing => absurd missing known, fun _ other => absurd rfl other⟩

/-- An anchor without sensors answers `SUCCESS` to what it drops. -/
theorem anchorAcks_untruthful :
    ¬ Truthful idleAnchor 5 strayConfig.routeInfo
        (ConfigPlane.Succeeds idleAnchor {} strayConfig 1)
        (ConfigPlane.PassesTo idleAnchor {} strayConfig 1) ∧
      ¬ Truthful idleAnchor 5 lastReceipt.routeInfo
        (ReportPlane.Succeeds idleAnchor {} lastReceipt 1)
        (ReportPlane.PassesTo idleAnchor {} lastReceipt 1) := by
  have missing : idleAnchor.findSensor 5 = none := by decide +kernel
  constructor
  · intro truthful
    have out : ((ConfigPlane.clearOut {}).handleConfig idleAnchor strayConfig
        1).io.out =
          [.reply (.configAck
            (answerTo idleAnchor strayConfig statusSuccess))] := by
      decide +kernel
    refine truthful.unreachable missing (.inr rfl)
      ⟨answerTo idleAnchor strayConfig statusSuccess, ?_, rfl⟩
    rw [out]
    exact List.mem_singleton_self _
  · intro truthful
    have out : ((ReportPlane.clearOut {}).handleReportReceived idleAnchor
        lastReceipt 1).io.out =
          ReportPlane.receiptOut idleAnchor lastReceipt 1 [] statusSuccess := by
      decide +kernel
    exact truthful.unreachable missing (.inr rfl)
      ((ReportPlane.succeeds_iff out).mpr rfl)

end Samples

end DectMesh
