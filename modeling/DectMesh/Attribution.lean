import DectMesh.LargeData.Forwarding
import DectMesh.Report.Duplicates

/-!
# Whose report a line is

The gateway names the device of a report or a blob by the serial number that
its mesh table holds for the device id.  The two searches of that table end
past the last entry when there is no match.
-/

namespace DectMesh

namespace Env

/-- The mesh table has an entry for this device. -/
def Lists (env : Env) (deviceId : UInt16) : Prop :=
  ∃ i, i.val < env.meshCount ∧ (env.meshDevices i).deviceId = deviceId

/-- The mesh table has an entry for this device with this serial number. -/
def Names (env : Env) (deviceId : UInt16) (serialNum : UInt64) : Prop :=
  ∃ i, i.val < env.meshCount ∧ (env.meshDevices i).deviceId = deviceId ∧
    (env.meshDevices i).serialNum = serialNum

variable {env : Env} {deviceId : UInt16}

theorem lists_iff :
    env.Lists deviceId ↔
      ∃ i, (env.findMesh fun entry => entry.deviceId = deviceId) = some i := by
  constructor
  · rintro ⟨i, inside, same⟩
    unfold findMesh
    rw [← Option.isSome_iff_exists, Fin.isSome_find?_iff]
    exact ⟨i, by simpa using ⟨inside, same⟩⟩
  · rintro ⟨i, found⟩
    obtain ⟨inside, same⟩ := findMesh_some found
    exact ⟨i, inside, by simpa using same⟩

theorem not_lists_iff :
    ¬ env.Lists deviceId ↔
      (env.findMesh fun entry => entry.deviceId = deviceId) = none := by
  rw [lists_iff, ← Option.isSome_iff_exists, Bool.not_eq_true,
    Option.isSome_eq_false_iff, Option.isNone_iff_eq_none]

/-- What a search for a device in the table leads to. -/
theorem meshDevice_listed (listed : env.Lists deviceId) :
    ∃ entry, env.meshDevice (env.meshIndex deviceId) = .ok entry ∧
      env.Names deviceId entry.serialNum := by
  obtain ⟨i, found⟩ := lists_iff.mp listed
  obtain ⟨inside, same⟩ := findMesh_some found
  refine ⟨env.meshDevices i, ?_, i, inside, by simpa using same, rfl⟩
  unfold meshIndex meshDevice
  rw [found]
  exact dif_pos i.isLt

/-- What a search for another device leads to. -/
theorem meshDevice_unlisted (unlisted : ¬ env.Lists deviceId) :
    env.meshDevice (env.meshIndex deviceId) = env.meshDevice env.meshCount := by
  have missing := not_lists_iff.mp unlisted
  unfold meshIndex
  rw [missing]

end Env

namespace ReportPlane

variable {s s' : ReportPlane} {env : Env} {idx : Fin dataSlotCount}

section Rounds

variable (env : Env) (idx : Fin dataSlotCount) (s : ReportPlane)

/-- One round of the second loop of `gateway_report_tick`; the flag tells that
the loop goes on. -/
def forwardSlot : Except Fault (ReportPlane × Bool) :=
  let slot := s.slots idx
  if slot.active ∧ slot.upstreamReady ∧ !slot.isSent then
    match s.io.read (slotPsramAddr idx) slot.totalSize.toNat with
    | (io, .error _) => .ok ({ s with io := io }, true)
    | (io, .ok payload) =>
        match env.meshDevice (env.meshIndex slot.genDeviceId) with
        | .error fault => .error fault
        | .ok entry =>
            if slmUartAtCommandLen ≤
                reportHeaderLength + slot.totalSize.toNat * 2 + 3 then
              .ok ({ s with io := io }, true)
            else
              match io.txWrite (.report entry.serialNum slot.dataId
                  slot.reportTimeMs slot.totalSize slot.crc32 payload) with
              | (io, false) => .ok ({ s with io := io }, true)
              | (io, true) =>
                  .ok ({ s with io := io }.setSlot idx
                    { slot with isSent := true }, false)
  else
    .ok (s, true)

/-- The loop over these slots comes from the first state to this slot in the
last state. -/
inductive ComesTo (env : Env) :
    List (Fin dataSlotCount) → ReportPlane → Fin dataSlotCount →
      ReportPlane → Prop
  | first {s : ReportPlane} {idx : Fin dataSlotCount}
      {rest : List (Fin dataSlotCount)} : ComesTo env (idx :: rest) s idx s
  | later {s s' t : ReportPlane} {idx other : Fin dataSlotCount}
      {rest : List (Fin dataSlotCount)} :
      forwardSlot env idx s = .ok (s', true) →
      ComesTo env rest s' other t →
      ComesTo env (idx :: rest) s other t

/-- A round writes a line under a serial number of the report's device, or no
line; and a slot whose device has none is passed over. -/
structure RoundAttributed : Prop where
  named : ∀ s' more, forwardSlot env idx s = .ok (s', more) →
    s'.io.out = s.io.out ∨ ∃ serialNum payload,
      env.Names (s.slots idx).genDeviceId serialNum ∧
        s'.io.out = s.io.out ++ [.line (.report serialNum (s.slots idx).dataId
          (s.slots idx).reportTimeMs (s.slots idx).totalSize
          (s.slots idx).crc32 payload)]
  passed : s.Unsent idx → ¬ env.Lists (s.slots idx).genDeviceId →
    ∃ s', forwardSlot env idx s = .ok (s', true) ∧ s'.io.out = s.io.out

/-- The line of this slot cannot be built, or is lost at the UART. -/
def LineLost : Prop :=
  (∃ errno, (s.io.read (slotPsramAddr idx)
      (s.slots idx).totalSize.toNat).2 = .error errno) ∨
    env.meshCount < maxDevices ∧
      (slmUartAtCommandLen ≤
          reportHeaderLength + (s.slots idx).totalSize.toNat * 2 + 3 ∨
        s.io.uart.head? = some .dropped)

/-- The slot does not wait, its device is in the mesh table, or its line does
not reach the host anyway. -/
def RoundAttributable : Prop :=
  s.Unsent idx → env.Lists (s.slots idx).genDeviceId ∨ LineLost env idx s

end Rounds

theorem forwardSlot_idle (idle : ¬ s.Unsent idx) :
    forwardSlot env idx s = .ok (s, true) := by
  rw [forwardSlot]
  apply if_neg
  simpa [Unsent] using idle

/-- A waiting slot whose contents cannot be read is passed over. -/
theorem forwardSlot_unread {io : Io} {errno : Errno} (unsent : s.Unsent idx)
    (read : s.io.read (slotPsramAddr idx) (s.slots idx).totalSize.toNat =
      (io, .error errno)) :
    forwardSlot env idx s = .ok ({ s with io := io }, true) := by
  rw [forwardSlot, if_pos (by simpa [Unsent] using unsent), read]

/-- What becomes of the contents of a waiting slot. -/
theorem forwardSlot_read {io : Io} {payload : List UInt8}
    (unsent : s.Unsent idx)
    (read : s.io.read (slotPsramAddr idx) (s.slots idx).totalSize.toNat =
      (io, .ok payload)) :
    forwardSlot env idx s =
      (env.meshDevice (env.meshIndex (s.slots idx).genDeviceId)).bind
        fun entry =>
          let wrote := io.txWrite (.report entry.serialNum (s.slots idx).dataId
            (s.slots idx).reportTimeMs (s.slots idx).totalSize
            (s.slots idx).crc32 payload)
          if slmUartAtCommandLen ≤
              reportHeaderLength + (s.slots idx).totalSize.toNat * 2 + 3 then
            .ok ({ s with io := io }, true)
          else if wrote.2 then
            .ok ({ s with io := wrote.1 }.setSlot idx
              { s.slots idx with isSent := true }, false)
          else
            .ok ({ s with io := wrote.1 }, true) := by
  rw [forwardSlot, if_pos (by simpa [Unsent] using unsent), read]
  dsimp only
  cases env.meshDevice (env.meshIndex (s.slots idx).genDeviceId) with
  | error fault => rfl
  | ok entry =>
      dsimp only [Except.bind]
      split
      · rfl
      · split
        · next lost => rw [lost, if_neg (by simp)]
        · next sent => rw [sent, if_pos rfl]

/-- The loop is its rounds, one after the other. -/
theorem forwardToHost_cons (rest : List (Fin dataSlotCount)) :
    forwardToHost env (idx :: rest) s =
      (forwardSlot env idx s).bind fun round =>
        if round.2 then forwardToHost env rest round.1 else .ok round.1 := by
  rw [forwardToHost]
  by_cases unsent : s.Unsent idx
  · rw [if_pos (by simpa [Unsent] using unsent)]
    rcases read : s.io.read (slotPsramAddr idx) (s.slots idx).totalSize.toNat
      with ⟨io, errno | payload⟩
    · rw [forwardSlot_unread unsent read]
      rfl
    · rw [forwardSlot_read unsent read]
      dsimp only
      cases env.meshDevice (env.meshIndex (s.slots idx).genDeviceId) with
      | error fault => rfl
      | ok entry =>
          dsimp only [Except.bind]
          split
          · rfl
          · split
            · next lost =>
              rw [lost, if_neg (by simp)]
              rfl
            · next sent =>
              rw [sent, if_pos rfl]
              rfl
  · rw [if_neg (by simpa [Unsent] using unsent), forwardSlot_idle unsent]
    rfl

/-- A line is written under the serial number that the search leads to. -/
theorem forwardSlot_out {more : Bool}
    (forwarded : forwardSlot env idx s = .ok (s', more)) :
    s'.io.out = s.io.out ∨ ∃ entry payload,
      env.meshDevice (env.meshIndex (s.slots idx).genDeviceId) = .ok entry ∧
        s'.io.out = s.io.out ++ [.line (.report entry.serialNum
          (s.slots idx).dataId (s.slots idx).reportTimeMs
          (s.slots idx).totalSize (s.slots idx).crc32 payload)] := by
  by_cases unsent : s.Unsent idx
  · rcases read : s.io.read (slotPsramAddr idx) (s.slots idx).totalSize.toNat
      with ⟨io, errno | payload⟩
    · rw [forwardSlot_unread unsent read] at forwarded
      cases forwarded
      exact .inl (Io.read_out_eq read)
    · rw [forwardSlot_read unsent read] at forwarded
      rcases device : env.meshDevice (env.meshIndex (s.slots idx).genDeviceId)
        with fault | entry
      · rw [device] at forwarded
        cases forwarded
      · rw [device] at forwarded
        dsimp only [Except.bind] at forwarded
        have written := io.txWrite_out (.report entry.serialNum
          (s.slots idx).dataId (s.slots idx).reportTimeMs
          (s.slots idx).totalSize (s.slots idx).crc32 payload)
        rw [Io.read_out_eq read] at written
        split at forwarded
        · cases forwarded
          exact .inl (Io.read_out_eq read)
        · split at forwarded
          all_goals
            cases forwarded
            rcases written with line | ⟨nothing, -⟩
            · exact .inr ⟨entry, payload, rfl, line⟩
            · exact .inl nothing
  · rw [forwardSlot_idle unsent] at forwarded
    cases forwarded
    exact .inl rfl

/-- For a device that is not in the mesh table the loop goes on without a line
exactly when the line is lost. -/
theorem forwardSlot_unlisted (unsent : s.Unsent idx)
    (unlisted : ¬ env.Lists (s.slots idx).genDeviceId) :
    (∃ s', forwardSlot env idx s = .ok (s', true) ∧ s'.io.out = s.io.out) ↔
      LineLost env idx s := by
  unfold LineLost
  rcases read : s.io.read (slotPsramAddr idx) (s.slots idx).totalSize.toNat
    with ⟨io, errno | payload⟩
  · rw [forwardSlot_unread unsent read]
    exact iff_of_true ⟨_, rfl, Io.read_out_eq read⟩ (.inl ⟨errno, rfl⟩)
  · rw [forwardSlot_read unsent read, Env.meshDevice_unlisted unlisted,
      Env.meshDevice]
    have uart : io.uart = s.io.uart :=
      congrArg (fun outcome => outcome.1.uart) read.symm
    have out := Io.read_out_eq read
    split
    · next inside =>
      dsimp only [Except.bind]
      split
      · next long =>
        exact iff_of_true ⟨_, rfl, out⟩ (.inr ⟨inside, .inl long⟩)
      · next short =>
        have written := io.txWrite_shown
        rw [uart] at written
        by_cases dropped : s.io.uart.head? = some .dropped
        · refine iff_of_true ?_ (.inr ⟨inside, .inr dropped⟩)
          obtain ⟨coming, uart'⟩ := List.head?_eq_some_iff.mp (uart ▸ dropped)
          unfold Io.txWrite
          rw [uart']
          exact ⟨_, rfl, out⟩
        · refine iff_of_false ?_ ?_
          · rintro ⟨s', forwarded, silent⟩
            have line := written dropped
            split at forwarded
            · cases forwarded
            · cases forwarded
              rw [line, out] at silent
              simp at silent
          · rintro (⟨errno, failed⟩ | ⟨-, long | lost⟩)
            · cases failed
            · exact short long
            · exact dropped lost
    · next outside =>
      refine iff_of_false ?_ ?_
      · rintro ⟨s', forwarded, -⟩
        cases forwarded
      · rintro (⟨errno, failed⟩ | ⟨inside, -⟩)
        · cases failed
        · exact outside inside

/-- A round is attributed exactly when its slot is not waiting, its device is
in the mesh table, or its line is lost. -/
theorem roundAttributed_iff :
    RoundAttributed env idx s ↔ RoundAttributable env idx s := by
  constructor
  · intro attributed unsent
    by_cases listed : env.Lists (s.slots idx).genDeviceId
    · exact .inl listed
    · exact .inr ((forwardSlot_unlisted unsent listed).mp
        (attributed.passed unsent listed))
  · intro attributable
    have passed := fun unsent unlisted =>
      (forwardSlot_unlisted unsent unlisted).mpr
        ((attributable unsent).resolve_left unlisted)
    refine ⟨fun s' more forwarded => ?_, passed⟩
    by_cases unsent : s.Unsent idx
    · by_cases listed : env.Lists (s.slots idx).genDeviceId
      · rcases forwardSlot_out forwarded with same | ⟨entry, payload, device, line⟩
        · exact .inl same
        · obtain ⟨known, found, names⟩ := Env.meshDevice_listed listed
          rw [found] at device
          cases device
          exact .inr ⟨_, payload, names, line⟩
      · obtain ⟨t, same, silent⟩ := passed unsent listed
        rw [same] at forwarded
        cases forwarded
        exact .inl silent
    · rw [forwardSlot_idle unsent] at forwarded
      cases forwarded
      exact .inl rfl

/-- An attributed round reads no entry outside the table. -/
theorem RoundAttributed.ok (attributed : RoundAttributed env idx s) :
    ∃ s' more, forwardSlot env idx s = .ok (s', more) := by
  by_cases unsent : s.Unsent idx
  · by_cases listed : env.Lists (s.slots idx).genDeviceId
    · obtain ⟨entry, found, -⟩ := Env.meshDevice_listed listed
      rcases read : s.io.read (slotPsramAddr idx)
        (s.slots idx).totalSize.toNat with ⟨io, errno | payload⟩
      · exact ⟨_, _, forwardSlot_unread unsent read⟩
      · rw [forwardSlot_read unsent read, found]
        dsimp only [Except.bind]
        split
        · exact ⟨_, _, rfl⟩
        · split
          · exact ⟨_, _, rfl⟩
          · exact ⟨_, _, rfl⟩
    · obtain ⟨s', forwarded, -⟩ := attributed.passed unsent listed
      exact ⟨s', true, forwarded⟩
  · exact ⟨s, true, forwardSlot_idle unsent⟩

/-- A line that some round of the loop over these slots writes for its slot,
under a serial number of the slot's device. -/
def OwnLine (env : Env) (slots : List (Fin dataSlotCount)) (s : ReportPlane)
    (text : AtLine) : Prop :=
  ∃ idx t serialNum payload, ComesTo env slots s idx t ∧
    env.Names (t.slots idx).genDeviceId serialNum ∧
      text = .report serialNum (t.slots idx).dataId (t.slots idx).reportTimeMs
        (t.slots idx).totalSize (t.slots idx).crc32 payload

/-- When every round is attributed, so is every line of the loop, and the loop
reads no entry outside the table. -/
theorem forwardToHost_attributed (slots : List (Fin dataSlotCount))
    (rounds : ∀ idx t, ComesTo env slots s idx t → RoundAttributed env idx t) :
    ∃ s', forwardToHost env slots s = .ok s' ∧
      ∀ text, .line text ∈ s'.io.out →
        .line text ∈ s.io.out ∨ OwnLine env slots s text := by
  induction slots generalizing s with
  | nil => exact ⟨s, rfl, fun text member => .inl member⟩
  | cons idx rest ih =>
      have attributed := rounds idx s .first
      obtain ⟨middle, more, forwarded⟩ := attributed.ok
      have here : ∀ text, .line text ∈ middle.io.out →
          .line text ∈ s.io.out ∨ OwnLine env (idx :: rest) s text := by
        intro text member
        rcases attributed.named middle more forwarded with
          same | ⟨serialNum, payload, names, line⟩
        · exact .inl (same ▸ member)
        · rw [line, List.mem_append, List.mem_singleton] at member
          apply member.imp_right
          intro same
          cases same
          exact ⟨idx, s, serialNum, payload, .first, names, rfl⟩
      rw [forwardToHost_cons, forwarded]
      cases more with
      | false => exact ⟨middle, rfl, here⟩
      | true =>
          obtain ⟨s', looped, lines⟩ := ih fun other t comes =>
            rounds other t (.later forwarded comes)
          refine ⟨s', looped, fun text member => ?_⟩
          rcases lines text member with old | ⟨other, t, sn, bytes, comes, own⟩
          · exact here text old
          · exact .inr ⟨other, t, sn, bytes, .later forwarded comes, own⟩

/-- The second loop of `gateway_report_tick` comes to this slot in this
state. -/
def TickComesTo (env : Env) (s : ReportPlane) : Fin dataSlotCount →
    ReportPlane → Prop :=
  ComesTo env allSlots (expireForwarded env allSlots s)

/-- A tick of the gateway attributes every report: no round writes a line for
another device, nothing is written for a device without an entry, and the loop
goes on with the next slot. -/
structure TickAttributed (env : Env) (s : ReportPlane) : Prop where
  rounds : ∀ idx t, TickComesTo env s idx t → RoundAttributed env idx t
  lines : ∃ s', s.gatewayReportTick env = .ok s' ∧
    ∀ text, .line text ∈ s'.io.out →
      .line text ∈ s.io.out ∨
        OwnLine env allSlots (expireForwarded env allSlots s) text

theorem tickAttributed_iff :
    TickAttributed env s ↔
      ∀ idx t, TickComesTo env s idx t → RoundAttributable env idx t := by
  constructor
  · intro attributed idx t comes
    exact roundAttributed_iff.mp (attributed.rounds idx t comes)
  · intro attributable
    have rounds := fun idx t comes =>
      roundAttributed_iff.mpr (attributable idx t comes)
    refine ⟨rounds, ?_⟩
    have lines := forwardToHost_attributed allSlots rounds
    rw [expireForwarded_io] at lines
    exact lines

end ReportPlane

namespace LdPlane

variable {s s' : LdPlane} {env : Env} {idx : Fin ldReceiverSlotCount}

/-- The slot holds a verified blob that was not announced to the host. -/
def Unsent (s : LdPlane) (idx : Fin ldReceiverSlotCount) : Prop :=
  (s.slots idx).active = true ∧ (s.slots idx).upstreamReady = true ∧
    (s.slots idx).isSent = false

/-- The tick picks this slot: it is the first that waits, and the sender is
idle. -/
def PicksUp (s : LdPlane) (idx : Fin ldReceiverSlotCount) : Prop :=
  (s.senders theSender).active = false ∧ s.findPending = some idx

/-- A tick of the gateway announces the blob of the slot it picks under a
serial number of the blob's device, or nothing; and a slot whose device has
none no longer waits, so that the search goes on with the others. -/
structure TickAttributed (env : Env) (s : LdPlane) : Prop where
  quiet : ∀ s', s.gatewayLargeDataTick env = .ok s' →
    (∀ idx, ¬ s.PicksUp idx) → s'.io.out = s.io.out
  named : ∀ s' idx, s.gatewayLargeDataTick env = .ok s' → s.PicksUp idx →
    s'.io.out = s.io.out ∨ ∃ serialNum,
      env.Names (s.slots idx).genDeviceId serialNum ∧
        s'.io.out = s.io.out ++ [.line (ldInitLine env
          (gatewaySender (s.senders theSender) (s.slots idx)) (s.slots idx)
          serialNum)]
  passed : ∀ idx, s.PicksUp idx → ¬ env.Lists (s.slots idx).genDeviceId →
    ∃ s', s.gatewayLargeDataTick env = .ok s' ∧ s'.io.out = s.io.out ∧
      (s'.senders theSender).active = false ∧
        ∀ other, s'.Unsent other ↔ other ≠ idx ∧ s.Unsent other

/-- The device of the slot picked is in the mesh table; or the table is not
empty, and no other blob has the same keys. -/
def TickAttributable (env : Env) (s : LdPlane) : Prop :=
  ∀ idx, s.PicksUp idx → env.Lists (s.slots idx).genDeviceId ∨
    0 < env.meshCount ∧ s.findLargeDataSlot (s.slots idx).genDeviceId
      (s.slots idx).dataId = some idx

/-- The plane in which the tick calls `send_at_large_data_init`. -/
def prepared (s : LdPlane) (idx : Fin ldReceiverSlotCount) : LdPlane :=
  s.setSender theSender (gatewaySender (s.senders theSender) (s.slots idx))

theorem findLargeDataSlot_prepared (genDeviceId : UInt16) (dataId : UInt8) :
    (s.prepared idx).findLargeDataSlot genDeviceId dataId =
      s.findLargeDataSlot genDeviceId dataId :=
  findLargeDataSlot_congr (by rfl) genDeviceId dataId

/-- A tick that picks a slot. -/
theorem gatewayTick_picks (picks : s.PicksUp idx) :
    s.gatewayLargeDataTick env =
      ((s.prepared idx).sendAtLargeDataInit env theSender idx).bind
        fun announced =>
          .ok (if announced.2 then
            announced.1.setSlot idx
              { announced.1.slots idx with isSent := true }
          else
            announced.1.freeSenderSlot theSender) := by
  have loop : gatewayLargeDataTick s env = gatewayLoop env [theSender] s := rfl
  obtain ⟨idle, pending⟩ := picks
  rw [loop, gatewayLoop, if_neg (by simp [idle]), pending]
  unfold prepared
  dsimp only
  rcases ((s.setSender theSender (gatewaySender (s.senders theSender)
    (s.slots idx))).sendAtLargeDataInit env theSender idx) with
    fault | ⟨after, _ | _⟩
  · rfl
  · rfl
  · rfl

theorem prepared_sender :
    (s.prepared idx).senders theSender =
      gatewaySender (s.senders theSender) (s.slots idx) := by
  rw [prepared]
  exact Function.update_self theSender _ s.senders

/-- The announcement of a blob whose device the search leads to. -/
theorem sendAtLargeDataInit_searched
    (searched : ¬ (0 < env.meshCount ∧
      ¬ env.Lists (s.slots idx).genDeviceId)) :
    (s.prepared idx).sendAtLargeDataInit env theSender idx =
      (env.meshDevice (env.meshIndex (s.slots idx).genDeviceId)).bind
        fun entry =>
          let wrote := s.io.txWrite (ldInitLine env
            (gatewaySender (s.senders theSender) (s.slots idx)) (s.slots idx)
            entry.serialNum)
          .ok ({ s.prepared idx with io := wrote.1 }, wrote.2) := by
  rw [sendAtLargeDataInit, prepared_sender, if_neg]
  · dsimp only [gatewaySender]
    cases env.meshDevice (env.meshIndex (s.slots idx).genDeviceId) with
    | error fault => rfl
    | ok entry => rfl
  · rw [Env.not_lists_iff] at searched
    exact searched

/-- A blob of an unknown device is given up, unless the table is empty. -/
theorem sendAtLargeDataInit_unlisted {found : Fin ldReceiverSlotCount}
    (some_ : 0 < env.meshCount)
    (unlisted : ¬ env.Lists (s.slots idx).genDeviceId)
    (search : s.findLargeDataSlot (s.slots idx).genDeviceId
      (s.slots idx).dataId = some found) :
    (s.prepared idx).sendAtLargeDataInit env theSender idx =
      .ok ((s.prepared idx).freeLargeDataSlot found 0, false) := by
  rw [Env.not_lists_iff] at unlisted
  rw [sendAtLargeDataInit, prepared_sender, if_pos ⟨some_, unlisted⟩]
  dsimp only [gatewaySender]
  rw [findLargeDataSlot_prepared, search]
  rfl

/-- Giving up the blob that the tick picked. -/
theorem gatewayTick_unlisted (picks : s.PicksUp idx)
    (some_ : 0 < env.meshCount)
    (unlisted : ¬ env.Lists (s.slots idx).genDeviceId) :
    ∃ found s', s.findLargeDataSlot (s.slots idx).genDeviceId
        (s.slots idx).dataId = some found ∧
      s.gatewayLargeDataTick env = .ok s' ∧ s'.io.out = s.io.out ∧
        (s'.senders theSender).active = false ∧
          s'.slots = Function.update s.slots found (s.slots found).freed := by
  have active := (findPending_some picks.2).1
  rcases search : s.findLargeDataSlot (s.slots idx).genDeviceId
    (s.slots idx).dataId with _ | found
  · exact absurd rfl (findLargeDataSlot_none search idx active rfl)
  · have ticked := @gatewayTick_picks s env idx picks
    rw [sendAtLargeDataInit_unlisted some_ unlisted search] at ticked
    refine ⟨found, ((s.prepared idx).freeLargeDataSlot found 0).freeSenderSlot
      theSender, rfl, ticked, ?_, ?_, ?_⟩
    · exact congrArg Io.out (freeLargeDataSlot_io (s.prepared idx) found 0)
    · rw [freeSenderSlot, setSender]
      dsimp only
      rw [Function.update_self]
    · exact freeLargeDataSlot_slots (s.prepared idx) found 0

/-- The tick with a blob whose device the search leads to. -/
theorem gatewayTick_searched (picks : s.PicksUp idx)
    (searched : ¬ (0 < env.meshCount ∧ ¬ env.Lists (s.slots idx).genDeviceId))
    (ticked : s.gatewayLargeDataTick env = .ok s') :
    ∃ entry, env.meshDevice (env.meshIndex (s.slots idx).genDeviceId) =
        .ok entry ∧
      (s'.io.out = s.io.out ++ [.line (ldInitLine env
          (gatewaySender (s.senders theSender) (s.slots idx)) (s.slots idx)
          entry.serialNum)] ∨
        s'.io.out = s.io.out ∧ s'.slots = s.slots) := by
  rw [gatewayTick_picks picks, sendAtLargeDataInit_searched searched] at ticked
  rcases found : env.meshDevice (env.meshIndex (s.slots idx).genDeviceId) with
    fault | entry
  · rw [found] at ticked
    cases ticked
  · rw [found] at ticked
    refine ⟨entry, rfl, ?_⟩
    cases ticked
    rcases s.io.txWrite_out (ldInitLine env
      (gatewaySender (s.senders theSender) (s.slots idx)) (s.slots idx)
      entry.serialNum) with line | ⟨nothing, lost⟩
    · left
      rw [← line]
      split <;> rfl
    · right
      rw [lost, if_neg (by simp)]
      exact ⟨nothing, rfl⟩

theorem gatewayTick_idle (idle : ∀ idx, ¬ s.PicksUp idx)
    (ticked : s.gatewayLargeDataTick env = .ok s') : s' = s := by
  have loop : gatewayLargeDataTick s env = gatewayLoop env [theSender] s := rfl
  rw [loop, gatewayLoop] at ticked
  split at ticked
  · cases ticked
    rfl
  · next working =>
    split at ticked
    · cases ticked
      rfl
    · next idx pending =>
      exact absurd ⟨by simpa using working, pending⟩ (idle idx)

/-- A tick attributes its blob exactly when its device is in the mesh table, or
it is given up alone. -/
theorem tickAttributed_iff :
    TickAttributed env s ↔ TickAttributable env s := by
  constructor
  · intro attributed idx picks
    by_cases listed : env.Lists (s.slots idx).genDeviceId
    · exact .inl listed
    · obtain ⟨s', ticked, silent, -, others⟩ :=
        attributed.passed idx picks listed
      have waiting : s.Unsent idx := findPending_some picks.2
      have gone : ¬ s'.Unsent idx := fun unsent =>
        ((others idx).mp unsent).1 rfl
      refine .inr ?_
      by_cases some_ : 0 < env.meshCount
      · obtain ⟨found, t, search, same, -, -, slots⟩ :=
          gatewayTick_unlisted picks some_ listed
        rw [same] at ticked
        cases ticked
        refine ⟨some_, ?_⟩
        rw [search]
        by_contra other
        have apart : idx ≠ found := fun eq => other (eq ▸ rfl)
        apply gone
        rw [Unsent, slots, Function.update_of_ne apart]
        exact waiting
      · obtain ⟨entry, -, line | ⟨-, slots⟩⟩ :=
          gatewayTick_searched picks (fun both => some_ both.1) ticked
        · rw [line] at silent
          simp at silent
        · exact absurd (by rw [Unsent, slots]; exact waiting) gone
  · intro attributable
    refine ⟨fun s' ticked idle => ?_, fun s' idx ticked picks => ?_,
      fun idx picks unlisted => ?_⟩
    · rw [gatewayTick_idle idle ticked]
    · by_cases listed : env.Lists (s.slots idx).genDeviceId
      · obtain ⟨known, found, names⟩ := Env.meshDevice_listed listed
        obtain ⟨entry, same, line | ⟨nothing, -⟩⟩ :=
          gatewayTick_searched picks (fun both => both.2 listed) ticked
        · rw [found] at same
          cases same
          exact .inr ⟨_, names, line⟩
        · exact .inl nothing
      · obtain ⟨some_, -⟩ := (attributable idx picks).resolve_left listed
        obtain ⟨found, t, -, same, silent, -⟩ :=
          gatewayTick_unlisted picks some_ listed
        rw [same] at ticked
        cases ticked
        exact .inl silent
    · obtain ⟨some_, alone⟩ := (attributable idx picks).resolve_left unlisted
      obtain ⟨found, s', search, ticked, silent, idle, slots⟩ :=
        gatewayTick_unlisted picks some_ unlisted
      rw [alone] at search
      cases search
      refine ⟨s', ticked, silent, idle, fun other => ?_⟩
      rw [Unsent, slots]
      by_cases same : other = idx
      · subst same
        rw [Function.update_self]
        simp [LdSlot.freed]
      · rw [Function.update_of_ne same]
        exact (and_iff_right same).symm

end LdPlane

/-- Both ticks of a gateway attribute what they write to the host exactly when
this holds of what they find waiting. -/
theorem hostAttribution_iff (env : Env) (report : ReportPlane) (ld : LdPlane) :
    (report.TickAttributed env ∧ ld.TickAttributed env) ↔
      (∀ idx t, report.TickComesTo env idx t →
        ReportPlane.RoundAttributable env idx t) ∧
      ld.TickAttributable env := by
  rw [ReportPlane.tickAttributed_iff, LdPlane.tickAttributed_iff]

section Samples

/-- A gateway whose mesh table lost its second device, number 5. -/
def removedDevice : Env where
  deviceType := .gateway
  deviceId := 1
  crc := Checksum.crc32Ieee
  meshDevices := fun i =>
    if i.val = 0 then
      { deviceId := 3, serialNum := 7 }
    else
      { deviceId := 5, serialNum := 9 }
  meshCount := 1

/-- A verified report of device 5. -/
def orphanReport : ReportPlane where
  slots := fun idx =>
    if idx.val = 0 then
      { active := true, upstreamReady := true, genDeviceId := 5, dataId := 1,
        totalSize := 1 }
    else
      {}

/-- A verified blob of device 5. -/
def orphanBlob : LdPlane where
  slots := fun idx =>
    if idx.val = 0 then
      { active := true, upstreamReady := true, genDeviceId := 5, dataId := 1,
        totalSize := 1 }
    else
      {}

/-- The report goes out under what stands behind the table, and with a full
table the code reads behind the array; the blob goes out under the first entry
when no device is left. -/
theorem hostAttribution_stale :
    ¬ orphanReport.TickAttributed removedDevice ∧
      (orphanReport.gatewayReportTick removedDevice).map (fun s => s.io.out) =
        .ok [.line (.report 9 1 0 1 0 [0])] ∧
      (orphanReport.gatewayReportTick
          { removedDevice with
            meshDevices := fun _ => { deviceId := 3, serialNum := 7 }
            meshCount := maxDevices }).map (fun s => s.io.out) =
        .error ⟨.meshDevices, maxDevices⟩ ∧
      ¬ orphanBlob.TickAttributed { removedDevice with meshCount := 0 } := by
  have unlisted : ¬ removedDevice.Lists 5 := by
    rintro ⟨i, inside, same⟩
    have first : i.val = 0 := Nat.lt_one_iff.mp inside
    simp [removedDevice, first] at same
  refine ⟨?_, by decide +kernel, by decide +kernel, ?_⟩
  · rw [ReportPlane.tickAttributed_iff]
    intro attributable
    have slots : allSlots = ⟨0, by decide⟩ :: allSlots.tail := by
      decide +kernel
    have comes : orphanReport.TickComesTo removedDevice ⟨0, by decide⟩
        (ReportPlane.expireForwarded removedDevice allSlots orphanReport) := by
      rw [ReportPlane.TickComesTo, slots]
      exact .first
    have found := attributable _ _ comes
    obtain ⟨unsent, gen, readable, fits, uart⟩ :
        let t := ReportPlane.expireForwarded removedDevice allSlots
          orphanReport
        t.Unsent ⟨0, by decide⟩ ∧ (t.slots ⟨0, by decide⟩).genDeviceId = 5 ∧
          (t.io.read (slotPsramAddr ⟨0, by decide⟩)
            (t.slots ⟨0, by decide⟩).totalSize.toNat).2 = .ok [0] ∧
          (t.slots ⟨0, by decide⟩).totalSize.toNat = 1 ∧ t.io.uart = [] := by
      decide +kernel
    rcases found unsent with listed | ⟨errno, failed⟩ | ⟨-, long | lost⟩
    · exact unlisted (gen ▸ listed)
    · rw [readable] at failed
      cases failed
    · rw [fits] at long
      exact absurd long (by decide +kernel)
    · rw [uart] at lost
      cases lost
  · rw [LdPlane.tickAttributed_iff]
    intro attributable
    have picks : orphanBlob.PicksUp ⟨0, by decide⟩ :=
      ⟨rfl, by unfold LdPlane.findPending; decide +kernel⟩
    rcases attributable _ picks with ⟨i, inside, -⟩ | ⟨some_, -⟩
    · exact absurd inside (Nat.not_lt_zero _)
    · exact absurd some_ (Nat.not_lt_zero _)

end Samples

end DectMesh
