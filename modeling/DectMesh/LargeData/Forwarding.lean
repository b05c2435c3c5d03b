import DectMesh.LargeData.Windows

/-!
# Forwarding a blob to the host

A gateway announces a blob with `AT#LDINIT` and writes one `AT#LD` line after
the other.  A line of the host leaves `pending_ack` behind, and the `OK` that
follows acts on it through `sender_idx_cache` and `next_chunk`, neither of
which the line was compared with.  The lines come in order, and the blob counts
as transferred after the last one, as long as every `OK` answers the line that
was written last.
-/

namespace DectMesh

/-- The large-data plane of a gateway, with the `pending_ack` that its host
lines share with those of the other planes. -/
structure HostLink where
  ld : LdPlane
  pendingAck : AtPendingAck := {}

/-- What it reacts to. -/
inductive HostLinkEvent where
  | board (event : LdEvent)
  /-- The host's `#LDINIT` line with its arguments. -/
  | ldInit (args : List Char)
  /-- The host's `#LD` line with its arguments. -/
  | ld (args : List Char)
  /-- The host's `OK` or `ERROR`. -/
  | hostAnswer (ok : Bool)
  /-- A host line of another plane replaces the pending answer. -/
  | otherPending (pending : AtPendingAck)

namespace HostLink

variable (s : HostLink)

/-- `dispatch` for the line `OK`, as far as large data is concerned. -/
def answered : Except Fault LdPlane :=
  if s.pendingAck.dataType = dataTypeLargeData then
    if s.pendingAck.page = -1 ∧ s.pendingAck.chunk = -1 then
      .ok s.ld.clearOut.cmdLdInitReady
    else
      s.ld.clearOut.cmdLdChunkReady
  else
    .ok s.ld.clearOut

/-- `dispatch` for the lines `OK` and `ERROR`; the pending answer is used
up. -/
def hostAnswer (ok : Bool) : Except Fault HostLink :=
  (if ok then s.answered else .ok s.ld.clearOut).map fun ld =>
    { ld := ld, pendingAck := { s.pendingAck with dataType := 0 } }

/-- One event of a gateway. -/
def step (env : Env) : HostLinkEvent → Except Fault HostLink
  | .board event =>
      (ldStep s.ld (env, event)).map fun ld => { s with ld := ld }
  | .ldInit args =>
      .ok
        { ld := (s.ld.clearOut.cmdLdInitAck env args).1
          pendingAck :=
            (s.ld.clearOut.cmdLdInitAck env args).2.getD s.pendingAck }
  | .ld args =>
      (s.ld.clearOut.cmdLdChunkAck args).map fun ack =>
        { ld := s.ld.clearOut, pendingAck := ack.getD s.pendingAck }
  | .hostAnswer ok => s.hostAnswer ok
  | .otherPending pending =>
      .ok { ld := s.ld.clearOut, pendingAck := pending }

end HostLink

/-- The lines of the host are events of their own. -/
def LdEvent.FromHost : LdEvent → Prop
  | .cmdLdInitAck _ | .cmdLdInitReady | .cmdLdChunkAck _ | .cmdLdChunkReady =>
      True
  | _ => False

/-- The events of one board. -/
def HostLink.OnBoard (board : Board) (s : HostLink)
    (event : Env × HostLinkEvent) : Prop :=
  event.1.toBoard = board ∧
    match event.2 with
    | .board event => s.ld.Elsewhere event ∧ ¬ event.FromHost
    | .otherPending pending => pending.dataType ≠ dataTypeLargeData
    | _ => True

/-- The one entry of the sender table. -/
def theSender : Fin ldSenderSlotCount := ⟨0, by decide⟩

/-- An `AT#LD` line without its payload. -/
structure ForwardedChunk where
  deviceId : UInt16
  dataId : UInt8
  linear : Nat
  deriving DecidableEq

/-- The `AT#LD` lines among the actions of an event. -/
def forwardedChunks (out : List Action) : List ForwardedChunk :=
  out.filterMap fun
    | .line (.ld deviceId dataId page chunk _) =>
        some ⟨deviceId, dataId, page * ldChunksPerPage + chunk⟩
    | _ => none

/-- The host may call a device by the serial number of its `AT#LDINIT`, or by
the device id that `AT#LD` has in its place. -/
def Env.knownAs (env : Env) (deviceId : UInt16) (sn : UInt64) : Bool :=
  sn = deviceId.toUInt64 ||
    match env.meshDevice (env.meshIndex deviceId) with
    | .ok entry => entry.serialNum = sn
    | .error _ => false

/-- The chunk of a sender's blob that a pending answer names. -/
def AtPendingAck.chunkOf (pending : AtPendingAck) (env : Env)
    (sender : LdSender) : Option Nat :=
  if pending.dataType = dataTypeLargeData ∧
      pending.id = sender.dataId.toUInt16 ∧
      env.knownAs sender.genDeviceId pending.sn ∧
      0 ≤ pending.page ∧ 0 ≤ pending.chunk then
    some (pending.page.toNat * ldChunksPerPage + pending.chunk.toNat)
  else
    none

/-- A gateway, the chunks it has forwarded of the blob in progress, and those
the host has named and answered with `OK`. -/
structure ForwardLog where
  link : HostLink
  emitted : List Nat
  acked : List Nat

namespace ForwardLog

def boot (io : Io) : ForwardLog where
  link := { ld := .boot io }
  emitted := []
  acked := []

variable (log : ForwardLog)

/-- The sender of the blob in progress, if it is active. -/
def sender : LdSender := log.link.ld.senders theSender

/-- The chunk that an event acknowledges. -/
def acknowledged (event : Env × HostLinkEvent) : Option Nat :=
  match event.2 with
  | .hostAnswer true => log.link.pendingAck.chunkOf event.1 log.sender
  | _ => none

/-- An event of the gateway.  Both records start again with the next blob. -/
def step (event : Env × HostLinkEvent) : Except Fault ForwardLog :=
  (log.link.step event.1 event.2).map fun link =>
    { link := link
      emitted :=
        (if log.sender.active then log.emitted else []) ++
          (forwardedChunks link.ld.io.out).map ForwardedChunk.linear
      acked :=
        (if log.sender.active then log.acked else []) ++
          (log.acknowledged event).toList }

/-- What an `OK` has to observe that acts on large data.  After `#LDINIT`,
nothing was forwarded of the blob in progress.  After `#LD`, the line named the
chunk that was forwarded last; without a blob in progress, the one before
counts as transferred already. -/
def OkInTurn (env : Env) : Prop :=
  if log.link.pendingAck.page = -1 ∧ log.link.pendingAck.chunk = -1 then
    log.link.ld.senderIdxCache ≠ none → log.sender.active = true →
      log.emitted = [] ∧
        log.link.ld.deviceIdCache = log.sender.genDeviceId
  else
    log.link.ld.senderIdxCache ≠ none ∧
      if log.sender.active then
        log.link.pendingAck.chunkOf env log.sender =
            some log.sender.nextChunk.toNat ∧
          log.sender.nextChunk.toNat ∈ log.emitted
      else
        ∀ idx, log.link.ld.findLargeDataSlot log.sender.genDeviceId
            log.sender.dataId = some idx →
          log.sender.totalChunks - 1 ≤ log.sender.nextChunk →
            (log.link.ld.slots idx).isTransfered = true

end ForwardLog

/-- The four fields of an `#LD` line can be read. -/
def NamesChunk (args : List Char) : Prop :=
  (fieldHexU64 args 0).isSome ∧ (fieldHexU64 args 1).isSome ∧
    (fieldHexU64 args 2).isSome ∧ (fieldHexU64 args 3).isSome

/-- The lines of a host that answers what it was sent. -/
def HostInTurn (board : Board) (log : ForwardLog)
    (event : Env × HostLinkEvent) : Prop :=
  log.link.OnBoard board event ∧
    match event.2 with
    | .ld args => NamesChunk args → log.link.ld.senderIdxCache ≠ none
    | .hostAnswer true =>
        log.link.pendingAck.dataType = dataTypeLargeData →
          log.OkInTurn event.1
    | _ => True

section Events

variable {env : Env} {s s' : LdPlane}

/-- An event that forwards nothing: the sender goes on, or one starts. -/
structure Unforwarded (s s' : LdPlane) : Prop where
  out : forwardedChunks s'.io.out = forwardedChunks s.io.out
  going : (s.senders theSender).active = true →
    ∃ timeout, s'.senders theSender =
      { s.senders theSender with timeout := timeout }
  started : (s.senders theSender).active = false →
    (s'.senders theSender).active = true →
      (s'.senders theSender).nextChunk = 0
  name : (s.senders theSender).active = true →
    s'.deviceIdCache = s.deviceIdCache ∨
      s'.deviceIdCache = (s.senders theSender).genDeviceId
  transfered : ∀ idx, (s'.slots idx).isTransfered = true →
    (s.slots idx).isTransfered = true

theorem forwardedChunks_append (before more : List Action) :
    forwardedChunks (before ++ more) =
      forwardedChunks before ++ forwardedChunks more :=
  List.filterMap_append

theorem Bystander.forwarded (same : Bystander s s') :
    forwardedChunks s'.io.out = forwardedChunks s.io.out := by
  obtain ⟨more, out, plain⟩ := same.plain
  have silent : forwardedChunks more = [] := by
    refine List.filterMap_eq_nil_iff.mpr fun action member => ?_
    have quiet := plain action member
    split
    · exact quiet.elim
    · rfl
  rw [out, forwardedChunks_append, silent, List.append_nil]

theorem Bystander.unforwarded (same : Bystander s s') : Unforwarded s s' where
  out := same.forwarded
  going := fun _ => ⟨_, congrFun same.senders theSender⟩
  started := by
    intro idle active
    rw [same.senders, idle] at active
    cases active
  name := fun _ => .inl same.name
  transfered := same.transfered

namespace LdPlane

theorem handleLargeDataInitAck_gateway
    {pkt : LargeDataInitAck} {srcId : UInt16}
    (role : env.deviceType = .gateway)
    (handled : s.handleLargeDataInitAck env pkt srcId = .ok s') :
    Bystander s s' := by
  cases handleLargeDataInitAck_taken handled with
  | ignored => exact .refl s
  | untracked => exact .put rfl
  | answered other => simp [role] at other

/-- The last acknowledgement of a transfer restarts the timeout of the sender,
on a gateway too. -/
theorem finishTransfer_unforwarded {i : Fin ldSenderSlotCount} :
    Unforwarded s (s.finishTransfer env i) := by
  rw [one_sender i theSender]
  unfold finishTransfer
  dsimp only
  split
  · exact
      { out := rfl
        going := fun _ => ⟨_, by simp [setSender]; rfl⟩
        started := fun idle active => by simp [setSender, idle] at active
        name := fun _ => .inl rfl
        transfered := fun _ => id }
  · next idx found =>
    exact
      { out := rfl
        going := fun _ => ⟨_, by simp [setSender, setSlot]; rfl⟩
        started := fun idle active => by
          simp [setSender, setSlot, idle] at active
        name := fun _ => .inl rfl
        transfered := (@Bystander.ofUpdate s
          (s.setSlot idx { s.slots idx with isSent := true }) idx _ rfl rfl rfl
          rfl id).transfered }

theorem handleLargeDataChunkAck_gateway
    {pkt : LargeDataChunkAck} {srcId : UInt16}
    (role : env.deviceType = .gateway)
    (handled : s.handleLargeDataChunkAck env pkt srcId = .ok s') :
    Unforwarded s s' := by
  have untracked : Bystander s (s.put (.untrack pkt.hdr.trackingId)) :=
    .put rfl
  cases handleLargeDataChunkAck_taken handled with
  | ignored => exact (Bystander.refl s).unforwarded
  | untracked => exact untracked.unforwarded
  | @finishes senderIdx =>
      have finished := @finishTransfer_unforwarded env
        (s.put (.untrack pkt.hdr.trackingId)) senderIdx
      exact
        { finished with
          out := finished.out.trans untracked.forwarded }
  | continues =>
      unfold continueTransfer
      rw [role]
      exact untracked.unforwarded

theorem largeDataInit_bystander : Bystander s s.largeDataInit where
  senders := rfl
  plain := ⟨[], (List.append_nil _).symm, fun _ member => by cases member⟩
  name := rfl
  transfered := fun _ => id

end LdPlane

/-- What an announcement to the host leaves alone, whether the sender stays
active or not. -/
structure LdAnnounces (s s' : LdPlane) : Prop where
  out : forwardedChunks s'.io.out = forwardedChunks s.io.out
  nextChunk : (s'.senders theSender).nextChunk =
    (s.senders theSender).nextChunk
  transfered : ∀ idx, (s'.slots idx).isTransfered = true →
    (s.slots idx).isTransfered = true

theorem LdAnnounces.trans {s'' : LdPlane} (first : LdAnnounces s s')
    (second : LdAnnounces s' s'') : LdAnnounces s s'' where
  out := second.out.trans first.out
  nextChunk := second.nextChunk.trans first.nextChunk
  transfered := fun idx marked =>
    first.transfered idx (second.transfered idx marked)

theorem Bystander.announces (same : Bystander s s') : LdAnnounces s s' where
  out := same.forwarded
  nextChunk := congrArg LdSender.nextChunk (congrFun same.senders theSender)
  transfered := same.transfered

theorem freeSenderSlot_announces {i : Fin ldSenderSlotCount} :
    LdAnnounces s (s.freeSenderSlot i) where
  out := rfl
  nextChunk := by
    rw [one_sender i theSender]
    simp [LdPlane.freeSenderSlot, LdPlane.setSender]
  transfered := fun _ => id

namespace LdPlane

theorem freeLargeDataSlot_announces (idx : Fin ldReceiverSlotCount)
    (senderIdx : UInt8) : LdAnnounces s (s.freeLargeDataSlot idx senderIdx) where
  out := by rw [freeLargeDataSlot_io]
  nextChunk := by
    unfold freeLargeDataSlot
    dsimp only
    split
    · exact freeSenderSlot_announces.nextChunk
    · rfl
  transfered := by
    intro other marked
    rw [freeLargeDataSlot_slots] at marked
    by_cases same : other = idx
    · rw [same, Function.update_self] at marked
      rw [same]
      exact marked
    · rw [Function.update_of_ne same] at marked
      exact marked

theorem sendAtLargeDataInit_announces
    {i : Fin ldSenderSlotCount} {idx : Fin ldReceiverSlotCount} {sent : Bool}
    (announced : s.sendAtLargeDataInit env i idx = .ok (s', sent)) :
    LdAnnounces s s' ∧ s'.deviceIdCache = s.deviceIdCache := by
  unfold sendAtLargeDataInit at announced
  dsimp only at announced
  split at announced
  · split at announced
    · cases announced
      exact ⟨(Bystander.refl s).announces, rfl⟩
    · cases announced
      refine ⟨freeLargeDataSlot_announces _ _, ?_⟩
      unfold freeLargeDataSlot
      dsimp only
      split <;> rfl
  · split at announced
    · cases announced
    · next entry device =>
      cases announced
      have line : Bystander s (s.sendLine (ldInitLine env (s.senders i)
          (s.slots idx) entry.serialNum)) := .sendLine rfl
      exact ⟨line.announces, rfl⟩

/-- A tick of a gateway starts a transfer at its first chunk, unless one is in
progress. -/
theorem gatewayLargeDataTick_unforwarded
    (ticked : s.gatewayLargeDataTick env = .ok s') : Unforwarded s s' := by
  have loop : gatewayLargeDataTick s env = gatewayLoop env [theSender] s := rfl
  rw [loop] at ticked
  simp only [gatewayLoop] at ticked
  cases active : (s.senders theSender).active with
  | true =>
      rw [if_pos active] at ticked
      cases ticked
      exact (Bystander.refl s).unforwarded
  | false =>
      rw [if_neg (by simp [active])] at ticked
      have starts {idx : Fin ldReceiverSlotCount} {t : LdPlane}
          (announces : LdAnnounces (s.setSender theSender
            (gatewaySender (s.senders theSender) (s.slots idx))) t) :
          Unforwarded s t :=
        { out := announces.out
          going := fun working => absurd (active.symm.trans working) (by decide)
          started := by
            intro _ _
            rw [announces.nextChunk]
            simp [setSender, gatewaySender]
          name := fun working => absurd (active.symm.trans working) (by decide)
          transfered := announces.transfered }
      split at ticked
      · cases ticked
        exact (Bystander.refl s).unforwarded
      · next idx pending =>
        split at ticked
        · cases ticked
        · next after announced =>
          cases ticked
          exact starts ((sendAtLargeDataInit_announces announced).1.trans
            freeSenderSlot_announces)
        · next after announced =>
          cases ticked
          have flagged : Bystander after (after.setSlot idx
              { after.slots idx with isSent := true }) :=
            .ofUpdate rfl rfl rfl rfl id
          exact starts ((sendAtLargeDataInit_announces announced).1.trans
            flagged.announces)

theorem boardStep_unforwarded {event : LdEvent}
    (role : env.deviceType = .gateway) (own : ¬ event.FromHost)
    (moved : ldStep s (env, event) = .ok s') :
    Unforwarded s.clearOut s' := by
  cases event with
  | largeDataInit pkt srcId =>
      rw [← Except.ok.inj moved]
      exact (handleLargeDataInit_bystander pkt srcId).unforwarded
  | largeDataInitAck pkt srcId =>
      exact (handleLargeDataInitAck_gateway role moved).unforwarded
  | largeDataChunk pkt srcId =>
      exact (handleLargeDataChunk_bystander moved).unforwarded
  | largeDataChunkAck pkt srcId =>
      exact handleLargeDataChunkAck_gateway role moved
  | tick =>
      have ticked : s.clearOut.largeDataTick env = .ok s' := moved
      unfold largeDataTick at ticked
      rw [role] at ticked
      exact gatewayLargeDataTick_unforwarded ticked
  | cmdLdInit args =>
      rw [← Except.ok.inj moved]
      exact (cmdLdInit_bystander args).unforwarded
  | cmdLdChunk args =>
      rw [← Except.ok.inj moved]
      exact (cmdLdChunk_bystander args).unforwarded
  | restart =>
      rw [← Except.ok.inj moved]
      exact largeDataInit_bystander.unforwarded
  | elsewhere psram uart =>
      rw [← Except.ok.inj moved]
      have used : Bystander s.clearOut
          { s.clearOut with io := { psram := psram, uart := uart } } :=
        .ofOut rfl rfl rfl rfl
      exact used.unforwarded
  | cmdLdInitAck args | cmdLdInitReady | cmdLdChunkAck args
  | cmdLdChunkReady => exact absurd trivial own

/-- An `#LDINIT` line chooses the sender, under the id of its device. -/
theorem cmdLdInitAck_unforwarded (args : List Char) :
    Unforwarded s (s.cmdLdInitAck env args).1 := by
  have same : Unforwarded s s := (Bystander.refl s).unforwarded
  unfold cmdLdInitAck
  split
  · dsimp only
    split
    · exact same
    · split
      · exact same
      · split
        · exact { same with }
        · next senderIdx found =>
          refine { same with name := fun _ => .inr ?_ }
          obtain ⟨-, gen, -⟩ := findSenderSlot_some found
          rw [one_sender theSender senderIdx]
          exact gen.symm
  · exact same

end LdPlane

end Events

section Forwarding

variable {env : Env} {s s' : LdPlane}

/-- An `AT#LD` line was written, unless it could not be. -/
structure Forwards (s s' : LdPlane) (chunk : ForwardedChunk) : Prop where
  slots : s'.slots = s.slots
  senders : s'.senders = s.senders
  name : s'.deviceIdCache = s.deviceIdCache
  out : forwardedChunks s'.io.out = forwardedChunks s.io.out ∨
    (s.senders theSender).active = true ∧
      forwardedChunks s'.io.out = forwardedChunks s.io.out ++ [chunk]

theorem LdPlane.atSendNextChunk_forwards (page chunk : Nat) :
    Forwards s (s.atSendNextChunk theSender page chunk)
      { deviceId := s.deviceIdCache
        dataId := (s.senders theSender).dataId
        linear := page * ldChunksPerPage + chunk } := by
  have same : Forwards s s
      { deviceId := s.deviceIdCache
        dataId := (s.senders theSender).dataId
        linear := page * ldChunksPerPage + chunk } := ⟨rfl, rfl, rfl, .inl rfl⟩
  unfold LdPlane.atSendNextChunk
  dsimp only
  split
  · exact same
  · next going =>
    have active : (s.senders theSender).active = true := by
      simp only [not_or, Bool.not_eq_true', Bool.not_eq_false] at going
      exact going.1
    split
    · next io errno read =>
      exact ⟨rfl, rfl, rfl,
        .inl (congrArg forwardedChunks (Io.read_out_eq read))⟩
    · next io payload read =>
      refine ⟨rfl, rfl, rfl, ?_⟩
      rw [← Io.read_out_eq read]
      rcases Io.txWrite_out io (.ld s.deviceIdCache
        (s.senders theSender).dataId page chunk payload) with put | ⟨lost, -⟩
      · refine .inr ⟨active, ?_⟩
        exact (congrArg forwardedChunks put).trans (forwardedChunks_append _ _)
      · exact .inl (congrArg forwardedChunks lost)

end Forwarding

/-- The chunks of the blob in progress, as far as they were forwarded and
acknowledged. -/
structure ForwardSound (log : ForwardLog) : Prop where
  order : log.emitted = List.range log.emitted.length
  after : ∀ chunk, chunk + 1 ∈ log.emitted → chunk ∈ log.acked
  turn : log.sender.active = true →
    log.acked = List.range log.sender.nextChunk.toNat ∧
      (log.emitted.length = log.sender.nextChunk.toNat ∨
        log.emitted.length = log.sender.nextChunk.toNat + 1)
  name : log.sender.active = true → log.emitted ≠ [] →
    log.link.ld.deviceIdCache = log.sender.genDeviceId

/-- What a step does. -/
structure ForwardKept (log log' : ForwardLog) : Prop where
  sound : ForwardSound log'
  names : ∀ chunk ∈ forwardedChunks log'.link.ld.io.out,
    log.sender.active = true ∧
      chunk.deviceId = log.sender.genDeviceId ∧
        chunk.dataId = log.sender.dataId
  transfered : ∀ idx, (log.link.ld.slots idx).isTransfered = false →
    (log'.link.ld.slots idx).isTransfered = true →
      log.sender.active = true ∧
        (log.link.ld.slots idx).genDeviceId = log.sender.genDeviceId ∧
        (log.link.ld.slots idx).dataId = log.sender.dataId ∧
        ∀ chunk < log.sender.totalChunks.toNat, chunk ∈ log'.acked

section Steps

variable {board : Board} {log log' : ForwardLog}
variable {event : Env × HostLinkEvent}

theorem ForwardLog.step_eq (moved : log.step event = .ok log') :
    log.link.step event.1 event.2 = .ok log'.link ∧
      log'.emitted = (if log.sender.active then log.emitted else []) ++
        (forwardedChunks log'.link.ld.io.out).map ForwardedChunk.linear ∧
      log'.acked = (if log.sender.active then log.acked else []) ++
        (log.acknowledged event).toList := by
  unfold ForwardLog.step at moved
  cases stepped : log.link.step event.1 event.2 with
  | error fault =>
      rw [stepped] at moved
      cases moved
  | ok link =>
      rw [stepped] at moved
      cases moved
      exact ⟨rfl, rfl, rfl⟩

/-- Nothing is forwarded or acknowledged. -/
theorem forwardKept_quiet (sound : ForwardSound log)
    (quiet : Unforwarded log.link.ld.clearOut log'.link.ld)
    (emitted : log'.emitted = (if log.sender.active then log.emitted else []) ++
      (forwardedChunks log'.link.ld.io.out).map ForwardedChunk.linear)
    (acked : log'.acked = if log.sender.active then log.acked else []) :
    ForwardKept log log' := by
  have silent : forwardedChunks log'.link.ld.io.out = [] := quiet.out
  rw [silent, List.map_nil, List.append_nil] at emitted
  refine ⟨?_, fun chunk member => ?_, fun idx before marked => ?_⟩
  · cases active : log.sender.active with
    | true =>
        rw [if_pos active] at emitted acked
        obtain ⟨timeout, same⟩ := quiet.going active
        have sender : log'.sender = { log.sender with timeout := timeout } :=
          same
        refine ⟨?_, ?_, fun _ => ?_, fun _ started => ?_⟩
        · rw [emitted]
          exact sound.order
        · rw [emitted, acked]
          exact sound.after
        · rw [sender, acked, emitted]
          exact sound.turn active
        · rw [sender]
          rw [emitted] at started
          rcases quiet.name active with kept | chosen
          · exact kept.trans (sound.name active started)
          · exact chosen
    | false =>
        rw [if_neg (by simp [active])] at emitted acked
        refine ⟨?_, fun chunk member => ?_, fun working => ?_,
          fun _ started => absurd emitted started⟩
        · rw [emitted]
          rfl
        · rw [emitted] at member
          cases member
        · have first : log'.sender.nextChunk = 0 := quiet.started active working
          rw [first, emitted, acked]
          exact ⟨rfl, .inl rfl⟩
  · rw [silent] at member
    cases member
  · exact absurd (before.symm.trans (quiet.transfered idx marked)) (by decide)

/-- The `OK` after `#LDINIT` forwards the first chunk. -/
theorem forwardKept_initReady (sound : ForwardSound log)
    (inTurn : log.link.ld.senderIdxCache ≠ none → log.sender.active = true →
      log.emitted = [] ∧
        log.link.ld.deviceIdCache = log.sender.genDeviceId)
    (ready : log'.link.ld = log.link.ld.clearOut.cmdLdInitReady)
    (emitted : log'.emitted = (if log.sender.active then log.emitted else []) ++
      (forwardedChunks log'.link.ld.io.out).map ForwardedChunk.linear)
    (acked : log'.acked = if log.sender.active then log.acked else []) :
    ForwardKept log log' := by
  unfold LdPlane.cmdLdInitReady at ready
  split at ready
  · refine forwardKept_quiet sound ?_ emitted acked
    rw [ready]
    exact (Bystander.refl _).unforwarded
  · next i cached =>
    have known : log.link.ld.senderIdxCache ≠ none := by
      intro missing
      cases missing.symm.trans cached
    rw [one_sender i theSender] at ready
    have forwards := @LdPlane.atSendNextChunk_forwards log.link.ld.clearOut 0 0
    rw [← ready] at forwards
    rcases forwards.out with nothing | ⟨active, line⟩
    · refine forwardKept_quiet sound ?_ emitted acked
      exact
        { out := nothing
          going := fun _ => ⟨_, congrFun forwards.senders theSender⟩
          started := fun idle working => by
            rw [forwards.senders, idle] at working
            cases working
          name := fun _ => .inl forwards.name
          transfered := fun idx marked => by
            rw [← forwards.slots]
            exact marked }
    · have active : log.sender.active = true := active
      obtain ⟨fresh, name⟩ := inTurn known active
      have sender : log'.sender = log.sender :=
        congrFun forwards.senders theSender
      have line : forwardedChunks log'.link.ld.io.out =
          [⟨log.link.ld.deviceIdCache, log.sender.dataId, 0⟩] := line
      rw [line, if_pos active, fresh] at emitted
      rw [if_pos active] at acked
      obtain ⟨counted, length⟩ := sound.turn active
      rw [fresh] at length
      have first : log.sender.nextChunk.toNat = 0 := by
        rcases length with here | here
        · exact here.symm
        · cases here
      refine ⟨⟨?_, ?_, fun _ => ?_, fun _ _ => ?_⟩, ?_, ?_⟩
      · rw [emitted]
        rfl
      · intro chunk member
        rw [emitted] at member
        cases List.mem_singleton.mp member
      · rw [sender, acked, emitted, counted, first]
        exact ⟨rfl, .inr rfl⟩
      · rw [sender]
        exact forwards.name.trans name
      · intro chunk member
        rw [line] at member
        rw [List.mem_singleton.mp member]
        exact ⟨active, name, rfl⟩
      · intro idx before marked
        rw [forwards.slots] at marked
        exact absurd (before.symm.trans marked) (by decide)

/-- The next chunk is counted, and forwarded unless it cannot be. -/
theorem forwardKept_nextChunk {next : UInt16} (sound : ForwardSound log)
    (active : log.sender.active = true)
    (count : next.toNat = log.sender.nextChunk.toNat + 1)
    (last : log.sender.nextChunk.toNat ∈ log.emitted)
    (forwards : Forwards
      (log.link.ld.clearOut.setSender theSender
        { log.sender with nextChunk := next }) log'.link.ld
      ⟨log.link.ld.deviceIdCache, log.sender.dataId, next.toNat⟩)
    (emitted : log'.emitted = log.emitted ++
      (forwardedChunks log'.link.ld.io.out).map ForwardedChunk.linear)
    (acked : log'.acked = log.acked ++ [log.sender.nextChunk.toNat]) :
    ForwardKept log log' := by
  have sender : log'.sender = { log.sender with nextChunk := next } := by
    refine (congrFun forwards.senders theSender).trans ?_
    simp [LdPlane.setSender]
  obtain ⟨counted, -⟩ := sound.turn active
  have length : log.emitted.length = next.toNat := by
    have below := last
    rw [sound.order, List.mem_range] at below
    have around := (sound.turn active).2
    omega
  have ackedUpTo : log'.acked = List.range next.toNat := by
    rw [acked, counted, count, List.range_succ]
  have name : log.link.ld.deviceIdCache = log.sender.genDeviceId := by
    refine sound.name active fun nothing => ?_
    rw [nothing] at last
    cases last
  have slots {idx : Fin ldReceiverSlotCount}
      (before : (log.link.ld.slots idx).isTransfered = false)
      (marked : (log'.link.ld.slots idx).isTransfered = true) : False := by
    rw [forwards.slots] at marked
    exact absurd (before.symm.trans marked) (by decide)
  have holds (length' : log'.emitted.length = next.toNat ∨
        log'.emitted.length = next.toNat + 1)
      (order : log'.emitted = List.range log'.emitted.length) :
      ForwardSound log' := by
    refine ⟨order, fun chunk member => ?_, fun _ => ?_, fun _ _ => ?_⟩
    · rw [order, List.mem_range] at member
      rw [ackedUpTo, List.mem_range]
      omega
    · rw [sender]
      exact ⟨ackedUpTo, length'⟩
    · rw [sender]
      exact forwards.name.trans name
  rcases forwards.out with nothing | ⟨-, line⟩
  · have nothing : forwardedChunks log'.link.ld.io.out = [] := nothing
    rw [nothing, List.map_nil, List.append_nil] at emitted
    refine ⟨holds ?_ ?_, fun chunk member => ?_,
      fun idx before marked => (slots before marked).elim⟩
    · rw [emitted]
      exact .inl length
    · rw [emitted]
      exact sound.order
    · rw [nothing] at member
      cases member
  · have line : forwardedChunks log'.link.ld.io.out =
        [⟨log.link.ld.deviceIdCache, log.sender.dataId, next.toNat⟩] := line
    have emitted : log'.emitted = List.range (next.toNat + 1) := by
      rw [emitted, line, sound.order, length, List.range_succ]
      rfl
    refine ⟨holds ?_ ?_, fun chunk member => ?_,
      fun idx before marked => (slots before marked).elim⟩
    · rw [emitted, List.length_range]
      exact .inr rfl
    · rw [emitted, List.length_range]
    · rw [line] at member
      rw [List.mem_singleton.mp member]
      exact ⟨active, name, rfl⟩

/-- The `OK` after `#LD` ends the transfer, or goes on to the next chunk. -/
theorem LdPlane.cmdLdChunkReady_cases {s s' : LdPlane}
    (ready : s.cmdLdChunkReady = .ok s') :
    ((s.senders theSender).totalChunks - 1 ≤ (s.senders theSender).nextChunk ∧
      s'.io = s.io ∧ (s'.senders theSender).active = false ∧
      ∀ idx, (s.slots idx).isTransfered = false →
        (s'.slots idx).isTransfered = true →
          s.findLargeDataSlot (s.senders theSender).genDeviceId
            (s.senders theSender).dataId = some idx) ∨
    (¬ (s.senders theSender).totalChunks - 1 ≤
        (s.senders theSender).nextChunk ∧
      Forwards
        (s.setSender theSender { s.senders theSender with
          nextChunk := (s.senders theSender).nextChunk + 1 }) s'
        ⟨s.deviceIdCache, (s.senders theSender).dataId,
          ((s.senders theSender).nextChunk + 1).toNat⟩) := by
  unfold cmdLdChunkReady at ready
  split at ready
  · cases ready
  · next i cached =>
    rw [one_sender i theSender] at ready
    dsimp only at ready
    generalize here : s.senders theSender = sender at ready ⊢
    by_cases finished : sender.totalChunks - 1 ≤ sender.nextChunk
    · rw [if_pos finished] at ready
      refine .inl ⟨finished, ?_⟩
      have search : (s.freeSenderSlot theSender).findLargeDataSlot
          sender.genDeviceId sender.dataId =
            s.findLargeDataSlot sender.genDeviceId sender.dataId :=
        findLargeDataSlot_congr (by rfl) _ _
      split at ready
      · cases ready
        exact ⟨rfl, by simp [freeSenderSlot, setSender],
          fun idx before marked => absurd (before.symm.trans marked) (by decide)⟩
      · next found matching =>
        cases ready
        refine ⟨rfl, by simp [freeSenderSlot, setSender, setSlot],
          fun idx before marked => ?_⟩
        by_cases same : idx = found
        · rw [same, ← search]
          exact matching
        · simp only [setSlot, Function.update_of_ne same] at marked
          exact absurd (before.symm.trans marked) (by decide)
    · rw [if_neg finished, Except.ok.injEq] at ready
      refine .inr ⟨finished, ?_⟩
      have perPage : ldChunksPerPage = 32 := rfl
      have forwards := @atSendNextChunk_forwards
        (s.setSender theSender { sender with nextChunk := sender.nextChunk + 1 })
        ((sender.nextChunk + 1).toNat / ldChunksPerPage)
        ((sender.nextChunk + 1).toNat % ldChunksPerPage)
      have place : (sender.nextChunk + 1).toNat / ldChunksPerPage *
          ldChunksPerPage + (sender.nextChunk + 1).toNat % ldChunksPerPage =
            (sender.nextChunk + 1).toNat := by
        rw [perPage]
        omega
      have id : ((s.setSender theSender
          { sender with nextChunk := sender.nextChunk + 1 }).senders
            theSender).dataId = sender.dataId := by
        simp [setSender]
      rw [place, id, ready] at forwards
      exact forwards

/-- The `OK` after `#LD` for the chunk that was forwarded last. -/
theorem forwardKept_chunkReady (sound : ForwardSound log)
    (active : log.sender.active = true)
    (last : log.sender.nextChunk.toNat ∈ log.emitted)
    (ready : log.link.ld.clearOut.cmdLdChunkReady = .ok log'.link.ld)
    (emitted : log'.emitted = log.emitted ++
      (forwardedChunks log'.link.ld.io.out).map ForwardedChunk.linear)
    (acked : log'.acked = log.acked ++ [log.sender.nextChunk.toNat]) :
    ForwardKept log log' := by
  have one : (1 : UInt16).toNat = 1 := rfl
  rcases LdPlane.cmdLdChunkReady_cases ready with
    ⟨finished, io, stopped, marks⟩ | ⟨goes, forwards⟩
  · have finished : log.sender.totalChunks - 1 ≤ log.sender.nextChunk := finished
    have stopped : log'.sender.active = false := stopped
    have silent : forwardedChunks log'.link.ld.io.out = [] := by
      rw [io]
      rfl
    rw [silent, List.map_nil, List.append_nil] at emitted
    have ackedUpTo :
        log'.acked = List.range (log.sender.nextChunk.toNat + 1) := by
      rw [acked, (sound.turn active).1, List.range_succ]
    refine ⟨⟨?_, fun chunk member => ?_, fun working => ?_,
      fun working => ?_⟩, fun chunk member => ?_, fun idx before marked => ?_⟩
    · rw [emitted]
      exact sound.order
    · rw [emitted] at member
      rw [acked]
      exact List.mem_append.mpr (.inl (sound.after chunk member))
    · exact absurd (stopped.symm.trans working) (by decide)
    · exact absurd (stopped.symm.trans working) (by decide)
    · rw [silent] at member
      cases member
    · obtain ⟨-, gen, id⟩ :=
        LdPlane.findLargeDataSlot_some (marks idx before marked)
      refine ⟨active, gen, id, fun chunk below => ?_⟩
      have least : (1 : UInt16) ≤ log.sender.totalChunks := by
        rw [UInt16.le_iff_toNat_le]
        omega
      rw [UInt16.le_iff_toNat_le, UInt16.toNat_sub_of_le _ _ least] at finished
      rw [ackedUpTo, List.mem_range]
      omega
  · have goes : ¬ log.sender.totalChunks - 1 ≤ log.sender.nextChunk := goes
    have count : (log.sender.nextChunk + 1).toNat =
        log.sender.nextChunk.toNat + 1 := by
      rw [UInt16.le_iff_toNat_le] at goes
      have bound := (log.sender.totalChunks - 1).toNat_lt
      rw [UInt16.toNat_add, one]
      omega
    exact forwardKept_nextChunk sound active count last forwards emitted acked

/-- The `OK` after `#LD` when no blob is in progress. -/
theorem forwardKept_idle (idle : log.sender.active = false)
    (known : ∀ idx, log.link.ld.findLargeDataSlot log.sender.genDeviceId
      log.sender.dataId = some idx →
        log.sender.totalChunks - 1 ≤ log.sender.nextChunk →
          (log.link.ld.slots idx).isTransfered = true)
    (ready : log.link.ld.clearOut.cmdLdChunkReady = .ok log'.link.ld)
    (emitted : log'.emitted =
      (forwardedChunks log'.link.ld.io.out).map ForwardedChunk.linear) :
    ForwardKept log log' := by
  obtain ⟨silent, stopped, marks⟩ :
      forwardedChunks log'.link.ld.io.out = [] ∧
        (log'.link.ld.senders theSender).active = false ∧
        ∀ idx, (log.link.ld.slots idx).isTransfered = false →
          ¬ (log'.link.ld.slots idx).isTransfered = true := by
    rcases LdPlane.cmdLdChunkReady_cases ready with
      ⟨finished, io, stopped, marks⟩ | ⟨-, forwards⟩
    · refine ⟨by rw [io]; rfl, stopped, fun idx before marked => ?_⟩
      have found : log.link.ld.findLargeDataSlot log.sender.genDeviceId
          log.sender.dataId = some idx := by
        rw [← marks idx before marked]
        unfold LdPlane.findLargeDataSlot
        rfl
      exact absurd (before.symm.trans (known idx found finished)) (by decide)
    · have ended : ((log.link.ld.clearOut.setSender theSender
          { log.sender with nextChunk := log.sender.nextChunk + 1 }).senders
            theSender).active = false := by
        simpa [LdPlane.setSender] using idle
      refine ⟨?_, ?_, fun idx before marked => ?_⟩
      · rcases forwards.out with nothing | ⟨working, -⟩
        · exact nothing
        · exact absurd (ended.symm.trans working) (by decide)
      · rw [forwards.senders]
        exact ended
      · rw [forwards.slots] at marked
        exact absurd (before.symm.trans marked) (by decide)
  rw [silent, List.map_nil] at emitted
  refine ⟨⟨?_, fun chunk member => ?_, fun working => ?_, fun working => ?_⟩,
    fun chunk member => ?_, fun idx before marked =>
      (marks idx before marked).elim⟩
  · rw [emitted]
    rfl
  · rw [emitted] at member
    cases member
  · exact absurd (stopped.symm.trans working) (by decide)
  · exact absurd (stopped.symm.trans working) (by decide)
  · rw [silent] at member
    cases member

theorem chunkOf_otherType {pending : AtPendingAck} {env : Env}
    {sender : LdSender} (other : pending.dataType ≠ dataTypeLargeData) :
    pending.chunkOf env sender = none :=
  if_neg fun names => other names.1

theorem chunkOf_init {pending : AtPendingAck} {env : Env} {sender : LdSender}
    (init : pending.page = -1) : pending.chunkOf env sender = none := by
  refine if_neg fun names => ?_
  have page := names.2.2.2.1
  omega

/-- The steps that a gateway takes with a host that answers in turn. -/
theorem forwardKept_step (role : board.deviceType = .gateway)
    (admitted : HostInTurn board log event) (sound : ForwardSound log)
    (moved : log.step event = .ok log') : ForwardKept log log' := by
  obtain ⟨env, event⟩ := event
  obtain ⟨⟨rfl, own⟩, inTurn⟩ := admitted
  obtain ⟨stepped, emitted, acked⟩ := ForwardLog.step_eq moved
  have quiet (unforwarded : Unforwarded log.link.ld.clearOut log'.link.ld)
      (none : log.acknowledged (env, event) = none) : ForwardKept log log' := by
    rw [none, Option.toList_none, List.append_nil] at acked
    exact forwardKept_quiet sound unforwarded emitted acked
  have unchanged (same : log'.link.ld = log.link.ld.clearOut) :
      Unforwarded log.link.ld.clearOut log'.link.ld := by
    rw [same]
    exact (Bystander.refl _).unforwarded
  cases event with
  | board event =>
      refine quiet ?_ rfl
      obtain ⟨ld, executed, after⟩ := exists_of_map_ok stepped
      rw [← after]
      exact LdPlane.boardStep_unforwarded role own.2 executed
  | ldInit args =>
      refine quiet ?_ rfl
      rw [← Except.ok.inj stepped]
      exact LdPlane.cmdLdInitAck_unforwarded args
  | ld args =>
      refine quiet (unchanged ?_) rfl
      obtain ⟨ack, executed, after⟩ := exists_of_map_ok stepped
      rw [← after]
  | otherPending pending =>
      refine quiet (unchanged ?_) rfl
      rw [← Except.ok.inj stepped]
  | hostAnswer ok =>
      obtain ⟨ld, executed, after⟩ := exists_of_map_ok stepped
      have here : log'.link.ld = ld := by rw [← after]
      cases ok with
      | false =>
          refine quiet (unchanged ?_) rfl
          rw [here]
          exact (Except.ok.inj executed).symm
      | true =>
          have answered : log.link.answered = .ok ld := executed
          unfold HostLink.answered at answered
          by_cases large : log.link.pendingAck.dataType = dataTypeLargeData
          · rw [if_pos large] at answered
            have turn : log.OkInTurn env := inTurn large
            unfold ForwardLog.OkInTurn at turn
            by_cases init : log.link.pendingAck.page = -1 ∧
                log.link.pendingAck.chunk = -1
            · rw [if_pos init] at answered turn
              have none : log.acknowledged (env, .hostAnswer true) = none :=
                chunkOf_init init.1
              rw [none, Option.toList_none, List.append_nil] at acked
              refine forwardKept_initReady sound turn ?_ emitted acked
              rw [here]
              exact (Except.ok.inj answered).symm
            · rw [if_neg init] at answered turn
              rw [← here] at answered
              cases active : log.sender.active with
              | true =>
                  rw [if_pos active] at turn emitted acked
                  have some_ : log.acknowledged (env, .hostAnswer true) =
                      some log.sender.nextChunk.toNat := turn.2.1
                  rw [some_, Option.toList_some] at acked
                  exact forwardKept_chunkReady sound active turn.2.2 answered
                    emitted acked
              | false =>
                  rw [if_neg (by simp [active])] at turn emitted
                  exact forwardKept_idle active turn.2 answered emitted
          · rw [if_neg large] at answered
            refine quiet (unchanged ?_) (chunkOf_otherType large)
            rw [here]
            exact (Except.ok.inj answered).symm

namespace LdPlane

variable {env : Env} {s : LdPlane} {fault : Fault}

theorem meshDevice_error {index : Nat}
    (failed : env.meshDevice index = .error fault) :
    fault.table = .meshDevices := by
  unfold Env.meshDevice at failed
  split at failed
  · cases failed
  · cases failed
    rfl

theorem sendAtLargeDataInit_error
    {i : Fin ldSenderSlotCount} {idx : Fin ldReceiverSlotCount}
    (failed : s.sendAtLargeDataInit env i idx = .error fault) :
    fault.table = .meshDevices := by
  unfold sendAtLargeDataInit at failed
  dsimp only at failed
  split at failed
  · split at failed
    · cases failed
    · cases failed
  · split at failed
    · next other device =>
      cases failed
      exact meshDevice_error device
    · cases failed

/-- A tick of a gateway stays inside the sender table. -/
theorem gatewayLoop_error (senders : List (Fin ldSenderSlotCount)) :
    ∀ {s : LdPlane}, gatewayLoop env senders s = .error fault →
      fault.table = .meshDevices := by
  induction senders with
  | nil => exact fun failed => by cases failed
  | cons i rest inductionHypothesis =>
      intro s failed
      unfold gatewayLoop at failed
      split at failed
      · cases failed
      · split at failed
        · cases failed
        · dsimp only at failed
          split at failed
          · next other announced =>
            cases failed
            exact sendAtLargeDataInit_error announced
          · cases failed
          · exact inductionHypothesis failed

/-- An `#LD` line is compared with the cached sender. -/
theorem cmdLdChunkAck_error {args : List Char}
    (failed : s.cmdLdChunkAck args = .error fault) :
    NamesChunk args ∧ s.senderIdxCache = none := by
  unfold cmdLdChunkAck at failed
  split at failed
  · next sn id page chunk sn_ id_ page_ chunk_ =>
    refine ⟨⟨by rw [sn_]; rfl, by rw [id_]; rfl, by rw [page_]; rfl,
      by rw [chunk_]; rfl⟩, ?_⟩
    split at failed
    · next other missing =>
      unfold cachedSender at missing
      split at missing
      · next nothing => exact nothing
      · cases missing
    · dsimp only at failed
      split at failed <;> cases failed
  · cases failed

theorem cmdLdChunkReady_error (failed : s.cmdLdChunkReady = .error fault) :
    s.senderIdxCache = none := by
  unfold cmdLdChunkReady cachedSender at failed
  split at failed
  · next other missing =>
    split at missing
    · next nothing => exact nothing
    · cases missing
  · dsimp only at failed
    split at failed
    · split at failed <;> cases failed
    · cases failed

end LdPlane

/-- The lines of the host, and the ticks. -/
def HostLinkEvent.LineOrTick : HostLinkEvent → Prop
  | .board event => event = .tick
  | _ => True

/-- With a host that answers in turn, its lines and the ticks use the sender
table inside its bounds. -/
theorem hostInTurn_inside {fault : Fault}
    (role : board.deviceType = .gateway)
    (admitted : HostInTurn board log event) (mine : event.2.LineOrTick)
    (failed : log.step event = .error fault) : fault.table ≠ .ldSender := by
  obtain ⟨env, event⟩ := event
  obtain ⟨⟨rfl, -⟩, inTurn⟩ := admitted
  have failed := error_of_map_error failed
  cases event with
  | board event =>
      have ticked : event = .tick := mine
      subst ticked
      have failed : log.link.ld.clearOut.largeDataTick env = .error fault :=
        error_of_map_error failed
      unfold LdPlane.largeDataTick at failed
      rw [role] at failed
      rw [LdPlane.gatewayLoop_error _ failed]
      decide
  | ldInit args => cases failed
  | ld args =>
      obtain ⟨names, missing⟩ :=
        LdPlane.cmdLdChunkAck_error (error_of_map_error failed)
      exact absurd missing (inTurn names)
  | otherPending pending => cases failed
  | hostAnswer ok =>
      have failed := error_of_map_error failed
      cases ok with
      | false => cases failed
      | true =>
          have failed : log.link.answered = .error fault := failed
          unfold HostLink.answered at failed
          split at failed
          · next large =>
            have turn : log.OkInTurn env := inTurn large
            unfold ForwardLog.OkInTurn at turn
            split at failed
            · cases failed
            · next line =>
              rw [if_neg line] at turn
              exact absurd (LdPlane.cmdLdChunkReady_error failed) turn.1
          · cases failed

/-- In every run of a gateway whose host answers in turn: its lines and the
ticks stay inside the sender table, the chunks of a blob are forwarded one
after the other from the first on, each after the one before was named and
answered with `OK`, and a blob counts as transferred only after all its chunks
were. -/
theorem hostForwarding_inOrder {io : Io}
    (role : board.deviceType = .gateway)
    (reach : Trace.Reach ForwardLog.step (HostInTurn board) (.boot io) log) :
    log.emitted = List.range log.emitted.length ∧
      (∀ chunk, chunk + 1 ∈ log.emitted → chunk ∈ log.acked) ∧
      ∀ event, HostInTurn board log event →
        (event.2.LineOrTick → ∀ fault, log.step event = .error fault →
          fault.table ≠ .ldSender) ∧
        ∀ log', log.step event = .ok log' →
          (∀ chunk ∈ forwardedChunks log'.link.ld.io.out,
            log.sender.active = true ∧
              chunk.deviceId = log.sender.genDeviceId ∧
              chunk.dataId = log.sender.dataId) ∧
          ∀ idx, (log.link.ld.slots idx).isTransfered = false →
            (log'.link.ld.slots idx).isTransfered = true →
              log.sender.active = true ∧
                (log.link.ld.slots idx).genDeviceId = log.sender.genDeviceId ∧
                (log.link.ld.slots idx).dataId = log.sender.dataId ∧
                ∀ chunk < log.sender.totalChunks.toNat, chunk ∈ log'.acked := by
  have sound : ForwardSound log := by
    apply reach.invariant
    · refine ⟨rfl, ?_, ?_, ?_⟩
      · exact fun chunk member => by cases member
      · exact fun active => by cases active
      · exact fun active => by cases active
    · exact fun before event after sound admitted moved =>
        (forwardKept_step role admitted sound moved).sound
  refine ⟨sound.order, sound.after, fun event admitted => ⟨?_, ?_⟩⟩
  · exact fun mine fault failed => hostInTurn_inside role admitted mine failed
  · intro log' moved
    have kept := forwardKept_step role admitted sound moved
    exact ⟨kept.names, kept.transfered⟩

end Steps

section Samples

/-- The gateway of the other samples, with sensor 5 in its mesh table. -/
def forwardingGateway : Env :=
  { ldGateway with
    meshCount := 1
    meshDevices := fun _ => { deviceId := 5, serialNum := 9 } }

/-- The host takes the announcement of the blob. -/
def hostLdInit : Env × HostLinkEvent :=
  (forwardingGateway, .ldInit "#LDINIT: \"9\",\"1\",\"1\",\"1\"".toList)

/-- The host names the first chunk of the blob of device `sn`. -/
def hostLd (sn : String) : Env × HostLinkEvent :=
  (forwardingGateway,
    .ld ("#LD: \"".toList ++ sn.toList ++ "\",\"1\",\"0\",\"0\"".toList))

def hostOk : Env × HostLinkEvent := (forwardingGateway, .hostAnswer true)

/-- The one-byte blob is complete, and announced to the host. -/
def forwardingStart : List (Env × HostLinkEvent) :=
  [(forwardingGateway, .board ldSampleInit),
    (forwardingGateway, .board ldSampleChunk),
    (forwardingGateway, .board .tick)]

namespace ForwardLog

/-- An `#LD` line named the chunk forwarded last. -/
def Forwarded (log : ForwardLog) : Prop :=
  ¬ (log.link.pendingAck.page = -1 ∧ log.link.pendingAck.chunk = -1) ∧
    log.link.ld.senderIdxCache ≠ none ∧ log.sender.active = true ∧
    log.link.pendingAck.chunkOf forwardingGateway log.sender =
      some log.sender.nextChunk.toNat ∧
    log.sender.nextChunk.toNat ∈ log.emitted

instance (log : ForwardLog) : Decidable log.Forwarded :=
  inferInstanceAs (Decidable (_ ∧ _))

theorem Forwarded.okInTurn {log : ForwardLog} (forwarded : log.Forwarded) :
    HostInTurn forwardingGateway.toBoard log hostOk := by
  obtain ⟨line, known, active, names, sent⟩ := forwarded
  refine ⟨⟨rfl, trivial⟩, fun _ => ?_⟩
  unfold OkInTurn
  rw [if_neg line, if_pos active]
  exact ⟨known, names, sent⟩

end ForwardLog

/-- A blob of 500 zero bytes, more than an `AT#LD` line holds, is complete and
announced to the host. -/
def twoLinesStart : List (Env × HostLinkEvent) :=
  (forwardingGateway, .board (.largeDataInit
    { hdr := { deviceType := 3, deviceId := 1 }
      genDeviceId := 5, dataId := 1, reportTimeMs := 0, totalSize := 500
      pageCount := 1, lastChunkSize := 140, crc32 := 0x0283B97A } 5)) ::
  ((List.range 3).map fun linear =>
    (forwardingGateway, .board (.largeDataChunk
      { hdr := { deviceType := 3, deviceId := 1 }
        genDeviceId := 5, dataId := 1, pageIndex := 0
        chunkIndex := UInt8.ofNat linear
        data := Buffer.ofData sendLargeDataMax
          (List.replicate (if linear = 2 then 140 else 180) 0) } 5))) ++
  [(forwardingGateway, .board .tick), hostLdInit]

theorem twoLines_crc :
    Checksum.crc32Ieee.ieee (List.replicate 500 0) = 0x0283B97A :=
  @Checksum.crc32Ieee_zeros 10 (by decide)

/-- The host names the second chunk. -/
def hostLdSecond : Env × HostLinkEvent :=
  (forwardingGateway, .ld "#LD: \"5\",\"1\",\"0\",\"1\"".toList)

set_option synthInstance.maxSize 512 in
/-- The blob counts as transferred once both chunks were acknowledged. -/
theorem hostForwarding_inOrder_twoLines :
    Trace.Ends ForwardLog.step (.boot {}) twoLinesStart fun log₁ =>
      Trace.Ends ForwardLog.step log₁ [hostOk] fun log₂ =>
      Trace.Ends ForwardLog.step log₂ [hostLd "5"] fun log₃ =>
      Trace.Ends ForwardLog.step log₃ [hostOk] fun log₄ =>
      Trace.Ends ForwardLog.step log₄ [hostLdSecond] fun log =>
        log.emitted = [0, 1] ∧
          log.emitted = List.range log.emitted.length ∧
          ∃ log', log.step hostOk = .ok log' ∧
            (log'.link.ld.slots ⟨0, by decide⟩).isTransfered = true ∧
            ∀ chunk < 2, chunk ∈ log'.acked := by
  obtain ⟨log₁, run₁, init, unsent, name, log₂, run₂, cached₂, log₃, run₃,
      turn₃, log₄, run₄, cached₄, log, run, turn, emitted, total, pending,
      log', answered, marked⟩ :
      Trace.Ends ForwardLog.step (.boot {}) twoLinesStart fun log₁ =>
        (log₁.link.pendingAck.page = -1 ∧ log₁.link.pendingAck.chunk = -1) ∧
        log₁.emitted = [] ∧
        log₁.link.ld.deviceIdCache = log₁.sender.genDeviceId ∧
        Trace.Ends ForwardLog.step log₁ [hostOk] fun log₂ =>
          log₂.link.ld.senderIdxCache ≠ none ∧
          Trace.Ends ForwardLog.step log₂ [hostLd "5"] fun log₃ =>
            log₃.Forwarded ∧
            Trace.Ends ForwardLog.step log₃ [hostOk] fun log₄ =>
              log₄.link.ld.senderIdxCache ≠ none ∧
              Trace.Ends ForwardLog.step log₄ [hostLdSecond] fun log =>
                log.Forwarded ∧
                log.emitted = [0, 1] ∧
                log.sender.totalChunks.toNat = 2 ∧
                (log.link.ld.slots ⟨0, by decide⟩).isTransfered = false ∧
                Trace.Ends ForwardLog.step log [hostOk] fun log' =>
                  (log'.link.ld.slots ⟨0, by decide⟩).isTransfered = true := by
    unfold twoLinesStart hostLdInit hostOk hostLd hostLdSecond
      forwardingGateway ldGateway
    rw [← Checksum.withValue_eq twoLines_crc]
    decide +kernel
  have admitted : ∀ event ∈ twoLinesStart, ∀ before,
      HostInTurn forwardingGateway.toBoard before event := by
    intro event member before
    simp only [twoLinesStart, List.mem_append, List.mem_cons, List.mem_map,
      List.not_mem_nil, or_false] at member
    rcases member with (rfl | ⟨linear, -, rfl⟩) | rfl | rfl
    · exact ⟨⟨rfl, trivial, id⟩, trivial⟩
    · exact ⟨⟨rfl, trivial, id⟩, trivial⟩
    · exact ⟨⟨rfl, trivial, id⟩, trivial⟩
    · exact ⟨⟨rfl, trivial⟩, trivial⟩
  have turn₁ : HostInTurn forwardingGateway.toBoard log₁ hostOk := by
    refine ⟨⟨rfl, trivial⟩, fun _ => ?_⟩
    unfold ForwardLog.OkInTurn
    rw [if_pos init]
    exact fun _ _ => ⟨unsent, name⟩
  have turn₂ : HostInTurn forwardingGateway.toBoard log₂ (hostLd "5") :=
    ⟨⟨rfl, trivial⟩, fun _ => cached₂⟩
  have turn₄ : HostInTurn forwardingGateway.toBoard log₄ hostLdSecond :=
    ⟨⟨rfl, trivial⟩, fun _ => cached₄⟩
  have steps := And.intro run₂ (And.intro run₃ (And.intro run₄ run))
  rw [Trace.run_single, Trace.run_single, Trace.run_single,
    Trace.run_single] at steps
  obtain ⟨step₂, step₃, step₄, step⟩ := steps
  rw [Trace.run_single] at answered
  obtain ⟨order, -, later⟩ := hostForwarding_inOrder rfl
    (.next (.next (.next (.next (.of_run admitted run₁) turn₁ step₂)
      turn₂ step₃) turn₃.okInTurn step₄) turn₄ step)
  obtain ⟨-, -, -, all⟩ :=
    ((later hostOk turn.okInTurn).2 log' answered).2 ⟨0, by decide⟩ pending
      marked
  rw [total] at all
  exact ⟨log₁, run₁, log₂, run₂, log₃, run₃, log₄, run₄, log, run, emitted,
    order, log', answered, marked, all⟩

/-- An `#LD` line before any `#LDINIT` reads `ld_sender[-1]`; and an `#LD` line
for another device ends the transfer, of which nothing was acknowledged. -/
theorem hostForwarding_misled :
    (ForwardLog.boot {}).step (hostLd "9") = .error ⟨.ldSender, -1⟩ ∧
      Trace.Ends ForwardLog.step (.boot {})
        (forwardingStart ++ [hostLdInit, hostOk, hostLd "77"]) fun log =>
          (log.link.ld.slots ⟨0, by decide⟩).isTransfered = false ∧
            log.sender.totalChunks.toNat = 1 ∧
            Trace.Ends ForwardLog.step log [hostOk] fun log' =>
              (log'.link.ld.slots ⟨0, by decide⟩).isTransfered = true ∧
                log'.acked = [] := by
  refine ⟨rfl, ?_⟩
  decide +kernel

end Samples

end DectMesh
