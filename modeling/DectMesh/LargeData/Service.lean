import Mathlib.Algebra.GroupWithZero.Nat
import DectMesh.LargeData.Delivered
import DectMesh.LargeData.Pages
import DectMesh.LargeData.Reassembly
import DectMesh.LargeData.Reception

/-!
# Transfer after transfer

Nothing gives the slot and the pages of a finished transfer back.  On a board
that serves one transfer after the other since boot they pile up in order, so
the next one is accepted until the slots or the pages run out.
-/

namespace DectMesh

open PageMap

/-- The size a new transfer announces. -/
def LdEvent.size : LdEvent → UInt32
  | .largeDataInit pkt _ => pkt.totalSize
  | .cmdLdInit args =>
      match LdPlane.parseLdInit args with
      | some command => command.total.toUInt32
      | none => 0
  | _ => 0

/-- The plane took the transfer: `STATUS_SUCCESS`, or `OK` for the host. -/
def LdPlane.Accepted (after : LdPlane) : LdEvent → Prop
  | .largeDataInit _ _ =>
      ∃ ack ∈ initAcks after.io.out, ack.hdr.status = statusSuccess
  | .cmdLdInit _ => .line .ok ∈ after.io.out
  | _ => False

instance LdPlane.Accepted.decidable (after : LdPlane) (event : LdEvent) :
    Decidable (after.Accepted event) :=
  match event with
  | .largeDataInit _ _ => inferInstanceAs (Decidable (∃ ack ∈ _, _))
  | .cmdLdInit _ => inferInstanceAs (Decidable (_ ∈ _))
  | .largeDataInitAck _ _ | .largeDataChunk _ _ | .largeDataChunkAck _ _
  | .tick | .cmdLdChunk _ | .cmdLdInitAck _ | .cmdLdInitReady
  | .cmdLdChunkAck _ | .cmdLdChunkReady | .restart | .elsewhere _ _ =>
      isFalse id

/-- Every transfer since boot has reached its end. -/
def LdPlane.Completed (s : LdPlane) : Prop :=
  ∀ idx, (s.slots idx).active = true → (s.slots idx).isTransfered = true

instance LdPlane.Completed.decidable (s : LdPlane) : Decidable s.Completed :=
  inferInstanceAs (Decidable (∀ _, _ → _))

/-- The runs that serve transfers of the given sizes one after the other since
boot.  No transfer is given up in between. -/
inductive LdService (board : Board) : List UInt32 → LdPlane → Prop
  | boot (io : Io) : LdService board [] (.boot io)
  | other {sizes : List UInt32} {s s' : LdPlane} {event : Env × LdEvent}
      (service : LdService board sizes s)
      (allowed : LdOnBoard board s event)
      (stepped : ldStep s event = .ok s')
      (same : ∀ idx, (s'.slots idx).extent = (s.slots idx).extent) :
      LdService board sizes s'
  | accepted {sizes : List UInt32} {s s' : LdPlane} {event : Env × LdEvent}
      (service : LdService board sizes s) (completed : s.Completed)
      (allowed : LdOnBoard board s event)
      (stepped : ldStep s event = .ok s')
      (accepted : s'.Accepted event.2) :
      LdService board (sizes ++ [event.2.size]) s'

/-- A well-formed transfer with a fresh key, on a board whose host link
works. -/
structure LdPlane.WellFormedInit (s : LdPlane) (env : Env) (pkt : LargeDataInit) :
    Prop where
  role : env.deviceType = .gateway ∨ env.deviceType = .anchor
  accepted : env.accepts pkt.hdr = true
  downstream : isDownstreamType pkt.hdr.deviceType = true
  totalSize : pkt.totalSize ≠ 0 ∧ pkt.totalSize.toNat ≤ ldMaxTransferSize
  pageCount : pkt.pageCount ≠ 0
  lastChunkSize : pkt.lastChunkSize ≠ 0 ∧ pkt.lastChunkSize.toNat ≤ ldChunkSize
  fresh : s.findLargeDataSlot pkt.genDeviceId pkt.dataId = none

structure LdPlane.WellFormedCommand (s : LdPlane) (env : Env) (args : List Char)
    (command : LdInitCommand) : Prop where
  role : env.deviceType = .sensor
  connected : env.connectedDeviceId ≠ 0xFFFF
  parsed : parseLdInit args = some command
  checksum : command.crc16.toNat ≤ 0xFFFF ∧
    env.crc16 command.crcBytes = command.crc16.toUInt16
  serial : command.sn = env.serialNumber
  inRange : command.inRange = true
  fresh : s.findLargeDataSlot env.deviceId command.id.toUInt8 = none
  host : s.io.uart = []

def LdPlane.WellFormed (s : LdPlane) (env : Env) : LdEvent → Prop
  | .largeDataInit pkt _ => s.WellFormedInit env pkt
  | .cmdLdInit args => ∃ command, s.WellFormedCommand env args command
  | _ => False

/-- Slots and pages pile up in the order of the transfers. -/
structure LdFilled (sizes : List UInt32) (s : LdPlane) : Prop where
  slots : ∀ idx, (s.slots idx).active = true ↔ idx.val < sizes.length
  pages : Stacked s.isLdSlotEmpty (sizes.map pagesOf).sum

/-- The step took a free slot and room for a blob. -/
structure LdTakes (s s' : LdPlane) (size : UInt32) : Prop where
  positive : 0 < size.toNat
  taken : ∃ idx range slot, s.freeSlot = some idx ∧
    s.findPages size = some range ∧
      s'.slots = Function.update s.slots idx slot ∧ slot.active = true ∧
        s'.isLdSlotEmpty = mark s.isLdSlotEmpty range false

section Accepting

variable {env : Env} {s s' : LdPlane}

theorem LdPlane.freeSlot_least
    {idx other : Fin ldReceiverSlotCount} (found : s.freeSlot = some idx)
    (before : other < idx) : (s.slots other).active = true := by
  unfold freeSlot at found
  have skipped := (Fin.find?_eq_some_iff.mp found).2 other before
  simpa using skipped

theorem LdPlane.clearOut_findLargeDataSlot (genDeviceId : UInt16)
    (dataId : UInt8) :
    s.clearOut.findLargeDataSlot genDeviceId dataId =
      s.findLargeDataSlot genDeviceId dataId :=
  findLargeDataSlot_congr (by rfl) genDeviceId dataId

/-- An announcement answered `STATUS_SUCCESS` took a slot. -/
theorem handleLargeDataInit_takes
    {pkt : LargeDataInit} {srcId : UInt16} (silent : s.io.out = [])
    (accepted :
      (s.handleLargeDataInit env pkt srcId).Accepted
        (.largeDataInit pkt srcId)) :
    LdTakes s (s.handleLargeDataInit env pkt srcId) pkt.totalSize := by
  obtain ⟨ack, answered, success⟩ := accepted
  generalize handled : s.handleLargeDataInit env pkt srcId = t at answered ⊢
  have answer {t : LdPlane} {status : UInt8} (quiet : t.io = s.io)
      (answered : ack ∈ initAcks
        (t.put (LdPlane.initAnswer env pkt srcId status)).io.out) :
      status = statusSuccess := by
    rw [LdPlane.put, Io.put_out, quiet, silent] at answered
    cases List.mem_singleton.mp answered
    exact success
  cases LdPlane.handleLargeDataInit_taken handled with
  | ignored =>
      rw [silent] at answered
      cases answered
  | malformed => cases answer rfl answered
  | answered considers outcome =>
      have validated := LdPlane.validateLargeDataSlot_validated outcome
      have taken := answer validated.io answered
      have positive : 0 < pkt.totalSize.toNat := by
        have nonzero : pkt.totalSize ≠ 0 := fun zero =>
          considers.sizes (.inl zero)
        have zero : (0 : UInt32).toNat = 0 := rfl
        rw [ne_eq, ← UInt32.toNat_inj, zero] at nonzero
        omega
      cases validated with
      | taken idle missing free fits =>
          exact ⟨positive, _, _, _, free, fits, rfl, rfl, rfl⟩
      | _ => cases taken

/-- A line that was not `OK` leaves no `OK` behind. -/
theorem sendLine_noOk
    {text : AtLine} (silent : s.io.out = []) (other : text ≠ .ok) :
    ¬ .line .ok ∈ (s.sendLine text).io.out := by
  rcases Io.txWrite_out s.io text with shown | ⟨lost, _⟩
  · simp [LdPlane.sendLine, Io.sendLine, shown, silent, other.symm]
  · simp [LdPlane.sendLine, Io.sendLine, lost, silent]

/-- An `AT#LDINIT` answered `OK` took a slot. -/
theorem cmdLdInit_takes
    {args : List Char} (silent : s.io.out = [])
    (accepted : (s.cmdLdInit env args).Accepted (.cmdLdInit args)) :
    LdTakes s (s.cmdLdInit env args) (LdEvent.size (.cmdLdInit args)) := by
  have refused : ¬ (s.sendLine .error).Accepted (.cmdLdInit args) :=
    sendLine_noOk silent (by simp)
  unfold LdPlane.cmdLdInit at accepted ⊢
  split at accepted
  · exact absurd accepted refused
  · next role =>
    rw [if_neg role]
    split at accepted
    · exact absurd accepted refused
    · next connected =>
      rw [if_neg connected]
      split at accepted
      · exact absurd accepted refused
      · next command parsed =>
        split at accepted
        · exact absurd accepted refused
        · next checksum =>
          rw [if_neg checksum]
          split at accepted
          · exact absurd accepted refused
          · next serial =>
            rw [if_neg serial]
            split at accepted
            · exact absurd accepted refused
            · next inRange =>
              rw [if_neg inRange]
              split at accepted
              · exact absurd accepted refused
              · split at accepted
                · exact absurd accepted refused
                · next after idx allocated =>
                  obtain ⟨range, free, fits, rfl⟩ :=
                    LdPlane.allocLargeDataSlot_some allocated
                  have size : LdEvent.size (.cmdLdInit args) =
                      command.total.toUInt32 := by
                    simp [LdEvent.size, parsed]
                  have bounds := LdAcceptedCommand.size
                    (⟨by simpa using role, ⟨args, rfl, parsed⟩,
                      by simpa using inRange⟩ :
                        LdAcceptedCommand env (.cmdLdInit args) command)
                  rw [size]
                  refine ⟨bounds.1, idx, range, LdPlane.hostSlot env
                    (LdPlane.allocatedSlot (s.slots idx) range) command, free,
                    fits, ?_, rfl, rfl⟩
                  simp [LdPlane.setSlot, LdPlane.sendLine]

/-- A well-formed announcement is answered with what the allocator says. -/
theorem LdPlane.WellFormedInit.accepted_iff
    {pkt : LargeDataInit} {srcId : UInt16}
    (wellFormed : s.WellFormedInit env pkt) (silent : s.io.out = []) :
    (s.handleLargeDataInit env pkt srcId).Accepted (.largeDataInit pkt srcId) ↔
      s.ldBusy = false ∧ s.allocLargeDataSlot pkt.totalSize ≠ none := by
  have checks : ¬ (pkt.totalSize = 0 ∨ ldMaxTransferSize < pkt.totalSize.toNat ∨
      pkt.pageCount = 0 ∨ pkt.lastChunkSize = 0 ∨
        ldChunkSize < pkt.lastChunkSize.toNat) := by
    have total := wellFormed.totalSize
    have pages := wellFormed.pageCount
    have last := wellFormed.lastChunkSize
    rintro (bad | bad | bad | bad | bad)
    · exact total.1 bad
    · exact absurd total.2 (by omega)
    · exact pages bad
    · exact last.1 bad
    · exact absurd last.2 (by omega)
  have considers : Considers env pkt :=
    ⟨⟨wellFormed.role, wellFormed.accepted, wellFormed.downstream⟩, checks⟩
  have answer : (s.handleLargeDataInit env pkt srcId).Accepted
      (.largeDataInit pkt srcId) ↔
        (s.validateLargeDataSlot env pkt).2 = statusSuccess := by
    rw [handleLargeDataInit_answer considers]
    simp [Accepted, put, Io.put, validateLargeDataSlot_io, silent, initAcks,
      initAnswer, Env.replyHeader]
  rw [answer]
  unfold validateLargeDataSlot
  rw [wellFormed.fresh]
  cases busy : s.ldBusy with
  | true => simp [statusBusy, statusSuccess]
  | false =>
      cases allocated : s.allocLargeDataSlot pkt.totalSize with
      | none => simp [statusResourceUnavailable, statusSuccess]
      | some outcome => simp

theorem LdPlane.WellFormedCommand.accepted_iff
    {args : List Char} {command : LdInitCommand}
    (wellFormed : s.WellFormedCommand env args command)
    (silent : s.io.out = []) :
    (s.cmdLdInit env args).Accepted (.cmdLdInit args) ↔
      s.allocLargeDataSlot command.total.toUInt32 ≠ none := by
  have checksum : ¬ (0xFFFF < command.crc16.toNat ∨
      env.crc16 command.crcBytes ≠ command.crc16.toUInt16) := by
    have valid := wellFormed.checksum
    rintro (bad | bad)
    · exact absurd valid.1 (by omega)
    · exact bad valid.2
  unfold cmdLdInit
  rw [if_neg (by simp [wellFormed.role]), if_neg wellFormed.connected,
    wellFormed.parsed]
  dsimp only
  rw [if_neg checksum, if_neg (by simp [wellFormed.serial]),
    if_neg (by simp [wellFormed.inRange]), wellFormed.fresh]
  cases allocated : s.allocLargeDataSlot command.total.toUInt32 with
  | none =>
      refine iff_of_false (sendLine_noOk silent (by simp)) (by simp)
  | some outcome =>
      obtain ⟨after, idx⟩ := outcome
      obtain ⟨range, _, _, rfl⟩ := allocLargeDataSlot_some allocated
      refine iff_of_true ?_ (by simp)
      simp only [Accepted, sendLine, setSlot]
      rw [Io.sendLine_of_idle wellFormed.host, Io.sendLine_of_idle]
      · simp
      · exact wellFormed.host

end Accepting

section Filling

variable {sizes : List UInt32} {s s' : LdPlane} {size : UInt32}

/-- The next transfer goes on top of the others. -/
theorem LdFilled.takes
    (filled : LdFilled sizes s) (takes : LdTakes s s' size) :
    LdFilled (sizes ++ [size]) s' := by
  obtain ⟨idx, range, slot, free, fits, slots, active, pages⟩ := takes.taken
  have next : idx.val = sizes.length := by
    have inactive := LdPlane.freeSlot_some free
    have notBelow : ¬ idx.val < sizes.length := by
      intro below
      rw [(filled.slots idx).mpr below] at inactive
      cases inactive
    by_contra different
    have lower : sizes.length < idx.val := by omega
    have before := LdPlane.freeSlot_least free
      (show (⟨sizes.length, by omega⟩ : Fin ldReceiverSlotCount) < idx from
        lower)
    exact absurd ((filled.slots _).mp before) (Nat.lt_irrefl _)
  have least := findPages_least takes.positive fits
  have room := (filled.pages.run (pagesOf_pos takes.positive)).mp least.2.1
  have start : range.start = (sizes.map pagesOf).sum := by
    have lowest := least.2.2 (sizes.map pagesOf).sum
      ((filled.pages.run (pagesOf_pos takes.positive)).mpr
        ⟨Nat.le_refl _, by omega⟩)
    omega
  constructor
  · intro other
    rw [slots, List.length_append, List.length_singleton]
    by_cases same : other = idx
    · subst same
      rw [Function.update_self]
      exact iff_of_true active (by omega)
    · have apart : other.val ≠ idx.val := fun equal => same (Fin.ext equal)
      rw [Function.update_of_ne same, filled.slots other]
      omega
  · have top : range = ⟨(sizes.map pagesOf).sum, pagesOf size⟩ := by
      rw [← start, ← least.1]
    rw [pages, top, List.map_append, List.sum_append, List.map_singleton,
      List.sum_singleton]
    exact filled.pages.mark

/-- Slots that are neither taken nor given up keep the pages in use. -/
theorem LdFilled.congr
    (filled : LdFilled sizes s) (allocated : LdAllocated s)
    (after : LdAllocated s')
    (same : ∀ idx, (s'.slots idx).extent = (s.slots idx).extent) :
    LdFilled sizes s' := by
  have held : s'.held = s.held := by
    funext idx
    have active : (s'.slots idx).active = (s.slots idx).active :=
      congrArg Prod.fst (same idx)
    have totalSize : (s'.slots idx).totalSize = (s.slots idx).totalSize :=
      congrArg (fun extent => extent.2.1) (same idx)
    have baseAddr : (s'.slots idx).baseAddr = (s.slots idx).baseAddr :=
      congrArg (fun extent => extent.2.2) (same idx)
    unfold LdPlane.held LdSlot.pages
    rw [active, totalSize, baseAddr]
  constructor
  · intro idx
    have active : (s'.slots idx).active = (s.slots idx).active :=
      congrArg Prod.fst (same idx)
    rw [active]
    exact filled.slots idx
  · intro page
    rw [after.flags.used page, held, ← allocated.flags.used page]
    exact filled.pages page

/-- There is a slot and room for one more exactly below both limits. -/
theorem LdFilled.alloc
    (filled : LdFilled sizes s) (positive : 0 < size.toNat) :
    s.allocLargeDataSlot size ≠ none ↔
      sizes.length < ldReceiverSlotCount ∧
        (sizes.map pagesOf).sum + pagesOf size ≤ ldMaxPageCount := by
  rw [ne_eq, allocLargeDataSlot_none positive, not_or]
  apply and_congr
  · constructor
    · intro notFull
      by_contra full
      refine notFull fun idx => (filled.slots idx).mpr ?_
      have inside := idx.isLt
      omega
    · intro below full
      have last := (filled.slots ⟨sizes.length, below⟩).mp (full _)
      exact absurd last (Nat.lt_irrefl _)
  · push Not
    constructor
    · rintro ⟨start, room⟩
      have bounds := (filled.pages.run (pagesOf_pos positive)).mp room
      omega
    · intro fits
      exact ⟨_, (filled.pages.run (pagesOf_pos positive)).mpr
        ⟨Nat.le_refl _, fits⟩⟩

theorem LdService.filled
    {board : Board} (service : LdService board sizes s) :
    LdAllocated s ∧ LdFilled sizes s := by
  induction service with
  | boot io =>
      refine ⟨{ allocated_largeDataInit (LdPlane.boot io) with }, ?_, ?_⟩
      · intro idx
        exact iff_of_false (by simp [LdPlane.boot]) (Nat.not_lt_zero _)
      · intro page
        exact iff_of_false (by simp [LdPlane.boot]) (Nat.not_lt_zero _)
  | @other sizes before after event _ allowed stepped same inductionHypothesis =>
      obtain ⟨allocated, filled⟩ := inductionHypothesis
      have cleared : LdAllocated before.clearOut := { allocated with }
      have later :=
        (LdPlane.step_moves allowed.2 stepped).keepsAllocated cleared
      exact ⟨later, filled.congr allocated later same⟩
  | @accepted sizes before after event _ completed allowed stepped accepted
      inductionHypothesis =>
      obtain ⟨allocated, filled⟩ := inductionHypothesis
      obtain ⟨env, event⟩ := event
      have cleared : LdAllocated before.clearOut := { allocated with }
      have quiet : LdFilled sizes before.clearOut := { filled with }
      refine ⟨(LdPlane.step_moves allowed.2 stepped).keepsAllocated cleared,
        quiet.takes ?_⟩
      cases event with
      | largeDataInit pkt srcId =>
          cases stepped
          exact handleLargeDataInit_takes rfl accepted
      | cmdLdInit args =>
          cases stepped
          exact cmdLdInit_takes rfl accepted
      | _ => cases accepted

end Filling

/-- After any number of transfers of any sizes, each finished before the next,
every slot and every page that was ever taken is still in use, and a further
well-formed transfer is accepted exactly if the receiver is not marked busy, a
slot is left and its pages still fit. -/
theorem ldService_sustained
    {board : Board} {sizes : List UInt32} {s : LdPlane}
    (service : LdService board sizes s) :
    ((∀ idx, (s.slots idx).active = true ↔ idx.val < sizes.length) ∧
      ∀ page : Fin ldMaxPageCount, s.isLdSlotEmpty page = false ↔
        page.val < (sizes.map pagesOf).sum) ∧
      ∀ env event s', s.WellFormed env event →
        s.step env event = .ok s' →
          (s'.Accepted event ↔
            (env.deviceType = .sensor ∨ s.ldBusy = false) ∧
              sizes.length < ldReceiverSlotCount ∧
                (sizes.map pagesOf).sum + pagesOf event.size ≤
                  ldMaxPageCount) := by
  obtain ⟨_, filled⟩ := service.filled
  refine ⟨⟨filled.slots, filled.pages⟩, ?_⟩
  have quiet : LdFilled sizes s.clearOut := { filled with }
  intro env event s' wellFormed stepped
  cases event with
  | largeDataInit pkt srcId =>
      cases stepped
      have here : s.clearOut.WellFormedInit env pkt :=
        { wellFormed with
          fresh := (LdPlane.clearOut_findLargeDataSlot _ _).trans
            wellFormed.fresh }
      have positive : 0 < pkt.totalSize.toNat := by
        have nonzero := wellFormed.totalSize.1
        have zero : (0 : UInt32).toNat = 0 := rfl
        rw [ne_eq, ← UInt32.toNat_inj, zero] at nonzero
        omega
      have notSensor : env.deviceType ≠ .sensor := by
        rcases wellFormed.role with role | role
        · simp [role]
        · simp [role]
      rw [here.accepted_iff rfl, quiet.alloc positive]
      simp [notSensor, LdPlane.clearOut, LdEvent.size]
  | cmdLdInit args =>
      cases stepped
      obtain ⟨command, wellFormed⟩ := wellFormed
      have here : s.clearOut.WellFormedCommand env args command :=
        { wellFormed with
          fresh := (LdPlane.clearOut_findLargeDataSlot _ _).trans
            wellFormed.fresh }
      have bounds := LdAcceptedCommand.size
        (⟨wellFormed.role, ⟨args, rfl, wellFormed.parsed⟩,
          wellFormed.inRange⟩ :
            LdAcceptedCommand env (.cmdLdInit args) command)
      rw [here.accepted_iff rfl, quiet.alloc bounds.1]
      simp [wellFormed.role, LdEvent.size, wellFormed.parsed]
  | _ => cases wellFormed

section Samples

/-- Anchor 2 takes the one-byte blob of sensor 5. -/
def serviceInit : Env × LdEvent := (ldAnchor, ldAnnounce 2 5)

def serviceChunk : Env × LdEvent :=
  (ldAnchor, .largeDataChunk
    { hdr := { deviceType := 3, deviceId := 2 }
      genDeviceId := 5, dataId := 1, pageIndex := 0, chunkIndex := 0
      data := Buffer.ofData sendLargeDataMax [7] } 5)

/-- The gateway has the blob; slot and page of the anchor stay in use. -/
theorem ldService_kept :
    Trace.Ends ldStep (.boot {})
      [serviceInit, serviceChunk, (ldAnchor, .tick),
        (ldAnchor, ldSampleComplete)]
      fun s =>
        (s.slots ⟨0, by decide⟩).isTransfered = true ∧
          (s.slots ⟨0, by decide⟩).active = true ∧
            s.isLdSlotEmpty ⟨0, by decide⟩ = false := by
  decide +kernel

/-- After this transfer the first slot and the first page are in use, and the
blob of another sensor is accepted. -/
theorem ldService_sustained_oneTransfer :
    ∃ s s', LdService ldAnchor.toBoard [1] s ∧ s.Completed ∧
      ((∀ idx, (s.slots idx).active = true ↔ idx.val < 1) ∧
        ∀ page : Fin ldMaxPageCount, s.isLdSlotEmpty page = false ↔
          page.val < pagesOf 1) ∧
      s.step ldAnchor (ldAnnounce 2 6) = .ok s' ∧
        s'.Accepted (ldAnnounce 2 6) := by
  obtain ⟨s₁, first, accepted, s₂, second, same₂, s₃, third, same₃, s₄, fourth,
      same₄, completed, idle⟩ :
      Trace.Ends ldStep (.boot {}) [serviceInit] fun s₁ =>
        s₁.Accepted serviceInit.2 ∧
          Trace.Ends ldStep s₁ [serviceChunk] fun s₂ =>
            (∀ idx, (s₂.slots idx).extent = (s₁.slots idx).extent) ∧
              Trace.Ends ldStep s₂ [(ldAnchor, .tick)] fun s₃ =>
                (∀ idx, (s₃.slots idx).extent = (s₂.slots idx).extent) ∧
                  Trace.Ends ldStep s₃ [(ldAnchor, ldSampleComplete)] fun s₄ =>
                    (∀ idx,
                      (s₄.slots idx).extent = (s₃.slots idx).extent) ∧
                        s₄.Completed ∧ (s₄.ldBusy ||
                          (s₄.findLargeDataSlot 6 1).isSome) = false := by
    decide +kernel
  rw [Trace.run_single] at first second third fourth
  have start : LdService ldAnchor.toBoard [] (.boot {}) := .boot {}
  have init : LdOnBoard ldAnchor.toBoard (.boot {}) serviceInit :=
    ⟨rfl, trivial⟩
  have chunk : LdOnBoard ldAnchor.toBoard s₁ serviceChunk := ⟨rfl, trivial⟩
  have tick : LdOnBoard ldAnchor.toBoard s₂ (ldAnchor, .tick) := ⟨rfl, trivial⟩
  have ack : LdOnBoard ldAnchor.toBoard s₃ (ldAnchor, ldSampleComplete) :=
    ⟨rfl, trivial⟩
  have taken := start.accepted (by intro idx active; cases active) init first
    accepted
  have service := ((taken.other chunk second same₂).other tick third
    same₃).other ack fourth same₄
  rw [Bool.or_eq_false_iff, Option.isSome_eq_false_iff,
    Option.isNone_iff_eq_none] at idle
  have wellFormed : s₄.WellFormed ldAnchor (ldAnnounce 2 6) :=
    { role := .inr rfl
      accepted := by decide
      downstream := by decide
      totalSize := by decide
      pageCount := by decide
      lastChunkSize := by decide
      fresh := idle.2 }
  have sustained := ldService_sustained service
  exact ⟨s₄, _, service, completed, sustained.1, rfl,
    (sustained.2 _ _ _ wellFormed rfl).mpr ⟨.inr idle.1, by decide, by decide⟩⟩

end Samples

end DectMesh
