import DectMesh.PsramBus

/-!
# The pages of the PSRAM

The loops of `psram_read`, `psram_write` and `psram_clear` end, cut their
ranges into bursts that stay inside pages, and serve a flat memory.
-/

namespace DectMesh

open ArrayLoop ByteStore FlatMemory SpiBus

/-- A burst of an access to `length` bytes from `addr` on: not empty, inside
the range and inside one page. -/
structure Paged (addr length : Nat) (burst : Burst) : Prop where
  positive : 0 < burst.length
  page : burst.addr % psramPageSize + burst.length ≤ psramPageSize
  lower : addr ≤ burst.addr
  upper : burst.addr + burst.length ≤ addr + length

/-- The call is one of the flat memory, in bursts that stay inside a page; it
returns the error of a burst that failed, and no other one if the driver is
ready. -/
structure Serves (before : SpiBus) (call : PsramCall) (report : Report)
    (after : SpiBus) : Prop where
  ready : after.ready = before.ready
  paged : ∀ burst ∈ report.bursts, Paged call.addr call.length burst
  returned : ∀ burst ∈ report.bursts, burst.err ≠ 0 → report.err = burst.err
  failed : report.err ≠ 0 →
    (before.ready = false ∧ report.err = -enodev) ∨
      ∃ burst ∈ report.bursts, burst.err = report.err
  memory : Obeys before.mem (call.access report.err) after.mem
  bytes : ∀ addr len, call = .read addr len → report.err = 0 →
    report.bytes = slice before.mem addr len

section Bursts

variable {chip : PsramChip} {bus : SpiBus} {addr : Nat}

theorem burst_page (addr length : Nat) :
    addr % psramPageSize + Psram.burst addr length ≤ psramPageSize := by
  have offset : addr % psramPageSize < psramPageSize :=
    Nat.mod_lt _ (by decide)
  unfold Psram.burst
  omega

theorem spiWriteDt_burst
    {data : List UInt8} (small : addr < psramSize) :
    ∃ err, (bus.spiWriteDt chip (command psramCmdWrite addr) data).2 =
      { addr, length := data.length, err } := by
  have size : psramSize = 0x800000 := rfl
  have wire := wireAddr_command psramCmdWrite (show addr < 0x1000000 by omega)
  exact ⟨_, by simp only [spiWriteDt, wire]; rfl⟩

/-- A write burst that succeeds puts its data; one that fails changes nothing
outside its range. -/
theorem spiWriteDt_page
    {data : List UInt8} (fits : addr + data.length ≤ psramSize)
    (page : addr % psramPageSize + data.length ≤ psramPageSize) :
    ((bus.spiWriteDt chip (command psramCmdWrite addr) data).2.err = 0 →
      (bus.spiWriteDt chip (command psramCmdWrite addr) data).1.mem =
        splice bus.mem addr data) ∧
    ∀ cell, cell < addr ∨ addr + data.length ≤ cell →
      (bus.spiWriteDt chip (command psramCmdWrite addr) data).1.mem cell =
        bus.mem cell := by
  have size : psramSize = 0x800000 := rfl
  have wire := wireAddr_command psramCmdWrite (show addr < 0x1000000 by omega)
  simp only [spiWriteDt, wire]
  split
  · next fine =>
    rw [chip.write_page _ _ _ fits page]
    exact ⟨fun _ => rfl, fun cell apart => splice_outside _ apart⟩
  · next wrong =>
    refine ⟨fun fine => absurd fine wrong, fun cell apart => ?_⟩
    apply splice_outside
    rw [List.length_take]
    omega

/-- The bursts so far succeeded and were inside of the range. -/
def Clean (addr length : Nat) (bursts : List Burst) : Prop :=
  ∀ burst ∈ bursts, Paged addr length burst ∧ burst.err = 0

/-- Where the loop of `psram_write` stands after `done` bytes. -/
structure WriteAt (bus : SpiBus) (addr : Nat) (src : List UInt8) (done : Nat)
    (t : WriteLoop) : Prop where
  within : done ≤ src.length
  rest : t.src = src.drop done
  place : t.addr = addr + done
  mem : t.bus.mem = splice bus.mem addr (src.take done)
  ready : t.bus.ready = bus.ready
  clean : Clean addr src.length t.bursts

theorem Clean.returned
    {length : Nat} {bursts : List Burst} (clean : Clean addr length bursts)
    {err : Int} : ∀ burst ∈ bursts, burst.err ≠ 0 → err = burst.err :=
  fun burst member wrong => absurd (clean burst member).2 wrong

theorem Clean.paged_append
    {length : Nat} {bursts more : List Burst} (clean : Clean addr length bursts)
    (paged : ∀ burst ∈ more, Paged addr length burst) :
    ∀ burst ∈ bursts ++ more, Paged addr length burst := by
  intro burst member
  rcases List.mem_append.mp member with earlier | later
  · exact (clean burst earlier).1
  · exact paged burst later

theorem Clean.returned_append
    {length : Nat} {bursts more : List Burst} (clean : Clean addr length bursts)
    {err : Int} (returned : ∀ burst ∈ more, burst.err ≠ 0 → err = burst.err) :
    ∀ burst ∈ bursts ++ more, burst.err ≠ 0 → err = burst.err := by
  intro burst member wrong
  rcases List.mem_append.mp member with earlier | later
  · exact absurd (clean burst earlier).2 wrong
  · exact returned burst later wrong

theorem Clean.append
    {length : Nat} {bursts more : List Burst} (clean : Clean addr length bursts)
    (others : Clean addr length more) : Clean addr length (bursts ++ more) := by
  intro burst member
  rcases List.mem_append.mp member with earlier | later
  · exact clean burst earlier
  · exact others burst later

theorem WriteAt.finish
    {src : List UInt8} {done : Nat} {t : WriteLoop}
    (state : WriteAt bus addr src done t) (ended : t.src.length = 0) :
    Serves bus (.write addr src) { bursts := t.bursts } t.bus := by
  have all : done = src.length := by
    have within := state.within
    rw [state.rest, List.length_drop] at ended
    omega
  exact
    { ready := state.ready
      paged := fun burst member => (state.clean burst member).1
      returned := state.clean.returned
      failed := fun wrong => absurd rfl wrong
      memory := by
        have mem := state.mem
        rw [all, List.take_length] at mem
        exact mem
      bytes := by
        intro _ _ other
        cases other }

/-- The next burst of the loop, whether it succeeds or not. -/
theorem WriteAt.burst
    {src : List UInt8} {done : Nat} {t : WriteLoop}
    (fits : addr + src.length ≤ psramSize)
    (state : WriteAt bus addr src done t) (pending : t.src.length ≠ 0) :
    ∃ after n err,
      writeRound chip t =
        (if err ≠ 0 then
          .ok (.inr (after, { err, bursts := t.bursts ++ [⟨t.addr, n, err⟩] }))
        else
          .ok (.inl
            { bus := after, addr := t.addr + n, src := t.src.drop n
              bursts := t.bursts ++ [⟨t.addr, n, err⟩] })) ∧
      0 < n ∧ n ≤ t.src.length ∧ after.ready = t.bus.ready ∧
        Paged addr src.length ⟨t.addr, n, err⟩ ∧
          (err = 0 → after.mem = splice t.bus.mem t.addr (t.src.take n)) ∧
            ∀ cell, cell < t.addr ∨ t.addr + n ≤ cell →
              after.mem cell = t.bus.mem cell := by
  have size : psramSize = 0x800000 := rfl
  have within := state.within
  have place := state.place
  have left : t.src.length = src.length - done := by
    rw [state.rest, List.length_drop]
  have progress := @Psram.burst_pos t.addr t.src.length (by omega)
  have bounded := Psram.burst_le t.addr t.src.length
  have page := burst_page t.addr t.src.length
  have taken : (t.src.take (Psram.burst t.addr t.src.length)).length =
      Psram.burst t.addr t.src.length := by
    rw [List.length_take]
    omega
  obtain ⟨err, seen⟩ := @spiWriteDt_burst chip t.bus t.addr
    (t.src.take (Psram.burst t.addr t.src.length)) (by omega)
  obtain ⟨stored, outside⟩ := @spiWriteDt_page chip t.bus t.addr
    (t.src.take (Psram.burst t.addr t.src.length)) (by omega) (by omega)
  rw [seen] at stored
  rw [taken] at seen outside
  refine ⟨(t.bus.spiWriteDt chip (command psramCmdWrite t.addr)
    (t.src.take (Psram.burst t.addr t.src.length))).1, _, err, ?_, progress,
      bounded, rfl, ?_, stored, outside⟩
  · rw [writeRound, if_neg pending]
    dsimp only
    rw [seen, Nat.mod_eq_of_lt (by omega)]
  · constructor
    · exact progress
    · exact page
    · dsimp only
      omega
    · dsimp only
      omega

theorem WriteAt.step
    {src : List UInt8} {done : Nat} {t : WriteLoop}
    (fits : addr + src.length ≤ psramSize)
    (state : WriteAt bus addr src done t) :
    (∃ next, writeRound chip t = .ok (.inl next) ∧
      (∃ done, WriteAt bus addr src done next) ∧
        next.src.length < t.src.length) ∨
      ∃ result, writeRound chip t = .ok (.inr result) ∧
        Serves bus (.write addr src) result.2 result.1 := by
  by_cases ended : t.src.length = 0
  · exact .inr ⟨_, by rw [writeRound, if_pos ended], state.finish ended⟩
  · obtain ⟨after, n, err, round, progress, bounded, ready, paged, stored,
      outside⟩ := @WriteAt.burst chip _ _ _ _ _ fits state ended
    have within := state.within
    have place := state.place
    have left : t.src.length = src.length - done := by
      rw [state.rest, List.length_drop]
    rw [round]
    split
    · next wrong =>
      refine .inr ⟨_, rfl, ?_⟩
      exact
        { ready := ready.trans state.ready
          paged := state.clean.paged_append
            (List.forall_mem_singleton.mpr paged)
          returned := state.clean.returned_append
            (List.forall_mem_singleton.mpr fun _ => rfl)
          failed := fun _ => .inr ⟨⟨t.addr, n, err⟩, by simp, rfl⟩
          memory := by
            simp only [PsramCall.access, if_neg wrong]
            intro cell apart
            rw [outside cell (by omega), state.mem]
            apply splice_outside
            rw [List.length_take]
            omega
          bytes := by
            intro _ _ other
            cases other }
    · next fine =>
      have adjacent := splice_append bus.mem addr (src.take done)
        ((src.drop done).take n)
      rw [List.length_take, Nat.min_eq_left within, ← List.take_add] at adjacent
      refine .inl ⟨_, rfl, ⟨done + n, ?_⟩, ?_⟩
      · exact
          { within := by omega
            rest := by rw [state.rest, List.drop_drop]
            place := by rw [place, Nat.add_assoc]
            mem := by
              rw [stored (not_not.mp fine), state.mem, place, state.rest,
                adjacent]
            ready := ready.trans state.ready
            clean := state.clean.append
              (List.forall_mem_singleton.mpr ⟨paged, not_not.mp fine⟩) }
      · simp only [List.length_drop]
        omega

/-- Without the device a call fails and changes nothing. -/
theorem serves_absent
    {call : PsramCall} (absent : bus.ready = false) :
    Serves bus call { err := -enodev } bus where
  ready := rfl
  paged := by simp
  returned := by simp
  failed := fun _ => .inl ⟨absent, rfl⟩
  memory := by
    have wrong : ¬ -enodev = 0 := by decide
    cases call with
    | write addr src =>
        simp only [PsramCall.access, if_neg wrong]
        exact fun _ _ => rfl
    | read addr len => rfl
    | clear addr len =>
        simp only [PsramCall.access, if_neg wrong]
        exact fun _ _ => rfl
  bytes := by
    intro _ _ _ fine
    exact absurd fine (by decide)

/-- `psram_write` ends and is a write of the flat memory. -/
theorem psramWrite_serves
    {src : List UInt8} (fits : addr + src.length ≤ psramSize) {fuel : Nat}
    (enough : src.length < fuel) :
    ∃ result, bus.psramWrite chip fuel addr src = .ok result ∧
      Serves bus (.write addr src) result.2 result.1 := by
  have size : psramSize = 0x800000 := rfl
  unfold psramWrite
  split
  · next absent =>
    exact ⟨_, rfl, serves_absent (by simpa using absent)⟩
  · rw [if_neg (by omega)]
    exact @run_total _ _ (writeRound chip)
      (fun t => ∃ done, WriteAt bus addr src done t) (fun t => t.src.length) _
      (fun t ⟨done, state⟩ => state.step fits) fuel { bus, addr, src }
      ⟨0, Nat.zero_le _, rfl, rfl, by simp, rfl, by simp [Clean]⟩ enough

/-- Where the loop of `psram_read` stands after `done` bytes. -/
structure ReadAt (bus : SpiBus) (addr len done : Nat) (t : ReadLoop) : Prop where
  within : done ≤ len
  rest : t.len = len - done
  place : t.addr = addr + done
  filled : t.dst = slice bus.mem addr done
  mem : t.bus.mem = bus.mem
  ready : t.bus.ready = bus.ready
  clean : Clean addr len t.bursts

theorem ReadAt.burst
    {len done : Nat} {t : ReadLoop} (fits : addr + len ≤ psramSize)
    (state : ReadAt bus addr len done t) (pending : t.len ≠ 0) :
    ∃ after n err,
      readRound chip t =
        (if err ≠ 0 then
          .ok (.inr (after,
            { err, bytes := t.dst, bursts := t.bursts ++ [⟨t.addr, n, err⟩] }))
        else
          .ok (.inl
            { bus := after, addr := t.addr + n, len := t.len - n
              dst := t.dst ++ slice t.bus.mem t.addr n
              bursts := t.bursts ++ [⟨t.addr, n, err⟩] })) ∧
      0 < n ∧ n ≤ t.len ∧ after.ready = t.bus.ready ∧
        after.mem = t.bus.mem ∧ Paged addr len ⟨t.addr, n, err⟩ := by
  have size : psramSize = 0x800000 := rfl
  have within := state.within
  have place := state.place
  have left := state.rest
  have progress := @Psram.burst_pos t.addr t.len (by omega)
  have bounded := Psram.burst_le t.addr t.len
  have page := burst_page t.addr t.len
  have wire := wireAddr_command psramCmdRead
    (show t.addr < 0x1000000 by omega)
  have bytes := chip.read_page t.bus.mem t.addr (Psram.burst t.addr t.len)
    (by omega) page
  refine ⟨{ t.bus with outcomes := t.bus.outcomes.tail },
    Psram.burst t.addr t.len, (t.bus.outcomes.headD {}).err, ?_, progress,
      bounded, rfl, rfl, ?_⟩
  · rw [readRound, if_neg pending]
    simp only [spiTransceiveDt, wire, bytes]
    rw [Nat.mod_eq_of_lt (by omega)]
  · constructor
    · exact progress
    · exact page
    · dsimp only
      omega
    · dsimp only
      omega

theorem ReadAt.step
    {len done : Nat} {t : ReadLoop} (fits : addr + len ≤ psramSize)
    (state : ReadAt bus addr len done t) :
    (∃ next, readRound chip t = .ok (.inl next) ∧
      (∃ done, ReadAt bus addr len done next) ∧ next.len < t.len) ∨
      ∃ result, readRound chip t = .ok (.inr result) ∧
        Serves bus (.read addr len) result.2 result.1 := by
  have within := state.within
  have left := state.rest
  by_cases ended : t.len = 0
  · refine .inr ⟨_, by rw [readRound, if_pos ended], ?_⟩
    have all : done = len := by omega
    exact
      { ready := state.ready
        paged := fun burst member => (state.clean burst member).1
        returned := state.clean.returned
        failed := fun wrong => absurd rfl wrong
        memory := state.mem
        bytes := by
          intro _ _ same _
          cases same
          exact all ▸ state.filled }
  · obtain ⟨after, n, err, round, progress, bounded, ready, mem, paged⟩ :=
      @ReadAt.burst chip _ _ _ _ _ fits state ended
    rw [round]
    split
    · next wrong =>
      refine .inr ⟨_, rfl, ?_⟩
      exact
        { ready := ready.trans state.ready
          paged := state.clean.paged_append
            (List.forall_mem_singleton.mpr paged)
          returned := state.clean.returned_append
            (List.forall_mem_singleton.mpr fun _ => rfl)
          failed := fun _ => .inr ⟨⟨t.addr, n, err⟩, by simp, rfl⟩
          memory := mem.trans state.mem
          bytes := fun _ _ _ fine => absurd fine wrong }
    · next fine =>
      refine .inl ⟨_, rfl, ⟨done + n, ?_⟩, ?_⟩
      · exact
          { within := by omega
            rest := by
              dsimp only
              omega
            place := by rw [state.place, Nat.add_assoc]
            filled := by
              rw [state.filled, state.mem, state.place, ← slice_add]
            mem := mem.trans state.mem
            ready := ready.trans state.ready
            clean := state.clean.append
              (List.forall_mem_singleton.mpr ⟨paged, not_not.mp fine⟩) }
      · dsimp only
        omega

/-- `psram_read` ends and is a read of the flat memory. -/
theorem psramRead_serves
    {len : Nat} (fits : addr + len ≤ psramSize) {fuel : Nat}
    (enough : len < fuel) :
    ∃ result, bus.psramRead chip fuel addr len = .ok result ∧
      Serves bus (.read addr len) result.2 result.1 := by
  have size : psramSize = 0x800000 := rfl
  unfold psramRead
  split
  · next absent =>
    exact ⟨_, rfl, serves_absent (by simpa using absent)⟩
  · rw [if_neg (by omega)]
    exact @run_total _ _ (readRound chip)
      (fun t => ∃ done, ReadAt bus addr len done t) (fun t => t.len) _
      (fun t ⟨done, state⟩ => state.step fits) fuel { bus, addr, len }
      ⟨0, Nat.zero_le _, rfl, rfl, rfl, rfl, rfl, by simp [Clean]⟩ enough

/-- Where the loop of `psram_clear` stands after `done` bytes. -/
structure ClearAt (bus : SpiBus) (addr len done : Nat) (t : ClearLoop) :
    Prop where
  within : done ≤ len
  rest : t.len = len - done
  place : t.addr = addr + done
  mem : t.bus.mem = splice bus.mem addr (List.replicate done 0)
  ready : t.bus.ready = bus.ready
  clean : Clean addr len t.bursts

theorem Paged.widen
    {inner outer length : Nat} {burst : Burst} (paged : Paged inner length burst)
    {total : Nat} (lower : outer ≤ inner)
    (upper : inner + length ≤ outer + total) : Paged outer total burst where
  positive := paged.positive
  page := paged.page
  lower := Nat.le_trans lower paged.lower
  upper := Nat.le_trans paged.upper upper

/-- The next chunk, whether it is written or not. -/
theorem ClearAt.chunk
    {len done : Nat} {t : ClearLoop} (fits : addr + len ≤ psramSize) {fuel : Nat}
    (enough : len < fuel) (state : ClearAt bus addr len done t)
    (pending : t.len ≠ 0) :
    ∃ after report n,
      clearRound chip fuel t =
        (if report.err ≠ 0 then
          .ok (.inr (after,
            { err := report.err, bursts := t.bursts ++ report.bursts }))
        else
          .ok (.inl
            { bus := after, addr := t.addr + n, len := t.len - n
              bursts := t.bursts ++ report.bursts })) ∧
      0 < n ∧ n ≤ t.len ∧
        Serves t.bus (.write t.addr (List.replicate n 0)) report after := by
  have size : psramSize = 0x800000 := rfl
  have page : zeroSize = 256 := rfl
  have within := state.within
  have place := state.place
  have left := state.rest
  have some : 0 < if zeroSize < t.len then zeroSize else t.len := by
    split <;> omega
  have most : (if zeroSize < t.len then zeroSize else t.len) ≤ t.len := by
    split <;> omega
  obtain ⟨⟨after, report⟩, written, serves⟩ := @psramWrite_serves chip t.bus
    t.addr
    (List.replicate (if zeroSize < t.len then zeroSize else t.len) 0)
    (by rw [List.length_replicate]; omega) fuel
    (by rw [List.length_replicate]; omega)
  refine ⟨after, report, _, ?_, some, most, serves⟩
  simp only [clearRound, if_neg pending, written, bind, Except.bind]
  rw [Nat.mod_eq_of_lt (by omega)]
  rfl

theorem ClearAt.finish
    {len done : Nat} {t : ClearLoop} (state : ClearAt bus addr len done t)
    (ended : t.len = 0) :
    Serves bus (.clear addr len) { bursts := t.bursts } t.bus := by
  have all : done = len := by
    have within := state.within
    have left := state.rest
    omega
  exact
    { ready := state.ready
      paged := fun burst member => (state.clean burst member).1
      returned := state.clean.returned
      failed := fun wrong => absurd rfl wrong
      memory := by
        have mem := state.mem
        rw [all] at mem
        exact mem
      bytes := by
        intro _ _ other
        cases other }

/-- The bursts of a chunk are inside of the range to clear. -/
theorem ClearAt.inside
    {len done n : Nat} {t : ClearLoop} {after : SpiBus} {report : Report}
    (state : ClearAt bus addr len done t) (bounded : n ≤ t.len)
    (serves : Serves t.bus (.write t.addr (List.replicate n 0)) report after) :
    ∀ burst ∈ report.bursts, Paged addr len burst := by
  have within := state.within
  have left := state.rest
  have place := state.place
  intro burst member
  have paged := serves.paged burst member
  rw [PsramCall.addr, PsramCall.length, List.length_replicate] at paged
  exact paged.widen (by omega) (by omega)

/-- A chunk that fails ends the call. -/
theorem ClearAt.fail
    {len done n : Nat} {t : ClearLoop} {after : SpiBus} {report : Report}
    (state : ClearAt bus addr len done t) (bounded : n ≤ t.len)
    (serves : Serves t.bus (.write t.addr (List.replicate n 0)) report after)
    (wrong : report.err ≠ 0) :
    Serves bus (.clear addr len)
      { err := report.err, bursts := t.bursts ++ report.bursts } after where
  ready := serves.ready.trans state.ready
  paged := state.clean.paged_append (state.inside bounded serves)
  returned := state.clean.returned_append serves.returned
  failed := by
    intro _
    rcases serves.failed wrong with ⟨absent, code⟩ | ⟨burst, member, same⟩
    · exact .inl ⟨state.ready.symm.trans absent, code⟩
    · exact .inr ⟨burst, List.mem_append_right _ member, same⟩
  memory := by
    have within := state.within
    have left := state.rest
    have place := state.place
    have memory := serves.memory
    simp only [PsramCall.access, if_neg wrong, List.length_replicate] at memory
    simp only [PsramCall.access, if_neg wrong]
    intro cell apart
    rw [memory cell (by omega), state.mem]
    apply splice_outside
    rw [List.length_replicate]
    omega
  bytes := by
    intro _ _ other
    cases other

/-- After a chunk that succeeds the loop stands behind it. -/
theorem ClearAt.next
    {len done n : Nat} {t : ClearLoop} {after : SpiBus} {report : Report}
    (state : ClearAt bus addr len done t) (bounded : n ≤ t.len)
    (serves : Serves t.bus (.write t.addr (List.replicate n 0)) report after)
    (fine : report.err = 0) :
    ClearAt bus addr len (done + n)
      { bus := after, addr := t.addr + n, len := t.len - n
        bursts := t.bursts ++ report.bursts } := by
  have within := state.within
  have left := state.rest
  have memory := serves.memory
  simp only [PsramCall.access, if_pos fine] at memory
  have adjacent := splice_append bus.mem addr (List.replicate done 0)
    (List.replicate n 0)
  rw [List.length_replicate, List.replicate_append_replicate] at adjacent
  exact
    { within := by omega
      rest := by
        dsimp only
        omega
      place := by rw [state.place, Nat.add_assoc]
      mem := by
        rw [show after.mem = _ from memory, state.mem, state.place, adjacent]
      ready := serves.ready.trans state.ready
      clean := state.clean.append fun burst member => by
        refine ⟨state.inside bounded serves burst member, ?_⟩
        by_contra failing
        exact failing ((serves.returned burst member failing).symm.trans fine) }

theorem ClearAt.step
    {len done : Nat} {t : ClearLoop} (fits : addr + len ≤ psramSize) {fuel : Nat}
    (enough : len < fuel) (state : ClearAt bus addr len done t) :
    (∃ next, clearRound chip fuel t = .ok (.inl next) ∧
      (∃ done, ClearAt bus addr len done next) ∧ next.len < t.len) ∨
      ∃ result, clearRound chip fuel t = .ok (.inr result) ∧
        Serves bus (.clear addr len) result.2 result.1 := by
  by_cases ended : t.len = 0
  · exact .inr ⟨_, by rw [clearRound, if_pos ended], state.finish ended⟩
  · obtain ⟨after, report, n, round, progress, bounded, serves⟩ :=
      @ClearAt.chunk chip _ _ _ _ _ fits _ enough state ended
    rw [round]
    split
    · next wrong =>
      exact .inr ⟨_, rfl, state.fail bounded serves wrong⟩
    · next fine =>
      refine .inl ⟨_, rfl, ⟨_, state.next bounded serves (not_not.mp fine)⟩, ?_⟩
      dsimp only
      omega

/-- `psram_clear` ends and zeroes a range of the flat memory. -/
theorem psramClear_serves
    {len : Nat} (fits : addr + len ≤ psramSize) {fuel : Nat}
    (enough : len < fuel) :
    ∃ result, bus.psramClear chip fuel addr len = .ok result ∧
      Serves bus (.clear addr len) result.2 result.1 := by
  have size : psramSize = 0x800000 := rfl
  unfold psramClear
  split
  · next absent =>
    exact ⟨_, rfl, serves_absent (by simpa using absent)⟩
  · rw [if_neg (by omega)]
    exact @run_total _ _ (clearRound chip fuel)
      (fun t => ∃ done, ClearAt bus addr len done t) (fun t => t.len) _
      (fun t ⟨done, state⟩ => state.step fits enough) fuel { bus, addr, len }
      ⟨0, Nat.zero_le _, rfl, rfl, by simp, rfl, by simp [Clean]⟩ enough

end Bursts

section Calls

variable {chip : PsramChip} {fuel more : Nat}

theorem psramWrite_mono
    {bus : SpiBus} {addr : Nat} {src : List UInt8} {result : SpiBus × Report}
    (ends : bus.psramWrite chip fuel addr src = .ok result)
    (enough : fuel ≤ more) : bus.psramWrite chip more addr src = .ok result := by
  unfold psramWrite at ends ⊢
  split
  · next absent => rwa [if_pos absent] at ends
  · next present =>
    rw [if_neg present] at ends
    split
    · next far => rwa [if_pos far] at ends
    · next near =>
      rw [if_neg near] at ends
      exact ArrayLoop.run_mono (fun _ _ same => same) ends enough

theorem clearRound_mono
    {t : ClearLoop} {outcome : ClearLoop ⊕ (SpiBus × Report)}
    (enough : fuel ≤ more) (goes : clearRound chip fuel t = .ok outcome) :
    clearRound chip more t = .ok outcome := by
  simp only [clearRound, bind, Except.bind] at goes ⊢
  split
  · next ended => rwa [if_pos ended] at goes
  · next pending =>
    rw [if_neg pending] at goes
    split at goes
    · cases goes
    · next result written =>
      rw [psramWrite_mono written enough]
      exact goes

/-- A call that ends does so with more fuel as well. -/
theorem PsramCall.run_mono
    {call : PsramCall} {bus : SpiBus} {result : SpiBus × Report}
    (ends : call.run chip fuel bus = .ok result) (enough : fuel ≤ more) :
    call.run chip more bus = .ok result := by
  cases call with
  | write addr src => exact psramWrite_mono ends enough
  | read addr len =>
      simp only [PsramCall.run, psramRead] at ends ⊢
      split
      · next absent => rwa [if_pos absent] at ends
      · next present =>
        rw [if_neg present] at ends
        split
        · next far => rwa [if_pos far] at ends
        · next near =>
          rw [if_neg near] at ends
          exact ArrayLoop.run_mono (fun _ _ same => same) ends enough
  | clear addr len =>
      simp only [PsramCall.run, psramClear] at ends ⊢
      split
      · next absent => rwa [if_pos absent] at ends
      · next present =>
        rw [if_neg present] at ends
        split
        · next far => rwa [if_pos far] at ends
        · next near =>
          rw [if_neg near] at ends
          exact ArrayLoop.run_mono (fun _ _ => clearRound_mono enough) ends
            enough

theorem PsramCall.run_serves
    (call : PsramCall) (bus : SpiBus)
    (fits : call.addr + call.length ≤ psramSize) (enough : psramSize < fuel) :
    ∃ result, call.run chip fuel bus = .ok result ∧
      Serves bus call result.2 result.1 := by
  cases call with
  | write addr src =>
      simp only [PsramCall.addr, PsramCall.length] at fits
      exact psramWrite_serves fits (by omega)
  | read addr len =>
      simp only [PsramCall.addr, PsramCall.length] at fits
      exact psramRead_serves fits (by omega)
  | clear addr len =>
      simp only [PsramCall.addr, PsramCall.length] at fits
      exact psramClear_serves fits (by omega)

variable (chip fuel) in
/-- One call after the other. -/
def runCalls : SpiBus → List PsramCall → Except Failure (SpiBus × List Report)
  | bus, [] => .ok (bus, [])
  | bus, call :: calls =>
      match call.run chip fuel bus with
      | .error failure => .error failure
      | .ok (bus, report) =>
          match runCalls bus calls with
          | .error failure => .error failure
          | .ok (bus, reports) => .ok (bus, report :: reports)

/-- Every call of a sequence is one of the flat memory. -/
inductive ServesAll : SpiBus → List PsramCall → List Report → SpiBus → Prop
  | nil (bus : SpiBus) : ServesAll bus [] [] bus
  | cons {before middle after : SpiBus} {call : PsramCall} {report : Report}
      {calls : List PsramCall} {reports : List Report} :
      Serves before call report middle →
      ServesAll middle calls reports after →
      ServesAll before (call :: calls) (report :: reports) after

/-- What the calls did to the cells, by what they returned. -/
def accesses (calls : List PsramCall) (reports : List Report) : List Access :=
  List.zipWith (fun call report => call.access report.err) calls reports

theorem runCalls_serves
    {calls : List PsramCall}
    (fits : ∀ call ∈ calls, call.addr + call.length ≤ psramSize)
    (bus : SpiBus) :
    ∃ after reports,
      (∀ fuel, psramSize < fuel →
        runCalls chip fuel bus calls = .ok (after, reports)) ∧
          ServesAll bus calls reports after := by
  induction calls generalizing bus with
  | nil => exact ⟨bus, [], fun _ _ => rfl, .nil bus⟩
  | cons call calls ih =>
      obtain ⟨⟨middle, report⟩, ends, serves⟩ := @PsramCall.run_serves chip
        (psramSize + 1) call bus (fits call List.mem_cons_self) (by omega)
      obtain ⟨after, reports, rest, all⟩ :=
        ih (fun other member => fits other (List.mem_cons_of_mem _ member)) middle
      refine ⟨after, report :: reports, ?_, .cons serves all⟩
      intro fuel enough
      rw [runCalls, PsramCall.run_mono ends enough]
      simp only [rest fuel enough]

/-- A read that succeeds returns the bytes last written. -/
theorem ServesAll.read
    {before after : SpiBus} {calls : List PsramCall} {reports : List Report}
    (all : ServesAll before calls reports after) {known : Known}
    (holds : Holds before.mem known) {index addr len : Nat} {report : Report}
    (asked : calls[index]? = some (.read addr len))
    (answered : reports[index]? = some report) (fine : report.err = 0) :
    report.bytes.length = len ∧ ∀ offset byte, offset < len →
      ((accesses calls reports).take index).foldl Known.next known
          (addr + offset) = some byte →
        report.bytes[offset]? = some byte := by
  induction all generalizing known index with
  | nil => cases asked
  | cons serves _ ih =>
      cases index with
      | zero =>
          cases asked
          cases answered
          have bytes := serves.bytes addr len rfl fine
          rw [bytes]
          refine ⟨slice_length _ _ _, ?_⟩
          intro offset byte inside last
          rw [List.take_zero, List.foldl_nil] at last
          rw [← holds _ _ last]
          simp [slice, inside]
      | succ index =>
          exact ih (holds.next serves.memory) asked answered

theorem ServesAll.holds
    {before after : SpiBus} {calls : List PsramCall} {reports : List Report}
    (all : ServesAll before calls reports after) {known : Known}
    (holds : Holds before.mem known) :
    Holds after.mem ((accesses calls reports).foldl Known.next known) := by
  induction all generalizing known with
  | nil => exact holds
  | cons serves _ ih => exact ih (holds.next serves.memory)

end Calls

section Driver

variable {chip : PsramChip}

/-- The outcome of a burst of `Psram`. -/
def Outcome.ofFault : Option Nat → Outcome
  | none => {}
  | some transferred => { err := -5, left := fun _ data => data.take transferred }

/-- The bus under a `Psram`. -/
def SpiBus.ofPsram (psram : Psram) : SpiBus where
  ready := psram.ready
  mem := psram.mem
  outcomes := psram.faults.map Outcome.ofFault

def Errno.code : Errno → Int
  | .enodev => -19
  | .einval => -22
  | .eio => -5
  | .enomem => -12
  | .enoent => -2

def returnCode (result : Option Errno) : Int := (result.map Errno.code).getD 0

theorem spiWriteDt_failing
    {psram : Psram} {transferred : Nat} {coming : List (Option Nat)}
    (failing : psram.faults = some transferred :: coming)
    {addr : Nat} (small : addr < psramSize) (data : List UInt8) :
    (SpiBus.ofPsram psram).spiWriteDt chip (command psramCmdWrite addr) data =
      (.ofPsram
        { psram with
          mem := splice psram.mem addr
            (data.take (min transferred data.length))
          faults := coming },
        { addr, length := data.length, err := -5 }) := by
  have size : psramSize = 0x800000 := rfl
  have wire := wireAddr_command psramCmdWrite (show addr < 0x1000000 by omega)
  simp only [spiWriteDt, wire, SpiBus.ofPsram, failing, List.map_cons,
    List.headD_cons, List.tail_cons, Outcome.ofFault, List.take_take,
    Nat.min_comm data.length]
  rfl

theorem spiWriteDt_fine
    {psram : Psram}
    (fine : ∀ transferred coming, psram.faults ≠ some transferred :: coming)
    {addr : Nat} {data : List UInt8} (fits : addr + data.length ≤ psramSize)
    (page : addr % psramPageSize + data.length ≤ psramPageSize)
    (some : 0 < data.length) :
    (SpiBus.ofPsram psram).spiWriteDt chip (command psramCmdWrite addr) data =
      (.ofPsram
        { psram with
          mem := splice psram.mem addr data
          faults := psram.faults.tail },
        { addr, length := data.length, err := 0 }) := by
  have size : psramSize = 0x800000 := rfl
  have wire := wireAddr_command psramCmdWrite (show addr < 0x1000000 by omega)
  obtain ⟨ready, mem, faults⟩ := psram
  have head : (faults.map Outcome.ofFault).headD {} = {} := by
    rcases faults with _ | ⟨_ | transferred, coming⟩
    · rfl
    · rfl
    · exact absurd rfl (fine transferred coming)
  simp only [spiWriteDt, wire, SpiBus.ofPsram, head, List.map_tail,
    chip.write_page _ _ _ fits page]
  rfl

/-- The loop of `Psram.write` is the loop over the bus. -/
theorem writeBursts_bus
    {rounds fuel : Nat} {psram : Psram} {addr : Nat} {src : List UInt8}
    {bursts : List Burst} (fits : addr + src.length ≤ psramSize)
    (all : src.length ≤ rounds) (enough : src.length < fuel) :
    ∃ report,
      ArrayLoop.run (writeRound chip) fuel
          { bus := .ofPsram psram, addr, src, bursts } =
        .ok (.ofPsram (Psram.writeBursts rounds psram addr src).1, report) ∧
      report.err = returnCode (Psram.writeBursts rounds psram addr src).2 := by
  have size : psramSize = 0x800000 := rfl
  obtain ⟨fuel, rfl⟩ := Nat.exists_eq_add_one_of_ne_zero
    (Nat.ne_zero_of_lt enough)
  induction rounds generalizing fuel psram addr src bursts with
  | zero =>
      have empty : src = [] := List.eq_nil_of_length_eq_zero (by omega)
      subst empty
      exact ⟨_, run_done rfl, rfl⟩
  | succ rounds ih =>
      by_cases empty : src = []
      · subst empty
        exact ⟨_, run_done rfl, rfl⟩
      · have pending := List.length_pos_of_ne_nil empty
        have progress := @Psram.burst_pos addr _ pending
        have bounded := Psram.burst_le addr src.length
        have page := burst_page addr src.length
        have taken : (src.take (Psram.burst addr src.length)).length =
            Psram.burst addr src.length := by
          rw [List.length_take]
          omega
        simp only [Psram.writeBursts, if_neg empty]
        split
        · next transferred coming failing =>
          have sent := @spiWriteDt_failing chip psram transferred coming failing
            addr (by omega) (src.take (Psram.burst addr src.length))
          have kept : min (min transferred (Psram.burst addr src.length))
              (Psram.burst addr src.length) =
                min transferred (Psram.burst addr src.length) := by
            omega
          rw [taken, List.take_take, kept] at sent
          have leaves :
              writeRound chip { bus := .ofPsram psram, addr, src, bursts } =
                .ok (.inr
                  (.ofPsram
                    { psram with
                      mem := splice psram.mem addr (src.take
                        (min transferred (Psram.burst addr src.length)))
                      faults := coming },
                    { err := -5
                      bursts := bursts ++
                        [⟨addr, Psram.burst addr src.length, -5⟩] })) := by
            rw [writeRound, if_neg (Nat.ne_of_gt pending)]
            simp only [sent]
            rfl
          exact ⟨_, run_done leaves, rfl⟩
        · next fine =>
          have sent := @spiWriteDt_fine chip psram
            (fun transferred coming same => fine transferred coming same)
            addr (src.take (Psram.burst addr src.length)) (by omega) (by omega)
            (by omega)
          rw [taken] at sent
          have goes :
              writeRound chip { bus := .ofPsram psram, addr, src, bursts } =
                .ok (.inl
                  { bus := .ofPsram
                      { psram with
                        mem := splice psram.mem addr
                          (src.take (Psram.burst addr src.length))
                        faults := psram.faults.tail }
                    addr := addr + Psram.burst addr src.length
                    src := src.drop (Psram.burst addr src.length)
                    bursts := bursts ++
                      [⟨addr, Psram.burst addr src.length, 0⟩] }) := by
            rw [writeRound, if_neg (Nat.ne_of_gt pending)]
            simp only [sent]
            rw [Nat.mod_eq_of_lt (by omega)]
            rfl
          obtain ⟨fuel, rfl⟩ := Nat.exists_eq_add_one_of_ne_zero
            (show fuel ≠ 0 by omega)
          rw [run_next goes]
          apply ih
          · rw [List.length_drop]
            omega
          · rw [List.length_drop]
            omega
          · rw [List.length_drop]
            omega

/-- `Psram.write` is `psram_write` with its bursts. -/
theorem psramWrite_bus
    {psram : Psram} {addr : Nat} {src : List UInt8}
    (fits : addr + src.length ≤ psramSize) {fuel : Nat}
    (enough : src.length < fuel) :
    ∃ report,
      (SpiBus.ofPsram psram).psramWrite chip fuel addr src =
        .ok (.ofPsram (psram.write addr src).1, report) ∧
      report.err = returnCode (psram.write addr src).2 := by
  have size : psramSize = 0x800000 := rfl
  unfold psramWrite Psram.write
  by_cases absent : (!psram.ready) = true
  · rw [if_pos absent, if_pos (show (!(SpiBus.ofPsram psram).ready) = true from
      absent)]
    exact ⟨{ err := -enodev }, rfl, rfl⟩
  · rw [if_neg absent, if_neg (show ¬ (!(SpiBus.ofPsram psram).ready) = true from
      absent), if_neg (by omega), if_neg (by omega)]
    exact writeBursts_bus fits (Nat.le_refl _) enough

section Reading

theorem spiTransceiveDt_failing
    {psram : Psram} {transferred : Nat} {coming : List (Option Nat)}
    (failing : psram.faults = some transferred :: coming) (cmd : List UInt8)
    (length : Nat) :
    ((SpiBus.ofPsram psram).spiTransceiveDt chip cmd length).1 =
        .ofPsram { psram with faults := coming } ∧
      ((SpiBus.ofPsram psram).spiTransceiveDt chip cmd length).2.1.err = -5 := by
  simp only [spiTransceiveDt, SpiBus.ofPsram, failing, List.map_cons,
    List.tail_cons, List.headD_cons, Outcome.ofFault, and_self]

theorem spiTransceiveDt_fine
    {psram : Psram}
    (fine : ∀ transferred coming, psram.faults ≠ some transferred :: coming)
    {addr length : Nat} (fits : addr + length ≤ psramSize)
    (page : addr % psramPageSize + length ≤ psramPageSize)
    (some : 0 < length) :
    (SpiBus.ofPsram psram).spiTransceiveDt chip (command psramCmdRead addr)
        length =
      (.ofPsram { psram with faults := psram.faults.tail },
        { addr, length, err := 0 }, slice psram.mem addr length) := by
  have size : psramSize = 0x800000 := rfl
  have wire := wireAddr_command psramCmdRead (show addr < 0x1000000 by omega)
  obtain ⟨ready, mem, faults⟩ := psram
  have head : (faults.map Outcome.ofFault).headD {} = {} := by
    rcases faults with _ | ⟨_ | transferred, coming⟩
    · rfl
    · rfl
    · exact absurd rfl (fine transferred coming)
  simp only [spiTransceiveDt, wire, SpiBus.ofPsram, head, List.map_tail,
    chip.read_page _ _ _ fits page]

/-- What a read of `Psram` returns. -/
def Report.Shows (report : Report) (dst : List UInt8)
    (result : Except Errno (List UInt8)) : Prop :=
  match result with
  | .ok bytes => report.err = 0 ∧ report.bytes = dst ++ bytes
  | .error errno => report.err = errno.code

/-- The loop of `Psram.read` is the loop over the bus. -/
theorem readBursts_bus
    {rounds fuel : Nat} {psram : Psram} {addr len : Nat} {dst : List UInt8}
    {bursts : List Burst} (fits : addr + len ≤ psramSize) (all : len ≤ rounds)
    (enough : len < fuel) :
    ∃ report,
      ArrayLoop.run (readRound chip) fuel
          { bus := .ofPsram psram, addr, len, dst, bursts } =
        .ok (.ofPsram (Psram.readBursts rounds psram addr len).1, report) ∧
      report.Shows dst (Psram.readBursts rounds psram addr len).2 := by
  have size : psramSize = 0x800000 := rfl
  obtain ⟨fuel, rfl⟩ := Nat.exists_eq_add_one_of_ne_zero
    (Nat.ne_zero_of_lt enough)
  induction rounds generalizing fuel psram addr len dst bursts with
  | zero =>
      have empty : len = 0 := by omega
      subst empty
      exact ⟨_, run_done rfl, rfl, (List.append_nil dst).symm⟩
  | succ rounds ih =>
      by_cases empty : len = 0
      · subst empty
        exact ⟨_, run_done rfl, rfl, (List.append_nil dst).symm⟩
      · have progress := @Psram.burst_pos addr len (by omega)
        have bounded := Psram.burst_le addr len
        have page := burst_page addr len
        simp only [Psram.readBursts, if_neg empty]
        split
        · next transferred coming failing =>
          obtain ⟨after, code⟩ := @spiTransceiveDt_failing chip psram
            transferred coming failing (command psramCmdRead addr)
            (Psram.burst addr len)
          have leaves :
              readRound chip { bus := .ofPsram psram, addr, len, dst, bursts } =
                .ok (.inr
                  (.ofPsram { psram with faults := coming },
                    { err := -5, bytes := dst
                      bursts := bursts ++
                        [((SpiBus.ofPsram psram).spiTransceiveDt chip
                          (command psramCmdRead addr)
                            (Psram.burst addr len)).2.1] })) := by
            rw [readRound, if_neg empty]
            simp only [code, after]
            rfl
          exact ⟨_, run_done leaves, rfl⟩
        · next fine =>
          have sent := @spiTransceiveDt_fine chip psram
            (fun transferred coming same => fine transferred coming same)
            addr (Psram.burst addr len) (by omega) page progress
          have goes :
              readRound chip { bus := .ofPsram psram, addr, len, dst, bursts } =
                .ok (.inl
                  { bus := .ofPsram { psram with faults := psram.faults.tail }
                    addr := addr + Psram.burst addr len
                    len := len - Psram.burst addr len
                    dst := dst ++ slice psram.mem addr (Psram.burst addr len)
                    bursts := bursts ++ [⟨addr, Psram.burst addr len, 0⟩] }) := by
            rw [readRound, if_neg empty]
            simp only [sent]
            rw [Nat.mod_eq_of_lt (by omega)]
            rfl
          obtain ⟨fuel, rfl⟩ := Nat.exists_eq_add_one_of_ne_zero
            (show fuel ≠ 0 by omega)
          rw [run_next goes]
          obtain ⟨report, ends, shows⟩ := @ih
            { psram with faults := psram.faults.tail }
            (addr + Psram.burst addr len) (len - Psram.burst addr len)
            (dst ++ slice psram.mem addr (Psram.burst addr len))
            (bursts ++ [⟨addr, Psram.burst addr len, 0⟩]) (by omega) (by omega)
            fuel (by omega)
          refine ⟨report, ends, ?_⟩
          cases result : (Psram.readBursts rounds
            { psram with faults := psram.faults.tail }
            (addr + Psram.burst addr len) (len - Psram.burst addr len)).2 with
          | error errno =>
              rw [result] at shows
              exact shows
          | ok bytes =>
              rw [result] at shows
              exact ⟨shows.1, shows.2.trans (List.append_assoc _ _ _)⟩

/-- `Psram.read` is `psram_read` with its bursts. -/
theorem psramRead_bus
    {psram : Psram} {addr len : Nat} (fits : addr + len ≤ psramSize) {fuel : Nat}
    (enough : len < fuel) :
    ∃ report,
      (SpiBus.ofPsram psram).psramRead chip fuel addr len =
        .ok (.ofPsram (psram.read addr len).1, report) ∧
      report.Shows [] (psram.read addr len).2 := by
  have size : psramSize = 0x800000 := rfl
  unfold psramRead Psram.read
  by_cases absent : (!psram.ready) = true
  · rw [if_pos absent, if_pos (show (!(SpiBus.ofPsram psram).ready) = true from
      absent)]
    exact ⟨{ err := -enodev }, rfl, rfl⟩
  · rw [if_neg absent, if_neg (show ¬ (!(SpiBus.ofPsram psram).ready) = true from
      absent), if_neg (by omega), if_neg (by omega)]
    exact readBursts_bus fits (Nat.le_refl _) enough

end Reading

end Driver

/-- Every sequence of calls inside of the memory ends.  Its bursts stay inside
pages, each call is one of a flat memory or returns the error of its burst, and
what a successful read brings is, cell by cell, what was last written there as
far as no failed call came after it. -/
theorem psram_flat
    (chip : PsramChip) (bus : SpiBus) {calls : List PsramCall}
    (fits : ∀ call ∈ calls, call.addr + call.length ≤ psramSize) :
    ∃ after reports,
      (∀ fuel, psramSize < fuel →
        runCalls chip fuel bus calls = .ok (after, reports)) ∧
      ServesAll bus calls reports after ∧
      (∀ index addr len report, calls[index]? = some (.read addr len) →
        reports[index]? = some report → report.err = 0 →
          report.bytes.length = len ∧ ∀ offset byte, offset < len →
            lastWritten bus.mem ((accesses calls reports).take index)
                (addr + offset) = some byte →
              report.bytes[offset]? = some byte) ∧
      Holds after.mem (lastWritten bus.mem (accesses calls reports)) := by
  obtain ⟨after, reports, ends, all⟩ := runCalls_serves fits bus
  refine ⟨after, reports, ends, all, ?_, all.holds (holds_initial bus.mem)⟩
  intro index addr len report asked answered fine
  exact all.read (holds_initial bus.mem) asked answered fine

/-- A write and a clear across a page, and a read over both. -/
def pageCrossing : List PsramCall :=
  [.write 1022 [1, 2, 3, 4], .clear 1023 2, .read 1022 4]

theorem psram_flat_crossing :
    (∀ call ∈ pageCrossing, call.addr + call.length ≤ psramSize) ∧
      ∃ after reports,
        (∀ fuel, psramSize < fuel →
          runCalls wrappingChip fuel {} pageCrossing = .ok (after, reports)) ∧
        ServesAll {} pageCrossing reports after ∧
        reports.map Report.bytes = [[], [], [1, 0, 0, 4]] := by
  have fits : ∀ call ∈ pageCrossing,
      call.addr + call.length ≤ psramSize := by
    decide
  obtain ⟨after, reports, ends, all, -, -⟩ := psram_flat wrappingChip {} fits
  refine ⟨fits, after, reports, ends, all, ?_⟩
  have computed : (runCalls wrappingChip (psramSize + 1) {} pageCrossing).map
      (fun result => result.2.map Report.bytes) =
        .ok [[], [], [1, 0, 0, 4]] := by
    decide +kernel
  rw [ends (psramSize + 1) (by omega)] at computed
  exact Except.ok.inj computed

end DectMesh
