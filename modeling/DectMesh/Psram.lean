import DectMesh.Library.ByteStore
import DectMesh.Library.Checksum

/-!
# SPI PSRAM

The 8 MB external memory.  An access is a loop of SPI bursts that never cross
a 1024-byte page; the outcome of each burst to come is an input of the model,
so a run may contain any pattern of failed transfers.  Callers use the
specifications at the end of each section: a write is a splice, a read is a
slice, and nothing else changes.
-/

namespace DectMesh

open ByteStore

/-- The error codes the data planes can see. -/
inductive Errno where
  | enodev
  | einval
  | eio
  | enomem
  | enoent
  deriving DecidableEq, Repr

def psramSize : Nat := 8 * 1024 * 1024
def psramPageSize : Nat := 1024
def psramConfigBase : Nat := 0x008000
def psramDataBase : Nat := 0x100000
def psramLargeDataBase : Nat := 0x200000

/-- The memory, whether `psram_init` found it, and the outcome of the coming
bursts: `none` for a burst that completes, `some transferred` for one that
fails after `transferred` bytes.  An exhausted list means no more failures. -/
structure Psram where
  ready : Bool := true
  mem : Store := fun _ => 0
  faults : List (Option Nat) := []

namespace Psram

/-- The length of the next burst: it ends at a page boundary at the latest. -/
def burst (addr length : Nat) : Nat :=
  min length (psramPageSize - addr % psramPageSize)

theorem burst_pos {addr length : Nat} (pending : 0 < length) :
    0 < burst addr length := by
  have offset : addr % psramPageSize < psramPageSize :=
    Nat.mod_lt _ (by decide)
  unfold burst
  omega

theorem burst_le (addr length : Nat) : burst addr length ≤ length :=
  Nat.min_le_left _ _

section Write

/-- The loop of `psram_write`; `fuel` bounds the number of bursts. -/
def writeBursts : Nat → Psram → Nat → List UInt8 → Psram × Option Errno
  | 0, psram, _, _ => (psram, none)
  | fuel + 1, psram, addr, src =>
      if src = [] then
        (psram, none)
      else
        let length := burst addr src.length
        match psram.faults with
        | some transferred :: coming =>
            ({ psram with
                mem := splice psram.mem addr
                  (src.take (min transferred length))
                faults := coming },
              some .eio)
        | _ =>
            writeBursts fuel
              { psram with
                mem := splice psram.mem addr (src.take length)
                faults := psram.faults.tail }
              (addr + length) (src.drop length)

/-- `psram_write`. -/
def write (psram : Psram) (addr : Nat) (src : List UInt8) :
    Psram × Option Errno :=
  if !psram.ready then
    (psram, some .enodev)
  else if psramSize < (addr + src.length) % 0x100000000 then
    (psram, some .einval)
  else
    writeBursts src.length psram addr src

/-- A write splices in a prefix of its data, all of it when it succeeds. -/
structure WriteSpec
    (before : Psram) (addr : Nat) (src : List UInt8)
    (after : Psram) (result : Option Errno) : Prop where
  written :
    ∃ count, count ≤ src.length ∧
      after.mem = splice before.mem addr (src.take count) ∧
        (result = none → count = src.length)
  ready : after.ready = before.ready

private theorem writeBursts_spec :
    ∀ (fuel : Nat) (psram : Psram) (addr : Nat) (src : List UInt8),
      src.length ≤ fuel →
        WriteSpec psram addr src (writeBursts fuel psram addr src).1
          (writeBursts fuel psram addr src).2
  | 0, psram, addr, src, enough => by
      have empty : src = [] := List.length_eq_zero_iff.mp (by omega)
      subst empty
      exact ⟨⟨0, Nat.le_refl _, by simp [writeBursts], by simp⟩, rfl⟩
  | fuel + 1, psram, addr, src, enough => by
      by_cases empty : src = []
      · subst empty
        exact ⟨⟨0, Nat.le_refl _, by simp [writeBursts], by simp⟩,
          by simp [writeBursts]⟩
      · have pending : 0 < src.length := List.length_pos_of_ne_nil empty
        have progress := @burst_pos addr _ pending
        have bounded := burst_le addr src.length
        simp only [writeBursts, if_neg empty]
        split
        · next transferred coming _ =>
          exact ⟨⟨min transferred (burst addr src.length), by omega, rfl,
            by simp⟩, rfl⟩
        · obtain ⟨⟨count, countBound, contents, complete⟩, ready⟩ :=
            writeBursts_spec fuel
              { psram with
                mem := splice psram.mem addr
                  (src.take (burst addr src.length))
                faults := psram.faults.tail }
              (addr + burst addr src.length)
              (src.drop (burst addr src.length))
              (by rw [List.length_drop]; omega)
          rw [List.length_drop] at countBound complete
          refine ⟨⟨burst addr src.length + count, by omega, ?_, ?_⟩, ready⟩
          · have adjacent :=
              splice_append psram.mem addr
                (src.take (burst addr src.length))
                ((src.drop (burst addr src.length)).take count)
            rw [List.length_take, Nat.min_eq_left bounded] at adjacent
            rw [contents, List.take_add]
            exact adjacent
          · intro success
            have rest := complete success
            omega

theorem write_spec (psram : Psram) (addr : Nat) (src : List UInt8) :
    WriteSpec psram addr src (psram.write addr src).1
      (psram.write addr src).2 := by
  unfold write
  split
  · exact ⟨⟨0, Nat.zero_le _, by simp, by simp⟩, rfl⟩
  · split
    · exact ⟨⟨0, Nat.zero_le _, by simp, by simp⟩, rfl⟩
    · exact writeBursts_spec _ _ _ _ (Nat.le_refl _)

/-- A write that succeeds stores its data. -/
theorem write_mem
    {psram : Psram} {addr : Nat} {src : List UInt8}
    (success : (psram.write addr src).2 = none) :
    (psram.write addr src).1.mem = splice psram.mem addr src := by
  obtain ⟨count, _, contents, complete⟩ := (write_spec psram addr src).written
  rw [contents, complete success, List.take_length]

end Write

section Read

/-- The loop of `psram_read`; `fuel` bounds the number of bursts. -/
def readBursts :
    Nat → Psram → Nat → Nat → Psram × Except Errno (List UInt8)
  | 0, psram, _, _ => (psram, .ok [])
  | fuel + 1, psram, addr, length =>
      if length = 0 then
        (psram, .ok [])
      else
        match psram.faults with
        | some _ :: coming => ({ psram with faults := coming }, .error .eio)
        | _ =>
            let rest :=
              readBursts fuel { psram with faults := psram.faults.tail }
                (addr + burst addr length) (length - burst addr length)
            (rest.1,
              rest.2.map (slice psram.mem addr (burst addr length) ++ ·))

/-- `psram_read`. -/
def read (psram : Psram) (addr length : Nat) :
    Psram × Except Errno (List UInt8) :=
  if !psram.ready then
    (psram, .error .enodev)
  else if psramSize < (addr + length) % 0x100000000 then
    (psram, .error .einval)
  else
    readBursts length psram addr length

/-- The reads of these ranges, one after another, all succeed. -/
def Reads (psram : Psram) : List (Nat × Nat) → Prop
  | [] => True
  | (addr, length) :: rest =>
      (psram.read addr length).2.isOk = true ∧
        Reads (psram.read addr length).1 rest

/-- A read leaves the memory alone and returns a slice of it or an error. -/
structure ReadSpec
    (before : Psram) (addr length : Nat)
    (after : Psram) (result : Except Errno (List UInt8)) : Prop where
  mem : after.mem = before.mem
  ready : after.ready = before.ready
  bytes : ∀ data, result = .ok data → data = slice before.mem addr length

private theorem readBursts_spec :
    ∀ (fuel : Nat) (psram : Psram) (addr length : Nat),
      length ≤ fuel →
        ReadSpec psram addr length (readBursts fuel psram addr length).1
          (readBursts fuel psram addr length).2
  | 0, psram, addr, length, enough => by
      have empty : length = 0 := by omega
      subst empty
      exact ⟨rfl, rfl, by simp [readBursts]⟩
  | fuel + 1, psram, addr, length, enough => by
      by_cases empty : length = 0
      · subst empty
        exact ⟨by simp [readBursts], by simp [readBursts],
          by simp [readBursts]⟩
      · have progress := @burst_pos addr _ (Nat.pos_of_ne_zero empty)
        have bounded := burst_le addr length
        simp only [readBursts, if_neg empty]
        split
        · exact ⟨rfl, rfl, by simp⟩
        · have later :=
            readBursts_spec fuel { psram with faults := psram.faults.tail }
              (addr + burst addr length) (length - burst addr length)
              (by omega)
          refine ⟨later.mem, later.ready, ?_⟩
          intro data read
          rcases outcome :
              (readBursts fuel { psram with faults := psram.faults.tail }
                (addr + burst addr length)
                (length - burst addr length)).2 with errno | rest
          · simp [outcome, Except.map] at read
          · simp only [outcome, Except.map, Except.ok.injEq] at read
            rw [← read, later.bytes rest outcome, ← slice_add]
            congr 1
            omega

theorem read_spec (psram : Psram) (addr length : Nat) :
    ReadSpec psram addr length (psram.read addr length).1
      (psram.read addr length).2 := by
  unfold read
  split
  · exact ⟨rfl, rfl, by simp⟩
  · split
    · exact ⟨rfl, rfl, by simp⟩
    · exact readBursts_spec _ _ _ _ (Nat.le_refl _)

@[simp]
theorem read_mem (psram : Psram) (addr length : Nat) :
    (psram.read addr length).1.mem = psram.mem :=
  (read_spec psram addr length).mem

/-- A read that succeeds returns what is stored. -/
theorem read_bytes
    {psram : Psram} {addr length : Nat} {data : List UInt8}
    (success : (psram.read addr length).2 = .ok data) :
    data = slice psram.mem addr length :=
  (read_spec psram addr length).bytes data success

end Read

section StagedCrc

/-- The CRC loops of the receive planes: `remaining` bytes from `addr` on are
read in stages of at most `stage` bytes, the first stage through `crc32_ieee`
and every later one through `crc32_ieee_update`.  `fuel` bounds the number of
stages. -/
def stagedCrc (sum : Checksum) (stage : Nat) :
    Nat → Bool → UInt32 → Psram → Nat → Nat → Psram × Except Errno UInt32
  | 0, _, crc, psram, _, _ => (psram, .ok crc)
  | fuel + 1, firstStage, crc, psram, addr, remaining =>
      if remaining = 0 then
        (psram, .ok crc)
      else
        let length := min stage remaining
        match psram.read addr length with
        | (psram, .error errno) => (psram, .error errno)
        | (psram, .ok bytes) =>
            stagedCrc sum stage fuel false
              (if firstStage then sum.ieee bytes else sum.update crc bytes)
              psram (addr + length) (remaining - length)

/-- What a finished CRC loop knows: the memory is unchanged, and a result is
the checksum of `done` followed by the bytes that were still to be read. -/
private theorem stagedCrc_update
    (sum : Checksum) {stage : Nat} (stagePositive : 0 < stage) :
    ∀ (fuel : Nat) (psram : Psram) (addr remaining : Nat) (done : List UInt8),
      remaining ≤ fuel →
        let outcome :=
          stagedCrc sum stage fuel false (sum.ieee done) psram addr remaining
        outcome.1.mem = psram.mem ∧
          ∀ crc, outcome.2 = .ok crc →
            crc = sum.ieee (done ++ slice psram.mem addr remaining)
  | 0, psram, addr, remaining, done, enough => by
      have finished : remaining = 0 := by omega
      subst finished
      refine ⟨rfl, ?_⟩
      intro crc success
      simpa [stagedCrc, eq_comm] using success
  | fuel + 1, psram, addr, remaining, done, enough => by
      by_cases finished : remaining = 0
      · subst finished
        refine ⟨by simp [stagedCrc], ?_⟩
        intro crc success
        simpa [stagedCrc, eq_comm] using success
      · have spec := read_spec psram addr (min stage remaining)
        simp only [stagedCrc, if_neg finished]
        split
        · next after errno same =>
          rw [same] at spec
          exact ⟨spec.mem, by simp⟩
        · next after bytes same =>
          rw [same] at spec
          have stored := spec.bytes bytes rfl
          simp only [Bool.false_eq_true, if_false, sum.update_ieee]
          obtain ⟨mem, result⟩ :=
            stagedCrc_update sum stagePositive fuel after
              (addr + min stage remaining)
              (remaining - min stage remaining) (done ++ bytes) (by omega)
          refine ⟨mem.trans spec.mem, ?_⟩
          intro crc success
          have total :
              min stage remaining + (remaining - min stage remaining) =
                remaining := by
            omega
          rw [result crc success, List.append_assoc, stored, spec.mem,
            ← slice_add, total]

/-- The staged loop over a non-empty range computes the checksum of the
range, whatever the stage size. -/
theorem stagedCrc_spec
    (sum : Checksum) {stage : Nat} (stagePositive : 0 < stage)
    (psram : Psram) (addr : Nat) {length fuel : Nat}
    (nonempty : 0 < length) (enough : length ≤ fuel) :
    (stagedCrc sum stage fuel true 0 psram addr length).1.mem = psram.mem ∧
      ∀ crc, (stagedCrc sum stage fuel true 0 psram addr length).2 = .ok crc →
        crc = sum.ieee (slice psram.mem addr length) := by
  obtain ⟨fuel, rfl⟩ : ∃ rest, fuel = rest + 1 := ⟨fuel - 1, by omega⟩
  have spec := read_spec psram addr (min stage length)
  simp only [stagedCrc, if_neg (Nat.ne_of_gt nonempty)]
  split
  · next after errno same =>
    rw [same] at spec
    exact ⟨spec.mem, by simp⟩
  · next after bytes same =>
    rw [same] at spec
    have stored := spec.bytes bytes rfl
    obtain ⟨mem, result⟩ :=
      stagedCrc_update sum stagePositive fuel after
        (addr + min stage length) (length - min stage length) bytes (by omega)
    refine ⟨mem.trans spec.mem, ?_⟩
    intro crc success
    have total : min stage length + (length - min stage length) = length := by
      omega
    rw [result crc success, stored, spec.mem, ← slice_add, total]

end StagedCrc

section Reliable

/-- The device is there and no burst to come fails. -/
structure Reliable (psram : Psram) : Prop where
  ready : psram.ready = true
  quiet : ∀ outcome ∈ psram.faults, outcome = none

variable {psram : Psram}

theorem Reliable.tail (reliable : psram.Reliable) (mem : Store) :
    Reliable { psram with mem := mem, faults := psram.faults.tail } where
  ready := reliable.ready
  quiet := fun outcome member =>
    reliable.quiet outcome (List.mem_of_mem_tail member)

/-- The next burst of a reliable device is no failure. -/
theorem Reliable.head
    (reliable : psram.Reliable) {transferred : Nat}
    {coming : List (Option Nat)} :
    psram.faults ≠ some transferred :: coming := by
  intro failing
  have member : some transferred ∈ psram.faults := by simp [failing]
  cases reliable.quiet _ member

private theorem writeBursts_reliable :
    ∀ (fuel : Nat) (psram : Psram) (addr : Nat) (src : List UInt8),
      psram.Reliable →
        (writeBursts fuel psram addr src).2 = none ∧
          (writeBursts fuel psram addr src).1.Reliable
  | 0, _, _, _, reliable => ⟨rfl, reliable⟩
  | fuel + 1, psram, addr, src, reliable => by
      by_cases empty : src = []
      · simpa [writeBursts, empty] using reliable
      · simp only [writeBursts, if_neg empty]
        split
        · next failing => exact absurd failing reliable.head
        · exact writeBursts_reliable fuel _ _ _ (reliable.tail _)

/-- A reliable device stores what fits. -/
theorem Reliable.write
    (reliable : psram.Reliable) {addr : Nat} {src : List UInt8}
    (fits : addr + src.length ≤ psramSize) :
    (psram.write addr src).2 = none ∧ (psram.write addr src).1.Reliable := by
  have size : psramSize = 8388608 := rfl
  unfold Psram.write
  rw [if_neg (by simp [reliable.ready]), if_neg (by omega)]
  exact writeBursts_reliable _ _ _ _ reliable

private theorem readBursts_reliable :
    ∀ (fuel : Nat) (psram : Psram) (addr length : Nat),
      psram.Reliable →
        (∃ data, (readBursts fuel psram addr length).2 = .ok data) ∧
          (readBursts fuel psram addr length).1.Reliable
  | 0, _, _, _, reliable => ⟨⟨[], rfl⟩, reliable⟩
  | fuel + 1, psram, addr, length, reliable => by
      by_cases empty : length = 0
      · simp only [readBursts, if_pos empty]
        exact ⟨⟨[], rfl⟩, reliable⟩
      · simp only [readBursts, if_neg empty]
        split
        · next failing => exact absurd failing reliable.head
        · obtain ⟨⟨rest, read⟩, later⟩ :=
            readBursts_reliable fuel
              { psram with faults := psram.faults.tail }
              (addr + burst addr length) (length - burst addr length)
              (reliable.tail psram.mem)
          refine ⟨⟨slice psram.mem addr (burst addr length) ++ rest, ?_⟩,
            later⟩
          rw [read, Except.map]

/-- A reliable device returns what is stored. -/
theorem Reliable.read
    (reliable : psram.Reliable) {addr length : Nat}
    (fits : addr + length ≤ psramSize) :
    (psram.read addr length).2 = .ok (slice psram.mem addr length) ∧
      (psram.read addr length).1.Reliable := by
  have size : psramSize = 8388608 := rfl
  have outcome :
      (∃ data, (psram.read addr length).2 = .ok data) ∧
        (psram.read addr length).1.Reliable := by
    unfold Psram.read
    rw [if_neg (by simp [reliable.ready]), if_neg (by omega)]
    exact readBursts_reliable _ _ _ _ reliable
  obtain ⟨⟨data, read⟩, later⟩ := outcome
  exact ⟨read_bytes read ▸ read, later⟩

theorem Reliable.afterRead (reliable : psram.Reliable) (addr length : Nat) :
    (psram.read addr length).1.Reliable := by
  unfold Psram.read
  split
  · exact reliable
  · split
    · exact reliable
    · exact (readBursts_reliable _ _ _ _ reliable).2

/-- On a reliable device the staged loop returns a checksum. -/
theorem Reliable.stagedCrc
    (sum : Checksum) (stage : Nat) :
    ∀ (fuel : Nat) (firstStage : Bool) (crc : UInt32) (psram : Psram)
      (addr remaining : Nat),
      psram.Reliable → addr + remaining ≤ psramSize →
        (∃ value,
          (Psram.stagedCrc sum stage fuel firstStage crc psram addr
            remaining).2 = .ok value) ∧
          (Psram.stagedCrc sum stage fuel firstStage crc psram addr
            remaining).1.Reliable
  | 0, _, crc, _, _, _, reliable, _ => ⟨⟨crc, rfl⟩, reliable⟩
  | fuel + 1, firstStage, crc, psram, addr, remaining, reliable, fits => by
      by_cases finished : remaining = 0
      · simp only [Psram.stagedCrc, if_pos finished]
        exact ⟨⟨crc, rfl⟩, reliable⟩
      · obtain ⟨success, later⟩ :=
          @Reliable.read psram reliable addr (min stage remaining) (by omega)
        simp only [Psram.stagedCrc, if_neg finished]
        split
        · next after errno same =>
          rw [same] at success
          cases success
        · next after bytes same =>
          rw [same] at later
          exact Reliable.stagedCrc sum stage fuel _ _ after _ _ later
            (by omega)

end Reliable

end Psram

end DectMesh
