import DectMesh.Library.ArrayLoop
import DectMesh.Library.FlatMemory
import DectMesh.Psram

/-!
# The bursts of the PSRAM driver

`psram_read`, `psram_write` and `psram_clear` down to the SPI transfers: the
command bytes, the pages, and what a burst that fails leaves behind.  The chip
is a parameter of which only bursts inside a page are known.
-/

namespace DectMesh

open ArrayLoop ByteStore FlatMemory

/-- The chip.  A burst that stays inside a page reads or writes consecutive
addresses. -/
structure PsramChip where
  read : Store → Nat → Nat → List UInt8
  write : Store → Nat → List UInt8 → Store
  read_page : ∀ mem addr length, addr + length ≤ psramSize →
    addr % psramPageSize + length ≤ psramPageSize →
      read mem addr length = slice mem addr length
  write_page : ∀ mem addr data, addr + data.length ≤ psramSize →
    addr % psramPageSize + data.length ≤ psramPageSize →
      write mem addr data = splice mem addr data

/-- What becomes of a burst: the return value of the transfer and, if it is an
error, what a write leaves in its range, from what was there and its data. -/
structure Outcome where
  err : Int := 0
  left : List UInt8 → List UInt8 → List UInt8 := fun old _ => old

/-- `psram_ready`, the chip's memory and the outcomes of the bursts to come; no
burst fails any more when they are used up. -/
structure SpiBus where
  ready : Bool := true
  mem : Store := fun _ => 0
  outcomes : List Outcome := []

/-- A burst as the chip sees it, and how the transfer ended. -/
structure Burst where
  addr : Nat
  length : Nat
  err : Int
  deriving DecidableEq

/-- The return value of a call, the bytes that a read brought, and the bursts
of the call, which the source does not keep. -/
structure Report where
  err : Int := 0
  bytes : List UInt8 := []
  bursts : List Burst := []
  deriving DecidableEq

def psramCmdRead : UInt8 := 0x03
def psramCmdWrite : UInt8 := 0x02

def enodev : Int := 19
def einval : Int := 22

/-- `cmd[4]`. -/
def command (op : UInt8) (addr : Nat) : List UInt8 :=
  [op, UInt8.ofNat (addr >>> 16), UInt8.ofNat (addr >>> 8), UInt8.ofNat addr]

/-- The address on the wire. -/
def wireAddr : List UInt8 → Nat
  | [_, high, middle, low] =>
      high.toNat * 0x10000 + middle.toNat * 0x100 + low.toNat
  | _ => 0

theorem wireAddr_command (op : UInt8) {addr : Nat} (small : addr < 0x1000000) :
    wireAddr (command op addr) = addr := by
  simp only [command, wireAddr, UInt8.toNat_ofNat', Nat.shiftRight_eq_div_pow]
  omega

namespace SpiBus

variable (chip : PsramChip) (bus : SpiBus)

/-- `spi_write_dt` of a command and its data. -/
def spiWriteDt (cmd data : List UInt8) : SpiBus × Burst :=
  let outcome := bus.outcomes.headD {}
  let addr := wireAddr cmd
  let mem :=
    if outcome.err = 0 then
      chip.write bus.mem addr data
    else
      splice bus.mem addr
        ((outcome.left (slice bus.mem addr data.length) data).take data.length)
  ({ bus with mem, outcomes := bus.outcomes.tail },
    { addr, length := data.length, err := outcome.err })

/-- `spi_transceive_dt` of a command and room for `length` bytes. -/
def spiTransceiveDt (cmd : List UInt8) (length : Nat) :
    SpiBus × Burst × List UInt8 :=
  let outcome := bus.outcomes.headD {}
  let addr := wireAddr cmd
  ({ bus with outcomes := bus.outcomes.tail },
    { addr, length, err := outcome.err }, chip.read bus.mem addr length)

/-- The variables of the loop in `psram_write`. -/
structure WriteLoop where
  bus : SpiBus
  addr : Nat
  src : List UInt8
  bursts : List Burst := []

def writeRound (t : WriteLoop) :
    Except Failure (WriteLoop ⊕ (SpiBus × Report)) :=
  if t.src.length = 0 then
    .ok (.inr (t.bus, { bursts := t.bursts }))
  else
    let n := Psram.burst t.addr t.src.length
    let (bus, burst) :=
      t.bus.spiWriteDt chip (command psramCmdWrite t.addr) (t.src.take n)
    let bursts := t.bursts ++ [burst]
    if burst.err ≠ 0 then
      .ok (.inr (bus, { err := burst.err, bursts }))
    else
      .ok (.inl
        { bus, addr := (t.addr + n) % 0x100000000, src := t.src.drop n, bursts })

/-- `psram_write`. -/
def psramWrite (fuel : Nat) (addr : Nat) (src : List UInt8) :
    Except Failure (SpiBus × Report) :=
  if !bus.ready then
    .ok (bus, { err := -enodev })
  else if psramSize < (addr + src.length) % 0x100000000 then
    .ok (bus, { err := -einval })
  else
    run (writeRound chip) fuel { bus, addr, src }

/-- The variables of the loop in `psram_read`; `dst` is what was filled of the
buffer. -/
structure ReadLoop where
  bus : SpiBus
  addr : Nat
  len : Nat
  dst : List UInt8 := []
  bursts : List Burst := []

def readRound (t : ReadLoop) :
    Except Failure (ReadLoop ⊕ (SpiBus × Report)) :=
  if t.len = 0 then
    .ok (.inr (t.bus, { bytes := t.dst, bursts := t.bursts }))
  else
    let n := Psram.burst t.addr t.len
    let (bus, burst, bytes) :=
      t.bus.spiTransceiveDt chip (command psramCmdRead t.addr) n
    let bursts := t.bursts ++ [burst]
    if burst.err ≠ 0 then
      .ok (.inr (bus, { err := burst.err, bytes := t.dst, bursts }))
    else
      .ok (.inl
        { bus, addr := (t.addr + n) % 0x100000000, len := t.len - n
          dst := t.dst ++ bytes, bursts })

/-- `psram_read`. -/
def psramRead (fuel : Nat) (addr len : Nat) :
    Except Failure (SpiBus × Report) :=
  if !bus.ready then
    .ok (bus, { err := -enodev })
  else if psramSize < (addr + len) % 0x100000000 then
    .ok (bus, { err := -einval })
  else
    run (readRound chip) fuel { bus, addr, len }

/-- `sizeof(zero)` in `psram_clear`. -/
def zeroSize : Nat := 256

/-- The variables of the loop in `psram_clear`. -/
structure ClearLoop where
  bus : SpiBus
  addr : Nat
  len : Nat
  bursts : List Burst := []

def clearRound (fuel : Nat) (t : ClearLoop) :
    Except Failure (ClearLoop ⊕ (SpiBus × Report)) :=
  if t.len = 0 then
    .ok (.inr (t.bus, { bursts := t.bursts }))
  else do
    let chunk := if zeroSize < t.len then zeroSize else t.len
    let (bus, report) ←
      t.bus.psramWrite chip fuel t.addr (List.replicate chunk 0)
    let bursts := t.bursts ++ report.bursts
    if report.err ≠ 0 then
      pure (.inr (bus, { err := report.err, bursts }))
    else
      pure (.inl
        { bus, addr := (t.addr + chunk) % 0x100000000, len := t.len - chunk
          bursts })

/-- `psram_clear`. -/
def psramClear (fuel : Nat) (addr len : Nat) :
    Except Failure (SpiBus × Report) :=
  if !bus.ready then
    .ok (bus, { err := -enodev })
  else if psramSize < (addr + len) % 0x100000000 then
    .ok (bus, { err := -einval })
  else
    run (clearRound chip fuel) fuel { bus, addr, len }

end SpiBus

inductive PsramCall where
  | write (addr : Nat) (src : List UInt8)
  | read (addr len : Nat)
  | clear (addr len : Nat)
  deriving DecidableEq

namespace PsramCall

def addr : PsramCall → Nat
  | .write addr _ => addr
  | .read addr _ => addr
  | .clear addr _ => addr

def length : PsramCall → Nat
  | .write _ src => src.length
  | .read _ len => len
  | .clear _ len => len

/-- What a flat memory of `psramSize` bytes does when the call returns
`err`. -/
def access (err : Int) : PsramCall → Access
  | .write addr src =>
      if err = 0 then .wrote addr src else .spoiled addr src.length
  | .read _ _ => .read
  | .clear addr len =>
      if err = 0 then .wrote addr (List.replicate len 0) else .spoiled addr len

def run (chip : PsramChip) (fuel : Nat) (bus : SpiBus) :
    PsramCall → Except Failure (SpiBus × Report)
  | .write addr src => bus.psramWrite chip fuel addr src
  | .read addr len => bus.psramRead chip fuel addr len
  | .clear addr len => bus.psramClear chip fuel addr len

end PsramCall

section WrappingChip

/-- The address after the next byte of a burst. -/
def nextInPage (addr : Nat) : Nat :=
  addr / psramPageSize * psramPageSize + (addr + 1) % psramPageSize

def readBurst (mem : Store) : Nat → Nat → List UInt8
  | _, 0 => []
  | addr, length + 1 => mem addr :: readBurst mem (nextInPage addr) length

def writeBurst (mem : Store) (addr : Nat) : List UInt8 → Store
  | [] => mem
  | byte :: data => writeBurst (splice mem addr [byte]) (nextInPage addr) data

theorem nextInPage_inside
    {addr : Nat} (inside : addr % psramPageSize + 1 < psramPageSize) :
    nextInPage addr = addr + 1 := by
  simp only [nextInPage, psramPageSize] at inside ⊢
  omega

theorem mod_next
    {addr : Nat} (inside : addr % psramPageSize + 1 < psramPageSize) :
    (addr + 1) % psramPageSize = addr % psramPageSize + 1 := by
  simp only [psramPageSize] at inside ⊢
  omega

theorem readBurst_page
    (mem : Store) {addr length : Nat}
    (page : addr % psramPageSize + length ≤ psramPageSize) :
    readBurst mem addr length = slice mem addr length := by
  induction length generalizing addr with
  | zero => rfl
  | succ length ih =>
      have first : slice mem addr 1 = [mem addr] := rfl
      rw [readBurst, Nat.add_comm length, slice_add, first,
        List.singleton_append]
      cases length with
      | zero => rfl
      | succ length =>
          have inside : addr % psramPageSize + 1 < psramPageSize := by omega
          have further := mod_next inside
          rw [nextInPage_inside inside, ih (by omega)]

theorem writeBurst_page
    (mem : Store) {addr : Nat} {data : List UInt8}
    (page : addr % psramPageSize + data.length ≤ psramPageSize) :
    writeBurst mem addr data = splice mem addr data := by
  induction data generalizing mem addr with
  | nil => exact (splice_nil mem addr).symm
  | cons byte data ih =>
      rw [List.length_cons] at page
      have adjacent := splice_append mem addr [byte] data
      rw [List.length_singleton, List.singleton_append] at adjacent
      rw [writeBurst, ← adjacent]
      cases data with
      | nil =>
          rw [splice_nil]
          rfl
      | cons next data =>
          rw [List.length_cons] at page
          have inside : addr % psramPageSize + 1 < psramPageSize := by omega
          have further := mod_next inside
          rw [nextInPage_inside inside, ih]
          rw [List.length_cons]
          omega

/-- A chip whose bursts wrap around at the end of a page. -/
def wrappingChip : PsramChip where
  read := readBurst
  write := writeBurst
  read_page := fun mem _ _ _ page => readBurst_page mem page
  write_page := fun mem _ _ _ page => writeBurst_page mem page

end WrappingChip

end DectMesh
