import DectMesh.Mesh.ParentRun
import DectMesh.Mesh.Tables

/-!
# Boot from a damaged infra partition

An entry that cannot be read, or whose CRC-32 does not match, keeps its place
with the device id 0xFFFF and the zeros of the array.  Boot takes its parent
from the first place.
-/

namespace DectMesh

namespace Eeprom

variable (rom : Eeprom)

/-- The outcome of the operation `index` from here on. -/
def outcomeAt (index : Nat) : Option Leftover := rom.failures[index]?.join

/-- `storage_init` reads the three headers first. -/
def HeadersRead : Prop := ∀ index, index < 3 → rom.outcomeAt index = none

/-- The infra entry in place `index`, when its read and its CRC-32 are good. -/
def goodInfra (index : Nat) : Option InfraRecord :=
  match rom.outcomeAt (3 + index) with
  | some _ => none
  | none => rom.infra.cells index

/-- The entry in the first place; a damaged one has the id 0xFFFF and zeros. -/
def firstInfra : InfraRecord := (rom.goodInfra 0).getD { deviceId := 0xFFFF }

end Eeprom

namespace MeshPlane

/-- `storage_init` reads the count of sensor entries into a byte. -/
def savedSensors (rom : Eeprom) : Nat :=
  (rom.sensors.header.map UInt16.toNat).getD 0 % 256

/-- The reads of `storage_init`. -/
def bootReads (deviceType : DeviceType) (rom : Eeprom) : Nat :=
  3 + savedInfra rom + if deviceType = .anchor then savedSensors rom else 0

/-- Counts in range and headers that can be read; any entries may be damaged,
and nothing else fails. -/
structure EntryDamage (deviceType : DeviceType) (rom : Eeprom) : Prop where
  headers : rom.HeadersRead
  infra : (rom.infra.header.map UInt16.toNat).getD 0 ≤ maxAnchors
  sensors : (rom.sensors.header.map UInt16.toNat).getD 0 ≤ maxSensors
  mesh : (rom.mesh.header.map UInt16.toNat).getD 0 ≤ maxDevices
  writes : ∀ index, bootReads deviceType rom ≤ index →
    rom.outcomeAt index = none

/-- A good entry that no other one beats. -/
structure BestInfra (rom : Eeprom) (entry : InfraRecord) : Prop where
  good : ∃ index, index < savedInfra rom ∧ rom.goodInfra index = some entry
  best : ∀ index other, index < savedInfra rom →
    rom.goodInfra index = some other → CloserFirst entry other

/-- The board has the best parent, or it is unpaired and asks for one. -/
def Recovered (rom : Eeprom) (s : MeshPlane) : Prop :=
  (∃ entry, BestInfra rom entry ∧ s.connectedDeviceId = entry.deviceId) ∨
    s.connectedDeviceId = 0xFFFF ∧ s.hopNum = 0xFF ∧
      ∃ pkt, .request (.pairRequest pkt) ∈ s.out

/-- The board is up and recovered, if need be after the restart `again` that
follows `sys_reboot`. -/
def Recovers (env : MeshEnv) (rom : Eeprom) (again : Occurrence) : Prop :=
  ∃ s, next (boot env rom) again = .ok s ∧ Recovered rom s

/-- There is no entry, or the first place yields the id of a best entry, or it
makes an anchor reset itself. -/
def FirstServes (deviceType : DeviceType) (rom : Eeprom) : Prop :=
  savedInfra rom = 0 ∨
    (∃ entry, BestInfra rom entry ∧
      entry.deviceId = rom.firstInfra.deviceId) ∨
    deviceType = .anchor ∧ maxDepth ≤ rom.firstInfra.hopNum.toNat

section Start

variable {env : MeshEnv} {rom : Eeprom}

theorem advance_drop (rom : Eeprom) (count : Nat) :
    ({ rom with failures := rom.failures.drop count } : Eeprom).advance =
      { rom with failures := rom.failures.drop (count + 1) } := by
  rw [Eeprom.advance, List.tail_drop]

theorem outcome_drop (rom : Eeprom) (count : Nat) :
    ({ rom with failures := rom.failures.drop count } : Eeprom).outcome =
      rom.outcomeAt count := by
  rw [Eeprom.outcome, Eeprom.outcomeAt, List.head?_drop]

theorem readHeader_drop
    {α : Type} (part : Partition α) {done : Nat}
    (good : rom.outcomeAt done = none) :
    ({ rom with failures := rom.failures.drop done } : Eeprom).readHeader part =
      ({ rom with failures := rom.failures.drop (done + 1) },
        some ((part.header.map UInt16.toNat).getD 0)) := by
  rw [Eeprom.readHeader, advance_drop, outcome_drop, good]

/-- The reads of a table pass over as many outcomes. -/
theorem readEntries_drop
    {α : Type} (part : Partition α) (unread : α) (count index done : Nat) :
    ∃ entries, Eeprom.readEntries part unread count index
        { rom with failures := rom.failures.drop done } =
      ({ rom with failures := rom.failures.drop (done + count) }, entries) := by
  induction count generalizing index done with
  | zero => exact ⟨[], rfl⟩
  | succ count ih =>
      obtain ⟨rest, reads⟩ := ih (index + 1) (done + 1)
      rw [Nat.add_right_comm, Nat.add_assoc done] at reads
      rw [Eeprom.readEntries, advance_drop]
      dsimp only
      rw [reads]
      exact ⟨_, rfl⟩

/-- The first entry of the table. -/
theorem readEntries_first (unread : InfraRecord) (count : Nat) :
    ∃ rest, (Eeprom.readEntries rom.infra unread (count + 1) 0
        { rom with failures := rom.failures.drop 3 }).2 =
      (rom.goodInfra 0).getD unread :: rest := by
  rw [Eeprom.readEntries, outcome_drop, Eeprom.goodInfra]
  cases rom.outcomeAt 3 with
  | none => exact ⟨_, rfl⟩
  | some _ => exact ⟨_, rfl⟩

/-- The tables that `storage_init` loads. -/
theorem storageInit_started
    (role : env.deviceType = .anchor ∨ env.deviceType = .sensor)
    (read : rom.HeadersRead) :
    ∃ storage, Storage.storageInit env.deviceType rom = (storage, true) ∧
      storage.infra.live =
        (Eeprom.readEntries rom.infra { deviceId := 0xFFFF } (savedInfra rom) 0
          { rom with failures := rom.failures.drop 3 }).2.map
            (fun entry => { entry := entry }) ∧
        storage.eeprom = { rom with
          failures := rom.failures.drop (bootReads env.deviceType rom) } := by
  have first := @readHeader_drop rom _ rom.infra 0 (read 0 (by omega))
  have second := @readHeader_drop rom _ rom.sensors 1 (read 1 (by omega))
  have third := @readHeader_drop rom _ rom.mesh 2 (read 2 (by omega))
  obtain ⟨infra, infraReads⟩ := @readEntries_drop rom _ rom.infra
    { deviceId := 0xFFFF } (savedInfra rom) 0 3
  obtain ⟨sensors, sensorReads⟩ := @readEntries_drop rom _ rom.sensors
    { deviceId := 0xFFFF } (savedSensors rom) 0 (3 + savedInfra rom)
  rw [List.drop_zero] at first
  rw [Storage.storageInit, first]
  dsimp only
  rw [second]
  dsimp only
  rw [third]
  dsimp only
  rw [show (rom.infra.header.map UInt16.toNat).getD 0 % 256 =
    savedInfra rom from rfl, infraReads]
  rcases role with isAnchor | isSensor
  · simp only [isAnchor, bootReads, if_true, or_true, reduceCtorEq, if_false]
    rw [show (rom.sensors.header.map UInt16.toNat).getD 0 % 256 =
      savedSensors rom from rfl, sensorReads]
    exact ⟨_, rfl, rfl, rfl⟩
  · simp only [isSensor, bootReads, or_self, reduceCtorEq, if_false]
    exact ⟨_, rfl, rfl, rfl⟩

/-- The first place of a table that is not empty. -/
theorem readEntries_cons (stored : savedInfra rom ≠ 0) :
    ∃ rest, (Eeprom.readEntries rom.infra { deviceId := 0xFFFF }
        (savedInfra rom) 0
        { rom with failures := rom.failures.drop 3 }).2 =
      rom.firstInfra :: rest := by
  obtain ⟨count, counted⟩ := Nat.exists_eq_succ_of_ne_zero stored
  rw [counted]
  exact readEntries_first _ count

/-- Behind a parent of the last level there is none. -/
theorem hopBehind_deep (hopNum : UInt8) :
    (hopBehind hopNum = 0xFF ∨ maxDepth < (hopBehind hopNum).toNat) ↔
      maxDepth ≤ hopNum.toNat := by
  by_cases below : hopNum < 0xFE
  · have small : hopNum.toNat < 254 := UInt8.lt_iff_toNat_lt.mp below
    have next : (hopNum + 1).toNat = hopNum.toNat + 1 := by
      rw [UInt8.toNat_add]
      simp only [UInt8.reduceToNat]
      omega
    have inside : hopNum + 1 ≠ 0xFF := by
      intro same
      rw [same] at next
      have last : (0xFF : UInt8).toNat = 255 := rfl
      omega
    rw [hopBehind, if_pos below, next]
    constructor
    · rintro (last | deep)
      · exact absurd last inside
      · exact Nat.lt_succ_iff.mp deep
    · exact fun deep => .inr (Nat.lt_succ_iff.mpr deep)
  · have large : 254 ≤ hopNum.toNat :=
      Nat.not_lt.mp fun small => below (UInt8.lt_iff_toNat_lt.mpr small)
    rw [hopBehind, if_neg below]
    exact iff_of_true (.inl rfl) (Nat.le_trans (by decide) large)

/-- `device_info_update` of an anchor that starts with a neighbour. -/
theorem deviceInfoUpdate_fresh
    {s : MeshPlane} {first : Infra} {rest : List Infra}
    (isAnchor : env.deviceType = .anchor) (fresh : s.hopNum = 0xFF)
    (stored : s.infra = first :: rest) :
    s.deviceInfoUpdate env =
      if maxDepth ≤ first.entry.hopNum.toNat then
        .error s.factoryReset
      else
        .ok { s with
          connectedDeviceId := first.entry.deviceId
          hopNum := hopBehind first.entry.hopNum } := by
  have parent : s.parent = first.entry :=
    parent_eq (show s.entries = first.entry :: rest.map Neighbour.entry from
      congrArg (List.map Neighbour.entry) stored)
  have upstream : (s.infra.all fun device =>
      s.hopNum < device.entry.hopNum) = false := by
    rw [stored, List.all_cons, fresh]
    have most := first.entry.hopNum.toNat_lt
    have notBelow : ¬ 0xFF < first.entry.hopNum := fun below =>
      absurd (UInt8.lt_iff_toNat_lt.mp below) (Nat.not_lt.mpr
        (Nat.lt_succ_iff.mp most))
    rw [decide_eq_false notBelow, Bool.false_and]
  have asked : ¬ (s.infra = []) := by
    rw [stored]
    exact List.cons_ne_nil _ _
  rw [deviceInfoUpdate, if_neg (not_not_intro isAnchor), if_neg asked,
    upstream, parent]
  by_cases deep : maxDepth ≤ first.entry.hopNum.toNat
  · rw [if_pos deep]
    simp only [Bool.false_eq_true, if_false, (hopBehind_deep _).mpr deep,
      if_true]
  · rw [if_neg deep]
    simp only [Bool.false_eq_true, if_false, hopBehind_deep, deep, fresh,
      not_true_eq_false, ne_eq, and_false]

/-- An anchor or a sensor behind `storage_init`. -/
def started (env : MeshEnv) (storage : Storage) : MeshPlane where
  storage := storage
  hopNum := 0xFF
  serialNumber := env.deviceId.toUInt64

theorem boot_anchor
    {storage : Storage} (isAnchor : env.deviceType = .anchor)
    (loads : Storage.storageInit env.deviceType rom = (storage, true)) :
    boot env rom =
      match (started env storage).deviceInfoUpdate env with
      | .error s => .error s
      | .ok s =>
          if maxAnchors ≤ s.storage.infra.count then
            .ok s
          else
            .ok (s.sendPairRequest env true) := by
  have notGateway : env.deviceType ≠ .gateway := by simp [isAnchor]
  rw [boot, loads]
  simp only [if_true]
  rw [loadedDevices, if_neg notGateway, if_neg notGateway]
  split
  · next s down =>
    rw [show (started env storage).deviceInfoUpdate env = .error s from down]
  · next s up =>
    rw [show (started env storage).deviceInfoUpdate env = .ok s from up]
    simp only [isAnchor]

theorem boot_sensor
    {storage : Storage} (isSensor : env.deviceType = .sensor)
    (loads : Storage.storageInit env.deviceType rom = (storage, true)) :
    boot env rom =
      if storage.infra.live = [] then
        .ok ((started env storage).sendPairRequest env true)
      else
        .ok { started env storage with
          connectedDeviceId := (started env storage).parent.deviceId } := by
  have notGateway : env.deviceType ≠ .gateway := by simp [isSensor]
  rw [boot, loads]
  simp only [if_true]
  rw [loadedDevices, if_neg notGateway, if_neg notGateway,
    deviceInfoUpdate_sensor isSensor]
  simp only [isSensor]
  rfl

/-- A board without an entry starts unpaired and asks for a parent. -/
theorem boot_empty
    (role : env.deviceType = .anchor ∨ env.deviceType = .sensor)
    (read : rom.HeadersRead) (empty : savedInfra rom = 0) :
    ∃ s, boot env rom = .ok s ∧ s.connectedDeviceId = 0xFFFF ∧
      s.hopNum = 0xFF ∧ ∃ pkt, .request (.pairRequest pkt) ∈ s.out := by
  obtain ⟨storage, loads, live, -⟩ := storageInit_started role read
  rw [empty] at live
  have none : storage.infra.live = [] := live
  rcases role with isAnchor | isSensor
  · rw [boot_anchor isAnchor loads, deviceInfoUpdate,
      if_neg (not_not_intro isAnchor),
      if_pos (show (started env storage).infra = [] from none)]
    dsimp only
    rw [if_neg (show ¬ maxAnchors ≤
      (started env storage).factoryReset.storage.infra.count from
        Nat.not_succ_le_zero 7)]
    exact ⟨_, rfl, rfl, rfl, _, List.mem_append_right _ List.mem_cons_self⟩
  · rw [boot_sensor isSensor loads, if_pos none]
    exact ⟨_, rfl, rfl, rfl, _, List.mem_append_right _ List.mem_cons_self⟩

/-- A sensor takes the first place for its parent. -/
theorem boot_sensor_stored
    (isSensor : env.deviceType = .sensor) (read : rom.HeadersRead)
    (stored : savedInfra rom ≠ 0) :
    ∃ s, boot env rom = .ok s ∧
      s.connectedDeviceId = rom.firstInfra.deviceId ∧ s.out = [] := by
  obtain ⟨storage, loads, live, -⟩ := storageInit_started (.inr isSensor) read
  obtain ⟨rest, first⟩ := readEntries_cons stored
  rw [first, List.map_cons] at live
  have parent : (started env storage).parent = rom.firstInfra :=
    parent_eq (congrArg (List.map Neighbour.entry) live)
  rw [boot_sensor isSensor loads,
    if_neg (by rw [live]; exact List.cons_ne_nil _ _)]
  exact ⟨_, rfl, congrArg InfraRecord.deviceId parent, rfl⟩

/-- So does an anchor that is not on the last level. -/
theorem boot_anchor_stored
    (isAnchor : env.deviceType = .anchor) (read : rom.HeadersRead)
    (stored : savedInfra rom ≠ 0)
    (near : ¬ maxDepth ≤ rom.firstInfra.hopNum.toNat) :
    ∃ s, boot env rom = .ok s ∧
      s.connectedDeviceId = rom.firstInfra.deviceId ∧ s.hopNum ≠ 0xFF := by
  obtain ⟨storage, loads, live, -⟩ := storageInit_started (.inl isAnchor) read
  obtain ⟨rest, first⟩ := readEntries_cons stored
  rw [first, List.map_cons] at live
  have next : hopBehind rom.firstInfra.hopNum ≠ 0xFF := fun last =>
    near ((hopBehind_deep _).mp (.inl last))
  rw [boot_anchor isAnchor loads,
    @deviceInfoUpdate_fresh env (started env storage) _ _ isAnchor rfl live,
    if_neg near]
  dsimp only
  split
  · exact ⟨_, rfl, rfl, next⟩
  · exact ⟨_, rfl, rfl, next⟩

/-- An anchor behind the last level resets itself. -/
theorem boot_anchor_reset
    (isAnchor : env.deviceType = .anchor) (read : rom.HeadersRead)
    (stored : savedInfra rom ≠ 0)
    (writes : rom.outcomeAt (bootReads env.deviceType rom) = none)
    (deep : maxDepth ≤ rom.firstInfra.hopNum.toNat) :
    ∃ s, boot env rom = .error s ∧ s.storage.eeprom.infra.header = some 0 := by
  obtain ⟨storage, loads, live, saved⟩ :=
    storageInit_started (.inl isAnchor) read
  obtain ⟨rest, first⟩ := readEntries_cons stored
  rw [first, List.map_cons] at live
  rw [boot_anchor isAnchor loads,
    @deviceInfoUpdate_fresh env (started env storage) _ _ isAnchor rfl live,
    if_pos deep]
  refine ⟨_, rfl, ?_⟩
  change (storage.eeprom.writeInfraHeader 0).1.infra.header = some 0
  rw [Eeprom.writeInfraHeader, saved]
  dsimp only
  rw [Eeprom.written, outcome_drop, writes]
  rfl

end Start

section Recovery

variable {env : MeshEnv} {rom : Eeprom} {again : Occurrence}

/-- Whatever id the first place yields is used as it is. -/
theorem recovered_stored {s : MeshPlane}
    (id : s.connectedDeviceId = rom.firstInfra.deviceId)
    (paired : s.hopNum ≠ 0xFF ∨ s.out = []) :
    Recovered rom s ↔ ∃ entry, BestInfra rom entry ∧
      entry.deviceId = rom.firstInfra.deviceId := by
  constructor
  · rintro (⟨entry, best, same⟩ | ⟨-, unpaired, pkt, asked⟩)
    · exact ⟨entry, best, same.symm.trans id⟩
    · rcases paired with joined | silent
      · exact absurd unpaired joined
      · rw [silent] at asked
        cases asked
  · rintro ⟨entry, best, same⟩
    exact .inl ⟨entry, best, id.trans same.symm⟩

/-- A board that is up stays up. -/
theorem recovers_up {s : MeshPlane} (up : boot env rom = .ok s)
    (restart : again.event = none) :
    Recovers env rom again ↔ Recovered rom s := by
  have stays : next (boot env rom) again = .ok s := by
    simp only [up, next, restart]
  constructor
  · rintro ⟨s', ends, recovered⟩
    cases stays.symm.trans ends
    exact recovered
  · exact fun recovered => ⟨s, stays, recovered⟩

/-- A board that reset itself asks for a parent after the restart. -/
theorem recovers_reset {s : MeshPlane} (down : boot env rom = .error s)
    (cleared : s.storage.eeprom.infra.header = some 0)
    (role : again.env.deviceType = .anchor ∨ again.env.deviceType = .sensor)
    (restart : again.event = none)
    (headers : ∀ index, index < 3 → again.failures[index]?.join = none) :
    Recovers env rom again := by
  have empty : savedInfra (s.begin again.failures).storage.eeprom = 0 := by
    rw [savedInfra, show (s.begin again.failures).storage.eeprom.infra.header =
      some 0 from cleared]
    rfl
  obtain ⟨s', up, unpaired⟩ := boot_empty role
    (show (s.begin again.failures).storage.eeprom.HeadersRead from headers)
    empty
  refine ⟨s', ?_, .inr unpaired⟩
  simp only [down, next, restart]
  exact up

/-- Boot recovers from damaged entries exactly when there is nothing to
recover, the first place serves, or it makes an anchor reset itself. -/
theorem recovers_iff
    (role : env.deviceType = .anchor ∨ env.deviceType = .sensor)
    (damage : EntryDamage env.deviceType rom)
    (restart : again.event = none)
    (same : again.env.deviceType = env.deviceType)
    (headers : ∀ index, index < 3 → again.failures[index]?.join = none) :
    Recovers env rom again ↔ FirstServes env.deviceType rom := by
  by_cases empty : savedInfra rom = 0
  · obtain ⟨s, up, unpaired⟩ := boot_empty role damage.headers empty
    exact iff_of_true ((recovers_up up restart).mpr (.inr unpaired))
      (.inl empty)
  · rcases role with isAnchor | isSensor
    · by_cases deep : maxDepth ≤ rom.firstInfra.hopNum.toNat
      · obtain ⟨s, down, cleared⟩ := boot_anchor_reset isAnchor damage.headers
          empty (damage.writes _ (Nat.le_refl _)) deep
        exact iff_of_true
          (recovers_reset down cleared (.inl (same.trans isAnchor)) restart
            headers)
          (.inr (.inr ⟨isAnchor, deep⟩))
      · obtain ⟨s, up, id, joined⟩ :=
          boot_anchor_stored isAnchor damage.headers empty deep
        rw [recovers_up up restart, recovered_stored id (.inl joined)]
        simp only [FirstServes, empty, deep, and_false, false_or, or_false]
    · obtain ⟨s, up, id, silent⟩ :=
        boot_sensor_stored isSensor damage.headers empty
      rw [recovers_up up restart, recovered_stored id (.inr silent)]
      simp only [FirstServes, empty, isSensor, reduceCtorEq, false_and,
        false_or, or_false]

/-- Two infra entries, of which the second cannot be read. -/
def lastDamaged : Eeprom where
  infra :=
    { header := some 2
      cells := fun _ => some { deviceType := 1, deviceId := 7, hopNum := 0 } }
  failures := [none, none, none, none, some {}]

theorem recovers_lastDamaged :
    Recovers { deviceType := .sensor, deviceId := 9 } lastDamaged
      { env := { deviceType := .sensor, deviceId := 9 }, event := none } := by
  have damage : EntryDamage .sensor lastDamaged := by
    refine ⟨?_, by decide, by decide, by decide, ?_⟩
    · intro index first
      rcases index with _ | _ | _ | index
      · rfl
      · rfl
      · rfl
      · omega
    · intro index beyond
      have past : lastDamaged.failures[index]? = none :=
        List.getElem?_eq_none beyond
      rw [Eeprom.outcomeAt, past]
      rfl
  rw [@recovers_iff { deviceType := .sensor, deviceId := 9 } lastDamaged
    { env := { deviceType := .sensor, deviceId := 9 }, event := none }
    (.inr rfl) damage rfl rfl (fun _ _ => rfl)]
  refine .inr (.inl
    ⟨{ deviceType := 1, deviceId := 7, hopNum := 0 }, ⟨?_, ?_⟩, rfl⟩)
  · exact ⟨0, by decide, rfl⟩
  · intro index other inside good
    have two : index < 2 := inside
    rcases index with _ | _ | index
    · cases good
      exact .inr ⟨rfl, by decide⟩
    · cases good
    · omega

/-- Two infra entries, of which the first does not match its CRC-32. -/
def firstDamaged : Eeprom where
  infra :=
    { header := some 2
      cells := fun index =>
        if index = 1 then
          some { deviceType := 1, deviceId := 7, hopNum := 0 }
        else
          none }

/-- A sensor with such an EEPROM stays without a parent and does not ask for
one. -/
theorem recovers_firstDamaged :
    EntryDamage .sensor firstDamaged ∧
      ¬ Recovers { deviceType := .sensor, deviceId := 9 } firstDamaged
        { env := { deviceType := .sensor, deviceId := 9 }, event := none } := by
  have damage : EntryDamage .sensor firstDamaged :=
    ⟨fun _ _ => rfl, by decide, by decide, by decide, fun _ _ => rfl⟩
  refine ⟨damage, ?_⟩
  obtain ⟨s, up, id, silent⟩ :=
    @boot_sensor_stored { deviceType := .sensor, deviceId := 9 } firstDamaged
      rfl damage.headers (by decide)
  rw [recovers_up up rfl, recovered_stored id (.inr silent)]
  rintro ⟨entry, ⟨⟨index, inside, good⟩, -⟩, same⟩
  have two : index < 2 := inside
  rcases index with _ | _ | index
  · cases good
  · cases good
    exact absurd same (by decide)
  · omega

end Recovery

end MeshPlane

end DectMesh
