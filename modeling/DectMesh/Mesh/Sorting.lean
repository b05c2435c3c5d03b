import DectMesh.Library.SortLoop
import DectMesh.Mesh.Pairing
import DectMesh.Mesh.Refinement

/-!
# The sorts by hop number and signal

`sort_infra_devices` and `sort_candidates` as loops over the indices of their
arrays, which have more cells than the counts say.
-/

namespace DectMesh

open ArrayLoop

/-- `j++` of a `uint8_t`. -/
def advanceByte (j : Nat) : Nat := (j + 1) % 256

/-- `sort_infra_devices` on the array. -/
def sortInfraArray (fuel : Nat) (infraCount : UInt8)
    (infraDevices : List (Neighbour (Stamped InfraRecord))) :
    Except Failure (List (Neighbour (Stamped InfraRecord))) :=
  if infraCount < 2 then
    .ok infraDevices
  else
    SortLoop.sortLoop advanceByte StorageImage.swapInfra fuel infraCount.toNat
      infraDevices

/-- `sort_candidates` on the array. -/
def sortCandidatesArray (fuel : Nat) (respCandidateCount : Int)
    (respCandidates : List Candidate) : Except Failure (List Candidate) :=
  SortLoop.sortLoop (· + 1) MeshPlane.swapCandidates fuel respCandidateCount
    respCandidates

section Order

variable {Cell : Type} (hopNum : Cell → UInt8) (rssi2 : Cell → Int16)

/-- Closer first, and the stronger signal first among equally close ones. -/
def InFront (left right : Cell) : Prop :=
  hopNum left < hopNum right ∨
    hopNum left = hopNum right ∧ rssi2 right ≤ rssi2 left

/-- `after` holds the first `count` cells of `before` in order, equal ones in
the order they had, and the other cells where they were. -/
structure SortsStably (count : Nat) (before after : List Cell) : Prop where
  permutes : (after.take count).Perm (before.take count)
  others : after.drop count = before.drop count
  ordered : (after.take count).Pairwise (InFront hopNum rssi2)
  stable : ∀ hop rssi,
    (after.take count).filter (fun cell => hopNum cell = hop ∧ rssi2 cell = rssi) =
      (before.take count).filter
        fun cell => hopNum cell = hop ∧ rssi2 cell = rssi
  idle : (before.take count).Pairwise (InFront hopNum rssi2) → after = before

variable {hopNum rssi2} {swap : Cell → Cell → Bool}

/-- What `sort_infra_devices` sees of a cell. -/
def seen (hopNum : Cell → UInt8) (rssi2 : Cell → Int16) (cell : Cell) :
    InfraRecord where
  hopNum := hopNum cell
  rssi2 := rssi2 cell

theorem sort_stably
    (test : ∀ left right, swap left right = Storage.swapInfra
      { entry := seen hopNum rssi2 left } { entry := seen hopNum rssi2 right })
    {count : Nat} {cells : List Cell} (inside : count ≤ cells.length) :
    SortsStably hopNum rssi2 count cells
      (BubbleSort.sort swap (cells.take count) ++ cells.drop count) := by
  have order (left right : Cell) :
      BubbleSort.InOrder swap left right ↔ InFront hopNum rssi2 left right :=
    Storage.seen_inOrder test left right
  have perm := BubbleSort.sort_perm swap (cells.take count)
  have size : (BubbleSort.sort swap (cells.take count)).length = count := by
    rw [perm.length_eq, List.length_take]
    omega
  have front : (BubbleSort.sort swap (cells.take count) ++
      cells.drop count).take count =
        BubbleSort.sort swap (cells.take count) := by
    exact List.take_left' size
  constructor
  · rw [front]
    exact perm
  · exact List.drop_left' size
  · rw [front]
    exact Storage.sort_closerFirst test (cells.take count)
  · intro hop rssi
    rw [front]
    apply BubbleSort.sort_filter
    intro left right first second
    rw [order]
    simp only [decide_eq_true_eq] at first second
    refine .inr ⟨first.1.trans second.1.symm, ?_⟩
    rw [first.2, second.2]
    exact Int16.le_refl _
  · intro already
    rw [BubbleSort.sort_of_pairwise
      (already.imp fun {left right} => (order left right).mpr),
      List.take_append_drop]

end Order

section Arrays

variable {fuel : Nat}

theorem sortInfraArray_eq
    {infraCount : UInt8} {infraDevices : List (Neighbour (Stamped InfraRecord))}
    (inside : infraCount.toNat ≤ infraDevices.length)
    (enough : infraCount.toNat < fuel) :
    sortInfraArray fuel infraCount infraDevices =
      .ok (BubbleSort.sort StorageImage.swapInfra
        (infraDevices.take infraCount.toNat) ++
          infraDevices.drop infraCount.toNat) := by
  unfold sortInfraArray
  split
  · next few =>
    have small : infraCount.toNat < 2 := UInt8.lt_iff_toNat_lt.mp few
    have none : (infraDevices.take infraCount.toNat).length - 1 = 0 := by
      rw [List.length_take]
      omega
    rw [BubbleSort.sort, none, BubbleSort.passes, List.take_append_drop]
  · apply SortLoop.sortLoop_eq
    · exact Int.ofNat_le.mpr inside
    · intro j below
      have small := infraCount.toNat_lt
      exact Nat.mod_eq_of_lt (by omega)
    · exact enough

theorem sortCandidatesArray_eq
    {respCandidateCount : Int} {respCandidates : List Candidate}
    (inside : respCandidateCount ≤ respCandidates.length)
    (enough : respCandidateCount.toNat < fuel) :
    sortCandidatesArray fuel respCandidateCount respCandidates =
      .ok (BubbleSort.sort MeshPlane.swapCandidates
        (respCandidates.take respCandidateCount.toNat) ++
          respCandidates.drop respCandidateCount.toNat) :=
  SortLoop.sortLoop_eq inside (fun _ _ => rfl) enough

/-- The operation on the tables is the loop over the array, whatever its
unused cells hold. -/
theorem StorageImage.sortInfraDevices_array
    (s : StorageImage) (unused : List (Neighbour (Stamped InfraRecord)))
    (small : s.infra.length < 256) (enough : s.infra.length < fuel) :
    sortInfraArray fuel (UInt8.ofNat s.infra.length) (s.infra ++ unused) =
      .ok (s.sortInfraDevices.infra ++ unused) := by
  have count : (UInt8.ofNat s.infra.length).toNat = s.infra.length :=
    UInt8.toNat_ofNat_of_lt' small
  rw [sortInfraArray_eq (by rw [count, List.length_append]; omega)
    (by rw [count]; exact enough), count, List.take_left, List.drop_left]
  rfl

theorem MeshPlane.sortCandidates_array
    (s : MeshPlane)
    (inside : s.respCandidateCount ≤ s.respCandidates.length)
    (enough : s.respCandidateCount.toNat < fuel) :
    sortCandidatesArray fuel s.respCandidateCount s.respCandidates =
      .ok s.sortCandidates.respCandidates :=
  sortCandidatesArray_eq inside enough

end Arrays

/-- Both sorts end and sort the cells below their count stably by hop number
and signal, with everything that belongs to an entry, and leave a sorted table
as it is. -/
theorem sorts_stably :
    (∀ (infraCount : UInt8)
        (infraDevices : List (Neighbour (Stamped InfraRecord))),
      infraCount.toNat ≤ infraDevices.length →
        ∃ sorted,
          (∀ fuel, infraCount.toNat < fuel →
            sortInfraArray fuel infraCount infraDevices = .ok sorted) ∧
          SortsStably (fun device => device.entry.record.hopNum)
            (fun device => device.entry.record.rssi2) infraCount.toNat
            infraDevices sorted) ∧
    ∀ (respCandidateCount : Int) (respCandidates : List Candidate),
      respCandidateCount ≤ respCandidates.length →
        ∃ sorted,
          (∀ fuel, respCandidateCount.toNat < fuel →
            sortCandidatesArray fuel respCandidateCount respCandidates =
              .ok sorted) ∧
          SortsStably Candidate.hopNum Candidate.rssi2 respCandidateCount.toNat
            respCandidates sorted := by
  constructor
  · intro infraCount infraDevices inside
    refine ⟨_, fun fuel enough => sortInfraArray_eq inside enough, ?_⟩
    exact sort_stably (fun _ _ => rfl) inside
  · intro respCandidateCount respCandidates inside
    refine ⟨_, fun fuel enough => sortCandidatesArray_eq inside enough, ?_⟩
    exact sort_stably (fun _ _ => rfl) (by omega)

/-- A farther neighbour before two of the same key, and an unused cell. -/
def threeNeighbours : List (Neighbour (Stamped InfraRecord)) :=
  [{ entry := { record := { deviceId := 1, hopNum := 2, rssi2 := -80 } } },
    { entry := { record := { deviceId := 2, hopNum := 1, rssi2 := -90 } }
      lastCommMs := 7 },
    { entry := { record := { deviceId := 3, hopNum := 1, rssi2 := -90 } } },
    { entry := { record := {} } }]

theorem sorts_stably_three :
    (3 : UInt8).toNat ≤ threeNeighbours.length ∧
      ∃ sorted,
        (∀ fuel, (3 : UInt8).toNat < fuel →
          sortInfraArray fuel 3 threeNeighbours = .ok sorted) ∧
        SortsStably (fun device => device.entry.record.hopNum)
          (fun device => device.entry.record.rssi2) (3 : UInt8).toNat
          threeNeighbours sorted ∧
        sorted.map (fun device => device.entry.record.deviceId) =
          [2, 3, 1, 0] := by
  have inside : (3 : UInt8).toNat ≤ threeNeighbours.length := by decide
  obtain ⟨sorted, ends, stably⟩ := sorts_stably.1 3 threeNeighbours inside
  refine ⟨inside, sorted, ends, stably, ?_⟩
  have computed : (sortInfraArray 4 3 threeNeighbours).map
      (List.map fun device => device.entry.record.deviceId) =
        .ok [2, 3, 1, 0] := by
    decide +kernel
  rw [ends 4 (by decide)] at computed
  exact Except.ok.inj computed

end DectMesh
