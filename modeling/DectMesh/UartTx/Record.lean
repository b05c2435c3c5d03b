import DectMesh.UartTx.Model

/-!
# What the calls have put

Every byte that a call of `slm_at_tx_write` put is on the wire or in the ring
buffer, in the order in which the calls had the mutex.
-/

namespace DectMesh

namespace UartTx

variable {Thread : Type} (s : UartTx Thread) [DecidableEq Thread]

/-- What the calls have put is what went out and what the ring buffer still
holds, call after call in the order of the mutex. -/
structure Recorded : Prop where
  locks : ∀ t, (s.writer t).Locks ↔ s.mutexTxPut = some t
  absent : s.mutexTxPut = none → s.current = none
  current : ∀ t rest, (s.writer t).left = some rest →
    ∃ write, s.current = some write ∧ write.thread = t ∧
      write.sent ≤ write.data.length ∧ write.data.drop write.sent = rest
  gaveUp : ∀ t err, s.writer t = .dropping err →
    ∃ write, s.current = some write ∧ write.dropped = some err
  settled : ∀ write ∈ s.settled, write.Settled
  stream : s.wire ++ s.txRingbuf.items =
    (s.settled ++ s.current.toList).flatMap TxWrite.accepted

omit [DecidableEq Thread] in
theorem Recorded.initial : ({} : UartTx Thread).Recorded where
  locks := fun _ => ⟨False.elim, by simp⟩
  absent := fun _ => rfl
  current := fun _ _ left => by cases left
  gaveUp := by simp
  settled := by simp
  stream := rfl

section Record

variable {s} {s' : UartTx Thread} {permit : Permit Thread}
variable {thread : Thread} {rest : Option (List UInt8)} {err : Int}
variable {buf : List UInt8} {place : Writer}

omit [DecidableEq Thread] in
theorem Recorded.owner (record : s.Recorded) {now : Writer}
    (there : s.writer thread = now) (locks : now.Locks) :
    s.mutexTxPut = some thread :=
  (record.locks thread).mp (there ▸ locks)

omit [DecidableEq Thread] in
theorem Recorded.others (record : s.Recorded)
    (owner : s.mutexTxPut = some thread) :
    ∀ t, t ≠ thread → ¬ (s.writer t).Locks := by
  intro t different locked
  rw [record.locks] at locked
  exact different (Option.some.inj (locked.symm.trans owner))

omit [DecidableEq Thread] in
theorem Recorded.congr (record : s.Recorded)
    (writer : s'.writer = s.writer) (mutex : s'.mutexTxPut = s.mutexTxPut)
    (current : s'.current = s.current) (settled : s'.settled = s.settled)
    (stream : s'.wire ++ s'.txRingbuf.items = s.wire ++ s.txRingbuf.items) :
    s'.Recorded := by
  constructor
  · rw [writer, mutex]
    exact record.locks
  · rw [mutex, current]
    exact record.absent
  · rw [writer, current]
    exact record.current
  · rw [writer, current]
    exact record.gaveUp
  · rw [settled]
    exact record.settled
  · rw [stream, settled, current]
    exact record.stream

/-- The thread goes on with the same data to put, and nothing is put. -/
theorem Recorded.moved (record : s.Recorded) {before : Writer}
    (there : s.writer thread = before)
    (writer : s'.writer = s.writer) (mutex : s'.mutexTxPut = s.mutexTxPut)
    (current : s'.current = s.current) (settled : s'.settled = s.settled)
    (stream : s'.wire ++ s'.txRingbuf.items = s.wire ++ s.txRingbuf.items)
    (locks : place.Locks ↔ before.Locks) (left : place.left = before.left)
    (keeps : ∀ err, place ≠ .dropping err) :
    (s'.goto thread place).Recorded := by
  have same := record.congr writer mutex current settled stream
  rw [← there, ← writer] at locks left
  constructor
  · intro t
    by_cases here : t = thread
    · subst here
      simp only [goto, Function.update_self, locks]
      exact same.locks t
    · simp only [goto, Function.update_of_ne here]
      exact same.locks t
  · exact same.absent
  · intro t rest remains
    refine same.current t rest ?_
    by_cases here : t = thread
    · subst here
      simpa only [goto, Function.update_self, left] using remains
    · simpa only [goto, Function.update_of_ne here] using remains
  · intro t failed drops
    by_cases here : t = thread
    · subst here
      simp only [goto, Function.update_self] at drops
      exact absurd drops (keeps failed)
    · simp only [goto, Function.update_of_ne here] at drops
      exact same.gaveUp t failed drops
  · exact same.settled
  · exact same.stream

/-- The thread that has the mutex goes on, and its call is now `write`. -/
theorem Recorded.changed {write : TxWrite Thread} (record : s.Recorded)
    (others : ∀ t, t ≠ thread → ¬ (s.writer t).Locks)
    (writer : s'.writer = s.writer) (mutex : s'.mutexTxPut = some thread)
    (current : s'.current = some write) (settled : s'.settled = s.settled)
    (locks : place.Locks)
    (left : ∀ rest, place.left = some rest → write.thread = thread ∧
      write.sent ≤ write.data.length ∧ write.data.drop write.sent = rest)
    (gaveUp : ∀ err, place = .dropping err → write.dropped = some err)
    (stream : s'.wire ++ s'.txRingbuf.items =
      s.settled.flatMap TxWrite.accepted ++ write.accepted) :
    (s'.goto thread place).Recorded := by
  have elsewhere : ∀ t, t ≠ thread →
      ¬ ((s'.goto thread place).writer t).Locks := by
    intro t different
    simp only [goto, Function.update_of_ne different, writer]
    exact others t different
  constructor
  · intro t
    by_cases here : t = thread
    · subst here
      simp only [goto, Function.update_self, locks, mutex]
    · simp only [elsewhere t here, false_iff]
      exact fun same => here (Option.some.inj (mutex.symm.trans same)).symm
  · exact fun free => by cases mutex.symm.trans free
  · intro t rest remains
    by_cases here : t = thread
    · subst here
      simp only [goto, Function.update_self] at remains
      exact ⟨write, current, left rest remains⟩
    · exact absurd (Writer.left_locks remains) (elsewhere t here)
  · intro t err drops
    by_cases here : t = thread
    · subst here
      simp only [goto, Function.update_self] at drops
      exact ⟨write, current, gaveUp err drops⟩
    · exact absurd (by rw [drops]; trivial) (elsewhere t here)
  · simp only [goto, settled]
    exact record.settled
  · simp only [goto, settled, current, List.flatMap_append,
      Option.toList_some, List.flatMap_singleton]
    exact stream

/-- `k_mutex_lock`. -/
theorem Recorded.locked (record : s.Recorded) (free : s.mutexTxPut = none)
    (data : List UInt8) :
    ({ s with
      mutexTxPut := some thread
      current := some { thread := thread, data := data } }.goto thread
        (.putting data)).Recorded := by
  have nobody : ∀ t, ¬ (s.writer t).Locks := by
    intro t locks
    rw [record.locks, free] at locks
    cases locks
  refine record.changed (fun t _ => nobody t) rfl rfl rfl rfl trivial ?_
    (fun _ => by simp) ?_
  · rintro rest ⟨⟩
    exact ⟨rfl, Nat.zero_le _, rfl⟩
  · have before := record.stream
    rw [record.absent free, Option.toList_none, List.append_nil] at before
    exact before.trans (List.append_nil _).symm

/-- `k_mutex_unlock` of a call that is through. -/
theorem Recorded.unlocked (record : s.Recorded)
    (owner : s.mutexTxPut = some thread)
    (through : ∀ write, s.current = some write → write.Settled)
    (free : ¬ place.Locks) (keeps : ∀ err, place ≠ .dropping err) :
    (s.unlock.goto thread place).Recorded := by
  have others := record.others owner
  constructor
  · intro t
    simp only [goto, unlock, reduceCtorEq, iff_false]
    by_cases here : t = thread
    · rw [here, Function.update_self]
      exact free
    · rw [Function.update_of_ne here]
      exact others t here
  · exact fun _ => rfl
  · intro t rest remains
    have locked := Writer.left_locks remains
    by_cases here : t = thread
    · simp only [goto, here, Function.update_self] at locked
      exact absurd locked free
    · simp only [goto, unlock, Function.update_of_ne here] at locked
      exact absurd locked (others t here)
  · intro t failed drops
    by_cases here : t = thread
    · simp only [goto, here, Function.update_self] at drops
      exact absurd drops (keeps failed)
    · simp only [goto, unlock, Function.update_of_ne here] at drops
      exact absurd (by rw [drops]; trivial) (others t here)
  · intro write member
    simp only [goto, unlock, List.mem_append, Option.mem_toList] at member
    rcases member with before | last
    · exact record.settled write before
    · exact through write last
  · simp only [goto, unlock, Option.toList_none, List.append_nil]
    exact record.stream

/-- `ring_buf_put` in the loop. -/
theorem Recorded.putMore (record : s.Recorded) {rest : List UInt8}
    (there : s.writer thread = .putting rest) :
    ((s.put rest).goto thread
      (.putting (rest.drop (s.txRingbuf.put rest).2))).Recorded := by
  have owner := record.owner there trivial
  obtain ⟨write, held, mine, bound, remains⟩ :=
    record.current thread rest (by rw [there]; rfl)
  have taken : (s.txRingbuf.put rest).2 ≤ rest.length :=
    RingBuf.put_le rest
  have length := congrArg List.length remains
  rw [List.length_drop] at length
  have now : (s.put rest).current = some { write with
      sent := write.sent + (s.txRingbuf.put rest).2 } := by
    simp only [put, held, Option.map_some]
  refine record.changed (record.others owner) rfl owner now rfl trivial ?_
    (fun _ => by simp) ?_
  · rintro left ⟨⟩
    refine ⟨mine, ?_, ?_⟩
    · simp only
      omega
    · rw [← List.drop_drop, remains]
  · have before := record.stream
    rw [held, Option.toList_some, List.flatMap_append,
      List.flatMap_singleton] at before
    simp only [put, RingBuf.put_items]
    rw [← List.append_assoc, before, List.append_assoc, TxWrite.accepted,
      TxWrite.accepted, List.take_add, remains]

/-- A call that was refused a start in the loop gives up. -/
theorem Recorded.givenUp (record : s.Recorded) {rest : List UInt8}
    (there : s.writer thread = .refused err (some rest)) :
    ((s.giveBack err (some rest)).goto thread (.dropping err)).Recorded := by
  have owner := record.owner there (by rintro ⟨⟩)
  obtain ⟨write, held, _⟩ :=
    record.current thread rest (by rw [there]; rfl)
  have now : (s.giveBack err (some rest)).current =
      some { write with dropped := some err } := by
    simp only [giveBack, held, reduceCtorEq, if_false, Option.map_some]
  refine record.changed (record.others owner) rfl owner now rfl trivial ?_ ?_ ?_
  · rintro left ⟨⟩
  · rintro failed ⟨⟩
    rfl
  · have before := record.stream
    rw [held, Option.toList_some, List.flatMap_append,
      List.flatMap_singleton] at before
    exact before

/-- A step of a thread keeps the record. -/
theorem Recorded.advance (record : s.Recorded) :
    (s.advance thread err).Recorded := by
  cases there : s.writer thread with
  | idle =>
      simp only [UartTx.advance, there]
      exact record
  | entering data =>
      simp only [UartTx.advance, there]
      split
      · next free => exact record.locked free data
      · exact record
  | putting rest =>
      cases rest with
      | nil =>
          have owner := record.owner there trivial
          simp only [UartTx.advance, there]
          refine record.unlocked owner ?_ id (fun _ => by simp)
          intro write held _
          obtain ⟨own, same, _, _, remains⟩ :=
            record.current thread [] (by rw [there]; rfl)
          cases Option.some.inj (held.symm.trans same)
          rw [List.drop_eq_nil_iff] at remains
          exact List.take_of_length_le remains
      | cons byte more =>
          simp only [UartTx.advance, there]
          split
          · exact record.moved there rfl rfl rfl rfl rfl Iff.rfl rfl
              (fun _ => by simp)
          · exact record.putMore there
  | blocked rest =>
      simp only [UartTx.advance, there]
      split
      · exact record.moved there rfl rfl rfl rfl rfl
          (by simp [Writer.Locks]) rfl (fun _ => by simp)
      · exact record
  | polling =>
      simp only [UartTx.advance, there]
      split
      · exact record.moved there rfl rfl rfl rfl rfl
          (by simp [Writer.Locks]) rfl (fun _ => by simp)
      · exact record.moved there rfl rfl rfl rfl rfl Iff.rfl rfl
          (fun _ => by simp)
  | starting rest =>
      simp only [UartTx.advance, there]
      exact record.moved there rfl rfl rfl rfl rfl Iff.rfl rfl
        (fun _ => by simp)
  | claimed buf rest =>
      by_cases sent : (s.transmit buf err).2 = 0
      · obtain ⟨_, _, started⟩ := transmit_started sent
        simp only [UartTx.advance, there, if_pos sent, started]
        refine record.moved there rfl rfl rfl rfl rfl ?_ ?_ ?_
        · cases rest <;> simp [Writer.Locks]
        · cases rest <;> rfl
        · cases rest <;> simp
      · have given := transmit_refused sent
        have ring := finish_ring (s := s) (Nat.zero_le _)
        simp only [UartTx.advance, there, if_neg sent]
        rw [given]
        exact record.moved there rfl rfl rfl rfl
          (congrArg (s.wire ++ ·) ring.1) Iff.rfl rfl (fun _ => by simp)
  | refused failed rest =>
      simp only [UartTx.advance, there]
      cases rest with
      | none =>
          exact record.moved there rfl rfl rfl rfl rfl
              (by simp [Writer.Locks]) rfl (fun _ => by simp)
      | some rest => exact record.givenUp there
  | dropping failed =>
      have owner := record.owner there trivial
      simp only [UartTx.advance, there]
      refine record.unlocked owner ?_ id (fun _ => by simp)
      intro write held kept
      obtain ⟨own, same, gone⟩ := record.gaveUp thread failed there
      cases Option.some.inj (held.symm.trans same)
      cases kept.symm.trans gone

omit [DecidableEq Thread] in
/-- What the driver sent is what the callback frees. -/
theorem Recorded.txEnded {len : Nat} (record : s.Recorded)
    (held : s.HeldBy permit) (given : s.inFlight = some buf)
    (within : len ≤ buf.length) :
    (s.txEnded len err).Recorded := by
  obtain ⟨_, handed, front⟩ := held.handed given
  obtain ⟨items, _, _⟩ := ended_ring (handed ▸ within)
  have sent : buf.take len = s.txRingbuf.items.take len := by
    rw [front, List.take_take, Nat.min_eq_left within]
  have kept : (s.ended len).wire ++ (s.ended len).txRingbuf.items =
      s.wire ++ s.txRingbuf.items := by
    have wire : (s.ended len).wire = s.wire ++ s.txRingbuf.items.take len := by
      simp only [ended, finish, given, Option.getD_some, sent]
    rw [wire, items, List.append_assoc, List.take_append_drop]
  unfold UartTx.txEnded
  split
  · have idle : (s.ended len).inFlight = none := rfl
    by_cases willing : err = 0
    · rw [willing, slmAtTxStart_started idle]
      exact record.congr rfl rfl rfl rfl kept
    · rw [slmAtTxStart_refused idle willing]
      have ring := finish_ring (s := (s.ended len).claim.1) (Nat.zero_le _)
      refine record.congr rfl rfl rfl rfl (Eq.trans ?_ kept)
      exact congrArg ((s.ended len).wire ++ ·) ring.1
  · exact record.congr rfl rfl rfl rfl kept

end Record

end UartTx

end DectMesh
