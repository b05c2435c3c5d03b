import DectMesh.Config.Rejection

/-!
# The retries of a sensor

A sensor prints a configuration it accepted until its host answers, at most
`SENSOR_CONFIG_MAX_RETRIES` times, and then gives it up.  The slot keeps its
timeout when it is freed or filled again, so a configuration has all its
retries only if no earlier timeout is still running.
-/

namespace DectMesh

namespace ConfigPlane

variable {env : Env} {board : Board} {s s' : ConfigPlane}

/-- An `AT#CONFIG` line. -/
def printsConfig : Action → Bool
  | .line (.config ..) => true
  | _ => false

/-- The event does not shorten the retries of a configuration: no timeout runs
in a slot that is filled, a configuration that waits is not lost to a damaged
one, and a line that is due is put out by the tick it is due in and reported
as written. -/
def KeepsBudget (env : Env) (s : ConfigPlane) : ConfigEvent → Prop
  | .config pkt _ =>
      Validated env pkt → pkt.dstDeviceId = env.deviceId →
        (∀ idx, s.findConfigSlot pkt.dstDeviceId = some idx →
          (s.slots idx).holdsSame pkt.configCrc32 pkt.configLen.toNat =
              false →
            ((s.slots idx).isApplied = false → ¬ Damaged env s pkt idx) ∧
              (¬ Damaged env s pkt idx →
                (s.slots idx).timeout.deadlineMs = 0)) ∧
        (s.findConfigSlot pkt.dstDeviceId = none →
          ∀ idx, s.freeSlot = some idx → ¬ Damaged env s pkt idx →
            (s.slots idx).timeout.deadlineMs = 0)
  | .tick =>
      ∀ idx, (s.slots idx).active = true → (s.slots idx).isApplied = false →
        ((s.slots idx).timeout.deadlineMs = 0 →
          s.io.uart.head? ≠ some .late) ∧
        ((s.slots idx).timeout.expired env.now = true →
          (s.slots idx).timeout.retries < (s.slots idx).timeout.maxRetries →
            (∃ payload, (s.io.read (configSlotPsramAddr idx)
              (s.slots idx).configLen.toNat).2 = .ok payload) ∧
              s.io.uart.head? ≠ some .late ∧
                s.io.uart.head? ≠ some .dropped)
  | _ => True

end ConfigPlane

open ConfigPlane

/-- A sensor with the uptimes of the lines it printed for the configuration it
accepted last, the latest first. -/
structure RetryWatch where
  plane : ConfigPlane := {}
  lines : List Nat := []

namespace RetryWatch

/-- The lines after one event. -/
def note (watch : RetryWatch) (env : Env) (event : ConfigEvent)
    (after : ConfigPlane) : List Nat :=
  match watch.plane.accepted env event with
  | some _ => []
  | none =>
      List.replicate (after.io.out.countP printsConfig) env.now ++ watch.lines

def step (watch : RetryWatch) (event : Env × ConfigEvent) :
    Except Fault RetryWatch :=
  match watch.plane.step event.1 event.2 with
  | .error fault => .error fault
  | .ok plane =>
      .ok { plane := plane, lines := watch.note event.1 event.2 plane }

/-- A configuration waits for the answer of the host. -/
def Waits (watch : RetryWatch) : Prop :=
  ∃ idx, (watch.plane.slots idx).active = true ∧
    (watch.plane.slots idx).isApplied = false

/-- The steps of a sensor that keep the retries. -/
def OnSensor (board : Board) (watch : RetryWatch)
    (event : Env × ConfigEvent) : Prop :=
  event.1.toBoard = board ∧ KeepsBudget event.1 watch.plane event.2

/-- The lines of a configuration are spaced by the timeout and no more than
the retries.  Once the first one is printed, a tick prints the next one when it
is due, gives the configuration up when there is none left, and does nothing
else to it; and apart from the ticks it waits until the host answers, a newer
configuration is accepted, or the plane is started again. -/
structure FreshBudget (board : Board) (watch : RetryWatch) : Prop where
  spaced : watch.lines.IsChain fun later earlier =>
    earlier + sensorConfigTimeoutMs ≤ later
  bounded : watch.lines.length ≤ sensorConfigMaxRetries
  served : ∀ env after last earlier,
    OnSensor board watch (env, .tick) →
      watch.step (env, .tick) = .ok after →
        watch.Waits → watch.lines = last :: earlier →
          if env.now < last + sensorConfigTimeoutMs then
            after.lines = watch.lines ∧ after.Waits
          else if watch.lines.length < sensorConfigMaxRetries then
            after.lines = env.now :: watch.lines ∧ after.Waits
          else
            after.lines = watch.lines ∧ ¬ after.Waits
  kept : ∀ env event after,
    OnSensor board watch (env, event) →
      watch.step (env, event) = .ok after → watch.Waits →
        event ≠ .tick → (∀ ok, event ≠ .hostAnswer ok) → event ≠ .restart →
          after.Waits ∧
            (after.lines = watch.lines ∨
              (watch.plane.accepted env event).isSome = true)

end RetryWatch

namespace ConfigPlane

variable {env : Env} {board : Board} {s s' : ConfigPlane}

section Ticks

/-- No slot apart from this one is in use. -/
def Alone (s : ConfigPlane) (idx : Fin configSlotCount) : Prop :=
  ∀ other, other ≠ idx → (s.slots other).active = false

theorem allConfigSlots_split (idx : Fin configSlotCount) :
    ∃ before after, allConfigSlots = before ++ idx :: after ∧
      idx ∉ before ∧ idx ∉ after := by
  obtain ⟨before, after, split⟩ :=
    List.append_of_mem (List.mem_finRange idx)
  have nodup : (before ++ idx :: after).Nodup :=
    split ▸ List.nodup_finRange configSlotCount
  rw [List.nodup_append] at nodup
  obtain ⟨-, tail, apart⟩ := nodup
  refine ⟨before, after, split, fun member => ?_, ?_⟩
  · exact apart idx member idx List.mem_cons_self rfl
  · exact (List.nodup_cons.mp tail).1

theorem expireUnconfirmed_idle {idx : Fin configSlotCount}
    (idle : (s.slots idx).active = false) :
    s.expireUnconfirmed env idx = s := by
  unfold expireUnconfirmed
  dsimp only
  rw [if_neg (by simp [idle])]

theorem expireAll_idle {list : List (Fin configSlotCount)}
    (idle : ∀ idx ∈ list, (s.slots idx).active = false) :
    list.foldl (fun s idx => s.expireUnconfirmed env idx) s = s := by
  induction list with
  | nil => rfl
  | cons idx rest ih =>
      rw [List.foldl_cons, expireUnconfirmed_idle (idle idx List.mem_cons_self)]
      exact ih fun other member => idle other (List.mem_cons_of_mem idx member)

theorem sensorSendLoop_idle {list : List (Fin configSlotCount)} {budget : Nat}
    (idle : ∀ idx ∈ list, (s.slots idx).active = false) :
    sensorSendLoop env budget list s = s := by
  induction list generalizing budget with
  | nil => cases budget <;> rfl
  | cons idx rest ih =>
      cases budget with
      | zero => rfl
      | succ budget =>
          unfold sensorSendLoop
          rw [if_neg (by simp [idle idx List.mem_cons_self])]
          exact ih fun other member =>
            idle other (List.mem_cons_of_mem idx member)

theorem sensorSendLoop_skip {before after : List (Fin configSlotCount)}
    {budget : Nat} (idle : ∀ idx ∈ before, (s.slots idx).active = false) :
    sensorSendLoop env (budget + 1) (before ++ after) s =
      sensorSendLoop env (budget + 1) after s := by
  induction before with
  | nil => rfl
  | cons idx rest ih =>
      rw [List.cons_append, sensorSendLoop,
        if_neg (by simp [idle idx List.mem_cons_self])]
      exact ih fun other member => idle other (List.mem_cons_of_mem idx member)

theorem expireUnconfirmed_unsent {idx : Fin configSlotCount}
    (unsent : (s.slots idx).isSent = false) :
    s.expireUnconfirmed env idx = s := by
  unfold expireUnconfirmed
  dsimp only
  rw [if_neg (by simp [unsent])]

/-- A slot that waits for its host is left alone until its timeout is over. -/
theorem expireUnconfirmed_waiting {idx : Fin configSlotCount}
    (active : (s.slots idx).active = true)
    (sent : (s.slots idx).isSent = true)
    (waiting : (s.slots idx).isApplied = false) :
    s.expireUnconfirmed env idx =
      if (s.slots idx).timeout.expired env.now then
        s.retrySlot env idx
      else
        s := by
  unfold expireUnconfirmed
  dsimp only
  rw [if_pos ⟨active, sent⟩, if_neg (by simp [waiting])]

/-- The round of a slot leaves the others as they are. -/
theorem expireUnconfirmed_others {idx other : Fin configSlotCount}
    (different : other ≠ idx) :
    (s.expireUnconfirmed env idx).slots other = s.slots other := by
  unfold expireUnconfirmed retrySlot
  dsimp only
  split
  · split
    · simp [setSlot, Function.update_of_ne different]
    · split
      · split
        · simp [setSlot, configSlotFree, Function.update_of_ne different]
        · simp [setSlot, Function.update_of_ne different]
      · rfl
  · rfl

theorem sensorSendSlot_others {idx other : Fin configSlotCount}
    (different : other ≠ idx) :
    (s.sensorSendSlot env idx).slots other = s.slots other := by
  unfold sensorSendSlot
  dsimp only
  split
  · rfl
  · split
    · rfl
    · simp [setSlot, Function.update_of_ne different]

/-- With one slot in use the tick is the two rounds of that slot. -/
theorem sensorConfigTick_alone {idx : Fin configSlotCount}
    (alone : Alone s idx) :
    s.sensorConfigTick env =
      if ((s.expireUnconfirmed env idx).slots idx).active ∧
          !((s.expireUnconfirmed env idx).slots idx).isSent ∧
            !((s.expireUnconfirmed env idx).slots idx).isApplied then
        (s.expireUnconfirmed env idx).sensorSendSlot env idx
      else
        s.expireUnconfirmed env idx := by
  obtain ⟨before, after, split, notBefore, notAfter⟩ :=
    allConfigSlots_split idx
  have idle {list : List (Fin configSlotCount)} (outside : idx ∉ list) :
      ∀ other ∈ list, (s.slots other).active = false := by
    intro other member
    exact alone other fun same => outside (same ▸ member)
  have later {list : List (Fin configSlotCount)} (outside : idx ∉ list) :
      ∀ other ∈ list,
        ((s.expireUnconfirmed env idx).slots other).active = false := by
    intro other member
    have different : other ≠ idx := fun same => outside (same ▸ member)
    rw [expireUnconfirmed_others different]
    exact alone other different
  have expired : allConfigSlots.foldl
      (fun s idx => s.expireUnconfirmed env idx) s =
        s.expireUnconfirmed env idx := by
    rw [split, List.foldl_append, expireAll_idle (idle notBefore),
      List.foldl_cons, expireAll_idle (later notAfter)]
  unfold sensorConfigTick processConfigSlots
  rw [expired, split, sensorSendLoop_skip (later notBefore), sensorSendLoop]
  split
  · refine sensorSendLoop_idle fun other member => ?_
    have different : other ≠ idx := fun same => notAfter (same ▸ member)
    rw [sensorSendSlot_others different]
    exact later notAfter other member
  · exact sensorSendLoop_idle (later notAfter)

theorem sensorConfigTick_idle
    (idle : ∀ idx, (s.slots idx).active = false) :
    s.sensorConfigTick env = s := by
  unfold sensorConfigTick
  rw [expireAll_idle fun idx _ => idle idx]
  exact sensorSendLoop_idle fun idx _ => idle idx

/-- What the timeout of a slot becomes when its line was printed. -/
def printedSlot (env : Env) (slot : ConfigSlot) : ConfigSlot :=
  { (if slot.timeout.isActive then slot else
      slot.startTimeout env.now sensorConfigTimeoutMs
        sensorConfigMaxRetries) with isSent := true }

/-- A line is printed and noted, or it is not printed at all. -/
theorem sensorSendSlot_cases {idx : Fin configSlotCount}
    (notLate : s.io.uart.head? ≠ some .late) :
    ((s.sensorSendSlot env idx).slots = s.slots ∧
        (s.sensorSendSlot env idx).io.out = s.io.out ∧
          ((∀ payload, (s.io.read (configSlotPsramAddr idx)
              (s.slots idx).configLen.toNat).2 ≠ .ok payload) ∨
            s.io.uart.head? = some .dropped)) ∨
      (s.sensorSendSlot env idx).slots =
          Function.update s.slots idx (printedSlot env (s.slots idx)) ∧
        ∃ line, printsConfig line = true ∧
          (s.sensorSendSlot env idx).io.out = s.io.out ++ [line] := by
  unfold sensorSendSlot
  dsimp only
  split
  · next io errno read =>
    refine .inl ⟨rfl, Io.read_out_eq read, .inl fun payload ok => ?_⟩
    rw [read] at ok
    cases ok
  · next io payload read =>
    have uart : io.uart = s.io.uart := congrArg (fun result => result.1.uart)
      read.symm
    have out : io.out = s.io.out := Io.read_out_eq read
    split
    · next after written =>
      unfold Io.txWrite at written
      rw [uart] at written
      split at written
      · next queue late => exact absurd (by rw [late]; rfl) notLate
      · next queue dropped =>
        cases written
        exact .inl ⟨rfl, out, .inr (by rw [dropped]; rfl)⟩
      · cases written
    · next after written =>
      have shown : after.out = io.out ++ [.line (.config env.serialNumber
          (s.slots idx).configId (s.slots idx).configLen
          (s.slots idx).configCrc32 payload)] := by
        have either := io.txWrite_out (.config env.serialNumber
          (s.slots idx).configId (s.slots idx).configLen
          (s.slots idx).configCrc32 payload)
        rw [written] at either
        rcases either with added | ⟨-, lost⟩
        · exact added
        · cases lost
      refine .inr ⟨rfl, .line (.config env.serialNumber
        (s.slots idx).configId (s.slots idx).configLen
        (s.slots idx).configCrc32 payload), rfl, ?_⟩
      exact shown.trans (by rw [out])

/-- The timeout of a waiting slot tells how many lines were printed, and
when the last one was. -/
def Clock (slot : ConfigSlot) : List Nat → Prop
  | [] => slot.isSent = false ∧ slot.timeout.deadlineMs = 0
  | last :: earlier =>
      slot.isSent = true ∧
        slot.timeout =
          { deadlineMs := last + sensorConfigTimeoutMs
            durationMs := sensorConfigTimeoutMs
            retries := earlier.length + 1
            maxRetries := sensorConfigMaxRetries }

/-- The timeout of a slot that was printed runs out at its deadline. -/
theorem clock_expired {slot : ConfigSlot} {last now : Nat}
    {earlier : List Nat} (clock : Clock slot (last :: earlier)) :
    slot.timeout.expired now = true ↔ last + sensorConfigTimeoutMs ≤ now := by
  have positive : last + sensorConfigTimeoutMs ≠ 0 := by
    have duration : sensorConfigTimeoutMs = 30000 := rfl
    omega
  obtain ⟨-, timeout⟩ := clock
  unfold NbTimeout.expired
  rw [timeout]
  simp only [positive, ne_eq, not_false_eq_true, true_and, decide_eq_true_eq]

/-- The retry of a slot whose retries are used up. -/
theorem clock_retry_last {slot : ConfigSlot} {last : Nat} {earlier : List Nat}
    (now : Nat) (clock : Clock slot (last :: earlier))
    (full : sensorConfigMaxRetries < earlier.length + 2)
    (bounded : (last :: earlier).length ≤ sensorConfigMaxRetries) :
    (slot.timeout.retry now).2 = true := by
  obtain ⟨-, timeout⟩ := clock
  have three : sensorConfigMaxRetries = 3 := rfl
  rw [List.length_cons] at bounded
  unfold NbTimeout.retry
  rw [timeout]
  dsimp only
  rw [Nat.mod_eq_of_lt (by omega), if_pos full]

/-- The retry of a slot with retries left. -/
theorem clock_retry_again {slot : ConfigSlot} {last : Nat}
    {earlier : List Nat} (now : Nat) (clock : Clock slot (last :: earlier))
    (left : ¬ sensorConfigMaxRetries < earlier.length + 2) :
    slot.timeout.retry now =
      ({ deadlineMs := now + sensorConfigTimeoutMs
         durationMs := sensorConfigTimeoutMs
         retries := earlier.length + 2
         maxRetries := sensorConfigMaxRetries }, false) := by
  obtain ⟨-, timeout⟩ := clock
  have three : sensorConfigMaxRetries = 3 := rfl
  unfold NbTimeout.retry
  rw [timeout]
  dsimp only
  rw [Nat.mod_eq_of_lt (by omega), if_neg left]
  rfl

/-- What a tick does to the slot that waits. -/
inductive Ticked (env : Env) (idx : Fin configSlotCount)
    (lines : List Nat) (s s' : ConfigPlane) : Prop
  | quiet
      (slots : s'.slots = s.slots)
      (out : s'.io.out = [])
      (early : ∀ last earlier, lines = last :: earlier →
        env.now < last + sensorConfigTimeoutMs)
  | printed {slot : ConfigSlot} {line : Action}
      (slots : s'.slots = Function.update s.slots idx slot)
      (active : slot.active = true)
      (waiting : slot.isApplied = false)
      (device : slot.dstDeviceId = (s.slots idx).dstDeviceId)
      (clock : Clock slot (env.now :: lines))
      (isLine : printsConfig line = true)
      (out : s'.io.out = [line])
      (due : ∀ last earlier, lines = last :: earlier →
        last + sensorConfigTimeoutMs ≤ env.now ∧
          lines.length < sensorConfigMaxRetries)
  | gaveUp {slot : ConfigSlot} {last : Nat} {earlier : List Nat}
      (slots : s'.slots = Function.update s.slots idx slot)
      (idle : slot.active = false)
      (out : s'.io.out = [])
      (some_ : lines = last :: earlier)
      (due : last + sensorConfigTimeoutMs ≤ env.now)
      (full : sensorConfigMaxRetries ≤ lines.length)

section Waiting

variable {idx : Fin configSlotCount} {lines : List Nat}

/-- The first line of a configuration starts its timeout. -/
theorem ticked_first (alone : Alone s idx)
    (active : (s.slots idx).active = true)
    (waiting : (s.slots idx).isApplied = false)
    (clock : Clock (s.slots idx) []) (quiet : s.io.out = [])
    (notLate : s.io.uart.head? ≠ some .late) :
    Ticked env idx [] s (s.sensorConfigTick env) := by
  obtain ⟨unsent, stopped⟩ := clock
  have tick : s.sensorConfigTick env = s.sensorSendSlot env idx := by
    rw [sensorConfigTick_alone alone, expireUnconfirmed_unsent unsent,
      if_pos ⟨active, by simp [unsent], by simp [waiting]⟩]
  rw [tick]
  rcases @sensorSendSlot_cases env s idx notLate with
    ⟨slots, out, -⟩ | ⟨slots, line, isLine, out⟩
  · exact .quiet slots (out.trans quiet) fun _ _ same => by cases same
  · have idleTimer : (s.slots idx).timeout.isActive = false := by
      simp [NbTimeout.isActive, stopped]
    have started : printedSlot env (s.slots idx) =
        { (s.slots idx).startTimeout env.now sensorConfigTimeoutMs
            sensorConfigMaxRetries with isSent := true } := by
      unfold printedSlot
      rw [idleTimer]
      rfl
    rw [started] at slots
    rw [quiet, List.nil_append] at out
    exact .printed slots active waiting rfl ⟨rfl, rfl⟩ isLine out
      fun _ _ same => by cases same

/-- Before its timeout is over nothing happens to a printed
configuration. -/
theorem ticked_early {last : Nat} {earlier : List Nat} (alone : Alone s idx)
    (active : (s.slots idx).active = true)
    (waiting : (s.slots idx).isApplied = false)
    (clock : Clock (s.slots idx) (last :: earlier)) (quiet : s.io.out = [])
    (early : ¬ (s.slots idx).timeout.expired env.now = true) :
    Ticked env idx (last :: earlier) s (s.sensorConfigTick env) := by
  have tick : s.sensorConfigTick env = s := by
    rw [sensorConfigTick_alone alone,
      expireUnconfirmed_waiting active clock.1 waiting, if_neg early,
      if_neg (by simp [clock.1])]
  rw [tick]
  rw [clock_expired clock, Nat.not_le] at early
  refine .quiet rfl quiet fun _ _ same => ?_
  cases same
  exact early

/-- A configuration without retries left is given up when its timeout is
over. -/
theorem ticked_last {last : Nat} {earlier : List Nat} (alone : Alone s idx)
    (active : (s.slots idx).active = true)
    (waiting : (s.slots idx).isApplied = false)
    (clock : Clock (s.slots idx) (last :: earlier)) (quiet : s.io.out = [])
    (expired : (s.slots idx).timeout.expired env.now = true)
    (full : sensorConfigMaxRetries < earlier.length + 2)
    (bounded : (last :: earlier).length ≤ sensorConfigMaxRetries) :
    Ticked env idx (last :: earlier) s (s.sensorConfigTick env) := by
  have retried := clock_retry_last env.now clock full bounded
  have freed : (s.retrySlot env idx).slots = Function.update s.slots idx
      { (s.slots idx).freed with
        timeout := ((s.slots idx).timeout.retry env.now).1 } := by
    unfold retrySlot
    dsimp only
    split
    · next timeout outcome =>
      rw [outcome]
      simp [setSlot, configSlotFree, ConfigSlot.freed]
    · next timeout outcome =>
      rw [outcome] at retried
      cases retried
  have out : (s.retrySlot env idx).io.out = [] := by
    unfold retrySlot
    dsimp only
    split
    · exact quiet
    · exact quiet
  have tick : s.sensorConfigTick env = s.retrySlot env idx := by
    rw [sensorConfigTick_alone alone,
      expireUnconfirmed_waiting active clock.1 waiting, if_pos expired]
    refine if_neg fun pending => ?_
    have still := pending.1
    rw [freed, Function.update_self] at still
    cases still
  rw [tick]
  refine .gaveUp freed rfl out rfl ((clock_expired clock).mp expired) ?_
  rw [List.length_cons]
  omega

/-- A configuration with retries left is printed again when its timeout is
over. -/
theorem ticked_again {last : Nat} {earlier : List Nat} (alone : Alone s idx)
    (active : (s.slots idx).active = true)
    (waiting : (s.slots idx).isApplied = false)
    (clock : Clock (s.slots idx) (last :: earlier)) (quiet : s.io.out = [])
    (expired : (s.slots idx).timeout.expired env.now = true)
    (left : ¬ sensorConfigMaxRetries < earlier.length + 2)
    (read : ∃ payload, (s.io.read (configSlotPsramAddr idx)
      (s.slots idx).configLen.toNat).2 = .ok payload)
    (notLate : s.io.uart.head? ≠ some .late)
    (notDropped : s.io.uart.head? ≠ some .dropped) :
    Ticked env idx (last :: earlier) s (s.sensorConfigTick env) := by
  have retried := clock_retry_again env.now clock left
  -- the slot between the two loops of the tick
  have again : s.retrySlot env idx = s.setSlot idx
      { s.slots idx with
        timeout := ((s.slots idx).timeout.retry env.now).1
        isSent := false } := by
    unfold retrySlot
    dsimp only
    rw [retried]
  have slot : (s.retrySlot env idx).slots idx =
      { s.slots idx with
        timeout := ((s.slots idx).timeout.retry env.now).1
        isSent := false } := by
    rw [again]
    exact Function.update_self ..
  have io : (s.retrySlot env idx).io = s.io := by
    rw [again]
    rfl
  have tick : s.sensorConfigTick env =
      (s.retrySlot env idx).sensorSendSlot env idx := by
    rw [sensorConfigTick_alone alone,
      expireUnconfirmed_waiting active clock.1 waiting, if_pos expired]
    refine if_pos ?_
    rw [slot]
    exact ⟨active, rfl, by simp [waiting]⟩
  rw [tick]
  rw [← io] at notLate
  rcases @sensorSendSlot_cases env (s.retrySlot env idx) idx notLate with
    ⟨-, -, failed⟩ | ⟨slots, line, isLine, out⟩
  · exfalso
    rw [io, slot] at failed
    rcases failed with failed | dropped
    · obtain ⟨payload, ok⟩ := read
      exact failed payload ok
    · exact notDropped dropped
  · rw [slot] at slots
    have running : (((s.slots idx).timeout.retry env.now).1).isActive =
        true := by
      have duration : sensorConfigTimeoutMs = 30000 := rfl
      rw [retried]
      simp [NbTimeout.isActive, duration]
    have printed : printedSlot env
        { s.slots idx with
          timeout := ((s.slots idx).timeout.retry env.now).1
          isSent := false } =
        { s.slots idx with
          timeout := ((s.slots idx).timeout.retry env.now).1
          isSent := true } := by
      unfold printedSlot
      dsimp only
      rw [if_pos running]
    have whole : ((s.retrySlot env idx).sensorSendSlot env idx).slots =
        Function.update s.slots idx
          { s.slots idx with
            timeout := ((s.slots idx).timeout.retry env.now).1
            isSent := true } := by
      rw [slots, printed, again]
      exact Function.update_idem _ _ _
    rw [io, quiet, List.nil_append] at out
    refine .printed whole active waiting rfl ⟨rfl, ?_⟩ isLine out ?_
    · rw [retried]
      rfl
    · intro _ _ same
      cases same
      refine ⟨(clock_expired clock).mp expired, ?_⟩
      rw [List.length_cons]
      omega

end Waiting

/-- The tick leaves a configuration that was applied alone. -/
theorem sensorTick_applied {idx : Fin configSlotCount}
    (alone : Alone s idx) (applied : (s.slots idx).isApplied = true) :
    s.sensorConfigTick env = s.expireUnconfirmed env idx ∧
      (s.expireUnconfirmed env idx).io = s.io ∧
        ∃ timeout, (s.expireUnconfirmed env idx).slots =
          Function.update s.slots idx
            { s.slots idx with timeout := timeout } := by
  have same : Function.update s.slots idx
      { s.slots idx with timeout := (s.slots idx).timeout } = s.slots :=
    Function.update_eq_self _ _
  have slots : ∃ timeout, (s.expireUnconfirmed env idx).slots =
      Function.update s.slots idx
        { s.slots idx with timeout := timeout } := by
    unfold expireUnconfirmed
    dsimp only
    split
    · exact ⟨(s.slots idx).timeout.reset, rfl⟩
    · exact ⟨(s.slots idx).timeout, same.symm⟩
  refine ⟨?_, s.expireUnconfirmed_io idx, slots⟩
  obtain ⟨timeout, slots⟩ := slots
  rw [sensorConfigTick_alone alone]
  refine if_neg fun pending => ?_
  have unapplied := pending.2.2
  rw [slots, Function.update_self] at unapplied
  simp [applied] at unapplied

/-- Only a slot that is freed is uncounted. -/
theorem sensorTick_count {idx : Fin configSlotCount} (alone : Alone s idx)
    (still : ((s.sensorConfigTick env).slots idx).active = true) :
    (s.sensorConfigTick env).activeConfigCount = s.activeConfigCount := by
  have expired (active : ((s.expireUnconfirmed env idx).slots idx).active =
      true) :
      (s.expireUnconfirmed env idx).activeConfigCount =
        s.activeConfigCount := by
    unfold expireUnconfirmed retrySlot at active ⊢
    dsimp only at active ⊢
    split
    · next sent =>
      rw [if_pos sent] at active
      split
      · rfl
      · next unapplied =>
        rw [if_neg unapplied] at active
        split
        · next expired =>
          rw [if_pos expired] at active
          split
          · next outcome =>
            rw [outcome] at active
            simp [configSlotFree, setSlot, ConfigSlot.freed] at active
          · rfl
        · rfl
    · rfl
  rw [sensorConfigTick_alone alone] at still ⊢
  split
  · next pending =>
    exact (sensorSendSlot_steady idx _).count.trans (expired pending.1)
  · next idle =>
    rw [if_neg idle] at still
    exact expired still

end Ticks

section Others

/-- A configuration that still waits is as before; nothing else is new. -/
structure Eases (s s' : ConfigPlane) : Prop where
  active : ∀ idx, (s'.slots idx).active = true → (s.slots idx).active = true
  device : ∀ idx, (s'.slots idx).active = true →
    (s'.slots idx).dstDeviceId = (s.slots idx).dstDeviceId
  count : ∀ idx, (s'.slots idx).active = true →
    s'.activeConfigCount = s.activeConfigCount
  waiting : ∀ idx, (s'.slots idx).active = true →
    (s'.slots idx).isApplied = false → s'.slots idx = s.slots idx

theorem Eases.of_same (slots : s'.slots = s.slots)
    (count : s'.activeConfigCount = s.activeConfigCount) : Eases s s' where
  active := fun idx active => slots ▸ active
  device := fun idx _ => by rw [slots]
  count := fun _ _ => count
  waiting := fun idx _ _ => by rw [slots]

theorem Eases.update {idx : Fin configSlotCount} {slot : ConfigSlot}
    (slots : s'.slots = Function.update s.slots idx slot)
    (inUse : slot.active = true → (s.slots idx).active = true)
    (device : slot.dstDeviceId = (s.slots idx).dstDeviceId)
    (count : s'.activeConfigCount = s.activeConfigCount ∨
      slot.active = false ∧ Alone s idx)
    (waiting : slot.active = true → slot.isApplied = false →
      slot = s.slots idx) : Eases s s' := by
  have others {other : Fin configSlotCount} (different : other ≠ idx) :
      s'.slots other = s.slots other := by
    rw [slots, Function.update_of_ne different]
  have here : s'.slots idx = slot := by
    rw [slots, Function.update_self]
  constructor
  · intro other active
    by_cases same : other = idx
    · rw [same, here] at active
      rw [same]
      exact inUse active
    · rw [others same] at active
      exact active
  · intro other _
    by_cases same : other = idx
    · rw [same, here]
      exact device
    · rw [others same]
  · intro other active
    rcases count with kept | ⟨idle, alone⟩
    · exact kept
    · by_cases same : other = idx
      · rw [same, here, idle] at active
        cases active
      · rw [others same, alone other same] at active
        cases active
  · intro other active unapplied
    by_cases same : other = idx
    · rw [same, here] at active unapplied
      rw [same, here]
      exact waiting active unapplied
    · exact others same

theorem hostAnswer_eases (alone : ∀ idx, (s.slots idx).active = true →
    Alone s idx) (ok : Bool) : Eases s (s.hostAnswer env ok) := by
  have released (configId : UInt16) (status : UInt8) :
      Eases s (s.configSlotReleaseById env configId status) := by
    unfold configSlotReleaseById
    split
    · exact .of_same rfl rfl
    · next idx found =>
      have active := (findSentSlot_some found).1
      dsimp only
      split
      · exact .update rfl id rfl (.inl rfl) fun _ unapplied => by
          cases unapplied
      · exact .update (Function.update_idem _ _ _) (fun idle => by cases idle)
          (by simp [setSlot, ConfigSlot.freed])
          (.inr ⟨rfl, alone idx active⟩) fun idle => by cases idle
  unfold hostAnswer
  dsimp only
  split
  · have eases := released s.pendingAck.id (answerStatus ok)
    exact ⟨eases.active, eases.device, eases.count, eases.waiting⟩
  · exact .of_same rfl rfl

/-- The events of a sensor that leave its configurations alone. -/
theorem sensorStep_same (role : env.deviceType = .sensor)
    {event : ConfigEvent} (notTick : event ≠ .tick)
    (notConfig : ∀ pkt srcId, event ≠ .config pkt srcId)
    (notAnswer : ∀ ok, event ≠ .hostAnswer ok) (notRestart : event ≠ .restart)
    (stepped : s.step env event = .ok s') :
    s'.slots = s.slots ∧ s'.activeConfigCount = s.activeConfigCount := by
  have notGateway : env.deviceType ≠ .gateway := by
    rw [role]
    decide
  cases event with
  | config pkt srcId => exact absurd rfl (notConfig pkt srcId)
  | tick => exact absurd rfl notTick
  | hostAnswer ok => exact absurd rfl (notAnswer ok)
  | restart => exact absurd rfl notRestart
  | configAck pkt =>
      have stepped : s.clearOut.handleConfigAck env pkt = .ok s' := stepped
      cases handleConfigAck_taken stepped with
      | ignored => exact ⟨rfl, rfl⟩
      | untracked => exact ⟨rfl, rfl⟩
      | disowned idx gateway => exact absurd gateway notGateway
      | transfered idx anchor => cases role.symm.trans anchor
      | freed idx anchor found => cases role.symm.trans anchor
  | configReceived pkt srcId =>
      cases stepped
      unfold handleConfigReceived
      dsimp only
      split
      · exact ⟨rfl, rfl⟩
      · rw [role]
        exact ⟨rfl, rfl⟩
  | configReceivedAck pkt =>
      cases stepped
      unfold handleConfigReceivedAck
      dsimp only
      split
      · exact ⟨rfl, rfl⟩
      · rw [role]
        exact ⟨rfl, rfl⟩
  | routeInfo pkt srcId =>
      have stepped : s.clearOut.sendRoutedConfig env pkt srcId = .ok s' :=
        stepped
      rw [sendRoutedConfig_other notGateway stepped]
      exact ⟨rfl, rfl⟩
  | cmdConfig args =>
      cases stepped
      rw [cmdConfig_other notGateway]
      exact ⟨rfl, rfl⟩
  | cmdConfigAck args =>
      cases stepped
      rw [if_pos role]
      unfold cmdConfigAck
      split
      · split
        · exact ⟨rfl, rfl⟩
        · exact ⟨rfl, rfl⟩
      · exact ⟨rfl, rfl⟩
  | otherPending pending =>
      cases stepped
      exact ⟨rfl, rfl⟩
  | elsewhere psram uart =>
      cases stepped
      exact ⟨rfl, rfl⟩

variable {pkt : Config} {srcId : UInt16}

/-- The slot a `CONFIG` is stored in: that of its device, with another
configuration in it, or a free one. -/
def Filled (s : ConfigPlane) (pkt : Config) (idx : Fin configSlotCount) :
    Prop :=
  s.findConfigSlot pkt.dstDeviceId = some idx ∧
      (s.slots idx).holdsSame pkt.configCrc32 pkt.configLen.toNat = false ∨
    s.findConfigSlot pkt.dstDeviceId = none ∧ s.freeSlot = some idx

/-- What a `CONFIG` does to a sensor: nothing, it loses the slot the packet was
put in, or that slot waits with the timeout it had. -/
inductive Configured (env : Env) (s : ConfigPlane) (pkt : Config)
    (srcId : UInt16) : ConfigPlane → Prop
  | same {s' : ConfigPlane}
      (refused : s.accepted env (.config pkt srcId) = none)
      (slots : s'.slots = s.slots)
      (count : s'.activeConfigCount = s.activeConfigCount) :
      Configured env s pkt srcId s'
  | lost {s' : ConfigPlane} {idx : Fin configSlotCount} {slot : ConfigSlot}
      (refused : s.accepted env (.config pkt srcId) = none)
      (valid : Validated env pkt) (own : pkt.dstDeviceId = env.deviceId)
      (filled : Filled s pkt idx) (damaged : Damaged env s pkt idx)
      (slots : s'.slots = Function.update s.slots idx slot)
      (idle : slot.active = false) :
      Configured env s pkt srcId s'
  | stored {s' : ConfigPlane} {idx : Fin configSlotCount} {slot : ConfigSlot}
      (accepted : s.accepted env (.config pkt srcId) = some pkt.entry)
      (valid : Validated env pkt) (own : pkt.dstDeviceId = env.deviceId)
      (filled : Filled s pkt idx) (intact : ¬ Damaged env s pkt idx)
      (slots : s'.slots = Function.update s.slots idx slot)
      (active : slot.active = true) (unsent : slot.isSent = false)
      (waiting : slot.isApplied = false)
      (device : slot.dstDeviceId = pkt.dstDeviceId)
      (timeout : slot.timeout = (s.slots idx).timeout)
      (count : (s.slots idx).active = true ∧
          s'.activeConfigCount = s.activeConfigCount ∨
        s'.activeConfigCount ≠ 0) :
      Configured env s pkt srcId s'

/-- On a sensor the validation of a packet decides what becomes of the
slots. -/
theorem handleConfig_sensor (role : env.deviceType = .sensor)
    (valid : Validated env pkt) :
    (s.handleConfig env pkt srcId).slots = (s.validateConfig env pkt).1.slots ∧
      (s.handleConfig env pkt srcId).activeConfigCount =
        (s.validateConfig env pkt).1.activeConfigCount := by
  generalize handled : s.handleConfig env pkt srcId = s'
  cases handleConfig_taken handled with
  | ignored other => exact absurd valid other
  | unranged length =>
      obtain ⟨-, nonempty, fits, -⟩ := valid
      exact absurd length (not_or.mpr ⟨nonempty, Nat.not_lt.mpr fits⟩)
  | answered _ outcome =>
      rw [outcome]
      exact ⟨rfl, rfl⟩
  | relayed anchor => cases role.symm.trans anchor
  | confirmed _ _ outcome =>
      rw [outcome]
      exact ⟨rfl, rfl⟩

theorem handleConfig_ignored (ignored : ¬ Validated env pkt) :
    (s.handleConfig env pkt srcId).slots = s.slots ∧
      (s.handleConfig env pkt srcId).activeConfigCount =
        s.activeConfigCount := by
  generalize handled : s.handleConfig env pkt srcId = s'
  cases handleConfig_taken handled with
  | ignored => exact ⟨rfl, rfl⟩
  | unranged => exact ⟨rfl, rfl⟩
  | answered valid => exact absurd valid ignored
  | relayed _ valid => exact absurd valid ignored
  | confirmed _ valid => exact absurd valid ignored

theorem storeConfig_count {idx : Fin configSlotCount}
    (success : (s.storeConfig env idx pkt).2 = statusSuccess) :
    (s.storeConfig env idx pkt).1.activeConfigCount = s.activeConfigCount := by
  have crcFail : statusCrcFail ≠ statusSuccess := by decide
  have failure : statusFailure ≠ statusSuccess := by decide
  unfold storeConfig at success ⊢
  dsimp only at success ⊢
  split
  · next damaged =>
    rw [if_pos damaged] at success
    exact absurd success crcFail
  · next checksum =>
    rw [if_neg checksum] at success
    split
    · next wrote =>
      rw [wrote] at success
      exact absurd success failure
    · rfl

theorem allocated_count {base : ConfigPlane} {idx : Fin configSlotCount}
    (allocated : s.allocConfigSlot = some (base, idx)) :
    base.activeConfigCount ≠ 0 := by
  obtain ⟨-, rfl⟩ := allocConfigSlot_allocated allocated
  intro zero
  have zero : (if s.activeConfigCount.toNat < 65535 then
      s.activeConfigCount + 1 else s.activeConfigCount) = 0 := zero
  have numbers := congrArg UInt16.toNat zero
  have one : (1 : UInt16).toNat = 1 := rfl
  have none_ : (0 : UInt16).toNat = 0 := rfl
  split at numbers
  · next room =>
    rw [UInt16.toNat_add, one, none_] at numbers
    omega
  · next room =>
    rw [none_] at numbers
    omega

/-- The slot that was allocated keeps its timeout. -/
theorem allocated_slot {base : ConfigPlane} {idx : Fin configSlotCount}
    (allocated : s.allocConfigSlot = some (base, idx)) :
    (base.slots idx).timeout = (s.slots idx).timeout ∧
      ∀ slot, Function.update base.slots idx slot =
        Function.update s.slots idx slot := by
  obtain ⟨-, rfl⟩ := allocConfigSlot_allocated allocated
  refine ⟨by simp [setSlot], fun slot => ?_⟩
  exact Function.update_idem _ _ _

theorem handleConfig_configured (role : env.deviceType = .sensor) :
    Configured env s pkt srcId (s.clearOut.handleConfig env pkt srcId) := by
  have failure : statusFailure ≠ statusSuccess := by decide
  have exists_ : statusAlreadyExists ≠ statusSuccess := by decide
  have unavailable : statusResourceUnavailable ≠ statusSuccess := by decide
  by_cases valid : Validated env pkt
  · obtain ⟨slots, count⟩ :=
      @handleConfig_sensor env s.clearOut pkt srcId role valid
    have refused (failed : (s.clearOut.validateConfig env pkt).2.1 ≠
        statusSuccess) : s.accepted env (.config pkt srcId) = none :=
      if_neg fun both => failed both.2
    have accepted (success : (s.clearOut.validateConfig env pkt).2.1 =
        statusSuccess) :
        s.accepted env (.config pkt srcId) = some pkt.entry :=
      if_pos ⟨valid, success⟩
    have validation := validateConfig_validation env s.clearOut pkt
    generalize s.clearOut.validateConfig env pkt = outcome at *
    cases validation with
    | foreign => exact .same (refused failure) slots count
    | known => exact .same (refused exists_) slots count
    | full => exact .same (refused unavailable) slots count
    | @replaced after status idx own found other stored =>
        rw [findConfigSlot_clearOut] at found
        have filled : Filled s pkt idx := .inl ⟨found, other⟩
        rcases storeConfig_cases env s.clearOut idx pkt with
          ⟨damaged, failed, freed, -⟩ | ⟨intact, success, kept⟩
        · rw [stored] at failed freed
          exact .lost (refused failed) valid (own role) filled damaged
            (slots.trans freed) rfl
        · have counted := storeConfig_count success
          rw [stored] at success kept counted
          refine .stored (accepted success) valid (own role) filled intact
            (slots.trans kept) rfl rfl rfl rfl rfl (.inl ⟨?_, ?_⟩)
          · exact (findConfigSlot_some found).1
          · exact count.trans counted
    | @placed base after status idx own missing allocated stored =>
        rw [findConfigSlot_clearOut] at missing
        obtain ⟨free, -, io⟩ := allocConfigSlot_some allocated
        rw [freeSlot_clearOut] at free
        have filled : Filled s pkt idx := .inr ⟨missing, free⟩
        obtain ⟨timeout, whole⟩ := allocated_slot allocated
        have damage : Damaged env base pkt idx ↔ Damaged env s pkt idx := by
          unfold Damaged
          rw [io]
          rfl
        rcases storeConfig_cases env base idx pkt with
          ⟨damaged, failed, freed, -⟩ | ⟨intact, success, kept⟩
        · rw [stored] at failed freed
          rw [whole] at freed
          exact .lost (refused failed) valid (own role) filled
            (damage.mp damaged) (slots.trans freed) rfl
        · have counted := storeConfig_count success
          rw [stored] at success kept counted
          rw [whole] at kept
          refine .stored (accepted success) valid (own role) filled
            (fun damaged => intact (damage.mpr damaged)) (slots.trans kept)
            rfl rfl rfl rfl timeout (.inr ?_)
          rw [count]
          exact fun zero => allocated_count allocated (counted.symm.trans zero)
  · obtain ⟨slots, count⟩ :=
      @handleConfig_ignored env s.clearOut pkt srcId valid
    exact .same (if_neg fun both => valid both.1) slots count

end Others

end ConfigPlane

namespace RetryWatch

variable {env : Env} {board : Board} {watch after : RetryWatch}

/-- One slot at most is in use, for the sensor itself, and its timeout is that
of its own lines. -/
structure Paced (board : Board) (watch : RetryWatch) : Prop where
  own : ∀ idx, (watch.plane.slots idx).active = true →
    (watch.plane.slots idx).dstDeviceId = board.deviceId
  alone : ∀ idx, (watch.plane.slots idx).active = true →
    Alone watch.plane idx
  counted : ∀ idx, (watch.plane.slots idx).active = true →
    watch.plane.activeConfigCount ≠ 0
  spaced : watch.lines.IsChain fun later earlier =>
    earlier + sensorConfigTimeoutMs ≤ later
  bounded : watch.lines.length ≤ sensorConfigMaxRetries
  clock : ∀ idx, (watch.plane.slots idx).active = true →
    (watch.plane.slots idx).isApplied = false →
      Clock (watch.plane.slots idx) watch.lines

theorem step_plane {event : ConfigEvent}
    (stepped : watch.step (env, event) = .ok after) :
    watch.plane.step env event = .ok after.plane ∧
      after.lines = watch.note env event after.plane := by
  unfold step at stepped
  split at stepped
  · cases stepped
  · next plane moved =>
    cases stepped
    exact ⟨moved, rfl⟩

/-- A tick with a waiting configuration. -/
theorem Paced.ticked (paced : Paced board watch)
    (role : board.deviceType = .sensor)
    (admitted : OnSensor board watch (env, .tick))
    {idx : Fin configSlotCount}
    (active : (watch.plane.slots idx).active = true)
    (waiting : (watch.plane.slots idx).isApplied = false)
    (stepped : watch.step (env, .tick) = .ok after) :
    Ticked env idx watch.lines watch.plane.clearOut after.plane := by
  obtain ⟨rfl, keeps⟩ := admitted
  obtain ⟨notLate, inTime⟩ := keeps idx active waiting
  obtain ⟨moved, -⟩ := step_plane stepped
  have clock := paced.clock idx active waiting
  have alone : Alone watch.plane.clearOut idx := paced.alone idx active
  have tick : after.plane = watch.plane.clearOut.sensorConfigTick env := by
    have moved : watch.plane.clearOut.configTick env = after.plane :=
      Except.ok.inj moved
    have counted : watch.plane.clearOut.activeConfigCount ≠ 0 :=
      paced.counted idx active
    rw [← moved]
    unfold configTick
    rw [if_neg counted, role]
  rw [tick]
  cases before : watch.lines with
  | nil =>
      rw [before] at clock
      exact ticked_first alone active waiting clock rfl (notLate clock.2)
  | cons last earlier =>
      rw [before] at clock
      by_cases expired :
          (watch.plane.slots idx).timeout.expired env.now = true
      · by_cases full : sensorConfigMaxRetries < earlier.length + 2
        · exact ticked_last alone active waiting clock rfl expired full
            (before ▸ paced.bounded)
        · have left : (watch.plane.slots idx).timeout.retries <
              (watch.plane.slots idx).timeout.maxRetries := by
            rw [clock.2]
            dsimp only
            omega
          obtain ⟨read, late, dropped⟩ := inTime expired left
          exact ticked_again alone active waiting clock rfl expired full read
            late dropped
      · exact ticked_early alone active waiting clock rfl expired

theorem note_tick {plane : ConfigPlane} :
    watch.note env .tick plane = List.replicate
      (plane.io.out.countP printsConfig) env.now ++ watch.lines := rfl

theorem note_quiet {event : ConfigEvent} {plane : ConfigPlane}
    (refused : watch.plane.accepted env event = none)
    (quiet : ∀ action ∈ plane.io.out, printsConfig action = false) :
    watch.note env event plane = watch.lines := by
  have none_ : plane.io.out.countP printsConfig = 0 := by
    refine List.countP_eq_zero.mpr fun action member => ?_
    rw [quiet action member]
    exact Bool.false_ne_true
  unfold note
  rw [refused, none_]
  rfl

/-- The lines and the configuration that waits, after a tick. -/
theorem Paced.tick_lines (paced : Paced board watch)
    (role : board.deviceType = .sensor)
    (admitted : OnSensor board watch (env, .tick))
    {idx : Fin configSlotCount}
    (active : (watch.plane.slots idx).active = true)
    (waiting : (watch.plane.slots idx).isApplied = false)
    (stepped : watch.step (env, .tick) = .ok after) :
    (after.lines = watch.lines ∧ after.plane.slots = watch.plane.slots ∧
        ∀ last earlier, watch.lines = last :: earlier →
          env.now < last + sensorConfigTimeoutMs) ∨
      (after.lines = env.now :: watch.lines ∧
        (∃ slot, after.plane.slots =
            Function.update watch.plane.slots idx slot ∧
          slot.active = true ∧ slot.isApplied = false ∧
            slot.dstDeviceId = (watch.plane.slots idx).dstDeviceId ∧
              Clock slot after.lines) ∧
        ∀ last earlier, watch.lines = last :: earlier →
          last + sensorConfigTimeoutMs ≤ env.now ∧
            watch.lines.length < sensorConfigMaxRetries) ∨
      (after.lines = watch.lines ∧
        (∀ other, (after.plane.slots other).active = false) ∧
          ∃ last earlier, watch.lines = last :: earlier ∧
            last + sensorConfigTimeoutMs ≤ env.now ∧
              watch.lines.length = sensorConfigMaxRetries) := by
  have lines := (step_plane stepped).2
  rw [note_tick] at lines
  cases paced.ticked role admitted active waiting stepped with
  | quiet slots out early =>
      rw [out] at lines
      exact .inl ⟨lines, slots, early⟩
  | @printed slot line slots inUse unapplied device clock isLine out due =>
      rw [out, List.countP_singleton, if_pos isLine] at lines
      refine .inr (.inl ⟨lines, ⟨slot, slots, inUse, unapplied, device, ?_⟩,
        due⟩)
      rw [lines]
      exact clock
  | @gaveUp slot last earlier slots idle out some_ due full =>
      rw [out] at lines
      refine .inr (.inr ⟨lines, fun other => ?_, last, earlier, some_, due,
        Nat.le_antisymm paced.bounded full⟩)
      rw [slots]
      by_cases here : other = idx
      · rw [here, Function.update_self]
        exact idle
      · rw [Function.update_of_ne here]
        exact paced.alone idx active other here

theorem plain_prints : Plain fun action => printsConfig action = false where
  reply := fun _ => rfl
  untrack := fun _ => rfl
  received := fun _ => rfl
  error := rfl

/-- Only a tick prints lines. -/
theorem step_lines (role : env.deviceType = .sensor) {event : ConfigEvent}
    (notTick : event ≠ .tick)
    (stepped : watch.step (env, event) = .ok after) :
    after.lines =
      if (watch.plane.accepted env event).isSome then [] else watch.lines := by
  obtain ⟨moved, lines⟩ := step_plane stepped
  have notGateway : env.deviceType ≠ .gateway := by
    rw [role]
    decide
  have puts := step_puts plain_prints notGateway notTick
    (fun _ _ _ _ _ => rfl) moved
  have quiet : ∀ action ∈ after.plane.io.out, printsConfig action = false := by
    intro action member
    rcases puts action member with old | new
    · cases old
    · exact new
  rw [lines]
  cases accepted : watch.plane.accepted env event with
  | none => exact note_quiet accepted quiet
  | some entry =>
      unfold note
      rw [accepted]
      rfl

/-- A configuration that waits, waits on with the same lines. -/
theorem Paced.eases (paced : Paced board watch)
    (eases : Eases watch.plane after.plane)
    (lines : after.lines = watch.lines) : Paced board after where
  own := by
    intro idx active
    rw [eases.device idx active]
    exact paced.own idx (eases.active idx active)
  alone := by
    intro idx active other different
    by_contra still
    rw [Bool.not_eq_false] at still
    have before := paced.alone idx (eases.active idx active) other different
    rw [eases.active other still] at before
    cases before
  counted := by
    intro idx active
    rw [eases.count idx active]
    exact paced.counted idx (eases.active idx active)
  spaced := by
    rw [lines]
    exact paced.spaced
  bounded := by
    rw [lines]
    exact paced.bounded
  clock := by
    intro idx active waiting
    have same := eases.waiting idx active waiting
    rw [same] at waiting ⊢
    rw [lines]
    exact paced.clock idx (eases.active idx active) waiting

theorem Paced.tick (paced : Paced board watch)
    (role : board.deviceType = .sensor)
    (admitted : OnSensor board watch (env, .tick))
    (stepped : watch.step (env, .tick) = .ok after) : Paced board after := by
  have sensor : env.deviceType = .sensor := by
    rw [← role, ← admitted.1]
  obtain ⟨moved, lines⟩ := step_plane stepped
  have moved : watch.plane.clearOut.configTick env = after.plane :=
    Except.ok.inj moved
  rw [note_tick] at lines
  by_cases used : ∃ idx, (watch.plane.slots idx).active = true
  · obtain ⟨idx, active⟩ := used
    have alone : Alone watch.plane.clearOut idx := paced.alone idx active
    have counted : watch.plane.clearOut.activeConfigCount ≠ 0 :=
      paced.counted idx active
    have tick : after.plane = watch.plane.clearOut.sensorConfigTick env := by
      rw [← moved]
      unfold configTick
      rw [if_neg counted, sensor]
    have count (still : (after.plane.slots idx).active = true) :
        after.plane.activeConfigCount = watch.plane.activeConfigCount := by
      rw [tick] at still ⊢
      exact sensorTick_count alone still
    cases applied : (watch.plane.slots idx).isApplied with
    | true =>
        obtain ⟨round, io, timeout, slots⟩ :=
          @sensorTick_applied env _ idx alone applied
        rw [← round, ← tick] at io slots
        have quiet : after.plane.io.out = [] := congrArg Io.out io
        rw [quiet] at lines
        have still : (after.plane.slots idx).active = true := by
          rw [slots, Function.update_self]
          exact active
        refine paced.eases (.update slots (fun _ => active) rfl
          (.inl (count still)) fun _ unapplied => ?_) lines
        have waiting : (watch.plane.slots idx).isApplied = false := unapplied
        rw [applied] at waiting
        cases waiting
    | false =>
        rcases paced.tick_lines role admitted active applied stepped with
          ⟨same, slots, -⟩ | ⟨more, ⟨slot, slots, inUse, -, device, clock⟩,
            due⟩ | ⟨same, idle, -⟩
        · have still : (after.plane.slots idx).active = true := by
            rw [slots]
            exact active
          exact paced.eases (.of_same slots (count still)) same
        · have here : after.plane.slots idx = slot := by
            rw [slots, Function.update_self]
          have others (other : Fin configSlotCount) (different : other ≠ idx) :
              (after.plane.slots other).active = false := by
            rw [slots, Function.update_of_ne different]
            exact paced.alone idx active other different
          have only {other : Fin configSlotCount}
              (used : (after.plane.slots other).active = true) :
              other = idx := by
            by_contra different
            rw [others other different] at used
            cases used
          constructor
          · intro other used
            rw [only used, here, device]
            exact paced.own idx active
          · intro other used
            rw [only used]
            exact others
          · intro other used
            rw [count (only used ▸ used)]
            exact paced.counted idx active
          · rw [more]
            cases before : watch.lines with
            | nil => exact .singleton _
            | cons last earlier =>
                have spaced := paced.spaced
                rw [before] at spaced
                exact .cons_cons (due last earlier before).1 spaced
          · rw [more]
            cases before : watch.lines with
            | nil => exact Nat.one_le_iff_ne_zero.mpr (by decide)
            | cons last earlier =>
                have room := (due last earlier before).2
                rw [before] at room
                exact room
          · intro other used _
            rw [only used, here]
            exact clock
        · exact
            { own := fun other used => by rw [idle other] at used; cases used
              alone := fun other used => by rw [idle other] at used; cases used
              counted := fun other used => by
                rw [idle other] at used
                cases used
              spaced := same ▸ paced.spaced
              bounded := same ▸ paced.bounded
              clock := fun other used => by
                rw [idle other] at used
                cases used }
  · have idle : ∀ idx, (watch.plane.clearOut.slots idx).active = false := by
      intro idx
      by_contra still
      rw [Bool.not_eq_false] at still
      exact used ⟨idx, still⟩
    have tick : after.plane = watch.plane.clearOut := by
      rw [← moved]
      unfold configTick
      split
      · rfl
      · rw [sensor]
        exact sensorConfigTick_idle idle
    rw [tick] at lines
    refine paced.eases ?_ lines
    rw [tick]
    exact .of_same rfl rfl

theorem Paced.config (paced : Paced board watch)
    (role : board.deviceType = .sensor) {pkt : Config} {srcId : UInt16}
    (admitted : OnSensor board watch (env, .config pkt srcId))
    (stepped : watch.step (env, .config pkt srcId) = .ok after) :
    Paced board after ∧ (watch.Waits → after.Waits ∧
      (after.lines = watch.lines ∨
        (watch.plane.accepted env (.config pkt srcId)).isSome = true)) := by
  obtain ⟨rfl, keeps⟩ := admitted
  have lines := step_lines role (fun same => by cases same) stepped
  obtain ⟨moved, -⟩ := step_plane stepped
  have handled : watch.plane.clearOut.handleConfig env pkt srcId =
      after.plane := Except.ok.inj moved
  have configured := @handleConfig_configured env watch.plane pkt srcId role
  rw [handled] at configured
  -- a slot that is filled is the only one, or there is none
  have others {idx : Fin configSlotCount}
      (own : pkt.dstDeviceId = env.deviceId)
      (filled : Filled watch.plane pkt idx) : Alone watch.plane idx := by
    rcases filled with ⟨found, -⟩ | ⟨missing, -⟩
    · exact paced.alone idx (findConfigSlot_some found).1
    · intro other _
      by_contra still
      rw [Bool.not_eq_false] at still
      exact findConfigSlot_none missing other still
        ((paced.own other still).trans own.symm)
  cases configured with
  | same refused slots count =>
      rw [refused] at lines
      refine ⟨paced.eases (.of_same slots count) lines, ?_⟩
      rintro ⟨idx, active, waiting⟩
      exact ⟨⟨idx, slots ▸ active, slots ▸ waiting⟩, .inl lines⟩
  | @lost idx slot refused valid own filled damaged slots idle =>
      rw [refused] at lines
      have unused (other : Fin configSlotCount) :
          (after.plane.slots other).active = false := by
        rw [slots]
        by_cases here : other = idx
        · rw [here, Function.update_self]
          exact idle
        · rw [Function.update_of_ne here]
          exact others own filled other here
      refine ⟨?_, ?_⟩
      · exact
          { own := fun other used => by rw [unused other] at used; cases used
            alone := fun other used => by
              rw [unused other] at used
              cases used
            counted := fun other used => by
              rw [unused other] at used
              cases used
            spaced := lines ▸ paced.spaced
            bounded := lines ▸ paced.bounded
            clock := fun other used => by
              rw [unused other] at used
              cases used }
      · rintro ⟨other, active, waiting⟩
        exfalso
        have here : other = idx := by
          by_contra different
          rw [others own filled other different] at active
          cases active
        subst here
        rcases filled with ⟨found, different⟩ | ⟨-, free⟩
        · exact (((keeps valid own).1 other found different).1 waiting)
            damaged
        · rw [freeSlot_some free] at active
          cases active
  | @stored idx slot accepted valid own filled intact slots active unsent
      waiting device timeout count =>
      rw [accepted] at lines
      have lines : after.lines = [] := lines
      have stopped : (watch.plane.slots idx).timeout.deadlineMs = 0 := by
        rcases filled with ⟨found, different⟩ | ⟨missing, free⟩
        · exact ((keeps valid own).1 idx found different).2 intact
        · exact (keeps valid own).2 missing idx free intact
      have here : after.plane.slots idx = slot := by
        rw [slots, Function.update_self]
      have idle (other : Fin configSlotCount) (different : other ≠ idx) :
          (after.plane.slots other).active = false := by
        rw [slots, Function.update_of_ne different]
        exact others own filled other different
      have only {other : Fin configSlotCount}
          (used : (after.plane.slots other).active = true) :
          other = idx := by
        by_contra different
        rw [idle other different] at used
        cases used
      refine ⟨?_, fun _ => ⟨⟨idx, ?_, ?_⟩, .inr ?_⟩⟩
      · constructor
        · intro other used
          rw [only used, here, device]
          exact own
        · intro other used
          rw [only used]
          exact idle
        · intro other _
          rcases count with ⟨before, same⟩ | nonzero
          · rw [same]
            exact paced.counted idx before
          · exact nonzero
        · rw [lines]
          exact .nil
        · rw [lines]
          exact Nat.zero_le _
        · intro other used _
          rw [only used, here, lines]
          exact ⟨unsent, timeout ▸ stopped⟩
      · rw [here]
        exact active
      · rw [here]
        exact waiting
      · rw [accepted]
        rfl

theorem accepted_none {event : ConfigEvent}
    (notConfig : ∀ pkt srcId, event ≠ .config pkt srcId)
    (plane : ConfigPlane) : plane.accepted env event = none := by
  cases event with
  | config pkt srcId => exact absurd rfl (notConfig pkt srcId)
  | _ => rfl

theorem Paced.step (paced : Paced board watch)
    (role : board.deviceType = .sensor) {event : ConfigEvent}
    (admitted : OnSensor board watch (env, event))
    (stepped : watch.step (env, event) = .ok after) : Paced board after := by
  have sensor : env.deviceType = .sensor := by
    rw [← role, ← admitted.1]
  obtain ⟨moved, -⟩ := step_plane stepped
  by_cases isTick : event = .tick
  · subst isTick
    exact paced.tick role admitted stepped
  · by_cases isConfig : ∃ pkt srcId, event = .config pkt srcId
    · obtain ⟨pkt, srcId, rfl⟩ := isConfig
      exact (paced.config role admitted stepped).1
    · have notConfig : ∀ pkt srcId, event ≠ .config pkt srcId :=
        fun pkt srcId same => isConfig ⟨pkt, srcId, same⟩
      have lines := step_lines sensor isTick stepped
      rw [accepted_none notConfig] at lines
      refine paced.eases ?_ lines
      by_cases isAnswer : ∃ ok, event = .hostAnswer ok
      · obtain ⟨ok, rfl⟩ := isAnswer
        have handled : watch.plane.clearOut.hostAnswer env ok = after.plane :=
          Except.ok.inj moved
        have alone : ∀ idx, (watch.plane.clearOut.slots idx).active = true →
            Alone watch.plane.clearOut idx := paced.alone
        have eases := @hostAnswer_eases env watch.plane.clearOut alone ok
        rw [handled] at eases
        exact ⟨eases.active, eases.device, eases.count, eases.waiting⟩
      · by_cases isRestart : event = .restart
        · subst isRestart
          have handled : watch.plane.clearOut.configInit = after.plane :=
            Except.ok.inj moved
          rw [← handled]
          exact ⟨fun _ used => (by cases used), fun _ used => (by cases used),
            fun _ used => (by cases used), fun _ used => (by cases used)⟩
        · obtain ⟨slots, count⟩ := sensorStep_same sensor isTick notConfig
            (fun ok same => isAnswer ⟨ok, same⟩) isRestart moved
          exact .of_same slots count

theorem Paced.freshBudget (paced : Paced board watch)
    (role : board.deviceType = .sensor) : FreshBudget board watch where
  spaced := paced.spaced
  bounded := paced.bounded
  served := by
    rintro env after last earlier admitted stepped ⟨idx, active, waiting⟩
      printed
    rcases paced.tick_lines role admitted active waiting stepped with
      ⟨same, slots, early⟩ | ⟨more, ⟨slot, slots, inUse, unapplied, -⟩, due⟩ |
        ⟨same, idle, last', earlier', some_, due, full⟩
    · rw [if_pos (early last earlier printed)]
      exact ⟨same, idx, slots ▸ active, slots ▸ waiting⟩
    · obtain ⟨past, left⟩ := due last earlier printed
      rw [if_neg (Nat.not_lt.mpr past), if_pos left]
      refine ⟨more, idx, ?_, ?_⟩
      · rw [slots, Function.update_self]
        exact inUse
      · rw [slots, Function.update_self]
        exact unapplied
    · rw [printed] at some_
      cases some_
      rw [if_neg (Nat.not_lt.mpr due), if_neg (Nat.not_lt.mpr full.ge)]
      refine ⟨same, ?_⟩
      rintro ⟨other, used, -⟩
      rw [idle other] at used
      cases used
  kept := by
    intro env event after admitted stepped waits notTick notAnswer notRestart
    have sensor : env.deviceType = .sensor := by
      rw [← role, ← admitted.1]
    obtain ⟨moved, -⟩ := step_plane stepped
    by_cases isConfig : ∃ pkt srcId, event = .config pkt srcId
    · obtain ⟨pkt, srcId, rfl⟩ := isConfig
      exact (paced.config role admitted stepped).2 waits
    · have notConfig : ∀ pkt srcId, event ≠ .config pkt srcId :=
        fun pkt srcId same => isConfig ⟨pkt, srcId, same⟩
      have lines := step_lines sensor notTick stepped
      rw [accepted_none notConfig] at lines
      obtain ⟨slots, -⟩ := sensorStep_same sensor notTick notConfig notAnswer
        notRestart moved
      obtain ⟨idx, active, waiting⟩ := waits
      exact ⟨⟨idx, slots ▸ active, slots ▸ waiting⟩, .inl lines⟩

/-- In every run of a sensor in which no timeout runs in a slot that is filled,
no waiting configuration is lost to a damaged one and every due line is
printed, every accepted configuration has all its retries: its lines are spaced
by the timeout, there are `SENSOR_CONFIG_MAX_RETRIES` of them unless the host
answers or a newer configuration is accepted, and then the slot is freed. -/
theorem sensorRetries_fresh {io : Io}
    (role : board.deviceType = .sensor)
    (reach : Trace.Reach RetryWatch.step (OnSensor board)
      { plane := { io := io } } watch) : FreshBudget board watch := by
  have paced : Paced board watch := by
    apply reach.invariant
    · exact
        { own := fun _ used => by cases used
          alone := fun _ used => by cases used
          counted := fun _ used => by cases used
          spaced := .nil
          bounded := Nat.zero_le _
          clock := fun _ used => by cases used }
    · rintro before ⟨env, event⟩ after paced admitted stepped
      exact paced.step role admitted stepped
  exact paced.freshBudget role

section Samples

open ConfigHolder (configSensor arrivedConfig)

/-- The one-byte configuration `08` with id 2 for the sensor arrives. -/
def newerConfig : ConfigEvent :=
  .config
    { damagedConfig with configCrc32 := 0xDCD967BF } 1

/-- Nothing is in the way of the tick. -/
def Free (watch : RetryWatch) : Prop :=
  watch.plane.io.uart = [] ∧
    ∀ idx, (watch.plane.slots idx).active = true →
      (watch.plane.io.read (configSlotPsramAddr idx)
        (watch.plane.slots idx).configLen.toNat).2.isOk = true

instance (watch : RetryWatch) : Decidable watch.Free :=
  inferInstanceAs (Decidable (_ ∧ _))

theorem Free.tick {watch : RetryWatch} (free : watch.Free) (now : Nat) :
    OnSensor configSensor.toBoard watch
      ({ configSensor with now := now }, .tick) := by
  refine ⟨rfl, fun idx active _ => ?_⟩
  rw [free.1]
  refine ⟨fun _ => nofun, fun _ _ => ⟨?_, nofun, nofun⟩⟩
  have readable := free.2 idx active
  unfold Except.isOk Except.toBool at readable
  split at readable
  · next payload read => exact ⟨payload, read⟩
  · cases readable

/-- The second line half a minute after the first. -/
theorem sensorRetries_fresh_retried :
    ∃ watch, Trace.run RetryWatch.step {}
        [(configSensor, arrivedConfig),
          ({ configSensor with now := 1000 }, .tick),
          ({ configSensor with now := 31000 }, .tick)] = .ok watch ∧
      watch.lines = [31000, 1000] ∧ FreshBudget configSensor.toBoard watch := by
  obtain ⟨one, first, waits, two, second, printed, three, third, lines⟩ :
      Trace.Ends RetryWatch.step {} [(configSensor, arrivedConfig)] fun one =>
        one.Free ∧ Trace.Ends RetryWatch.step one
          [({ configSensor with now := 1000 }, .tick)] fun two =>
            two.Free ∧ Trace.Ends RetryWatch.step two
              [({ configSensor with now := 31000 }, .tick)] fun three =>
                three.lines = [31000, 1000] := by
    decide +kernel
  rw [Trace.run_single] at first second third
  have keeps : KeepsBudget configSensor {} arrivedConfig := by
    refine fun _ _ => ⟨fun idx found => ?_, fun _ _ _ _ => rfl⟩
    cases (findConfigSlot_some found).1
  have reach : Trace.Reach RetryWatch.step (OnSensor configSensor.toBoard)
      { plane := { io := {} } } three :=
    .next (.next (.next .refl ⟨rfl, keeps⟩ first) (waits.tick 1000) second)
      (printed.tick 31000) third
  have sensor : configSensor.toBoard.deviceType = .sensor := rfl
  refine ⟨three, ?_, lines, sensorRetries_fresh sensor reach⟩
  simp only [Trace.run, first, second, third]

/-- The host rejects a configuration, whose timeout runs on: the next one is
printed again after half a second. -/
theorem sensorRetries_stale :
    Trace.Ends RetryWatch.step {}
      [(configSensor, arrivedConfig),
        ({ configSensor with now := 1000 }, .tick),
        ({ configSensor with now := 1500 },
          .cmdConfigAck "\"0\",\"1\"".toList),
        ({ configSensor with now := 1500 }, .hostAnswer false),
        ({ configSensor with now := 2000 }, newerConfig),
        ({ configSensor with now := 30500 }, .tick),
        ({ configSensor with now := 31000 }, .tick)]
      fun watch => watch.lines = [31000, 30500] ∧
        ¬ FreshBudget configSensor.toBoard watch := by
  obtain ⟨watch, executed, lines⟩ :
      Trace.Ends RetryWatch.step {}
        [(configSensor, arrivedConfig),
          ({ configSensor with now := 1000 }, .tick),
          ({ configSensor with now := 1500 },
            .cmdConfigAck "\"0\",\"1\"".toList),
          ({ configSensor with now := 1500 }, .hostAnswer false),
          ({ configSensor with now := 2000 }, newerConfig),
          ({ configSensor with now := 30500 }, .tick),
          ({ configSensor with now := 31000 }, .tick)]
        fun watch => watch.lines = [31000, 30500] := by
    decide +kernel
  refine ⟨watch, executed, lines, fun fresh => ?_⟩
  have spaced := fresh.spaced
  rw [lines, List.isChain_cons_cons] at spaced
  exact absurd spaced.1 (by decide)

end Samples

end RetryWatch

end DectMesh
