import DectMesh.LiveParts

/-!
# Nothing is made up

In a network of boards that run this code, every announcement of a report or of
a blob and every configuration goes back to what the host of a board submitted
or a button made up before: in every slot, in every packet and in every line
for a host, whatever is lost, repeated, delayed or heard by whom.
-/

namespace DectMesh

open ByteStore

/-- What is known of reports, blobs and configurations. -/
structure Knowledge where
  report : ReportMeta → Prop
  blob : LdIdentity → Prop
  config : ConfigIdentity → Prop

section Boards

variable {known wider : Knowledge}

structure Knowledge.Implies (known wider : Knowledge) : Prop where
  report : ∀ entry, known.report entry → wider.report entry
  blob : ∀ entry, known.blob entry → wider.blob entry
  config : ∀ entry, known.config entry → wider.config entry

/-- It is known of what a packet brings in. -/
def Packet.Vouched (known : Knowledge) : Packet → Prop
  | .reportInit pkt => known.report pkt.metadata.untimed
  | .largeDataInit pkt => known.blob pkt.metadata.identity
  | .config pkt => pkt.identity.Known known.config
  | _ => True

def Action.Vouched (known : Knowledge) : Action → Prop
  | .request pkt | .announce pkt | .reply pkt => pkt.Vouched known
  | .untrack _ | .line _ => True

def Enqueued.Vouched (known : Knowledge) : Enqueued → Prop
  | .mesh _ => True
  | .data action => action.Vouched known

def AirPacket.Vouched (known : Knowledge) : AirPacket → Prop
  | .mesh _ => True
  | .data pkt => pkt.Vouched known

/-- It is known of what an event brings in. -/
def LiveEvent.Genuine (known : Knowledge) (b : LiveBoard) (env : Env) :
    LiveEvent → Prop
  | .report event => event.Genuine known.report env
  | .largeData event => event.Genuine known.blob env
  | .config event => event.Genuine known.config env
  | .defaultButton1 =>
      env.deviceType = .sensor → known.report
        ((ReportPlane.buttonReport env b.dataId).metadata env).untimed
  | .defaultButton2 layout =>
      (env.deviceType = .gateway → known.config
        (ConfigPlane.buttonConfig env layout
          (b.config.slots ConfigPlane.buttonSlot).configId).identity) ∧
        (env.deviceType = .sensor → ∀ dataId ∈ [(1 : UInt16), 2],
          known.blob (LdPlane.buttonBlob env LdPlane.buttonBlobSize dataId))
  | _ => True

/-- It is known of what the slots of a board hold. -/
structure LiveBoard.Genuine (known : Knowledge) (b : LiveBoard) : Prop where
  report : b.report.Genuine known.report
  ld : b.ld.Genuine known.blob
  config : b.config.Genuine known.config

theorem Packet.Vouched.mono {pkt : Packet} (vouched : pkt.Vouched known)
    (implies : known.Implies wider) : pkt.Vouched wider := by
  cases pkt with
  | reportInit pkt => exact implies.report _ vouched
  | largeDataInit pkt => exact implies.blob _ vouched
  | config pkt => exact fun some_ => implies.config _ (vouched some_)
  | _ => trivial

theorem AirPacket.Vouched.mono {pkt : AirPacket} (vouched : pkt.Vouched known)
    (implies : known.Implies wider) : pkt.Vouched wider := by
  cases pkt with
  | mesh pkt => trivial
  | data pkt => exact Packet.Vouched.mono vouched implies

theorem Packet.vouched_stamp {pkt : Packet} (vouched : pkt.Vouched known)
    (id : UInt8) : (pkt.stamp id).Vouched known := by
  cases pkt <;> exact vouched

theorem AirPacket.vouched_stamp {pkt : AirPacket}
    (vouched : pkt.Vouched known) (id : UInt8) :
    (pkt.stamp id).Vouched known := by
  cases pkt with
  | mesh pkt => trivial
  | data pkt => exact Packet.vouched_stamp vouched id

theorem Enqueued.vouched_of_silent {order : Enqueued}
    (silent : order.introduces = false) : order.Vouched known := by
  have quiet (pkt : Packet) (silent : pkt.introduces = false) :
      pkt.Vouched known := by
    unfold Packet.Vouched
    split
    · cases silent
    · cases silent
    · cases silent
    · trivial
  cases order with
  | mesh action => trivial
  | data action =>
      cases action with
      | request pkt => exact quiet pkt silent
      | announce pkt => exact quiet pkt silent
      | reply pkt => exact quiet pkt silent
      | untrack id => trivial
      | line text => trivial

theorem Action.vouched_of_routed {action : Action}
    (here : action.routedTo = none) : action.Vouched known := by
  cases introduces : action.introduces with
  | false => exact @Enqueued.vouched_of_silent known (.data action) introduces
  | true =>
      obtain ⟨text, rfl⟩ := Action.introduces_of_routed introduces here
      trivial

theorem Enqueued.Vouched.packet {order : Enqueued} {pkt : AirPacket}
    {fresh : Bool} (vouched : order.Vouched known)
    (ordered : order.packet = some (pkt, fresh)) : pkt.Vouched known := by
  cases order with
  | mesh action =>
      cases action <;> first | cases ordered; trivial | cases ordered
  | data action =>
      cases action <;> first | cases ordered; exact vouched | cases ordered

namespace LiveBoard

variable {board : Board} {b b' : LiveBoard} {occurrence : LiveOccurrence}

theorem Genuine.mono (genuine : b.Genuine known)
    (implies : known.Implies wider) : b.Genuine wider where
  report := genuine.report.mono implies.report
  ld := genuine.ld.mono implies.blob
  config := genuine.config.mono implies.config

/-- What one event leaves in the slots and sends is known, if what it brings
in is. -/
theorem Did.genuine (did : Did board b occurrence b')
    (separate : LiveNet.Separate b occurrence.event)
    (new : ∀ s, b.mesh = .ok s → occurrence.event.Genuine known b
      (s.surroundings board occurrence.now).toEnv)
    (genuine : b.Genuine known) :
    b'.Genuine known ∧ ∀ order ∈ b'.out, order.Vouched known := by
  have quiet {order : Enqueued} {actions : List Action}
      (sent : order.introduces = true →
        ∃ action ∈ actions, order = .data action)
      (vouched : ∀ action ∈ actions, action.Vouched known) :
      order.Vouched known := by
    cases introduces : order.introduces with
    | false => exact Enqueued.vouched_of_silent introduces
    | true =>
        obtain ⟨action, inside, rfl⟩ := sent introduces
        exact vouched action inside
  cases did with
  | quiet same awake silent =>
      have reports : b'.report.slots = b.report.slots :=
        (congrArg ReportPlane.slots same.report :)
      have blobs : b'.ld.slots = b.ld.slots :=
        (congrArg LdPlane.slots same.ld :)
      have configs : b'.config.slots = b.config.slots :=
        (congrArg ConfigPlane.slots same.config :)
      refine ⟨⟨genuine.report.congr reports, genuine.ld.congr fun idx => ?_,
        genuine.config.congr fun idx => ?_⟩, fun order member =>
          Enqueued.vouched_of_silent (silent order member)⟩
      · rw [blobs]
      · rw [configs]
  | started io config report ld silent =>
      refine ⟨⟨fun idx active => ?_, fun idx active => ?_,
        fun idx some_ => ?_⟩, fun order member =>
          Enqueued.vouched_of_silent (silent order member)⟩
      · rw [report] at active
        cases active
      · rw [ld] at active
        cases active
      · rw [config] at some_
        exact absurd rfl some_
  | recovered config report ld silent =>
      refine ⟨⟨fun idx active => ?_, fun idx active => ?_,
        fun idx some_ => ?_⟩, fun order member =>
          Enqueued.vouched_of_silent (silent order member)⟩
      · rw [report] at active
        cases active
      · rw [ld] at active
        cases active
      · rw [config] at some_
        exact absurd rfl some_
  | config s event up handled stepped report ld sent =>
      have brought : event.Genuine known.config
          (s.surroundings board occurrence.now).toEnv := by
        rcases handled with kind | ⟨pkt, srcId, kind, rfl⟩
        · have new := new s up
          rw [kind] at new
          exact new
        · trivial
      obtain ⟨kept, out⟩ :=
        ConfigPlane.step_passes stepped brought genuine.config
      refine ⟨⟨genuine.report.congr (congrArg ReportPlane.slots report :),
        genuine.ld.congr fun idx => by rw [ld], kept⟩,
        fun order member => quiet (sent order member) fun action inside => ?_⟩
      have vouched := out action inside
      unfold ConfigPlane.Vouched at vouched
      split at vouched
      · exact vouched
      · trivial
      · exact Action.vouched_of_routed vouched
  | report s event up handled stepped config ld sent =>
      have brought := new s up
      rw [handled] at brought separate
      refine ⟨⟨ReportPlane.step_genuine separate stepped brought
        genuine.report, genuine.ld.congr fun idx => by rw [ld],
        genuine.config.congr fun idx => by rw [config]⟩, ?_⟩
      intro order member
      rw [sent] at member
      obtain ⟨action, inside, rfl⟩ := List.mem_map.mp member
      rcases ReportPlane.step_orders stepped inside with
        here | ⟨pkt, idx, rfl, active, same⟩ | ⟨pkt, rfl⟩
      · exact Action.vouched_of_routed here
      · have vouched := genuine.report idx active
        rw [← same] at vouched
        exact vouched
      · trivial
  | answered s pkt after up built report config ld silent =>
      have kept := @ReportPlane.step_genuine known.report _ (.routeInfo pkt)
        _ _ trivial built trivial genuine.report
      have slots : b'.report.slots = after.slots :=
        (congrArg ReportPlane.slots report :)
      have configs : b'.config.slots = b.config.slots :=
        (congrArg ConfigPlane.slots config :)
      refine ⟨⟨kept.congr slots, genuine.ld.congr fun idx => by rw [ld],
        genuine.config.congr fun idx => ?_⟩, fun order member =>
          Enqueued.vouched_of_silent (silent order member)⟩
      rw [configs]
  | largeData s event up handled stepped config report sent =>
      have brought := new s up
      rw [handled] at brought separate
      refine ⟨⟨genuine.report.congr (by rw [report]),
        LdPlane.step_genuine separate stepped brought genuine.ld,
        genuine.config.congr fun idx => by rw [config]⟩, ?_⟩
      intro order member
      rw [sent] at member
      obtain ⟨action, inside, rfl⟩ := List.mem_map.mp member
      rcases LdPlane.step_orders stepped inside with
        here | ⟨pkt, idx, rfl, active, same⟩
      · exact Action.vouched_of_routed here
      · have vouched := genuine.ld idx active
        rw [← same] at vouched
        exact vouched
  | button1 s up pressed report config ld silent =>
      have brought := new s up
      rw [pressed] at brought
      refine ⟨⟨?_, genuine.ld.congr fun idx => by rw [ld],
        genuine.config.congr fun idx => by rw [config]⟩, fun order member =>
          Enqueued.vouched_of_silent (silent order member)⟩
      rw [report]
      exact ReportPlane.defaultButton1Handler_genuine
        (genuine.report.congr rfl) brought
  | button2 s layout up pressed config ld report silent =>
      have brought := new s up
      rw [pressed] at brought
      refine ⟨⟨genuine.report.congr (by rw [report]), ?_, ?_⟩,
        fun order member =>
          Enqueued.vouched_of_silent (silent order member)⟩
      · have cleared : b.ld.clearOut.Genuine known.blob := genuine.ld
        rw [ld]
        exact (LdPlane.defaultButton2Handler_genuine cleared brought.2).2
      · have cleared : b.config.clearOut.Genuine known.config :=
          genuine.config
        rw [config]
        exact (ConfigPlane.defaultButton2Handler_passes cleared brought.1).1

/-- What the slots of a board hold is stored whole. -/
structure Whole (board : Board) (b : LiveBoard) : Prop where
  report : Stored board.crc b.report
  ld : board.deviceType ≠ .sensor → b.mesh.isOk = true →
    LdIntegrity board.crc b.ld
  config : board.deviceType = .anchor ∨ board.deviceType = .sensor →
    ∀ idx entry, b.config.ledger idx = some entry → entry.Sound board.crc

theorem Whole.clear (whole : b.Whole board)
    (awake : b'.mesh.isOk = true → b.mesh.isOk = true)
    (config : b'.config.clearOut = b.config.clearOut)
    (report : b'.report.clearOut = b.report.clearOut)
    (ld : b'.ld.clearOut = b.ld.clearOut) : b'.Whole board where
  report := by
    have cleared : Stored board.crc b.report.clearOut := whole.report
    rw [← report] at cleared
    exact cleared
  ld := by
    intro role up
    have integrity := whole.ld role (awake up)
    have cleared : LdIntegrity board.crc b.ld.clearOut :=
      ⟨{ integrity.allocated with }, integrity.slots⟩
    rw [← ld] at cleared
    exact ⟨{ cleared.allocated with }, cleared.slots⟩
  config := by
    intro role idx entry held
    have cleared : b.config.clearOut.ledger idx = some entry := by
      rw [← config]
      exact held
    exact whole.config role idx entry cleared

theorem whole_config {s s' : ConfigPlane} {env : Env} {event : ConfigEvent}
    (role : env.deviceType = .anchor ∨ env.deviceType = .sensor)
    (separate : s.Elsewhere event) (stepped : s.step env event = .ok s')
    (sound : ∀ idx entry, s.ledger idx = some entry → entry.Sound env.crc) :
    ∀ idx entry, s'.ledger idx = some entry → entry.Sound env.crc := by
  have short : s.Short := fun idx active =>
    (sound idx _ (ConfigPlane.ledger_some.mpr ⟨active, rfl⟩)).fits
  intro idx entry held
  by_cases isConfig : ∃ pkt srcId, event = .config pkt srcId
  · obtain ⟨pkt, srcId, rfl⟩ := isConfig
    cases stepped
    rcases @ConfigPlane.config_ledger env s pkt srcId short with
      ⟨-, new, there, -, stored⟩ | ⟨-, shrinks⟩
    · rw [stored] at held
      by_cases same : idx = there
      · rw [same, Function.update_self] at held
        cases held
        exact new
      · rw [Function.update_of_ne same] at held
        exact sound idx entry held
    · exact sound idx entry (shrinks idx entry held)
  · have shrinks := ConfigPlane.step_shrinks role short separate
      (fun pkt srcId same => isConfig ⟨pkt, srcId, same⟩) stepped
    exact sound idx entry (shrinks idx entry held)

/-- A chunk of a report that is announced as its sensor cut it is stored
inside its slot, so that nothing is overwritten. -/
theorem Did.whole (did : Did board b occurrence b')
    (separate : LiveNet.Separate b occurrence.event)
    (reports : b.report.Genuine ReportMeta.Consistent)
    (whole : b.Whole board) : b'.Whole board := by
  have awake {s : MeshPlane} {up' : Bool} (up : b.mesh = .ok s)
      (_ : up' = true) : b.mesh.isOk = true := by
    rw [up]
    rfl
  cases did with
  | quiet same awake silent =>
      exact whole.clear awake same.config same.report same.ld
  | started io config report ld silent =>
      refine ⟨fun idx active => ?_, fun role up => ?_,
        fun role idx entry held => ?_⟩
      · rw [report] at active
        cases active
      · rw [ld]
        refine ⟨{ allocated_largeDataInit (LdPlane.boot io.2.2) with },
          fun idx active => ?_⟩
        cases active
      · rw [config] at held
        cases held
  | recovered config report ld silent =>
      refine ⟨fun idx active => ?_, fun role up => ?_,
        fun role idx entry held => ?_⟩
      · rw [report] at active
        cases active
      · rw [ld]
        refine ⟨allocated_largeDataInit _, fun idx active => ?_⟩
        cases active
      · rw [config] at held
        cases held
  | config s event up handled stepped report ld sent =>
      have kept : ({ b' with config := b.config } : LiveBoard).Whole board :=
        whole.clear (awake up) rfl report (congrArg LdPlane.clearOut ld)
      refine ⟨kept.report, kept.ld, fun role =>
        whole_config role ?_ stepped (whole.config role)⟩
      rcases handled with kind | ⟨pkt, srcId, kind, rfl⟩
      · rw [kind] at separate
        cases event with
        | elsewhere psram uart => exact separate
        | _ => trivial
      · trivial
  | report s event up handled stepped config ld sent =>
      rw [handled] at separate
      have kept : ({ b' with report := b.report } : LiveBoard).Whole board :=
        whole.clear (awake up) (congrArg ConfigPlane.clearOut config) rfl
          (congrArg LdPlane.clearOut ld)
      have stored : Stored board.crc b'.report := ReportPlane.step_stored
        (reports.storesInside event) separate stepped whole.report
      exact ⟨stored, kept.ld, kept.config⟩
  | answered s pkt after up built report config ld silent =>
      have kept : ({ b' with report := b.report } : LiveBoard).Whole board :=
        whole.clear (awake up) config rfl (congrArg LdPlane.clearOut ld)
      have stored : Stored board.crc after.clearOut :=
        ReportPlane.step_stored (reports.storesInside (.routeInfo pkt))
          trivial built whole.report
      rw [← report] at stored
      exact ⟨stored, kept.ld, kept.config⟩
  | largeData s event up handled stepped config report sent =>
      rw [handled] at separate
      have kept : ({ b' with ld := b.ld } : LiveBoard).Whole board :=
        whole.clear (awake up) (congrArg ConfigPlane.clearOut config)
          (congrArg ReportPlane.clearOut report) rfl
      refine ⟨kept.report, fun role _ => ?_, kept.config⟩
      have integrity := whole.ld role (awake up rfl)
      have cleared : LdIntegrity board.crc b.ld.clearOut :=
        ⟨{ integrity.allocated with }, integrity.slots⟩
      exact (LdPlane.step_moves separate stepped).keepsIntegrity role cleared
  | button1 s up pressed report config ld silent =>
      have kept : ({ b' with report := b.report } : LiveBoard).Whole board :=
        whole.clear (awake up) (congrArg ConfigPlane.clearOut config) rfl
          (congrArg LdPlane.clearOut ld)
      refine ⟨?_, kept.ld, kept.config⟩
      rw [report]
      exact ReportPlane.defaultButton1Handler_stored
        (show Stored board.crc b.report.clearOut from whole.report)
  | button2 s layout up pressed config ld report silent =>
      refine ⟨?_, fun role _ => ?_, fun role => ?_⟩
      · rw [report]
        exact whole.report
      · have integrity := whole.ld role (awake up rfl)
        have unpressed : b'.ld = b.ld.clearOut := ld.trans (if_neg role)
        rw [unpressed]
        exact ⟨{ integrity.allocated with }, integrity.slots⟩
      · have notGateway : board.deviceType ≠ .gateway := by
          rcases role with role | role <;> rw [role] <;> nofun
        have unpressed : b'.config = b.config.clearOut :=
          config.trans (if_neg notGateway)
        rw [unpressed]
        exact whole.config role

end LiveBoard

end Boards

section Submissions

namespace Handled

variable (roster : Roster) (handled : Handled) (s : MeshPlane)

/-- The surroundings the event found. -/
def env : Env :=
  (s.surroundings (roster.board handled.id) handled.occurrence.now).toEnv

/-- A sensor was given this report: by its host in a command that passed the
checks, or by its button. -/
def Reports (command : ReportPlane.ReportCommand) : Prop :=
  handled.before.mesh = .ok s ∧
    ((∃ args, handled.occurrence.event = .report (.cmdReport args) ∧
        AcceptedCommand (handled.env roster s) (.cmdReport args) command) ∨
      handled.occurrence.event = .defaultButton1 ∧
        (handled.env roster s).deviceType = .sensor ∧
          command = ReportPlane.buttonReport (handled.env roster s)
            handled.before.dataId)

/-- A sensor was given this blob: announced by its host in a command that
passed the checks, or by its button. -/
def Stages (entry : LdIdentity) : Prop :=
  handled.before.mesh = .ok s ∧
    ((∃ args command,
        handled.occurrence.event = .largeData (.cmdLdInit args) ∧
          LdAcceptedCommand (handled.env roster s) (.cmdLdInit args) command ∧
            entry = command.identity (handled.env roster s)) ∨
      ∃ layout, handled.occurrence.event = .defaultButton2 layout ∧
        (handled.env roster s).deviceType = .sensor ∧
          ∃ dataId ∈ [(1 : UInt16), 2], entry = LdPlane.buttonBlob
            (handled.env roster s) LdPlane.buttonBlobSize dataId)

/-- A gateway was given this configuration: by its host in a command that
passed the checks, or by its button. -/
def Pushes (command : ConfigPlane.ConfigCommand) : Prop :=
  handled.before.mesh = .ok s ∧
    ((∃ args, handled.occurrence.event = .config (.cmdConfig args) ∧
        ConfigPlane.admitConfig (handled.env roster s) args = some command) ∨
      ∃ layout, handled.occurrence.event = .defaultButton2 layout ∧
        (handled.env roster s).deviceType = .gateway ∧
          command = ConfigPlane.buttonConfig (handled.env roster s) layout
            (handled.before.config.slots ConfigPlane.buttonSlot).configId)

variable {roster handled s}

/-- A report comes with the checksum of its bytes, and is cut into chunks that
make it up. -/
theorem Reports.sound {command : ReportPlane.ReportCommand}
    (reports : handled.Reports roster s command) :
    (command.metadata (handled.env roster s)).Consistent ∧
      roster.crc.ieee command.payload = command.report.dataCrc32 ∧
        command.report.dataLen.toNat = command.payload.length := by
  have sound {env : Env} {event : ReportEvent}
      (accepted : AcceptedCommand env event command)
      (crc : env.crc = roster.crc) :
      (command.metadata env).Consistent ∧
        roster.crc.ieee command.payload = command.report.dataCrc32 ∧
          command.report.dataLen.toNat = command.payload.length := by
    obtain ⟨_, -, parsed⟩ := accepted.parsed
    exact ⟨accepted.consistent, crc ▸ accepted.checksum,
      (ReportPlane.parseReport_some parsed).1⟩
  obtain ⟨-, ⟨args, -, accepted⟩ | ⟨-, role, rfl⟩⟩ := reports
  · exact sound accepted (roster.checked _)
  · obtain ⟨args, accepted⟩ := ReportPlane.buttonReport_accepted role
    have whole := sound accepted (roster.checked handled.id)
    exact whole

theorem Pushes.checksum {command : ConfigPlane.ConfigCommand}
    (pushes : handled.Pushes roster s command) :
    roster.crc.ieee command.payload = command.config.dataCrc32 := by
  have crc : (handled.env roster s).crc = roster.crc := roster.checked _
  rw [← crc]
  obtain ⟨-, ⟨args, -, admitted⟩ | ⟨layout, -, -, rfl⟩⟩ := pushes
  · exact ConfigPlane.admitConfig_checksum admitted
  · rfl

end Handled

namespace LiveNet

variable (roster : Roster) (net : LiveNet)

/-- What the hosts submitted and the buttons made up so far. -/
def knowledge : Knowledge where
  report entry := ∃ handled ∈ net.log, ∃ s command,
    handled.Reports roster s command ∧
      entry = (command.metadata (handled.env roster s)).untimed
  blob entry := ∃ handled ∈ net.log, ∃ s, handled.Stages roster s entry
  config entry := ∃ handled ∈ net.log, ∃ s command,
    handled.Pushes roster s command ∧ entry = command.identity

/-- All boards hold and all packets bring in what is on record, whole. -/
structure Genuine : Prop where
  boards : ∀ id, (net.nodes id).live.Genuine (net.knowledge roster)
  sent : ∀ packet ∈ net.sent, packet.2.Vouched (net.knowledge roster)
  whole : ∀ id, (net.nodes id).live.Whole (roster.board id)

end LiveNet

end Submissions

section Network

variable {roster : Roster} {net net' : LiveNet} {rom : UInt16 → Eeprom}

namespace LiveNet

theorem knowledge_mono (log : ∀ handled ∈ net.log, handled ∈ net'.log) :
    (net.knowledge roster).Implies (net'.knowledge roster) where
  report := fun _ ⟨handled, inside, rest⟩ => ⟨handled, log handled inside, rest⟩
  blob := fun _ ⟨handled, inside, rest⟩ => ⟨handled, log handled inside, rest⟩
  config := fun _ ⟨handled, inside, rest⟩ => ⟨handled, log handled inside, rest⟩

/-- The chunks of every report make it up. -/
theorem knowledge_consistent {entry : ReportMeta}
    (known : (net.knowledge roster).report entry) : entry.Consistent := by
  obtain ⟨handled, -, s, command, reports, rfl⟩ := known
  obtain ⟨nonempty, fits, some_, covered, bounded⟩ := reports.sound.1
  exact ⟨nonempty, fits, some_, covered, bounded⟩

/-- What a packet that was sent brings in. -/
theorem received_genuine {known : Knowledge} {b : LiveBoard} {env : Env}
    {srcId : UInt16} {rssi2 : Int16} {pkt : AirPacket} {event : LiveEvent}
    (vouched : pkt.Vouched known)
    (received : pkt.received srcId rssi2 = some event) :
    event.Genuine known b env := by
  cases pkt with
  | mesh pkt => cases pkt <;> cases received <;> trivial
  | data pkt =>
      cases pkt <;> first
        | cases received; exact vouched
        | cases received

theorem received_separate {b : LiveBoard} {srcId : UInt16} {rssi2 : Int16}
    {pkt : AirPacket} {event : LiveEvent}
    (received : pkt.received srcId rssi2 = some event) :
    Separate b event ∧ ∀ index, event ≠ .retry index := by
  cases pkt with
  | mesh pkt => cases pkt <;> cases received <;> exact ⟨trivial, nofun⟩
  | data pkt =>
      cases pkt <;> first
        | cases received; exact ⟨trivial, nofun⟩
        | cases received

/-- What a board does on its own is known once it is on record. -/
theorem act_genuine {known : Knowledge} {id : UInt16}
    {occurrence : LiveOccurrence} (isLocal : occurrence.event.isLocal = true)
    (recorded : Handled.mk id (net.nodes id).live occurrence ∈ net'.log)
    (implies : (net'.knowledge roster).Implies known) (s : MeshPlane)
    (up : (net.nodes id).live.mesh = .ok s) :
    occurrence.event.Genuine known (net.nodes id).live
      (s.surroundings (roster.board id) occurrence.now).toEnv := by
  generalize kind : occurrence.event = event at isLocal ⊢
  cases event with
  | report event =>
      cases event with
      | cmdReport args =>
          intro command accepted
          exact implies.report _ ⟨_, recorded, s, command,
            ⟨up, .inl ⟨args, kind, accepted⟩⟩, rfl⟩
      | reportInit pkt srcId => cases isLocal
      | _ => trivial
  | largeData event =>
      cases event with
      | cmdLdInit args =>
          intro command accepted
          exact implies.blob _ ⟨_, recorded, s, up,
            .inl ⟨args, command, kind, accepted, rfl⟩⟩
      | largeDataInit pkt srcId => cases isLocal
      | _ => trivial
  | config event =>
      cases event with
      | cmdConfig args =>
          intro command admitted
          exact implies.config _ ⟨_, recorded, s, command,
            ⟨up, .inl ⟨args, kind, admitted⟩⟩, rfl⟩
      | config pkt srcId => cases isLocal
      | _ => trivial
  | defaultButton1 =>
      intro role
      exact implies.report _ ⟨_, recorded, s, _,
        ⟨up, .inr ⟨kind, role, rfl⟩⟩, rfl⟩
  | defaultButton2 layout =>
      refine ⟨fun role => ?_, fun role dataId member => ?_⟩
      · exact implies.config _ ⟨_, recorded, s, _,
          ⟨up, .inr ⟨layout, kind, role, rfl⟩⟩, rfl⟩
      · exact implies.blob _ ⟨_, recorded, s, up,
          .inr ⟨layout, kind, role, dataId, member, rfl⟩⟩
  | _ => trivial

/-- A board handles an event that brings in what is on record afterwards. -/
theorem handle_genuine {id : UInt16} {occurrence : LiveOccurrence}
    (genuine : net.Genuine roster)
    (separate : Separate (net.nodes id).live occurrence.event)
    (fresh : ∀ index, occurrence.event ≠ .retry index)
    (new : ∀ s, (net.nodes id).live.mesh = .ok s →
      occurrence.event.Genuine (net'.knowledge roster) (net.nodes id).live
        (s.surroundings (roster.board id) occurrence.now).toEnv)
    (handled : net.handle roster id occurrence = .ok net') :
    net'.Genuine roster := by
  unfold handle at handled
  split at handled
  · cases handled
  · next node sent stepped =>
    have outcome := Except.ok.inj handled
    have implies : (net.knowledge roster).Implies (net'.knowledge roster) :=
      knowledge_mono fun entry inside => by
        rw [← outcome]
        exact List.mem_append_left _ inside
    have before := (genuine.boards id).mono implies
    unfold LiveNode.step at stepped
    split at stepped
    · cases stepped
    · next live moved =>
      have did := LiveBoard.step_did fresh moved
      obtain ⟨kept, vouched⟩ := did.genuine separate new before
      have whole := did.whole separate
        ((genuine.boards id).report.mono fun _ => knowledge_consistent)
        (genuine.whole id)
      have results := Except.ok.inj stepped
      have nodes : ∀ other, (net'.nodes other).live =
          if other = id then live else (net.nodes other).live := by
        intro other
        rw [← outcome]
        by_cases same : other = id
        · subst same
          rw [if_pos rfl, show live = node.live from
            congrArg (fun pair => pair.1.live) results]
          exact congrArg LiveNode.live (Function.update_self _ _ _)
        · rw [if_neg same]
          exact congrArg LiveNode.live (Function.update_of_ne same _ _)
      constructor
      · intro other
        rw [nodes]
        split
        · exact kept
        · exact (genuine.boards other).mono implies
      · intro packet member
        have there : packet ∈ net.sent ++ sent.map fun pkt => (id, pkt) := by
          rw [← outcome] at member
          exact member
        rcases List.mem_append.mp there with old | new
        · exact (genuine.sent packet old).mono implies
        · obtain ⟨pkt, inside, rfl⟩ := List.mem_map.mp new
          rw [show sent = _ from (congrArg Prod.snd results).symm] at inside
          obtain ⟨order, ordered, first, stamps, found, same⟩ :=
            mem_stampRun inside
          have known := (vouched order ordered).packet found
          rcases same with rfl | ⟨trackingId, rfl⟩
          · exact known
          · exact AirPacket.vouched_stamp known trackingId
      · intro other
        rw [nodes]
        split
        · next same => exact same ▸ whole
        · exact genuine.whole other

theorem step_genuine {event : LiveNetEvent} (genuine : net.Genuine roster)
    (admitted : net.Admits event) (stepped : net.step roster event = .ok net') :
    net'.Genuine roster := by
  cases event with
  | act id occurrence =>
      obtain ⟨isLocal, separate⟩ := admitted
      refine handle_genuine genuine separate (fun index retried => ?_)
        (act_genuine isLocal ?_ (knowledge_mono fun _ inside => inside))
        stepped
      · rw [retried] at isLocal
        cases isLocal
      · have stepped : net.handle roster id occurrence = .ok net' := stepped
        unfold handle at stepped
        split at stepped
        · cases stepped
        · cases stepped
          exact List.mem_append_right _ List.mem_cons_self
  | hear id position rssi2 occurrence =>
      unfold step at stepped
      dsimp only at stepped
      split at stepped
      · cases stepped
        exact genuine
      · next srcId pkt sent =>
        split at stepped
        · cases stepped
          exact genuine
        · next event received =>
          obtain ⟨separate, fresh⟩ := received_separate received
          have implies : (net.knowledge roster).Implies
              (net'.knowledge roster) := by
            refine knowledge_mono fun entry inside => ?_
            unfold handle at stepped
            split at stepped
            · cases stepped
            · rw [← Except.ok.inj stepped]
              exact List.mem_append_left _ inside
          have vouched := (genuine.sent (srcId, pkt)
            (List.mem_of_getElem? sent)).mono implies
          exact handle_genuine genuine separate fresh
            (fun s up => received_genuine vouched received) stepped

/-- Nothing in a network was made up. -/
theorem reach_genuine (reach : Trace.Reach (step roster) Admits (off rom) net) :
    net.Genuine roster := by
  apply reach.invariant
  · refine ⟨fun id => ⟨fun idx active => ?_, fun idx active => ?_,
      fun idx some_ => absurd rfl some_⟩, fun packet member => ?_,
      fun id => ⟨fun idx active => ?_, fun role up => ?_,
        fun role idx entry held => ?_⟩⟩
    · cases active
    · cases active
    · cases member
    · cases active
    · cases up
    · cases held
  · intro before event after genuine admitted stepped
    exact step_genuine genuine admitted stepped

section Pair

/-- Board 1 is the gateway, the others are sensors. -/
def pairRoster : Roster where
  board id :=
    { deviceType := if id = 1 then .gateway else .sensor
      deviceId := id
      crc := Checksum.crc32Ieee }
  addressed := fun _ => rfl
  crc := Checksum.crc32Ieee
  checked := fun _ => rfl

/-- Gateway 1 and sensor 5 have each other in their EEPROMs. -/
def pairRom (id : UInt16) : Eeprom :=
  if id = 1 then
    { mesh :=
        { header := some 1
          cells := fun _ => some
            { deviceType := DeviceType.sensor.code, deviceId := 5
              serialNum := 5, connectedDeviceId := 1 } } }
  else
    { infra :=
        { header := some 1
          cells := fun _ => some
            { deviceType := DeviceType.gateway.code, deviceId := 1 } } }

def acts (id : UInt16) (event : LiveEvent) : LiveNetEvent :=
  .act id { event := event }

def hears (id : UInt16) (position : Nat) : LiveNetEvent :=
  .hear id position 0 { event := .reboot }

def bothStart : List LiveNetEvent :=
  [acts 1 (.start {} {} {}), acts 5 (.start {} {} {})]

theorem admits_bothStart {event : LiveNetEvent} (member : event ∈ bothStart) :
    net.Admits event := by
  simp only [bothStart, List.mem_cons, List.not_mem_nil, or_false] at member
  rcases member with rfl | rfl <;> exact ⟨rfl, trivial⟩

/-- The sensor is given the one-byte report `07` and hands it on. -/
def reportSubmitted : List LiveNetEvent :=
  [acts 5 (.report (.cmdReport
      "\"5\",\"1\",\"1\",\"0\",\"4C667A2E\",\"07\"".toList)),
    acts 5 (.report .tick), hears 1 0, hears 5 1, hears 1 2]

theorem admits_reportSubmitted (event : LiveNetEvent)
    (member : event ∈ bothStart ++ reportSubmitted) (before : LiveNet) :
    Admits before event := by
  rcases List.mem_append.mp member with member | member
  · exact admits_bothStart member
  · simp only [reportSubmitted, List.mem_cons, List.not_mem_nil, or_false]
      at member
    rcases member with rfl | rfl | rfl | rfl | rfl
    · exact ⟨rfl, trivial⟩
    · exact ⟨rfl, trivial⟩
    · trivial
    · trivial
    · trivial

end Pair

section Packets

/-- What the sensor announces. -/
def announcedReport : ReportInit where
  hdr :=
    { deviceType := DeviceType.sensor.code
      trackingId := 1
      deviceId := 1 }
  genDeviceId := 5
  dataId := 1
  reportTimeMs := 0
  totalSize := 1
  chunkCount := 1
  lastChunkSize := 1
  crc32 := 0x4C667A2E

/-- No board stores a chunk outside the slot of its report, and every report it
holds as verified has its checksum. -/
theorem reports_isolated
    (reach : Trace.Reach (step roster) Admits (off rom) net) (id : UInt16) :
    (∀ idx chunk pkt,
      StorableChunk (net.nodes id).live.report idx chunk pkt →
        pkt.chunkIndex.toNat * sendDataMax +
          (ReportPlane.storedChunkSize ((net.nodes id).live.report.slots idx)
            pkt.chunkIndex).toNat ≤ maxReportSize) ∧
      ∀ idx, ((net.nodes id).live.report.slots idx).active = true →
        ((net.nodes id).live.report.slots idx).upstreamReady = true →
          roster.crc.ieee (slotBytes (net.nodes id).live.report.io.psram.mem
            idx ((net.nodes id).live.report.slots idx)) =
              ((net.nodes id).live.report.slots idx).crc32 := by
  have genuine := reach_genuine reach
  refine ⟨fun idx chunk pkt storable => ?_, fun idx active ready => ?_⟩
  · have consistent := (genuine.boards id).report.mono
      fun _ => knowledge_consistent
    exact consistent.storesInside (.reportChunk pkt 0) pkt 0 idx chunk rfl
      storable
  · have stored := ((genuine.whole id).report idx active).checksum ready
    rw [roster.checked] at stored
    exact stored

theorem reports_isolated_oneByte :
    ∃ net, Trace.run (step pairRoster) (off pairRom)
        (bothStart ++ reportSubmitted) = .ok net ∧
      pairRoster.crc.ieee (slotBytes (net.nodes 1).live.report.io.psram.mem
        ⟨0, by decide⟩ ((net.nodes 1).live.report.slots ⟨0, by decide⟩)) =
          ((net.nodes 1).live.report.slots ⟨0, by decide⟩).crc32 := by
  obtain ⟨net, executed, active, ready⟩ :
      Trace.Ends (step pairRoster) (off pairRom)
        (bothStart ++ reportSubmitted) fun net =>
          ((net.nodes 1).live.report.slots ⟨0, by decide⟩).active = true ∧
            ((net.nodes 1).live.report.slots
              ⟨0, by decide⟩).upstreamReady = true := by
    decide +kernel
  exact ⟨net, executed,
    (reports_isolated (.of_run admits_reportSubmitted executed) 1).2 _ active
      ready⟩

end Packets

section Lines

variable {id : UInt16} {occurrence : LiveOccurrence} {after : LiveBoard}

/-- The host of a gateway is told about such reports only, with their size,
their checksum and bytes of the same checksum. -/
theorem reportLines_submitted
    (reach : Trace.Reach (step roster) Admits (off rom) net)
    (role : (roster.board id).deviceType = .gateway)
    (ticks : occurrence.event = .report .tick)
    (ticked : (net.nodes id).live.step (roster.board id) occurrence = .ok after)
    {sn reportTimeMs : UInt64} {dataId : UInt8} {totalSize : UInt16}
    {crc32 : UInt32} {payload : List UInt8}
    (line : .data (.line (.report sn dataId reportTimeMs totalSize crc32
      payload)) ∈ after.out) :
    ∃ handled ∈ net.log, ∃ s command, handled.Reports roster s command ∧
      dataId = command.report.dataId.toUInt8 ∧
        totalSize = command.report.dataLen ∧
          crc32 = command.report.dataCrc32 ∧
            payload.length = command.payload.length ∧
              roster.crc.ieee payload = roster.crc.ieee command.payload := by
  obtain ⟨s, up, stepped, told⟩ := LiveBoard.told ticks nofun ticked line
  obtain ⟨idx, active, ready, serialNum, own⟩ :=
    ReportPlane.tick_lines role stepped told
  cases own
  have genuine := reach_genuine reach
  obtain ⟨entry, recorded, t, command, reported, equal⟩ :=
    (genuine.boards id).report idx active
  have stored := ((genuine.whole id).report idx active).checksum ready
  have size : ((net.nodes id).live.report.slots idx).totalSize =
      command.report.dataLen := congrArg ReportMeta.totalSize equal
  have checksum : ((net.nodes id).live.report.slots idx).crc32 =
      command.report.dataCrc32 := congrArg ReportMeta.crc32 equal
  refine ⟨entry, recorded, t, command, reported,
    congrArg ReportMeta.dataId equal, size, checksum, ?_, ?_⟩
  · rw [slotBytes, slice_length, size]
    exact reported.sound.2.2
  · rw [roster.checked, checksum] at stored
    exact stored.trans reported.sound.2.1.symm

theorem reportLines_submitted_oneByte :
    ∃ net after, Trace.run (step pairRoster) (off pairRom)
        (bothStart ++ reportSubmitted) = .ok net ∧
      (net.nodes 1).live.step (pairRoster.board 1)
        { event := .report .tick } = .ok after ∧
      .data (.line (.report 5 1 0 1 0x4C667A2E [7])) ∈ after.out ∧
      ∃ handled ∈ net.log, ∃ s command, handled.Reports pairRoster s command ∧
        1 = command.report.dataId.toUInt8 ∧ 1 = command.report.dataLen ∧
          0x4C667A2E = command.report.dataCrc32 ∧
            [(7 : UInt8)].length = command.payload.length ∧
              pairRoster.crc.ieee [7] =
                pairRoster.crc.ieee command.payload := by
  obtain ⟨net, executed, after, ticked, told⟩ :
      Trace.Ends (step pairRoster) (off pairRom)
        (bothStart ++ reportSubmitted) fun net =>
          Trace.Ends (LiveBoard.step (pairRoster.board 1)) (net.nodes 1).live
            [{ event := .report .tick }] fun after =>
              .report 5 1 0 1 0x4C667A2E [7] ∈
                after.out.filterMap Enqueued.text := by
    decide +kernel
  rw [Trace.run_single] at ticked
  exact ⟨net, after, executed, ticked, mem_of_text told,
    reportLines_submitted (.of_run admits_reportSubmitted executed) rfl rfl ticked
      (mem_of_text told)⟩

/-- The host of a gateway is told about such blobs only, with their size and
their checksum, which the bytes the gateway holds have as well. -/
theorem ldInitLines_submitted
    (reach : Trace.Reach (step roster) Admits (off rom) net)
    (role : (roster.board id).deviceType = .gateway)
    (ticks : occurrence.event = .largeData .tick)
    (ticked : (net.nodes id).live.step (roster.board id) occurrence = .ok after)
    {sn reportTimeMs : UInt64} {dataId : UInt8} {totalSize crc32 : UInt32}
    {totalChunks lastChunkSize crc16 : UInt16}
    (line : .data (.line (.ldInit sn dataId reportTimeMs totalSize totalChunks
      lastChunkSize crc32 crc16)) ∈ after.out) :
    (∃ handled ∈ net.log, ∃ s entry, handled.Stages roster s entry ∧
      dataId = entry.dataId ∧ totalSize = entry.totalSize ∧
        crc32 = entry.crc32) ∧
      ∃ idx, ((net.nodes id).live.ld.slots idx).active = true ∧
        roster.crc.ieee (slice (net.nodes id).live.ld.io.psram.mem
          ((net.nodes id).live.ld.slots idx).baseAddr.toNat
          totalSize.toNat) = crc32 := by
  obtain ⟨s, up, stepped, told⟩ := LiveBoard.told ticks nofun ticked line
  obtain ⟨idx, active, ready, serialNum, own⟩ :=
    LdPlane.tick_lines role stepped told
  cases own
  have genuine := reach_genuine reach
  obtain ⟨entry, recorded, t, staged⟩ := (genuine.boards id).ld idx active
  have integrity := (genuine.whole id).ld (by rw [role]; decide)
    (by rw [up]; rfl)
  have stored := (integrity.slots idx active).checksum ready
  rw [roster.checked] at stored
  exact ⟨⟨entry, recorded, t, _, staged, rfl, rfl, rfl⟩, idx, active, stored⟩

/-- The sensor is given the one-byte blob `07` and hands it on. -/
def blobStaged : List LiveNetEvent :=
  [acts 5 (.largeData (.cmdLdInit
      "\"5\",\"1\",\"1\",\"1\",\"1\",\"4C667A2E\",\"3CD1\"".toList)),
    acts 5 (.largeData (.cmdLdChunk
      "\"5\",\"1\",\"0\",\"0\",\"9117\",\"07\"".toList)),
    acts 5 (.largeData .tick), hears 1 0, hears 5 1, hears 1 2]

theorem ldInitLines_submitted_oneByte :
    ∃ net after, Trace.run (step pairRoster) (off pairRom)
        (bothStart ++ blobStaged) = .ok net ∧
      (net.nodes 1).live.step (pairRoster.board 1)
        { event := .largeData .tick } = .ok after ∧
      .data (.line (.ldInit 5 1 0 1 1 1 0x4C667A2E 0xCDFD)) ∈ after.out ∧
      (∃ handled ∈ net.log, ∃ s entry, handled.Stages pairRoster s entry ∧
        1 = entry.dataId ∧ 1 = entry.totalSize ∧ 0x4C667A2E = entry.crc32) ∧
        ∃ idx, ((net.nodes 1).live.ld.slots idx).active = true ∧
          pairRoster.crc.ieee (slice (net.nodes 1).live.ld.io.psram.mem
            ((net.nodes 1).live.ld.slots idx).baseAddr.toNat
            (1 : UInt32).toNat) = 0x4C667A2E := by
  obtain ⟨net, executed, after, ticked, told⟩ :
      Trace.Ends (step pairRoster) (off pairRom) (bothStart ++ blobStaged)
        fun net =>
          Trace.Ends (LiveBoard.step (pairRoster.board 1)) (net.nodes 1).live
            [{ event := .largeData .tick }] fun after =>
              .ldInit 5 1 0 1 1 1 0x4C667A2E 0xCDFD ∈
                after.out.filterMap Enqueued.text := by
    decide +kernel
  rw [Trace.run_single] at ticked
  have admitted : ∀ event ∈ bothStart ++ blobStaged, ∀ before,
      Admits before event := by
    intro event member before
    rcases List.mem_append.mp member with member | member
    · exact admits_bothStart member
    · simp only [blobStaged, List.mem_cons, List.not_mem_nil, or_false]
        at member
      rcases member with rfl | rfl | rfl | rfl | rfl | rfl
      · exact ⟨rfl, trivial⟩
      · exact ⟨rfl, trivial⟩
      · exact ⟨rfl, trivial⟩
      · trivial
      · trivial
      · trivial
  exact ⟨net, after, executed, ticked, mem_of_text told,
    ldInitLines_submitted (.of_run admitted executed) rfl rfl ticked
      (mem_of_text told)⟩

/-- The gateway is given the one-byte configuration `07` for the sensor. -/
def configPushed : List LiveNetEvent :=
  [acts 1 (.config (.cmdConfig
      "\"5\",\"1\",\"1\",\"4C667A2E\",\"07\"".toList)),
    acts 1 (.config .tick), hears 5 0]

end Lines

end LiveNet

end Network

end DectMesh
