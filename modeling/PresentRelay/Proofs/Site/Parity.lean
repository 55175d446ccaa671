import PresentRelay.Proofs.Hub.Calls
import PresentRelay.Proofs.Site.Custody
import PresentRelay.Proofs.Wire.Calls
import PresentRelay.Proofs.Wire.Lengths

/-!
# Consumers on both sides of the wire

A consumer can wait and export in the process or over a connection.  An export crosses the wire as
the list of its valid positions and the descriptors of those, from which `assignFiles` rebuilds
it.  At every moment of a site a call that waits or exports comes to what the same operation comes
to in the process, and leaves the same relay: `wire_consumer_agrees`.
-/

set_option autoImplicit false

namespace PresentRelay

/-! ## Waits on the wire -/

deriving instance DecidableEq for EventChannel.Wait

namespace EventChannel.Wait

/-- What a wait comes to over the wire. -/
def handled : Wait → Handled
  | .ready (.ok event) => .reply (.ofEvent event) []
  | .ready (.error error) => .failed error
  | .blocked => .waits .event

/-- What a call that waits yields then; nothing yet if the wait goes on. -/
def outcome : Wait → Option (Except RelayError CallResult)
  | .ready outcome => some (outcome.map .event)
  | .blocked => none

def awaited : Wait → Option Awaited
  | .ready _ => none
  | .blocked => some .event

end EventChannel.Wait

namespace Relay

variable {relay : Relay} {link : Nat}

/-- A link that is not torn down is due an event, or blocks and changes nothing. -/
theorem wait_of_live (live : (relay.link link).tornDown = false) :
    (relay.link link).raised = .none ∧ relay.wait link = (relay, .blocked) ∨
      ∃ event, (relay.wait link).2 = .ready (.ok event) := by
  by_cases nothing : (relay.link link).raised = .none
  · have same := relay.set_link_self link
    exact .inl ⟨nothing, by simp [wait, EventChannel.wait, EventChannel.poll, live, nothing, same]⟩
  · exact .inr ⟨⟨(relay.link link).raised, (relay.link link).power⟩, by
      simp [wait, EventChannel.wait, EventChannel.poll, live, nothing]⟩

end Relay

namespace Session

variable {session : Session} {relay : Relay} {link : Nat}

theorem answerAwaited_eq_wait (relay : Relay) (held : session.link = some link) :
    session.answerAwaited relay .event = ((relay.wait link).1,
      match (relay.wait link).2 with
      | .blocked => none
      | .ready outcome => some (EventChannel.Wait.ready outcome).handled) := by
  rw [relay.wait_eq link]
  simp only [answerAwaited, held]
  rcases relay.poll link with ⟨after, _ | _ | _⟩ <;> rfl

theorem handle_wait (relay : Relay) (held : session.link = some link)
    (serves : session.awaited = none) :
    session.handle relay .wait [] =
      ({ session with awaited := (relay.wait link).2.awaited }, (relay.wait link).1,
        (relay.wait link).2.handled) := by
  have answered := answerAwaited_eq_wait relay held
  obtain ⟨client, _, _⟩ := session
  cases held
  cases serves
  simp only [handle, withLink, await, answered]
  rcases relay.wait link with ⟨after, outcome | _⟩ <;> rfl

theorem withLink_of_link (held : session.link = some link) :
    session.withLink relay = (session, relay, .ok link) := by
  rw [withLink, held]

theorem warnings_exportFrame (held : session.link = some link) :
    session.warnings relay .exportFrame = relay.exportWarnings := by
  unfold warnings
  simp only [withLink_of_link held]

theorem handle_exportFrame (relay : Relay) (held : session.link = some link) :
    session.handle relay .exportFrame [] =
      (session, relay.exportActive.1, exportReply relay.exportActive.2) := by
  simp only [handle, withLink_of_link held]

end Session

/-! ## What a call yields -/

theorem Handled.outcome_ofEvent (event : RelayEvent) :
    (Handled.reply (.ofEvent event) []).outcome .wait = some (.ok (.event event)) := by
  show some (Except.ok (CallResult.event ⟨.ofBits event.flags.bits, event.power⟩)) = _
  rw [EventFlags.ofBits_bits]

/-- Over the wire, what a wait yields fits a frame and stays what it is. -/
theorem Relay.fits_wait {relay : Relay} {link : Nat}
    (live : (relay.link link).tornDown = false) :
    (relay.wait link).2.handled.Fits ∧
      (relay.wait link).2.handled.outcome .wait = (relay.wait link).2.outcome := by
  obtain ⟨-, blocked⟩ | ⟨event, ready⟩ := Relay.wait_of_live live
  · rw [blocked]
    exact ⟨nofun, rfl⟩
  · rw [ready]
    refine ⟨?_, Handled.outcome_ofEvent event⟩
    intro response files given
    cases given
    exact ⟨Response.fits_ofEvent event, Nat.zero_le _⟩

theorem Handled.outcome_exportReply {exported : Export} (few : exported.count ≤ maxPlanes) :
    (Session.exportReply exported).outcome .exportFrame = some (.ok (.exported exported)) := by
  have small : exported.count < UInt64.size := Nat.lt_of_le_of_lt few (by decide)
  have agree : ¬ (exported.valid.length ≠ (UInt64.ofNat exported.count).toNat ∨
      exported.valid.countP (fun v => v) ≠ exported.files.length) := by
    rw [exported.length_valid, exported.countP_valid, UInt64.toNat_ofNat_of_lt' small]
    simp
  show some (Call.readExport exported.id _ exported.valid exported.files) = _
  rw [Call.readExport, if_neg agree, exported.assignFiles_valid]

theorem Handled.fits_exportReply {exported : Export} (few : exported.count ≤ maxPlanes) :
    (Session.exportReply exported).Fits := by
  intro response files given
  cases given
  exact ⟨Response.fits_exported _ _ (exported.length_valid.trans_le few),
    (exported.length_files_le.trans few).trans (by decide)⟩

theorem Relay.Slight.exports {relay : Relay} (slight : relay.Slight) :
    relay.exportActive.2.count ≤ maxPlanes := by
  show (Export.ofRecord? relay.slots.active).count ≤ maxPlanes
  cases active : relay.slots.active with
  | none => exact Nat.zero_le _
  | some record =>
    rw [Export.ofRecord?, Export.count_ofRecord]
    exact slight.shown record (by simp [Slots.records, active])

namespace Hub

variable {hub : Hub} {number : Nat} {session : Session} {link : Nat}

theorem registered_of_link (possessed : hub.Possessed)
    (present : hub.session? number = some session) (held : session.link = some link) :
    hub.relay.registered = session.link ∧ (hub.relay.link link).tornDown = false := by
  have registered := (Possession.backed possessed present).registered link held
  exact ⟨registered.trans held.symm, Session.live_of_registered possessed.sound registered⟩

theorem callAlone_wait (possessed : hub.Possessed)
    (found : hub.connections[number]? = some (.quiet session)) (held : session.link = some link)
    (serves : session.awaited = none) :
    hub.callAlone number .wait =
        (hub.afterCall number { session with awaited := (hub.relay.wait link).2.awaited }
          (hub.relay.wait link).1 [], (hub.relay.wait link).2.outcome) ∧
      (hub.Settled → hub.call number .wait = hub.callAlone number .wait) := by
  obtain ⟨mine, live⟩ := registered_of_link possessed (session?_quiet found) held
  have served := Session.handle_wait hub.relay held serves
  have fits : Call.wait.request.encode.length ≤ Frame.maxPayload := by decide +kernel
  have answers := Relay.fits_wait live
  refine ⟨?_, fun settled => ?_⟩
  · rw [callAlone_eq found serves fits rfl served answers.1, answers.2]
    rfl
  · refine call_eq_callAlone settled possessed found mine serves fits rfl served answers.1 rfl ?_
    intro awaited waits
    obtain ⟨-, blocked⟩ | ⟨event, ready⟩ := Relay.wait_of_live live
    · -- what blocked changed nothing, and so blocks again
      have again := Session.answerAwaited_eq_wait hub.relay
        (show Session.link { session with awaited := some .event } = some link from held)
      rw [blocked] at waits again ⊢
      cases waits
      exact congrArg Prod.snd again
    · rw [ready] at waits
      cases waits

theorem advance_event (possessed : hub.Possessed)
    (found : hub.connections[number]? = some (.quiet session)) (held : session.link = some link)
    (waits : session.awaited = some .event) :
    (hub.advance number = none ↔ (hub.relay.wait link).2 = .blocked) ∧
      ∀ outcome, (hub.relay.wait link).2 = .ready outcome → ∃ replies,
        hub.advance number = some ({ hub with relay := (hub.relay.wait link).1 }.put number
          { Connection.quiet { session with awaited := none } with replies }) ∧
        Call.wait.receive replies = (.empty, some (outcome.map .event)) := by
  obtain ⟨-, live⟩ := registered_of_link possessed (session?_quiet found) held
  have answered := Session.answerAwaited_eq_wait hub.relay held
  obtain ⟨fits, yields⟩ := Relay.fits_wait live
  rcases waited : hub.relay.wait link with ⟨after, outcome | _⟩
  all_goals rw [waited] at answered fits yields
  · -- an answer is due: the session stops waiting and the peer finds it on its replies
    have goes := advance_answered found waits answered fits
    refine ⟨by simp [goes], fun same given => ?_⟩
    cases given
    refine ⟨_, goes, ?_⟩
    rw [Handled.receive_replies fits, yields]
    rfl
  · refine ⟨⟨fun _ => rfl, fun _ => ?_⟩, nofun⟩
    exact advance_blocked found waits (congrArg Prod.snd answered)

theorem callAlone_exportFrame (possessed : hub.Possessed) (slight : hub.relay.Slight)
    (found : hub.connections[number]? = some (.quiet session)) (held : session.link = some link)
    (serves : session.awaited = none) :
    hub.callAlone number .exportFrame =
        (hub.afterCall number session hub.relay.exportActive.1 hub.relay.exportWarnings,
          some (.ok (.exported hub.relay.exportActive.2))) ∧
      (hub.Settled → hub.call number .exportFrame = hub.callAlone number .exportFrame) := by
  obtain ⟨mine, -⟩ := registered_of_link possessed (session?_quiet found) held
  have served := Session.handle_exportFrame hub.relay held
  have fits : Call.exportFrame.request.encode.length ≤ Frame.maxPayload := by decide +kernel
  have answers := Handled.fits_exportReply slight.exports
  refine ⟨?_, fun settled => ?_⟩
  · rw [callAlone_eq found serves fits rfl served answers,
      Handled.outcome_exportReply slight.exports, Call.request, Session.warnings_exportFrame held]
  · exact call_eq_callAlone settled possessed found mine serves fits rfl served answers rfl
      fun awaited waits => by cases serves.symm.trans waits

end Hub

namespace Site

/-- At every moment of every mixture of users and sessions, a peer on a quiet connection whose
session has the registration waits and exports as a link in the process does.  While no other
session takes a step, its call yields what `Relay.wait` and `Relay.exportActive` yield there, and
leaves their relay; if no session can go on before it, that is all that happens during the call.
A session that waits goes on exactly if `Relay.wait` does not block, and then answers with what it
yields.  Whatever the reply to an export, the call succeeds exactly if the reply has as many
positions as it counts and as many valid ones as descriptors came, and gives them the descriptors
in order. -/
theorem wire_consumer_agrees (mode : Mode) (acts : List Act) {number link : Nat}
    {session : Session}
    (found : ((new mode).run acts).hub.connections[number]? = some (.quiet session))
    (held : session.link = some link) :
    let hub := ((new mode).run acts).hub
    let waited := hub.relay.wait link
    let exported := hub.relay.exportActive
    (session.awaited = none →
      hub.callAlone number .wait =
        (hub.afterCall number { session with awaited := waited.2.awaited } waited.1 [],
          waited.2.outcome) ∧
      hub.callAlone number .exportFrame =
        (hub.afterCall number session exported.1 hub.relay.exportWarnings,
          some (.ok (.exported exported.2))) ∧
      (hub.Settled → hub.call number .wait = hub.callAlone number .wait ∧
        hub.call number .exportFrame = hub.callAlone number .exportFrame)) ∧
    (session.awaited = some .event →
      (hub.advance number = none ↔ waited.2 = .blocked) ∧
      ∀ outcome, waited.2 = .ready outcome → ∃ replies,
        hub.advance number = some ({ hub with relay := waited.1 }.put number
          { Connection.quiet { session with awaited := none } with replies }) ∧
        Call.wait.receive replies = (.empty, some (outcome.map .event))) ∧
    ∀ id count valid files,
      let outcome := Call.exportFrame.interpret files (.exported id count valid)
      ((∃ result, outcome = .ok result) ↔
        valid.length = count.toNat ∧ valid.countP (fun v => v) = files.length) ∧
      ∀ result, outcome = .ok result → ∃ handles, result = .exported ⟨id, handles⟩ ∧
        handles.map Option.isSome = valid ∧ handles.filterMap (fun handle => handle) = files := by
  intro hub waited exported
  have possessed : hub.Possessed := possessed_run mode acts
  have slight : hub.relay.Slight := (slight_run mode acts).relay
  refine ⟨fun serves => ?_, fun waits => ?_, Call.interpret_exported⟩
  · obtain ⟨waits, waitsSettled⟩ := Hub.callAlone_wait possessed found held serves
    obtain ⟨exports, exportsSettled⟩ :=
      Hub.callAlone_exportFrame possessed slight found held serves
    exact ⟨waits, exports, fun settled => ⟨waitsSettled settled, exportsSettled settled⟩⟩
  · exact Hub.advance_event possessed found held waits

/-- A framebuffer of which one plane cannot be minted is shown to a consumer that calls, and to one
that has waited for it. -/
theorem wire_consumer_agrees_plane_missing :
    let ask (request : Request) : List Act :=
      [.outside (.send 0 ⟨Frame.encode request.encode, []⟩), .outside (.advance 0),
        .outside (.advance 0)]
    let make : List Act :=
      [.inside (.makeBuffer [] true), .inside (.makeBuffer [] false), .inside .openClient,
        .inside (.register 0 0), .inside (.register 0 1), .inside (.createFramebuffer 0 [1, 2]),
        .outside .connect]
    let flip : List Act := [.inside (.commit 0), .inside .tick]
    let called := ((new ⟨640, 480, 60⟩).run
      (make ++ ask .exportFrame ++ [.outside (.take 0)] ++ flip)).hub
    let waiting := ((new ⟨640, 480, 60⟩).run (make ++ ask .wait ++ flip)).hub
    (called.call 0 .wait).2 = some (.ok (.event ⟨.present, .on⟩)) ∧
    (called.call 0 .exportFrame).2 = some (.ok (.exported ⟨1, [some ⟨0, []⟩, none]⟩)) ∧
    ∃ next replies, waiting.advance 0 = some next ∧
      Call.wait.receive replies = (.empty, some (.ok (.event ⟨.present, .on⟩))) := by
  intro ask make flip called waiting
  have quiet : called.connections[0]? = some (.quiet ⟨none, some 0, none⟩) := by decide +kernel
  have blocked : waiting.connections[0]? = some (.quiet ⟨none, some 0, some .event⟩) := by
    decide +kernel
  have settled : called.Settled := by
    intro number
    cases number with
    | zero =>
      exact (Hub.advance_eq_none_iff quiet rfl).mpr (Connection.starved_quiet called.relay _)
    | succ number =>
      have single : called.connections.length = 1 := by decide +kernel
      exact Hub.advance_eq_none_of_missing (by omega)
  have event : (called.relay.wait 0).2.outcome = some (.ok (.event ⟨.present, .on⟩)) := by
    decide +kernel
  have exported : called.relay.exportActive.2 = ⟨1, [some ⟨0, []⟩, none]⟩ := by decide +kernel
  have ready : (waiting.relay.wait 0).2 = .ready (.ok ⟨.present, .on⟩) := by
    decide +kernel
  obtain ⟨calls, -⟩ := wire_consumer_agrees ⟨640, 480, 60⟩ _ quiet rfl
  obtain ⟨waits, exports, alone⟩ := calls rfl
  obtain ⟨waitsAlone, exportsAlone⟩ := alone settled
  obtain ⟨-, answers, -⟩ := wire_consumer_agrees ⟨640, 480, 60⟩ _ blocked rfl
  obtain ⟨replies, goes, received⟩ := (answers rfl).2 _ ready
  refine ⟨?_, ?_, _, replies, goes, received⟩
  · rw [waitsAlone, waits, event]
  · rw [exportsAlone, exports, exported]

end Site

end PresentRelay
