import PresentRelay.Proofs.Hub.Possession

/-!
# What the end of a session releases

A session can end in the ways of `Ending`, at any moment of a run.  Whichever it is, what the
session had on the relay goes, and nothing else: `Released` says what that comes to.
-/

set_option autoImplicit false

namespace PresentRelay

theorem Relay.link_of_consumers {first second : Relay} (same : first.consumers = second.consumers)
    (link : Nat) : first.link link = second.link link := by
  rw [Relay.consumers, Relay.consumers, Consumers.mk.injEq] at same
  rw [Relay.link, Relay.link, same.1, same.2.2]

namespace Session

variable {session opened last : Session} {relay middle after : Relay}

theorem Acquires.client_of_ne (acquires : session.Acquires relay opened middle) {asked : Nat}
    (other : opened.client ≠ some asked) : middle.client asked = relay.client asked := by
  cases acquires with
  | nothing => rfl
  | client without =>
    have apart : asked ≠ relay.clients.length := fun same => other (congrArg some same.symm)
    rw [relay.client_openClient, if_neg apart]
  | link without free =>
    have clients : relay.attach.1.clients = relay.clients :=
      congrArg Prod.fst relay.producers_attach
    exact Relay.client_congr clients asked

theorem Becomes.client_of_ne (becomes : session.Becomes relay last after) {asked : Nat}
    (other : last.client ≠ some asked) : after.client asked = relay.client asked := by
  obtain ⟨opened, middle, acquires, client, -, keeps⟩ := becomes
  rw [client] at other
  exact (keeps.others asked other).trans (acquires.client_of_ne other)

end Session

namespace Hub

/-- The power state that says that nobody need look for frames is on its way to the consumer of
a session: it is pending, and if the session is blocked in a wait, its next step answers it. -/
def Notified (hub : Hub) (number : Nat) (session : Session) (link : Nat) : Prop :=
  let channel := hub.relay.link link
  channel.tornDown = false ∧ channel.raised.powerChanged = true ∧ channel.power = .noConsumer ∧
    ∀ connection, hub.connections[number]? = some connection → session.awaited = some .event →
      hub.advance number = some
        ({ hub with relay := (hub.relay.poll link).1 }.respond number connection
          { session with awaited := none } (.ofEvent ⟨channel.raised, .noConsumer⟩) [])

/-- What a hub is once a session ended, by the hub before, and the session and the relay as they
were when it closed. -/
structure Released (hub : Hub) (number : Nat) (last : Session) (relay : Relay) (next : Hub) :
    Prop where
  ended : next.session? number = none
  gone : ∀ client, last.client = some client → next.relay.client client = .closed
  /-- Of all references to buffers, just those of the session are. -/
  dropped : relay.buffers.Perm (last.references relay ++ next.relay.buffers)
  others : ∀ other ≠ number, next.connections[other]? = hub.connections[other]?
  /-- Their sessions keep all handles and framebuffers. -/
  kept : ∀ other ≠ number, ∀ session client, hub.session? other = some session →
    session.client = some client → next.relay.client client = hub.relay.client client
  /-- Without the last producer nobody need look for frames, and the consumer learns of it. -/
  lastProducer : last.LastProducer relay → next.relay.power = .noConsumer ∧
    ∀ other ≠ number, ∀ session link, hub.session? other = some session →
      session.link = some link → next.Notified other session link
  /-- While there are producers, consumers learn of nothing. -/
  producers : ¬ last.LastProducer relay → next.relay.power = relay.power ∧
    ∀ other ≠ number, ∀ session link, hub.session? other = some session →
      session.link = some link → next.relay.link link = relay.link link
  /-- The end of the consumer frees the registration, empties the slots and disarms the pacer. -/
  consumer : ∀ link, last.link = some link → relay.registered = some link ∧
    next.relay.registered = none ∧ next.relay.slots = .empty ∧
    next.relay.pacer = { relay.pacer with armed := none }
  /-- The end of any other session does none of this. -/
  noConsumer : last.link = none → next.relay.registered = relay.registered ∧
    next.relay.slots = relay.slots ∧ next.relay.pacer = relay.pacer
  mode : next.relay.mode = relay.mode
  sequence : next.relay.pacer.sequence = relay.pacer.sequence

variable {hub next : Hub} {number : Nat}

theorem advance_of_raised {session : Session} {link : Nat} {connection : Connection}
    (found : hub.connections[number]? = some connection)
    (present : hub.session? number = some session) (held : session.link = some link)
    (live : (hub.relay.link link).tornDown = false)
    (raised : (hub.relay.link link).raised ≠ .none) (waits : session.awaited = some .event) :
    hub.advance number = some
      ({ hub with relay := (hub.relay.poll link).1 }.respond number connection
        { session with awaited := none }
        (.ofEvent ⟨(hub.relay.link link).raised, (hub.relay.link link).power⟩) []) := by
  have present : connection.session = some session := by
    rw [session?, found] at present
    exact present
  have polled : (hub.relay.poll link).2 =
      .ok (some ⟨(hub.relay.link link).raised, (hub.relay.link link).power⟩) := by
    simp [Relay.poll, EventChannel.poll, live, raised]
  have answered : session.answerAwaited hub.relay .event =
      ((hub.relay.poll link).1, some (.reply
        (.ofEvent ⟨(hub.relay.link link).raised, (hub.relay.link link).power⟩) [])) := by
    rcases given : hub.relay.poll link with ⟨relay, outcome⟩
    rw [given] at polled
    cases polled
    simp only [Session.answerAwaited, held, given]
  simp only [advance, found, present, Option.bind_eq_bind, Option.bind_some, waits, advanceWaiting,
    answered, conclude]

theorem notified_of_told {relay : Relay} {session : Session} {link : Nat}
    (sound : relay.consumers.Sound) (registered : relay.registered = some link)
    (told : hub.relay.consumers = relay.consumers.after (.entered .noConsumer))
    (present : hub.session? number = some session) (held : session.link = some link) :
    hub.Notified number session link := by
  have live : relay.consumers.isLive link = true := (sound.exclusive link).mp registered
  obtain ⟨channel, found, tornDown⟩ : ∃ channel, relay.links[link]? = some channel ∧
      channel.tornDown = false := by
    cases found : relay.links[link]? <;> simp_all [Consumers.isLive, Relay.consumers]
  have links : hub.relay.consumers.links[link]? = some (channel.notifyPower .noConsumer) := by
    have entered : ({ relay.consumers with power := .noConsumer } : Consumers).registered =
        some link := registered
    rw [told, Consumers.after, Consumers.getElem?_tell _ entered]
    exact congrArg _ found
  have now : hub.relay.link link = ⟨channel.raised.union .power, .noConsumer, false⟩ := by
    have links : hub.relay.links[link]? = some (channel.notifyPower .noConsumer) := links
    rw [Relay.link, links, Option.getD_some, EventChannel.notifyPower, EventChannel.notify,
      tornDown]
    rfl
  have changed : (channel.raised.union .power).powerChanged = true := by
    simp [EventFlags.union, EventFlags.power]
  have raised : channel.raised.union .power ≠ .none := fun nothing => by
    rw [nothing] at changed
    cases changed
  unfold Notified
  rw [now]
  refine ⟨rfl, changed, rfl, fun connection there waits => ?_⟩
  have answers := advance_of_raised there present held (by rw [now]) (by rw [now]; exact raised)
    waits
  rw [now] at answers
  exact answers

theorem released_of_ends {session last : Session} {relay : Relay} (possessed : hub.Possessed)
    (present : hub.session? number = some session)
    (becomes : session.Becomes hub.relay last relay) (ends : Ends hub number last relay next) :
    Released hub number last relay next := by
  obtain ⟨left, connections, ended, closed⟩ := ends
  have served := Possession.becomes possessed present becomes
  have mine : Function.update hub.session? number (some last) number = some last :=
    Function.update_self ..
  have theirs {other : Nat} (apart : other ≠ number) :
      Function.update hub.session? number (some last) other = hub.session? other :=
    Function.update_of_ne apart ..
  have backed : last.Backed relay := served.backed mine
  obtain ⟨connection, found⟩ : ∃ connection, hub.connections[number]? = some connection := by
    cases found : hub.connections[number]? <;> simp_all [session?]
  have sessions := session?_of_set found connections
  -- while another session has the link, closing is no more than closing the client
  have consumers {other link : Nat} {session : Session} (apart : other ≠ number)
      (there : hub.session? other = some session) (held : session.link = some link) :
      next.relay.consumers = if last.LastProducer relay
        then relay.consumers.after (.entered .noConsumer) else relay.consumers := by
    have free := served.link_eq_none mine ((theirs apart).trans there) apart held
    rw [closed, Session.close_of_none free, last.consumers_leave]
  exact {
    ended := by rw [sessions, ended, Function.update_self]
    gone := fun client held => by rw [closed, Session.client_close backed, if_pos held]
    dropped := by
      rw [closed]
      exact Session.references_close backed
    others := fun other apart => by rw [connections, List.getElem?_set_ne (Ne.symm apart)]
    kept := fun other apart session client there held => by
      have notMine := served.client_ne mine ((theirs apart).trans there) apart held
      rw [closed, Session.client_close backed, if_neg notMine]
      exact becomes.client_of_ne notMine
    lastProducer := fun producer => by
      refine ⟨by rw [closed, Session.power_close backed, if_pos producer], ?_⟩
      intro other apart session link there held
      have told := consumers apart there held
      rw [if_pos producer] at told
      have registered := (served.backed ((theirs apart).trans there)).registered link held
      refine notified_of_told served.sound registered told ?_ held
      rw [sessions, Function.update_of_ne apart, there]
    producers := fun producers => by
      refine ⟨by rw [closed, Session.power_close backed, if_neg producers], ?_⟩
      intro other apart session link there held
      have same := consumers apart there held
      rw [if_neg producers] at same
      exact Relay.link_of_consumers same link
    consumer := fun link held => by
      rw [closed, Session.close_of_some held (backed.registered link held)]
      exact ⟨backed.registered link held, rfl, rfl, rfl⟩
    noConsumer := fun held => by
      obtain ⟨clients, links, power, left⟩ := last.exists_leave relay
      rw [closed, Session.close_of_none held, left]
      exact ⟨rfl, rfl, rfl⟩
    mode := closed ▸ Session.mode_close backed
    sequence := closed ▸ Session.sequence_close backed }

/-- A session ends by a step of its own only. -/
theorem session?_move_of_present {session : Session}
    (present : hub.session? number = some session) (move : Move)
    (other : move ≠ .advance number) : (hub.move move).session? number = some session := by
  rw [← present]
  rcases hub.move_cases move with rfl | ⟨asked, rfl⟩ | ⟨sessions, -⟩
  · have old : number ≠ hub.connections.length := by
      rintro rfl
      simp [session?] at present
    rw [Hub.move, hub.session?_connect, Function.update_of_ne old]
  · have apart : number ≠ asked := fun same => other (congrArg Move.advance same.symm)
    rw [Hub.move]
    cases advanced : hub.advance asked with
    | none => rfl
    | some next =>
      obtain ⟨connection, _, found, _, _, _, _, ends⟩ := advance_cases advanced
      rw [Option.getD_some]
      rcases ends with ⟨left, connections, -⟩ | ⟨⟨left, connections, -⟩, -⟩ <;>
        rw [session?_of_set found connections, Function.update_of_ne apart]
  · rw [sessions]

theorem ending_of_ended {session : Session} (present : hub.session? number = some session)
    (ended : (hub.move (.advance number)).session? number = none) :
    ∃ connection last relay, hub.connections[number]? = some connection ∧
      Ending connection session hub.relay last relay := by
  rw [Hub.move] at ended
  cases advanced : hub.advance number with
  | none =>
    rw [advanced, Option.getD_none, present] at ended
    cases ended
  | some next =>
    obtain ⟨connection, serving, found, there, last, relay, -, ends⟩ := advance_cases advanced
    rw [session?, found] at present
    obtain rfl : serving = session := Option.some.inj (there.symm.trans present)
    rcases ends with ⟨left, connections, goesOn, -⟩ | ⟨-, ending⟩
    · rw [advanced, Option.getD_some, session?_of_set found connections, Function.update_self,
        goesOn] at ended
      cases ended
    · exact ⟨connection, last, relay, found, ending⟩

theorem ends_move_of_ending {connection : Connection} {session last : Session} {relay : Relay}
    (found : hub.connections[number]? = some connection)
    (present : hub.session? number = some session)
    (ending : Ending connection session hub.relay last relay) :
    Ends hub number last relay (hub.move (.advance number)) := by
  have there : connection.session = some session := by
    rw [session?, found] at present
    exact present
  obtain ⟨next, advanced, ends⟩ := ends_of_ending found there ending
  rw [Hub.move, advanced]
  exact ends

/-- A session ends exactly if it takes a step for which there is one of the ways of `Ending`.
Then its client has nothing left; the references of its handles and framebuffers and, if it was
the consumer, of the slots are dropped, and no others; if no other client is open, the power
state says that nobody need look for frames, and the consumer of another session learns of it;
if it was the consumer, the registration is free, the slots are empty and the pacer is idle.
Nothing else changes. -/
theorem session_end_releases_its_own (mode : Mode) (moves : List Move) (number : Nat)
    (session : Session) :
    let hub := (Hub.new mode).run moves
    hub.session? number = some session →
      (∀ move, (hub.move move).session? number = none ↔
        move = .advance number ∧ ∃ connection last relay,
          hub.connections[number]? = some connection ∧
          Ending connection session hub.relay last relay) ∧
      ∀ connection last relay, hub.connections[number]? = some connection →
        Ending connection session hub.relay last relay →
        Released hub number last relay (hub.move (.advance number)) := by
  intro hub present
  have possessed : hub.Possessed := possessed_run mode moves
  have released (connection : Connection) (last : Session) (relay : Relay)
      (found : hub.connections[number]? = some connection)
      (ending : Ending connection session hub.relay last relay) :
      Released hub number last relay (hub.move (.advance number)) :=
    released_of_ends possessed present ending.becomes (ends_move_of_ending found present ending)
  refine ⟨fun move => ⟨fun ended => ?_, ?_⟩, released⟩
  · have own : move = .advance number := by
      by_contra other
      rw [session?_move_of_present present move other] at ended
      cases ended
    subst own
    exact ⟨rfl, ending_of_ended present ended⟩
  · rintro ⟨rfl, connection, last, relay, found, ending⟩
    exact (released connection last relay found ending).ended

/-- A producer with one buffer closes its connection while the session of another one waits for
an event. -/
theorem session_end_releases_its_own_last_producer :
    let hub := (Hub.new ⟨640, 480, 60⟩).run
      [.connect, .connect, .send 1 ⟨Frame.encode Request.wait.encode, []⟩, .advance 1, .advance 1,
        .send 0 ⟨Frame.encode Request.registerBuffer.encode, [⟨0, []⟩]⟩, .advance 0, .advance 0,
        .hangUp 0]
    let next := hub.move (.advance 0)
    hub.session? 0 = some ⟨some 0, none, none⟩ ∧
    hub.session? 1 = some ⟨none, some 0, some .event⟩ ∧
    (hub.relay.client 0).buffers.length = 1 ∧
    Released hub 0 ⟨some 0, none, none⟩ hub.relay next ∧
    next.relay.buffers = [] ∧
    next.relay.power = .noConsumer ∧ next.Notified 1 ⟨none, some 0, some .event⟩ 0 := by
  intro hub next
  have present : hub.session? 0 = some ⟨some 0, none, none⟩ := by decide +kernel
  have waiting : hub.session? 1 = some ⟨none, some 0, some .event⟩ := by decide +kernel
  obtain ⟨connection, found, between, nothing, ended⟩ :
      ∃ connection ∈ hub.connections[0]?, connection.opening = none ∧
        (Frame.takeOpening connection.requests).2 = none ∧
        connection.requests.ending ≠ .flowing := by decide +kernel
  have released : Released hub 0 ⟨some 0, none, none⟩ hub.relay next :=
    (session_end_releases_its_own ⟨640, 480, 60⟩ _ 0 _ present).2 connection _ _ found
      (.finished rfl between nothing ended)
  have last : Session.LastProducer ⟨some 0, none, none⟩ hub.relay := by decide +kernel
  obtain ⟨power, notified⟩ := released.lastProducer last
  exact ⟨present, waiting, by decide +kernel, released, by decide +kernel, power,
    notified 1 (by decide) _ 0 waiting rfl⟩

end Hub

end PresentRelay
