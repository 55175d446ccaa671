import PresentRelay.Proofs.Hub.Moves
import PresentRelay.Proofs.Relay.Roles

/-!
# One step of a session

A session that takes a step serves what it has received or answers what it waited for, and
goes on or ends.  `advance_cases` says all that a step can do to a hub, and `Ending` in how many
ways a session ends.
-/

set_option autoImplicit false

namespace PresentRelay

namespace Session

/-! ## What a session gets -/

/-- What a session gets before it does what it is asked: nothing, its client, or its link. -/
inductive Acquires (session : Session) (relay : Relay) : Session → Relay → Prop
  | nothing : Acquires session relay session relay
  | client (without : session.client = none) :
      Acquires session relay { session with client := some relay.clients.length }
        relay.openClient.1
  | link (without : session.link = none) (free : relay.registered = none) :
      Acquires session relay { session with link := some relay.links.length } relay.attach.1

/-- What a session with a relay can have become while it did one thing: it got something at
most, and then kept what it had. -/
def Becomes (session : Session) (relay : Relay) (last : Session) (after : Relay) : Prop :=
  ∃ opened middle, session.Acquires relay opened middle ∧
    last.client = opened.client ∧ last.link = opened.link ∧
    Relay.KeepsRoles opened.client middle after

variable {session last opened : Session} {relay middle after : Relay}

theorem becomes_of_keeps (client : last.client = session.client) (link : last.link = session.link)
    (keeps : Relay.KeepsRoles session.client relay after) : session.Becomes relay last after :=
  ⟨session, relay, .nothing, client, link, keeps⟩

theorem becomes_refl (session : Session) (relay : Relay) : session.Becomes relay session relay :=
  becomes_of_keeps rfl rfl (.refl _ relay)

theorem becomes_of_withClient {client : Nat}
    (given : session.withClient relay = (opened, middle, client))
    (keeps : Relay.KeepsRoles (some client) middle after) :
    session.Becomes relay opened after := by
  have acquired : session.Acquires relay opened middle ∧ opened.client = some client := by
    unfold withClient at given
    split at given
    · next held =>
      cases given
      exact ⟨.nothing, held⟩
    · next without =>
      cases given
      exact ⟨.client without, rfl⟩
  refine ⟨opened, middle, acquired.1, rfl, rfl, ?_⟩
  rw [acquired.2]
  exact keeps

theorem acquires_of_withLink {answer : Except RelayError Nat}
    (given : session.withLink relay = (opened, middle, answer)) :
    session.Acquires relay opened middle := by
  unfold withLink at given
  split at given
  · cases given
    exact .nothing
  · next without =>
    cases registered : relay.registered with
    | some _ =>
      simp only [Relay.attach, registered] at given
      cases given
      exact .nothing
    | none =>
      have acquired := Acquires.link without registered
      simp only [Relay.attach, registered] at acquired given
      cases given
      exact acquired

theorem becomes_of_withLink {answer : Except RelayError Nat}
    (given : session.withLink relay = (opened, middle, answer))
    (keeps : Relay.KeepsRoles opened.client middle after) : session.Becomes relay opened after :=
  ⟨opened, middle, acquires_of_withLink given, rfl, rfl, keeps⟩

theorem relay_answerAwaited (session : Session) (relay : Relay) (awaited : Awaited) :
    (session.answerAwaited relay awaited).1 = relay ∨
      ∃ link, (session.answerAwaited relay awaited).1 = (relay.poll link).1 := by
  cases awaited with
  | vblank after => exact .inl rfl
  | event =>
    cases held : session.link with
    | none =>
      left
      simp only [answerAwaited, held]
    | some link =>
      refine .inr ⟨link, ?_⟩
      simp only [answerAwaited, held]
      split <;> simp_all only

theorem keepsRoles_answerAwaited (own : Option Nat) (session : Session) (relay : Relay)
    (awaited : Awaited) : Relay.KeepsRoles own relay (session.answerAwaited relay awaited).1 := by
  obtain same | ⟨link, polled⟩ := session.relay_answerAwaited relay awaited
  · rw [same]
    exact .refl own relay
  · rw [polled]
    exact relay.keepsRoles_poll own link

theorem becomes_await {opened : Session} {middle : Relay}
    (acquired : session.Acquires relay opened middle) (awaited : Awaited) :
    session.Becomes relay (opened.await middle awaited).1 (opened.await middle awaited).2.1 := by
  have keeps := opened.keepsRoles_answerAwaited opened.client middle awaited
  unfold await
  split
  · next given =>
    rw [given] at keeps
    exact ⟨opened, middle, acquired, rfl, rfl, keeps⟩
  · next given =>
    rw [given] at keeps
    exact ⟨opened, middle, acquired, rfl, rfl, keeps⟩

/-- A request to a session makes it get its client or its link at most; the rest is the work of
a client of its own, or concerns no client. -/
theorem becomes_handle (session : Session) (relay : Relay) (request : Request)
    (files : List File) :
    session.Becomes relay (session.handle relay request files).1
      (session.handle relay request files).2.1 := by
  rcases client : session.withClient relay with ⟨producing, clients, number⟩
  rcases link : session.withLink relay with ⟨consuming, links, attached⟩
  cases request with
  | configure width height refresh =>
    cases asked : Mode.ofRequest width height refresh with
    | error error =>
      simp only [handle, asked]
      exact session.becomes_refl relay
    | ok mode =>
      cases attached with
      | error error =>
        simp only [handle, asked, link]
        exact becomes_of_withLink link (.refl _ links)
      | ok _ =>
        simp only [handle, asked, link]
        exact becomes_of_withLink link (links.keepsRoles_configure _ mode)
  | wait =>
    cases attached with
    | error error =>
      simp only [handle, link]
      exact becomes_of_withLink link (.refl _ links)
    | ok _ =>
      simp only [handle, link]
      exact becomes_await (acquires_of_withLink link) .event
  | exportFrame =>
    cases attached with
    | error error =>
      simp only [handle, link]
      exact becomes_of_withLink link (.refl _ links)
    | ok _ =>
      simp only [handle, link]
      exact becomes_of_withLink link (links.keepsRoles_exportActive _)
  | registerBuffer =>
    simp only [handle, client]
    split
    · exact becomes_of_withClient client (clients.keepsRoles_register number _)
    · exact session.becomes_refl relay
  | releaseHandle handle =>
    simp only [Session.handle, client]
    exact becomes_of_withClient client (clients.keepsRoles_release number handle)
  | addFramebuffer handles =>
    have keeps := clients.keepsRoles_addFramebuffer number handles
    simp only [handle, client]
    split
    · next given =>
      rw [given] at keeps
      exact becomes_of_withClient client keeps
    · next given =>
      rw [given] at keeps
      exact becomes_of_withClient client keeps
  | removeFramebuffer id =>
    simp only [handle, client]
    exact becomes_of_withClient client (clients.keepsRoles_removeFramebuffer number id)
  | pageFlip id =>
    simp only [handle, client]
    exact becomes_of_withClient client (clients.keepsRoles_pageFlip _ number id)
  | setCrtc id =>
    simp only [handle, client]
    exact becomes_of_withClient client (clients.keepsRoles_setCrtcById _ number id)
  | waitVblank after => exact becomes_await .nothing _

end Session

/-! ## How a session ends -/

def Handled.answer? : Handled → Option (Response × List File)
  | .reply response files => some (response, files)
  | .failed error => some (.ofError error, [])
  | .waits _ => none

/-- Whether a response cannot be sent: it does not fit a frame, or the peer is gone. -/
def Connection.Refuses (connection : Connection) (response : Response) (files : List File) :
    Prop :=
  (∃ error, Frame.send response.encode files = .error error) ∨ connection.gone = true

/-- Whether there is an answer that cannot be sent, or nobody to be told of the failure. -/
def Connection.Unsent (connection : Connection) (handled : Handled) : Prop :=
  (handled = .failed .disconnected ∧ connection.requests.isFinished = true) ∨
    ∃ response files, handled.answer? = some (response, files) ∧
      connection.Refuses response files

/-- The ways in which a session of a connection ends, with the session and the relay as they
are when it closes. -/
inductive Ending (connection : Connection) (session : Session) (relay : Relay) :
    Session → Relay → Prop
  | finished (serves : session.awaited = none) (between : connection.opening = none)
      (nothing : (Frame.takeOpening connection.requests).2 = none)
      (ended : connection.requests.ending ≠ .flowing) :
      Ending connection session relay session relay
  /-- A request starts with more descriptors than can be taken. -/
  | overloaded (serves : session.awaited = none) (between : connection.opening = none)
      (error : RelayError)
      (refused : (Frame.takeOpening connection.requests).2 = some (.error error)) :
      Ending connection session relay session relay
  /-- A request breaks off, is too long, or cannot be decoded. -/
  | broken (serves : session.awaited = none) (opening : Frame.Opening)
      (started : connection.opening = some opening) (error : RelayError)
      (failed : (Frame.complete Request.decode opening connection.requests).2 = .failed error) :
      Ending connection session relay session relay
  | unserved (serves : session.awaited = none) (opening : Frame.Opening)
      (started : connection.opening = some opening) (requests : Stream) (request : Request)
      (files : List File)
      (received : Frame.complete Request.decode opening connection.requests =
        (requests, .message request files))
      (ends : session.endless relay request files = false)
      (last : Session) (after : Relay) (handled : Handled)
      (served : session.handle relay request files = (last, after, handled))
      (unsent : { connection with requests, opening := none }.Unsent handled) :
      Ending connection session relay last after
  | hungUp (awaited : Awaited) (waits : session.awaited = some awaited)
      (blocked : (session.answerAwaited relay awaited).2 = none)
      (ended : connection.requests.isFinished = true) :
      Ending connection session relay session relay
  /-- A wait is over and its reply cannot be sent. -/
  | unanswered (awaited : Awaited) (waits : session.awaited = some awaited) (after : Relay)
      (handled : Handled) (answered : session.answerAwaited relay awaited = (after, some handled))
      (unsent : connection.Unsent handled) :
      Ending connection session relay { session with awaited := none } after

theorem Ending.becomes {connection : Connection} {session last : Session} {relay after : Relay}
    (ending : Ending connection session relay last after) :
    session.Becomes relay last after := by
  cases ending with
  | finished | overloaded | broken | hungUp => exact session.becomes_refl relay
  | unserved _ opening _ requests request files _ _ last after handled served _ =>
    have handle := session.becomes_handle relay request files
    rw [served] at handle
    exact handle
  | unanswered awaited _ after handled answered _ =>
    have keeps := session.keepsRoles_answerAwaited session.client relay awaited
    rw [answered] at keeps
    exact Session.becomes_of_keeps rfl rfl keeps

/-- A frame that was started does not end between two frames. -/
theorem Frame.complete_ne_finished {μ : Type} (decode : Bytes → Except Json.Fault μ)
    (opening : Opening) (stream : Stream) :
    (complete decode opening stream).2 ≠ .finished := by
  have cut : (cutShort (μ := μ) stream).2 ≠ .finished := by
    unfold cutShort
    split <;> exact nofun
  unfold complete
  dsimp only
  split
  · exact cut
  · split
    · exact nofun
    · split
      · exact cut
      · split <;> exact nofun

namespace Hub

def session? (hub : Hub) (number : Nat) : Option Session :=
  hub.connections[number]?.bind Connection.session

variable {hub before next : Hub} {number : Nat} {session last : Session} {why : Prop}

/-- What becomes of a hub when the session of a connection closes. -/
def Ends (before : Hub) (number : Nat) (last : Session) (relay : Relay) (next : Hub) : Prop :=
  ∃ left : Connection, next.connections = before.connections.set number left ∧
    left.session = none ∧ next.relay = last.close relay

/-- What becomes of a hub when a session answers: unless there is a reason to end, the session
goes on. -/
def Leaves (before : Hub) (number : Nat) (last : Session) (why : Prop) (next : Hub) : Prop :=
  ∃ left : Connection, next.connections = before.connections.set number left ∧
    (left.session = some last ∧ next.relay = before.relay ∧ ¬ why ∨
      left.session = none ∧ next.relay = last.close before.relay ∧ why)

theorem Leaves.congr {same : Prop} (leaves : Leaves before number last why next)
    (iff : why ↔ same) : Leaves before number last same next := by
  obtain rfl : why = same := propext iff
  exact leaves

theorem Leaves.ends (leaves : Leaves before number last why next) (because : why) :
    Ends before number last before.relay next := by
  obtain ⟨left, connections, ⟨-, -, none⟩ | ⟨ended, closed, -⟩⟩ := leaves
  · exact absurd because none
  · exact ⟨left, connections, ended, closed⟩

theorem leaves_respond (before : Hub) (number : Nat) (connection : Connection) (last : Session)
    (response : Response) (files : List File) :
    Leaves before number last (connection.Refuses response files)
      (before.respond number connection last response files) := by
  unfold respond
  split
  · next error refused => exact ⟨_, rfl, .inr ⟨rfl, rfl, .inl ⟨error, refused⟩⟩⟩
  · next chunk sent =>
    split
    · next gone => exact ⟨_, rfl, .inr ⟨rfl, rfl, .inr gone⟩⟩
    · next present => exact ⟨_, rfl, .inl ⟨rfl, rfl, by simp [Connection.Refuses, sent, present]⟩⟩

theorem leaves_conclude (before : Hub) (number : Nat) (connection : Connection) (last : Session)
    (handled : Handled) :
    Leaves before number last (connection.Unsent handled)
      (before.conclude number connection last handled) := by
  cases handled with
  | reply response files =>
    refine (before.leaves_respond number connection last response files).congr ?_
    simp [Connection.Unsent, Handled.answer?]
  | waits awaited =>
    exact ⟨_, rfl, .inl ⟨rfl, rfl, by simp [Connection.Unsent, Handled.answer?]⟩⟩
  | failed error =>
    -- only the end of the registration is not reported, and only to a peer that hung up
    rw [conclude]
    split
    · next past => exact ⟨_, rfl, .inr ⟨rfl, rfl, .inl ⟨by rw [past.1], past.2⟩⟩⟩
    · next goesOn =>
      refine (before.leaves_respond number connection last _ []).congr ?_
      simp only [Connection.Unsent, Handled.answer?, Handled.failed.injEq, goesOn, false_or]
      simp

theorem relay_conclude (hub : Hub) (number : Nat) (connection : Connection) (last : Session)
    (handled : Handled) :
    (hub.conclude number connection last handled).relay = hub.relay ∨
      (hub.conclude number connection last handled).relay = last.close hub.relay := by
  obtain ⟨left, -, ⟨-, same, -⟩ | ⟨-, closed, -⟩⟩ :=
    hub.leaves_conclude number connection last handled
  · exact .inl same
  · exact .inr closed

theorem ends_endSession (hub : Hub) (number : Nat) (connection : Connection) (last : Session) :
    Ends hub number last hub.relay (hub.endSession number connection last) := ⟨_, rfl, rfl, rfl⟩

/-! ## All that a step can do -/

/-- What one step of the session of a connection does to a hub. -/
inductive Does (hub : Hub) (number : Nat) (connection : Connection) (session : Session) :
    Hub → Prop
  | opens (serves : session.awaited = none) (between : connection.opening = none)
      (requests : Stream) (opening : Frame.Opening)
      (taken : Frame.takeOpening connection.requests = (requests, some (.ok opening))) :
      Does hub number connection session
        (hub.put number { connection with requests, opening := some opening })
  | serves (serves : session.awaited = none) (opening : Frame.Opening)
      (started : connection.opening = some opening) (requests : Stream) (request : Request)
      (files : List File)
      (received : Frame.complete Request.decode opening connection.requests =
        (requests, .message request files))
      (ends : session.endless hub.relay request files = false)
      (last : Session) (after : Relay) (handled : Handled)
      (served : session.handle hub.relay request files = (last, after, handled)) :
      Does hub number connection session
        ({ hub with
          relay := after
          log := hub.log ++ session.warnings hub.relay request }.conclude number
            { connection with requests, opening := none } last handled)
  | answers (awaited : Awaited) (waits : session.awaited = some awaited) (after : Relay)
      (handled : Handled)
      (answered : session.answerAwaited hub.relay awaited = (after, some handled)) :
      Does hub number connection session
        ({ hub with relay := after }.conclude number connection { session with awaited := none }
          handled)
  | leaves (ending : Ending connection session hub.relay session hub.relay) :
      Does hub number connection session (hub.endSession number connection session)
  | breaks (ending : Ending connection session hub.relay session hub.relay)
      (requests : Stream) (opening : Option Frame.Opening) (error : RelayError) :
      Does hub number connection session
        (hub.failSession number { connection with requests, opening } session error)

variable {connection : Connection}

theorem does_waiting {awaited : Awaited} (waits : session.awaited = some awaited)
    (advanced : hub.advanceWaiting number connection session awaited = some next) :
    Does hub number connection session next := by
  unfold advanceWaiting at advanced
  split at advanced
  · next after handled answered =>
    cases advanced
    exact .answers awaited waits after handled answered
  · next after blocked =>
    split at advanced
    · next ended =>
      cases advanced
      have blocked : (session.answerAwaited hub.relay awaited).2 = none := by rw [blocked]
      exact .leaves (.hungUp awaited waits blocked ended)
    · cases advanced

theorem does_serving (serves : session.awaited = none)
    (advanced : hub.advanceServing number connection session = some next) :
    Does hub number connection session next := by
  unfold advanceServing at advanced
  split at advanced
  · next opening started =>
    rcases received : Frame.complete Request.decode opening connection.requests with
      ⟨requests, reception⟩
    rw [received] at advanced
    cases reception with
    | message request files =>
      rcases served : session.handle hub.relay request files with ⟨last, after, handled⟩
      simp only [serve] at advanced
      split at advanced
      · cases advanced
      · next ends =>
        simp only [served, Option.some.injEq] at advanced
        subst advanced
        exact .serves serves opening started requests request files received
          (Bool.eq_false_iff.mpr ends) last after handled served
    | finished =>
      have never := Frame.complete_ne_finished Request.decode opening connection.requests
      rw [received] at never
      exact absurd rfl never
    | failed error =>
      cases advanced
      have failed : (Frame.complete Request.decode opening connection.requests).2 =
          .failed error := by rw [received]
      exact .breaks (.broken serves opening started error failed) requests none error
    | waiting => cases advanced
  · next between =>
    split at advanced
    · next requests opening taken =>
      cases advanced
      exact .opens serves between requests opening taken
    · next requests error taken =>
      cases advanced
      have refused : (Frame.takeOpening connection.requests).2 = some (.error error) := by
        rw [taken]
      exact .breaks (.overloaded serves between error refused) requests connection.opening error
    · next requests taken =>
      split at advanced
      · cases advanced
      · next ended =>
        cases advanced
        have nothing : (Frame.takeOpening connection.requests).2 = none := by rw [taken]
        exact .leaves (.finished serves between nothing ended)

/-- All that one step of a session can do to a hub. -/
theorem advance_does (advanced : hub.advance number = some next) :
    ∃ connection session, hub.connections[number]? = some connection ∧
      connection.session = some session ∧ Does hub number connection session next := by
  simp only [advance, Option.bind_eq_bind, Option.bind_eq_some_iff] at advanced
  obtain ⟨connection, found, session, present, advanced⟩ := advanced
  refine ⟨connection, session, found, present, ?_⟩
  split at advanced
  · next awaited waits => exact does_waiting waits advanced
  · next serves => exact does_serving serves advanced

/-- What a step of a session comes to: it goes on, or it ends in one of the ways to end. -/
def Advances (hub : Hub) (number : Nat) (connection : Connection) (session : Session)
    (next : Hub) : Prop :=
  ∃ last relay, session.Becomes hub.relay last relay ∧
    ((∃ left : Connection, next.connections = hub.connections.set number left ∧
        left.session = some last ∧ next.relay = relay) ∨
      Ends hub number last relay next ∧ Ending connection session hub.relay last relay)

theorem Leaves.advances (leaves : Leaves before number last why next)
    (connections : before.connections = hub.connections)
    (becomes : session.Becomes hub.relay last before.relay)
    (ending : why → Ending connection session hub.relay last before.relay) :
    hub.Advances number connection session next := by
  obtain ⟨left, changed, ⟨present, kept, -⟩ | ⟨ended, closed, because⟩⟩ := leaves
  · exact ⟨last, _, becomes, .inl ⟨left, connections ▸ changed, present, kept⟩⟩
  · exact ⟨last, _, becomes, .inr ⟨⟨left, connections ▸ changed, ended, closed⟩, ending because⟩⟩

theorem Does.advances (does : Does hub number connection session next)
    (present : connection.session = some session) :
    hub.Advances number connection session next := by
  cases does with
  | opens _ _ requests opening _ =>
    exact ⟨session, hub.relay, session.becomes_refl _, .inl ⟨_, rfl, present, rfl⟩⟩
  | serves serves opening started requests request files received ends last after handled served =>
    have becomes := session.becomes_handle hub.relay request files
    rw [served] at becomes
    refine (leaves_conclude _ number _ last handled).advances (by rfl) becomes ?_
    exact .unserved serves opening started requests request files received ends last after handled
      served
  | answers awaited waits after handled answered =>
    have keeps := session.keepsRoles_answerAwaited session.client hub.relay awaited
    rw [answered] at keeps
    have leaves := leaves_conclude { hub with relay := after } number connection
      { session with awaited := none } handled
    exact leaves.advances rfl (Session.becomes_of_keeps rfl rfl keeps)
      (.unanswered awaited waits after handled answered)
  | leaves ending | breaks ending =>
    exact ⟨session, hub.relay, session.becomes_refl _,
      .inr ⟨hub.ends_endSession number _ session, ending⟩⟩

theorem advance_cases (advanced : hub.advance number = some next) :
    ∃ connection session, hub.connections[number]? = some connection ∧
      connection.session = some session ∧ hub.Advances number connection session next := by
  obtain ⟨connection, session, found, present, does⟩ := advance_does advanced
  exact ⟨connection, session, found, present, does.advances present⟩

/-! ## Every ending ends -/

theorem advance_eq (found : hub.connections[number]? = some connection)
    (present : connection.session = some session) :
    hub.advance number = match session.awaited with
      | some awaited => hub.advanceWaiting number connection session awaited
      | none => hub.advanceServing number connection session := by
  cases waits : session.awaited <;>
    simp only [advance, found, present, waits, Option.bind_eq_bind, Option.bind_some]

/-- Each of the ways to end does end the session, in its next step. -/
theorem ends_of_ending {relay : Relay}
    (found : hub.connections[number]? = some connection)
    (present : connection.session = some session)
    (ending : Ending connection session hub.relay last relay) :
    ∃ next, hub.advance number = some next ∧ Ends hub number last relay next := by
  rw [advance_eq found present]
  cases ending with
  | finished serves between nothing ended =>
    rcases taken : Frame.takeOpening connection.requests with ⟨requests, start⟩
    rw [taken] at nothing
    obtain rfl : start = none := nothing
    simp only [serves, advanceServing, between, taken, if_neg ended, serve]
    exact ⟨_, rfl, hub.ends_endSession number _ _⟩
  | overloaded serves between error refused =>
    rcases taken : Frame.takeOpening connection.requests with ⟨requests, start⟩
    rw [taken] at refused
    obtain rfl : start = some (.error error) := refused
    simp only [serves, advanceServing, between, taken, serve]
    exact ⟨_, rfl, hub.ends_endSession number _ _⟩
  | broken serves opening started error failed =>
    rcases received : Frame.complete Request.decode opening connection.requests with
      ⟨requests, reception⟩
    rw [received] at failed
    obtain rfl : reception = .failed error := failed
    simp only [serves, advanceServing, started, received, serve]
    exact ⟨_, rfl, hub.ends_endSession number _ _⟩
  | unserved serves opening started requests request files received ends last after handled served
      unsent =>
    simp only [serves, advanceServing, started, received, serve, if_neg (Bool.eq_false_iff.mp ends),
      served]
    exact ⟨_, rfl, (leaves_conclude _ number _ _ handled).ends unsent⟩
  | hungUp awaited waits blocked ended =>
    rcases answered : session.answerAwaited hub.relay awaited with ⟨after, answer⟩
    rw [answered] at blocked
    obtain rfl : answer = none := blocked
    simp only [waits, advanceWaiting, answered, if_pos ended]
    exact ⟨_, rfl, hub.ends_endSession number _ _⟩
  | unanswered awaited waits after handled answered unsent =>
    simp only [waits, advanceWaiting, answered]
    exact ⟨_, rfl, (leaves_conclude _ number _ _ handled).ends unsent⟩

end Hub

end PresentRelay
