import PresentRelay.Proofs.Hub.Waits
import PresentRelay.Proofs.Wire.Frames

/-!
# Requests that are answered with an error

A request that fails opens a client at most, and uses up the number of a framebuffer at most;
`Session.Spares` says so for a session and a relay, and `Hub.Intact` for all that there is.  The
session then takes the next request, if there is one.
-/

set_option autoImplicit false

namespace PresentRelay

namespace Session

variable {session opened last : Session} {relay middle after : Relay} {request : Request}
  {files given : List File} {error : RelayError}

/-! ## What a failed request does -/

/-- A session and a relay after a request that failed. -/
structure Spares (session : Session) (relay : Relay) (request : Request) (last : Session)
    (after : Relay) : Prop where
  rest : after =
    { relay with clients := after.clients, nextFramebuffer := relay.numberAfter request }
  clients : last = session ∧ after.clients = relay.clients ∨
    session.client = none ∧ last = { session with client := some relay.clients.length } ∧
      after.clients = relay.clients ++ [.new]

theorem spares_same (unnumbered : relay.numberAfter request = relay.nextFramebuffer) :
    session.Spares relay request session relay :=
  ⟨by rw [unnumbered], .inl ⟨rfl, rfl⟩⟩

theorem Spares.serves (spares : session.Spares relay request last after)
    (serves : session.awaited = none) : last.awaited = none := by
  obtain ⟨rfl, -⟩ | ⟨-, rfl, -⟩ := spares.clients <;> exact serves

theorem Spares.client (spares : session.Spares relay request last after) (asked : Nat) :
    (after.client asked).registry = (relay.client asked).registry ∧
      (after.client asked).framebuffers = (relay.client asked).framebuffers := by
  obtain ⟨-, same⟩ | ⟨-, -, more⟩ := spares.clients
  · rw [Relay.client_congr same]
    exact ⟨rfl, rfl⟩
  · -- a client that was not there counts as closed, and a new one has no more
    have opened : after.clients = relay.openClient.1.clients := more
    rw [Relay.client_congr opened, relay.client_openClient]
    split
    · next place =>
      have missing : relay.client asked = .closed := by simp [Relay.client, place]
      rw [missing]
      exact ⟨rfl, rfl⟩
    · exact ⟨rfl, rfl⟩

theorem Spares.buffers (spares : session.Spares relay request last after) :
    after.buffers = relay.buffers := by
  have slots : after.slots = relay.slots := by rw [spares.rest]
  have held : after.clients.flatMap Client.buffers = relay.clients.flatMap Client.buffers := by
    obtain ⟨-, same⟩ | ⟨-, -, more⟩ := spares.clients
    · rw [same]
    · rw [more, List.flatMap_append]
      exact List.append_nil _
  rw [Relay.buffers, slots, held, Relay.buffers]

theorem answerAwaited_ne_failed (backed : session.Backed relay)
    (sound : relay.consumers.Sound) {awaited : Awaited}
    (linked : awaited = .event → session.link.isSome) :
    (session.answerAwaited relay awaited).2 ≠ some (.failed error) := by
  cases awaited with
  | event =>
    obtain ⟨link, held⟩ := Option.isSome_iff_exists.mp (linked rfl)
    rw [answerAwaited_event held (live_of_registered sound (backed.registered link held))]
    split <;> simp
  | vblank past =>
    rw [answerAwaited]
    split <;> simp

theorem Handles.spares (handles : session.Handles relay files request last after (.failed error))
    (backed : session.Backed relay) (sound : relay.consumers.Sound) :
    session.Spares relay request last after := by
  have waits {opened : Session} {middle : Relay} {awaited : Awaited}
      (backed : opened.Backed middle) (sound : middle.consumers.Sound)
      (linked : awaited = .event → opened.link.isSome)
      (awaits : opened.await middle awaited = (last, after, .failed error)) : False := by
    obtain ⟨-, answered⟩ | ⟨-, none, -⟩ := await_cases awaits
    · exact answerAwaited_ne_failed backed sound linked (congrArg Prod.snd answered)
    · cases none
  cases handles with
  | misfit | miscounted => exact spares_same rfl
  | denied needs _ _ =>
    cases request with
    | configure | wait | exportFrame => exact spares_same rfl
    | _ => cases needs
  | produces given done =>
    obtain ⟨_, -, rfl⟩ | ⟨_, none, -⟩ := produce_cases done
    · obtain ⟨-, rfl, rfl⟩ | ⟨without, rfl, rfl, rfl⟩ := withClient_cases given
      · exact ⟨rfl, .inl ⟨rfl, rfl⟩⟩
      · refine ⟨?_, .inr ⟨without, rfl, rfl⟩⟩
        cases request <;> rfl
    · cases none
  | listens given awaits =>
    have swaps := backed.swaps_acquires (acquires_of_withLink given)
    have linked := link_of_withLink given
    exact (waits swaps.backed (swaps.sound sound) (fun _ => by rw [linked]; rfl) awaits).elim
  | watches awaits => exact (waits backed sound (fun none => by cases none) awaits).elim

theorem answerAwaited_ne_error {awaited : Awaited} {kind message : String} :
    session.answerAwaited relay awaited ≠ (after, some (.reply (.error kind message) given)) := by
  intro answered
  obtain ⟨_, -, none⟩ | ⟨_, -, none⟩ | ⟨_, -, -, none⟩ := answerAwaited_cases answered <;>
    cases none

theorem Handles.failed_of_error {handled : Handled} {kind message : String}
    (handles : session.Handles relay files request last after handled)
    (answer : handled.answer? = some (.error kind message, given)) :
    ∃ error, handled = .failed error ∧ kind = error.kind ∧ message = error.message ∧
      given = [] := by
  have never {opened : Session} {middle : Relay} {awaited : Awaited}
      (awaits : opened.await middle awaited = (last, after, .reply (.error kind message) given)) :
      False := by
    obtain ⟨-, answered⟩ | ⟨-, none, -⟩ := await_cases awaits
    · exact answerAwaited_ne_error answered
    · cases none
  cases handled with
  | waits awaited => cases answer
  | failed error =>
    cases answer
    exact ⟨error, rfl, rfl, rfl, rfl⟩
  | reply response more =>
    cases answer
    cases handles with
    | produces _ done =>
      rcases response_produce done with none | ⟨_, none⟩ | ⟨_, none⟩ <;> cases none
    | listens _ awaits => exact (never awaits).elim
    | watches awaits => exact (never awaits).elim

end Session

namespace Hub

variable {hub next : Hub} {number : Nat} {connection : Connection} {session : Session}

/-! ## The next request -/

/-- Whether a session goes on to handle a request once it took the start of it, and is done with
it unless that has no end. -/
def Serves (hub : Hub) (number : Nat) (request : Request) (files : List File) : Prop :=
  (∃ handled, (hub.move (.advance number)).exchange? number = some ⟨request, files, handled⟩) ∨
    ∃ session, hub.session? number = some session ∧
      session.endless hub.relay request files = true

theorem serves_of_queued (found : hub.connections[number]? = some connection)
    (present : connection.session = some session) (serves : session.awaited = none)
    (between : connection.opening = none) {request : Request} {files : List File}
    {others : List (Request × List File)}
    (queued : Frame.Queued Frame.requestCodec ((request, files) :: others)
      connection.requests.chunks) : hub.Serves number request files := by
  have nonempty : connection.requests.chunks ≠ [] := by
    generalize connection.requests.chunks = chunks at queued
    cases queued with
    | cons _ _ carried _ => exact List.append_ne_nil_of_left_ne_nil carried.chunks_ne_nil _
  rw [← List.append_nil connection.requests.chunks] at queued
  obtain ⟨opening, left, taken, expects⟩ :=
    Frame.takeOpening_queued queued nonempty connection.requests.ending
  obtain ⟨_, _, _, rest, same, completed, -⟩ | ⟨-, more⟩ :=
    Frame.complete_expected connection.requests.ending expects (by simp)
  · cases same
    have advanced : hub.move (.advance number) = hub.put number
        { connection with
          requests := ⟨left, connection.requests.ending⟩, opening := some opening } := by
      have taken : Frame.takeOpening connection.requests =
          (⟨left, connection.requests.ending⟩, some (.ok opening)) := taken
      simp [move, advance_eq found present, serves, advanceServing, between, taken]
    have advanced_relay : (hub.move (.advance number)).relay = hub.relay := by rw [advanced]; rfl
    have there := getElem?_put_self found
      { connection with requests := ⟨left, connection.requests.ending⟩, opening := some opening }
    rw [← advanced] at there
    cases ends : session.endless hub.relay request files with
    | true => exact .inr ⟨session, (session?_eq_some found).mpr present, ends⟩
    | false =>
      rw [← advanced_relay] at ends
      exact .inl ⟨_, exchange?_of_received there present serves rfl completed ends⟩
  · exact absurd rfl more

/-- A session takes the next request, whether it lies on the stream or is yet to be sent. -/
structure Usable (hub : Hub) (number : Nat) : Prop where
  queued : ∃ connection, hub.connections[number]? = some connection ∧
    connection.session.isSome ∧ ∀ request files others,
      Frame.Queued Frame.requestCodec ((request, files) :: others) connection.requests.chunks →
        hub.Serves number request files
  sent : ∀ connection, hub.connections[number]? = some connection → connection.isOpen = true →
    connection.requests = .empty → ∀ request files chunk,
      Frame.send request.encode files = .ok chunk →
        (hub.move (.send number chunk)).Serves number request files

theorem usable_of_serves (found : hub.connections[number]? = some connection)
    (present : connection.session = some session) (serves : session.awaited = none)
    (between : connection.opening = none) : hub.Usable number where
  queued := ⟨connection, found, by rw [present]; rfl, fun _ _ _ queued =>
    serves_of_queued found present serves between queued⟩
  sent := by
    intro connection there isOpen nothing request files chunk sent
    rw [found] at there
    cases there
    obtain ⟨short, few, rfl⟩ := Frame.send_eq_ok.mp sent
    have placed :
        (hub.move (.send number ⟨Frame.encode request.encode, files⟩)).connections[number]? =
          some { connection with
            requests := ⟨[⟨Frame.encode request.encode, files⟩], .flowing⟩ } := by
      have some_ : Frame.encode request.encode ≠ [] := List.cons_ne_nil _ _
      simp [move, onPeer, found, isOpen, nothing, Stream.send, Stream.empty, some_]
    have carried : Carried (Frame.encode request.encode) files
        [⟨Frame.encode request.encode, files⟩] :=
      Chunk.carried_split [] ⟨Frame.encode request.encode, files⟩ (List.cons_ne_nil _ _)
    have queued : Frame.Queued Frame.requestCodec [(request, files)]
        ([⟨Frame.encode request.encode, files⟩] ++ []) := .cons short few carried .nil
    exact serves_of_queued placed present serves between queued

/-! ## Error replies -/

/-- A hub before and after a session answered a request with an error: all is as it was but for
the clients, where the session may have opened its own, and the number of the next
framebuffer. -/
structure Intact (hub : Hub) (number : Nat) (session : Session) (request : Request)
    (next : Hub) : Prop where
  /-- Both slots, the pacer, the power, the mode and the observers, the registration and all
  channels are as they were. -/
  relay : next.relay =
    { hub.relay with
      clients := next.relay.clients, nextFramebuffer := hub.relay.numberAfter request }
  /-- All handles and framebuffers are, of this session and of the others. -/
  tables : ∀ client, (next.relay.client client).registry = (hub.relay.client client).registry ∧
    (next.relay.client client).framebuffers = (hub.relay.client client).framebuffers
  buffers : next.relay.buffers = hub.relay.buffers
  clients : next.session? number = some session ∧ next.relay.clients = hub.relay.clients ∨
    session.client = none ∧
      next.session? number = some { session with client := some hub.relay.clients.length } ∧
      next.relay.clients = hub.relay.clients ++ [.new]
  others : ∀ other ≠ number, next.connections[other]? = hub.connections[other]?
  sent : next.sent = hub.sent
  log : next.log = hub.log

theorem warnings_of_failed {relay after : Relay} {last : Session} {request : Request}
    {files : List File} {error : RelayError}
    (handles : session.Handles relay files request last after (.failed error)) :
    session.warnings relay request = [] := by
  cases handles with
  | misfit asked =>
    unfold Session.warnings
    simp only [asked]
  | miscounted | listens | watches => rfl
  | denied needs without taken =>
    obtain ⟨link, registered⟩ := Option.isSome_iff_exists.mp taken
    have refused : session.withLink relay = (session, relay, .error .busy) := by
      simp [Session.withLink, without, Relay.attach, registered]
    cases request with
    | configure width height refresh =>
      unfold Session.warnings
      simp only [refused]
      split
      · next given => cases given
      · rfl
    | exportFrame =>
      unfold Session.warnings
      simp only [refused]
    | _ => rfl
  | produces given done =>
    cases request with
    | configure | exportFrame => cases done
    | _ => rfl

theorem intact_of_spares {after : Relay} {last : Session} {left : Connection}
    {request : Request} {log : List Warning}
    (found : hub.connections[number]? = some connection) (goesOn : left.session = some last)
    (spares : session.Spares hub.relay request last after) (quiet : log = hub.log) :
    hub.Intact number session request ({ hub with relay := after, log }.put number left) where
  relay := spares.rest
  tables := spares.client
  buffers := spares.buffers
  clients := by
    rw [session?_of_set found rfl, Function.update_self, goesOn]
    obtain ⟨rfl, same⟩ | ⟨without, rfl, more⟩ := spares.clients
    · exact .inl ⟨rfl, same⟩
    · exact .inr ⟨without, rfl, more⟩
  others other apart := List.getElem?_set_ne (Ne.symm apart)
  sent := rfl
  log := quiet

/-- In a run no wait is answered with an error: a session that waits has a link, and that is not
torn down while it has it. -/
theorem not_error_of_waits (mode : Mode) (moves : List Move) {awaited : Awaited} {after : Relay}
    {handled : Handled} {kind message : String} {files : List File}
    (present : ((Hub.new mode).run moves).session? number = some session)
    (waits : session.awaited = some awaited)
    (answered : session.answerAwaited ((Hub.new mode).run moves).relay awaited =
      (after, some handled)) : handled.answer? ≠ some (.error kind message, files) := by
  intro answer
  have possessed : ((Hub.new mode).run moves).Possessed := possessed_run mode moves
  obtain ⟨linked, -⟩ := pending_of_waits _ (session?_new mode) moves present waits
  cases handled with
  | waits awaited => cases answer
  | failed error =>
    exact Session.answerAwaited_ne_failed (Possession.backed possessed present) possessed.sound
      linked (congrArg Prod.snd answered)
  | reply response more =>
    cases answer
    exact Session.answerAwaited_ne_error answered

/-- A request that is answered with an error leaves everything as it was, but for the client that
its session may have opened and the number that a new framebuffer uses up; the session takes the
next request. -/
theorem error_replies_leave_intact (mode : Mode) (moves : List Move) (number : Nat)
    (kind message : String) (files : List File) :
    let hub := (Hub.new mode).run moves
    let next := hub.move (.advance number)
    hub.Sends number (.error kind message) files →
      files = [] ∧ ∃ session exchange error, hub.session? number = some session ∧
        hub.exchange? number = some exchange ∧ exchange.handled = .failed error ∧
        kind = error.kind ∧ message = error.message ∧
        hub.Intact number session exchange.request next ∧ next.Usable number := by
  intro hub next sends
  have possessed : hub.Possessed := possessed_run mode moves
  obtain ⟨exchange, given, answer⟩ | ⟨session, awaited, after, handled, present, waits, answered,
    answer⟩ := sends.cases
  · obtain ⟨connection, session, opening, requests, last, after, found, held, serves, started,
      received, served, concluded⟩ := exchange?_cases given
    have present : hub.session? number = some session := (session?_eq_some found).mpr held
    have handles := Session.handles served
    obtain ⟨error, failed, kinds, messages, noFiles⟩ := handles.failed_of_error answer
    rw [failed] at handles
    have spares := handles.spares (Possession.backed possessed present) possessed.sound
    have quiet : hub.log ++ session.warnings hub.relay exchange.request = hub.log := by
      rw [warnings_of_failed handles, List.append_nil]
    obtain ⟨chunk, put⟩ := sends.goesOn found (by rfl) concluded
    simp only [next, put]
    refine ⟨noFiles, session, exchange, error, present, given, failed, kinds, messages,
      intact_of_spares found rfl spares quiet, ?_⟩
    exact usable_of_serves (getElem?_put_self (by exact found) _) rfl (spares.serves serves) rfl
  · exact absurd answer (not_error_of_waits mode moves present waits answered)

/-- The first request of a session is to make a framebuffer of a handle that it does not have. -/
theorem error_replies_leave_intact_unknown_handle :
    let hub := (Hub.new ⟨640, 480, 60⟩).run
      [.connect, .send 0 ⟨Frame.encode (Request.addFramebuffer [1]).encode, []⟩, .advance 0]
    let next := hub.move (.advance 0)
    hub.Sends 0 (.error "not_found" "no such object") [] ∧
    hub.Intact 0 ⟨none, none, none⟩ (.addFramebuffer [1]) next ∧
    next.relay.nextFramebuffer = 2 ∧ next.session? 0 = some ⟨some 0, none, none⟩ ∧
    next.Usable 0 := by
  intro hub next
  obtain ⟨before, found, after, left, sent⟩ : ∃ before ∈ hub.connections[0]?,
      ∃ after ∈ next.connections[0]?, after.replies.chunks = before.replies.chunks ++
        [⟨Frame.encode (Response.error "not_found" "no such object").encode, []⟩] := by
    decide +kernel
  have fits : Frame.send (Response.error "not_found" "no such object").encode [] =
      .ok ⟨Frame.encode (Response.error "not_found" "no such object").encode, []⟩ := by
    decide +kernel
  have sends : hub.Sends 0 (.error "not_found" "no such object") [] :=
    ⟨before, after, _, found, left, fits, sent⟩
  obtain ⟨-, session, exchange, error, present, given, -, -, -, intact, usable⟩ :=
    error_replies_leave_intact ⟨640, 480, 60⟩ _ 0 _ _ [] sends
  have fresh : hub.session? 0 = some ⟨none, none, none⟩ := by decide +kernel
  rw [fresh, Option.some.injEq] at present
  subst present
  have request : (hub.exchange? 0).map Exchange.request = some (.addFramebuffer [1]) := by
    decide +kernel
  rw [given, Option.map_some, Option.some.injEq] at request
  rw [request] at intact
  exact ⟨sends, intact, by decide +kernel, by decide +kernel, usable⟩

end Hub

end PresentRelay
