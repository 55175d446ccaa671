import PresentRelay.Proofs.Hub.Waits
import PresentRelay.Proofs.Wire.Calls
import PresentRelay.Proofs.Wire.Frames
import PresentRelay.Remote

/-!
# Calls

A peer that makes one call at a time finds its connection quiet before each.  The session of a
quiet connection handles a request in two steps; `callAlone_eq` says what a call comes to if no
other session takes a step meanwhile.  `call_eq_callAlone` says that none does, if none can
go on before the call and the call leaves the count of vertical blanks alone.
-/

set_option autoImplicit false

namespace PresentRelay

/-! ## One frame on a stream -/

namespace Frame

variable {μ : Type} (codec : Codec μ) {message : μ} {files : List File}

theorem queued_single (fits : (codec.encode message).length ≤ maxPayload)
    (few : files.length ≤ maxFiles) :
    Queued codec [(message, files)] [⟨encode (codec.encode message), files⟩] := by
  have nonempty : encode (codec.encode message) ≠ [] := List.cons_ne_nil _ _
  exact .cons fits few (Chunk.carried_split [] ⟨_, files⟩ nonempty) .nil

theorem takeOpening_single (fits : (codec.encode message).length ≤ maxPayload)
    (few : files.length ≤ maxFiles) :
    ∃ opening between,
      takeOpening ⟨[⟨encode (codec.encode message), files⟩], .flowing⟩ =
        (between, some (.ok opening)) ∧
      complete codec.decode opening between = (.empty, .message message files) := by
  have queued : Queued codec [(message, files)] ([⟨encode (codec.encode message), files⟩] ++ []) :=
    queued_single codec fits few
  obtain ⟨opening, left, taken, expects⟩ :=
    takeOpening_queued queued (List.cons_ne_nil _ _) .flowing
  refine ⟨opening, ⟨left, .flowing⟩, taken, ?_⟩
  obtain ⟨_, _, _, left, same, completed, rest⟩ | ⟨-, more⟩ :=
    complete_expected .flowing expects (fun _ => rfl)
  · cases same
    rw [List.append_nil] at rest
    cases rest
    exact completed
  · exact absurd rfl more

theorem receive_single (fits : (codec.encode message).length ≤ maxPayload)
    (few : files.length ≤ maxFiles) :
    receive codec.decode ⟨[⟨encode (codec.encode message), files⟩], .flowing⟩ =
      (.empty, .message message files) := by
  obtain ⟨left, received, rest⟩ := receive_queued (queued_single codec fits few) .flowing
  cases rest
  exact received

end Frame

/-! ## Requests and answers -/

namespace Handled

def Fits (handled : Handled) : Prop :=
  ∀ response files, handled.answer? = some (response, files) →
    response.encode.length ≤ Frame.maxPayload ∧ files.length ≤ Frame.maxFiles

/-- What a peer that had no reply on its way finds then. -/
def replies (handled : Handled) : Stream :=
  ⟨(handled.answer?.map fun (response, files) =>
    (⟨Frame.encode response.encode, files⟩ : Chunk)).toList, .flowing⟩

/-- What a call comes to then; nothing as long as the session waits. -/
def outcome (handled : Handled) (call : Call) : Option (Except RelayError CallResult) :=
  handled.answer?.map fun (response, files) => call.interpret files response

theorem receive_replies {handled : Handled} (fits : handled.Fits) (call : Call) :
    call.receive handled.replies = (.empty, handled.outcome call) := by
  unfold replies outcome
  cases given : handled.answer? with
  | none => rfl
  | some answer =>
    obtain ⟨short, few⟩ := fits answer.1 answer.2 given
    have received : Frame.receive Response.decode
        ⟨[⟨Frame.encode answer.1.encode, answer.2⟩], .flowing⟩ =
          (.empty, .message answer.1 answer.2) :=
      Frame.receive_single Frame.responseCodec short few
    rw [Option.map_some, Option.map_some, Option.toList_some, Call.receive, received]

end Handled

deriving instance DecidableEq for Connection

theorem Session.endless_congr {session : Session} {relay after : Relay}
    (same : ∀ client, session.client = some client → after.client client = relay.client client)
    (request : Request) (files : List File) :
    session.endless after request files = session.endless relay request files := by
  unfold endless
  split
  · cases held : session.client with
    | none => rfl
    | some client =>
      rw [Option.any_some, Option.any_some, same client held]
  · rfl

/-- Whether a session stops at what it receives. -/
def Frame.Reception.Stops (reception : Frame.Reception Request) (relay : Relay)
    (session : Session) : Prop :=
  match reception with
  | .waiting => True
  | .message request files => session.endless relay request files = true
  | _ => False

namespace Connection

/-- A connection on which nothing is under way, as one that was just made. -/
def quiet (session : Session) : Connection := ⟨.empty, .empty, none, some session, false, true⟩

/-- Whether a session that takes requests has to wait for more of one, or never has done with
one. -/
def Starved (connection : Connection) (relay : Relay) (session : Session) : Prop :=
  match connection.opening with
  | some opening =>
    (Frame.complete Request.decode opening connection.requests).2.Stops relay session
  | none =>
    (Frame.takeOpening connection.requests).2 = none ∧ connection.requests.ending = .flowing

def Stays (connection : Connection) (relay : Relay) (session : Session) : Prop :=
  match session.awaited with
  | some awaited =>
    (session.answerAwaited relay awaited).2 = none ∧ connection.requests.isFinished = false
  | none => connection.Starved relay session

theorem starved_quiet (relay : Relay) (session : Session) :
    (quiet session).Starved relay session := ⟨rfl, rfl⟩

end Connection

namespace Hub

variable {hub next before : Hub} {number other : Nat} {connection : Connection}
  {session last : Session} {after : Relay} {handled : Handled}

theorem session?_quiet (found : hub.connections[number]? = some (.quiet session)) :
    hub.session? number = some session := (session?_eq_some found).mpr rfl

theorem move_advance (advanced : hub.advance number = some next) :
    hub.move (.advance number) = next := by rw [move, advanced, Option.getD_some]

theorem put_put (hub : Hub) (number : Nat) (first second : Connection) :
    (hub.put number first).put number second = hub.put number second := by
  simp [put, List.set_set]

theorem onPeer_eq_put (found : hub.connections[number]? = some connection)
    (isOpen : connection.isOpen = true) (change : Connection → Connection) :
    hub.onPeer number change = hub.put number (change connection) := by
  simp only [onPeer, put, Hub.mk.injEq, true_and, and_true]
  refine List.ext_getElem? fun asked => ?_
  rw [List.getElem?_modify, List.getElem?_set']
  by_cases same : number = asked
  · subst same
    simp [found, isOpen]
  · simp [same]

/-! ## When a session cannot go on -/

theorem serve_eq_none_iff {reception : Frame.Reception Request} :
    hub.serve number connection session reception = none ↔
      reception.Stops hub.relay session := by
  cases reception <;> simp [serve, Frame.Reception.Stops]

theorem advanceServing_eq_none_iff :
    hub.advanceServing number connection session = none ↔
      connection.Starved hub.relay session := by
  unfold advanceServing Connection.Starved
  cases connection.opening with
  | some opening =>
    rcases Frame.complete Request.decode opening connection.requests with ⟨requests, reception⟩
    exact serve_eq_none_iff
  | none =>
    rcases Frame.takeOpening connection.requests with ⟨requests, _ | error | opening⟩
    · dsimp only
      rw [serve_eq_none_iff]
      split <;> simp_all [Frame.Reception.Stops]
    · simp [serve_eq_none_iff, Frame.Reception.Stops]
    · simp

theorem advance_eq_none_iff (found : hub.connections[number]? = some connection)
    (present : connection.session = some session) :
    hub.advance number = none ↔ connection.Stays hub.relay session := by
  rw [advance_eq found present, Connection.Stays]
  cases session.awaited with
  | none => exact advanceServing_eq_none_iff
  | some awaited =>
    simp only [advanceWaiting]
    rcases session.answerAwaited hub.relay awaited with ⟨relay, _ | handled⟩
    · simp
    · simp

/-- A session without a link is concerned by its own client and by vertical blanks only. -/
theorem advance_eq_none_of_same (settled : hub.advance other = none)
    (same : next.connections[other]? = hub.connections[other]?)
    (sequence : next.relay.pacer.sequence = hub.relay.pacer.sequence)
    (linkless : ∀ session, hub.session? other = some session → session.link = none)
    (clients : ∀ session client, hub.session? other = some session →
      session.client = some client → next.relay.client client = hub.relay.client client) :
    next.advance other = none := by
  cases found : hub.connections[other]? with
  | none => simp [advance, same, found]
  | some connection =>
    cases present : connection.session with
    | none => simp [advance, same, found, present]
    | some session =>
      rw [advance_eq_none_iff found present] at settled
      rw [advance_eq_none_iff (same.trans found) present]
      unfold Connection.Stays at settled ⊢
      have there := (session?_eq_some found).mpr present
      have without := linkless session there
      cases waits : session.awaited with
      | none =>
        rw [waits] at settled
        unfold Connection.Starved Frame.Reception.Stops at settled ⊢
        simp only [Session.endless_congr (fun client => clients session client there)]
        exact settled
      | some awaited =>
        rw [waits] at settled
        cases awaited with
        | event => simp [Session.answerAwaited, without] at settled
        | vblank past =>
          simp only [Session.answerAwaited] at settled ⊢
          rw [sequence]
          exact settled

/-- If no link is registered but that of a session, no other session has one. -/
theorem linkless_of_registered (possessed : hub.Possessed)
    (present : hub.session? number = some session) (mine : hub.relay.registered = session.link)
    {other : Nat} {others : Session} (apart : other ≠ number)
    (there : hub.session? other = some others) : others.link = none := by
  cases held : others.link with
  | none => rfl
  | some link =>
    have registered := (Possession.backed possessed there).registered link held
    have none := Possession.link_eq_none possessed present there apart held
    rw [mine, none] at registered
    cases registered

/-! ## One session that goes on -/

theorem settleWithin_of_settled (settled : hub.Settled) (rounds : Nat) :
    settleWithin rounds hub = hub := by
  cases rounds with
  | zero => rfl
  | succ rounds =>
    have still : (List.range hub.connections.length).findSome? hub.advance = none :=
      List.findSome?_eq_none_iff.mpr fun asked _ => settled asked
    rw [settleWithin, still]

theorem settleWithin_of_advance (only : ∀ other, other ≠ number → hub.advance other = none)
    (advanced : hub.advance number = some next) {rounds : Nat} (enough : hub.work ≤ rounds) :
    ∃ fewer, next.work ≤ fewer ∧ settleWithin rounds hub = settleWithin fewer next := by
  have less := work_advance advanced
  obtain ⟨fewer, rfl⟩ := Nat.exists_eq_succ_of_ne_zero (n := rounds) (by omega)
  refine ⟨fewer, by omega, ?_⟩
  rw [settleWithin]
  cases first : (List.range hub.connections.length).findSome? hub.advance with
  | none =>
    have inside : number < hub.connections.length := by
      by_contra missing
      rw [advance_eq_none_of_missing (Nat.le_of_not_lt missing)] at advanced
      cases advanced
    rw [List.findSome?_eq_none_iff.mp first number (List.mem_range.mpr inside)] at advanced
    cases advanced
  | some found =>
    obtain ⟨asked, -, goes⟩ := List.exists_of_findSome?_eq_some first
    by_cases own : asked = number
    · subst own
      obtain rfl : found = next := Option.some.inj (goes.symm.trans advanced)
      rfl
    · rw [only asked own] at goes
      cases goes

/-! ## Calls -/

/-- A call, by how the sessions go on once the request is sent. -/
def callThen (goOn : Hub → Hub) (hub : Hub) (number : Nat) (call : Call) :
    Hub × Option (Except RelayError CallResult) :=
  match hub.connections[number]? with
  | none => (hub, some (.error .disconnected))
  | some connection =>
    match call.send connection.session.isNone with
    | .error error => (hub, some (.error error))
    | .ok chunk =>
      let hub := goOn (hub.move (.send number chunk))
      match hub.connections[number]? with
      | none => (hub, some (.error .disconnected))
      | some connection =>
        let (replies, outcome) := call.receive connection.replies
        (hub.put number { connection with replies }, outcome)

theorem call_eq_callThen (hub : Hub) (number : Nat) (call : Call) :
    hub.call number call = hub.callThen settle number call := rfl

/-- A call during which no session but that of the connection takes a step. -/
def callAlone (hub : Hub) (number : Nat) (call : Call) :
    Hub × Option (Except RelayError CallResult) :=
  hub.callThen (fun sent => sent.run [.advance number, .advance number]) number call

def afterCall (hub : Hub) (number : Nat) (last : Session) (after : Relay)
    (raised : List Warning) : Hub :=
  { hub with relay := after, log := hub.log ++ raised }.put number (.quiet last)

def answered (last : Session) (handled : Handled) : Connection :=
  { Connection.quiet last with replies := handled.replies }

theorem conclude_put (hub : Hub) (number : Nat) (first second : Connection) (last : Session)
    (handled : Handled) :
    (hub.put number first).conclude number second last handled =
      hub.conclude number second last handled := by
  have responds (response : Response) (files : List File) :
      (hub.put number first).respond number second last response files =
        hub.respond number second last response files := by
    unfold respond
    split
    · simp [failSession, endSession, put]
    · split
      · simp [failSession, endSession, put]
      · simp [put]
  cases handled with
  | reply response files => exact responds response files
  | waits awaited => simp [conclude, put]
  | failed error =>
    rw [conclude, conclude, responds]
    split
    · simp [endSession, put]
    · rfl

theorem conclude_quiet (hub : Hub) (number : Nat) (session last : Session) {handled : Handled}
    (fits : handled.Fits) :
    hub.conclude number (.quiet session) last handled =
      hub.put number (answered last handled) := by
  have responds {response : Response} {files : List File}
      (given : handled.answer? = some (response, files)) :
      hub.respond number (.quiet session) last response files =
        hub.put number (answered last handled) := by
    obtain ⟨short, few⟩ := fits response files given
    rw [respond, Frame.send_eq_ok.mpr ⟨short, few, rfl⟩, answered, Handled.replies, given]
    rfl
  cases handled with
  | reply response files => exact responds rfl
  | waits awaited => rfl
  | failed error =>
    -- the peer is there: nothing of it ended
    have there : (Connection.quiet session).requests.isFinished = false := rfl
    rw [conclude, there, if_neg (by simp)]
    exact responds rfl

theorem callThen_eq {goOn : Hub → Hub} (found : hub.connections[number]? = some (.quiet session))
    {call : Call} (fits : call.request.encode.length ≤ Frame.maxPayload) (answers : handled.Fits)
    {raised : List Warning}
    (goes : goOn (hub.move (.send number ⟨Frame.encode call.request.encode, call.files⟩)) =
      { hub with relay := after, log := hub.log ++ raised }.put number (answered last handled)) :
    hub.callThen goOn number call =
      (hub.afterCall number last after raised, handled.outcome call) := by
  have there : ({ hub with relay := after, log := hub.log ++ raised }.put number
      (answered last handled)).connections[number]? = some (answered last handled) :=
    getElem?_put_self (by exact found) _
  have sent : call.send (Connection.quiet session).session.isNone =
      .ok ⟨Frame.encode call.request.encode, call.files⟩ := call.send_eq fits
  simp only [callThen, found, sent, goes, there]
  simp only [answered, Handled.receive_replies answers, put_put]
  rfl

theorem move_send (found : hub.connections[number]? = some (.quiet session)) (chunk : Chunk) :
    hub.move (.send number chunk) =
      hub.put number { Connection.quiet session with requests := Stream.empty.send chunk } :=
  onPeer_eq_put found rfl _

theorem exists_opened (found : hub.connections[number]? = some (.quiet session))
    (serves : session.awaited = none) {call : Call}
    (fits : call.request.encode.length ≤ Frame.maxPayload)
    (ends : session.endless hub.relay call.request call.files = false)
    (served : session.handle hub.relay call.request call.files = (last, after, handled)) :
    ∃ opened,
      (hub.move (.send number ⟨Frame.encode call.request.encode, call.files⟩)).advance number =
        some (hub.put number opened) ∧
      (hub.put number opened).advance number = some ({ hub with
        relay := after
        log := hub.log ++ session.warnings hub.relay call.request }.conclude number
          (.quiet session) last handled) := by
  have opens : ∃ opening between, Frame.takeOpening
      (Stream.empty.send ⟨Frame.encode call.request.encode, call.files⟩) =
        (between, some (.ok opening)) ∧
      Frame.complete Request.decode opening between =
        (.empty, .message call.request call.files) :=
    Frame.takeOpening_single Frame.requestCodec fits call.length_files_le
  obtain ⟨opening, between, taken, completed⟩ := opens
  let opened := { Connection.quiet session with requests := between, opening := some opening }
  refine ⟨opened, ?_, ?_⟩
  · rw [move_send found, advance_eq (getElem?_put_self found _) rfl, serves]
    simp only [advanceServing, Connection.quiet, taken, put_put]
    rfl
  · rw [advance_eq (getElem?_put_self found _) rfl, serves]
    have goesOn : ¬ session.endless (hub.put number opened).relay call.request call.files = true :=
      Bool.eq_false_iff.mp ends
    simp only [opened] at goesOn
    simp only [advanceServing, opened, completed, serve, if_neg goesOn]
    have same : session.handle (hub.put number opened).relay call.request call.files =
        (last, after, handled) := served
    simp only [opened] at same
    rw [same]
    exact congrArg some (conclude_put { hub with
      relay := after
      log := hub.log ++ session.warnings hub.relay call.request } number opened _ last handled)

/-- A call on a quiet connection comes to what the session answers at once, and leaves the
connection quiet.  If the session waits, there is nothing yet. -/
theorem callAlone_eq (found : hub.connections[number]? = some (.quiet session))
    (serves : session.awaited = none) {call : Call}
    (fits : call.request.encode.length ≤ Frame.maxPayload)
    (ends : session.endless hub.relay call.request call.files = false)
    (served : session.handle hub.relay call.request call.files = (last, after, handled))
    (answers : handled.Fits) :
    hub.callAlone number call =
      (hub.afterCall number last after (session.warnings hub.relay call.request),
        handled.outcome call) := by
  obtain ⟨opened, first, second⟩ := exists_opened found serves fits ends served
  rw [conclude_quiet _ number session last answers] at second
  refine callThen_eq found fits answers ?_
  simp only [run, List.foldl_cons, List.foldl_nil]
  rw [move_advance first, move_advance second]

/-- If no session can go on before a call of the consumer, or of one that may become the consumer,
none but that of the connection goes on during it. -/
theorem call_eq_callAlone (settled : hub.Settled) (possessed : hub.Possessed)
    (found : hub.connections[number]? = some (.quiet session))
    (mine : hub.relay.registered = session.link) (serves : session.awaited = none) {call : Call}
    (fits : call.request.encode.length ≤ Frame.maxPayload)
    (ends : session.endless hub.relay call.request call.files = false)
    (served : session.handle hub.relay call.request call.files = (last, after, handled))
    (answers : handled.Fits) (sequence : after.pacer.sequence = hub.relay.pacer.sequence)
    (rests : ∀ awaited, last.awaited = some awaited →
      (last.answerAwaited after awaited).2 = none) :
    hub.call number call = hub.callAlone number call := by
  rw [callAlone_eq found serves fits ends served answers, call_eq_callThen]
  obtain ⟨opened, first, second⟩ := exists_opened found serves fits ends served
  rw [conclude_quiet _ number session last answers] at second
  refine callThen_eq found fits answers ?_
  have becomes : session.Becomes hub.relay last after := by
    have handle := session.becomes_handle hub.relay call.request call.files
    rwa [served] at handle
  -- the others wait for nothing that comes with the call
  have others {next : Hub} {left : Connection} (relay : Relay) (raised : List Warning)
      (same : next = { hub with relay, log := raised }.put number left)
      (sequence : relay.pacer.sequence = hub.relay.pacer.sequence)
      (clients : ∀ client, last.client ≠ some client →
        relay.client client = hub.relay.client client) :
      ∀ other, other ≠ number → next.advance other = none := by
    rintro other apart
    subst same
    refine advance_eq_none_of_same (settled other) (List.getElem?_set_ne apart.symm) sequence
      (fun _ present => linkless_of_registered possessed (session?_quiet found) mine apart present)
      fun _ client present held => clients client ?_
    exact Possession.client_ne_of_becomes possessed (session?_quiet found) becomes present apart
      held
  have done : Settled ({ hub with
      relay := after
      log := hub.log ++ session.warnings hub.relay call.request }.put number
        (answered last handled)) := by
    intro other
    by_cases own : other = number
    · subst own
      rw [advance_eq_none_iff (getElem?_put_self (by exact found) _) rfl, Connection.Stays]
      cases waits : last.awaited with
      | none => exact Connection.starved_quiet after last
      | some awaited => exact ⟨rests awaited waits, rfl⟩
    · exact others after _ rfl sequence (fun _ => becomes.client_of_ne) other own
  -- the session takes the request and handles it, and that is all that settling does
  obtain ⟨rounds, enough, taken⟩ :=
    settleWithin_of_advance (others hub.relay hub.log (move_send found _) rfl fun _ _ => rfl) first
      (work_le_rounds _)
  obtain ⟨fewer, -, handles⟩ :=
    settleWithin_of_advance (others hub.relay hub.log rfl rfl fun _ _ => rfl) second enough
  rw [settle, taken, handles]
  exact settleWithin_of_settled done fewer

/-! ## The end of a wait -/

theorem advance_answered (found : hub.connections[number]? = some (.quiet session))
    {awaited : Awaited} (waits : session.awaited = some awaited)
    (given : session.answerAwaited hub.relay awaited = (after, some handled))
    (answers : handled.Fits) :
    hub.advance number = some ({ hub with relay := after }.put number
      (answered { session with awaited := none } handled)) := by
  rw [advance_eq found rfl, waits]
  simp only [advanceWaiting, given]
  rw [conclude_quiet _ number session _ answers]

theorem advance_blocked (found : hub.connections[number]? = some (.quiet session))
    {awaited : Awaited} (waits : session.awaited = some awaited)
    (blocked : (session.answerAwaited hub.relay awaited).2 = none) :
    hub.advance number = none := by
  rw [advance_eq_none_iff found rfl, Connection.Stays, waits]
  exact ⟨blocked, rfl⟩

end Hub

end PresentRelay
