import PresentRelay.Proofs.Hub.Endings
import PresentRelay.Proofs.Hub.Exchanges
import PresentRelay.Proofs.Hub.Settling
import PresentRelay.Proofs.Session.Handling

/-!
# What sessions wait for

A session that waits has a request that it has not answered: `Pending` finds it in the history of
the hub.  From it and from who has the registration follows what is missing when a session goes on
waiting, and what was missing before it is answered.
-/

set_option autoImplicit false

namespace PresentRelay

namespace Session

variable {session : Session} {relay : Relay}

theorem live_of_registered (sound : relay.consumers.Sound) {link : Nat}
    (registered : relay.registered = some link) : (relay.link link).tornDown = false := by
  have live : relay.consumers.isLive link = true := (sound.exclusive link).mp registered
  simp only [Consumers.isLive, Relay.consumers, Option.any_eq_true, Bool.not_eq_true'] at live
  obtain ⟨channel, found, tornDown⟩ := live
  rw [Relay.link, found, Option.getD_some, tornDown]

/-- The wait of a registered consumer goes on exactly as long as nothing was raised. -/
theorem answerAwaited_event {link : Nat} (held : session.link = some link)
    (live : (relay.link link).tornDown = false) :
    (session.answerAwaited relay .event).2 =
      if (relay.link link).raised = .none then none
      else some (.reply (.ofEvent ⟨(relay.link link).raised, (relay.link link).power⟩) []) := by
  by_cases raised : (relay.link link).raised = .none <;>
    simp [answerAwaited, held, Relay.poll, EventChannel.poll, live, raised]

end Session

namespace Hub

variable {hub next : Hub} {number : Nat} {connection : Connection} {session : Session}

theorem session?_eq_some (found : hub.connections[number]? = some connection) :
    hub.session? number = some session ↔ connection.session = some session := by
  rw [session?, found, Option.bind_some]

/-- A session that did not take a step was the same before, unless it is a new one. -/
theorem session?_of_move {move : Move} (present : (hub.move move).session? number = some session)
    (other : move ≠ .advance number) :
    hub.session? number = some session ∨ session = .new ∧ hub.connections.length ≤ number := by
  cases before : hub.session? number with
  | some was =>
    rw [session?_move_of_present before move other] at present
    exact .inl present
  | none =>
    rcases hub.move_cases move with rfl | ⟨asked, rfl⟩ | ⟨sessions, -⟩
    · rw [Hub.move, hub.session?_connect] at present
      by_cases same : number = hub.connections.length
      · subst same
        rw [Function.update_self, Option.some.injEq] at present
        exact .inr ⟨present.symm, Nat.le_refl _⟩
      · rw [Function.update_of_ne same, before] at present
        cases present
    · have apart : number ≠ asked := fun same => other (congrArg Move.advance same.symm)
      rw [Hub.move] at present
      cases advanced : hub.advance asked with
      | none =>
        rw [advanced, Option.getD_none, before] at present
        cases present
      | some next =>
        obtain ⟨connection, _, found, _, _, _, _, ends⟩ := advance_cases advanced
        rw [advanced, Option.getD_some] at present
        rcases ends with ⟨left, connections, -⟩ | ⟨⟨left, connections, -⟩, -⟩ <;>
        · rw [session?_of_set found connections, Function.update_of_ne apart, before] at present
          cases present
    · rw [sessions, before] at present
      cases present

theorem goesOn_conclude {replaced : Connection} {last : Session} {handled : Handled}
    (found : hub.connections[number]? = some connection)
    (goesOn : (hub.conclude number replaced last handled).session? number = some session) :
    session = last ∧ (hub.conclude number replaced last handled).relay = hub.relay := by
  obtain ⟨left, connections, ⟨kept, relay, -⟩ | ⟨ended, -, -⟩⟩ :=
    leaves_conclude hub number replaced last handled <;>
  rw [session?_of_set found connections, Function.update_self] at goesOn
  · rw [kept] at goesOn
    exact ⟨(Option.some.inj goesOn).symm, relay⟩
  · rw [ended] at goesOn
    cases goesOn

theorem awaited_advance (advanced : hub.advance number = some next)
    (present : next.session? number = some session) {awaited : Awaited}
    (waits : session.awaited = some awaited) :
    ∃ exchange, hub.exchange? number = some exchange ∧ exchange.handled = .waits awaited ∧
      Session.awaits? hub.relay.pacer.sequence exchange.request = some awaited ∧
      (awaited = .event → session.link.isSome) := by
  obtain ⟨connection, before, found, there, does⟩ := advance_does advanced
  cases does with
  | opens serves between requests opening taken =>
    rw [session?_of_set found rfl, Function.update_self, there] at present
    cases present
    rw [serves] at waits
    cases waits
  | serves serves opening started requests request files received ends last after handled served =>
    obtain ⟨rfl, -⟩ := goesOn_conclude (by exact found) present
    obtain ⟨rfl, asked, link⟩ := (Session.handles served).waits serves waits
    refine ⟨_, exchange?_of_received found there serves started received ends, ?_, asked, link⟩
    rw [served]
  | answers asked _ after handled answered =>
    obtain ⟨rfl, -⟩ := goesOn_conclude (by exact found) present
    cases waits
  | leaves ending =>
    rw [session?_of_set found rfl, Function.update_self] at present
    cases present
  | breaks ending requests opening error =>
    rw [session?_of_set found rfl, Function.update_self] at present
    cases present

/-! ## The request that a session has not answered -/

/-- A session waits, as it has done ever since it handled a request after the first of some
moves. -/
structure Pending (start : Hub) (moves first : List Move) (number : Nat) (session : Session)
    (exchange : Exchange) (awaited : Awaited) : Prop where
  waits : session.awaited = some awaited
  handled : (start.run first).exchange? number = some exchange ∧ exchange.handled = .waits awaited
  asked : Session.awaits? (start.run first).relay.pacer.sequence exchange.request = some awaited
  since : ∃ later, moves = first ++ .advance number :: later ∧
    ∀ passed, passed <+: later →
      (start.run (first ++ .advance number :: passed)).session? number = some session

theorem Pending.concat {start : Hub} {moves first : List Move} {exchange : Exchange}
    {awaited : Awaited} (pending : Pending start moves first number session exchange awaited)
    {move : Move} (still : (start.run (moves ++ [move])).session? number = some session) :
    Pending start (moves ++ [move]) first number session exchange awaited where
  waits := pending.waits
  handled := pending.handled
  asked := pending.asked
  since := by
    obtain ⟨later, rfl, since⟩ := pending.since
    refine ⟨later ++ [move], by simp, fun passed within => ?_⟩
    rcases List.prefix_concat_iff.mp within with rfl | earlier
    · simpa using still
    · exact since passed earlier

theorem pending_of_waits (start : Hub) (fresh : ∀ number, start.session? number = none)
    (moves : List Move) {awaited : Awaited}
    (present : (start.run moves).session? number = some session)
    (waits : session.awaited = some awaited) :
    (awaited = .event → session.link.isSome) ∧
      ∃ first exchange, Pending start moves first number session exchange awaited := by
  induction moves using List.reverseRecOn generalizing session with
  | nil =>
    rw [run, List.foldl_nil, fresh] at present
    cases present
  | append_singleton moves move ih =>
    -- a session that was there before goes on waiting for the same request
    have goesOn (was : (start.run moves).session? number = some session) :
        (awaited = .event → session.link.isSome) ∧ ∃ first exchange,
          Pending start (moves ++ [move]) first number session exchange awaited := by
      obtain ⟨link, first, exchange, pending⟩ := ih was waits
      exact ⟨link, first, exchange, pending.concat present⟩
    have present' := present
    rw [run_concat] at present'
    by_cases own : move = .advance number
    · subst own
      rw [Hub.move] at present'
      cases advanced : (start.run moves).advance number with
      | none =>
        rw [advanced, Option.getD_none] at present'
        exact goesOn present'
      | some next =>
        rw [advanced, Option.getD_some] at present'
        obtain ⟨exchange, given, handled, asked, link⟩ := awaited_advance advanced present' waits
        refine ⟨link, moves, exchange, waits, ⟨given, handled⟩, asked, [], rfl, ?_⟩
        intro passed within
        rw [List.prefix_nil.mp within]
        exact present
    · rcases session?_of_move present' own with was | ⟨rfl, -⟩
      · exact goesOn was
      · cases waits

theorem session?_new (mode : Mode) (number : Nat) : (Hub.new mode).session? number = none := rfl

/-! ## No wake-up is lost -/

theorem blocked_of_advance (present : hub.session? number = some session) {awaited : Awaited}
    (waits : session.awaited = some awaited) (blocked : hub.advance number = none) :
    (session.answerAwaited hub.relay awaited).2 = none := by
  cases found : hub.connections[number]? with
  | none => simp [session?, found] at present
  | some connection =>
    rw [advance_eq found ((session?_eq_some found).mp present), waits] at blocked
    rcases answered : session.answerAwaited hub.relay awaited with ⟨after, answer⟩
    cases answer with
    | none => rfl
    | some handled => simp [advanceWaiting, answered] at blocked

theorem registered_of_waits (mode : Mode) (moves : List Move)
    (present : ((Hub.new mode).run moves).session? number = some session)
    (waits : session.awaited = some .event) :
    ∃ link, session.link = some link ∧
      ((Hub.new mode).run moves).relay.registered = some link ∧
      (((Hub.new mode).run moves).relay.link link).tornDown = false := by
  obtain ⟨linked, -⟩ := pending_of_waits _ (session?_new mode) moves present waits
  obtain ⟨link, held⟩ := Option.isSome_iff_exists.mp (linked rfl)
  have possessed : ((Hub.new mode).run moves).Possessed := possessed_run mode moves
  have registered := (Possession.backed possessed present).registered link held
  exact ⟨link, held, registered, Session.live_of_registered possessed.sound registered⟩

/-- What a session waits for has not come. -/
structure Lacks (hub : Hub) (session : Session) (awaited : Awaited) : Prop where
  event : awaited = .event → ∀ link, session.link = some link →
    (hub.relay.link link).raised = .none
  vblank : ∀ past, awaited = .vblank past → hub.relay.pacer.sequence ≤ past

theorem unanswered_iff_lacks (mode : Mode) (moves : List Move) {awaited : Awaited}
    (present : ((Hub.new mode).run moves).session? number = some session)
    (waits : session.awaited = some awaited) :
    (session.answerAwaited ((Hub.new mode).run moves).relay awaited).2 = none ↔
      ((Hub.new mode).run moves).Lacks session awaited := by
  cases awaited with
  | event =>
    obtain ⟨link, held, -, live⟩ := registered_of_waits mode moves present waits
    rw [Session.answerAwaited_event held live, ite_eq_left_iff]
    refine ⟨fun quiet => ⟨fun _ other also => ?_, fun past same => ?_⟩,
      fun lacks raised => absurd (lacks.event rfl link held) raised⟩
    case refine_2 => cases same
    obtain rfl : link = other := Option.some.inj (held.symm.trans also)
    by_contra raised
    cases quiet raised
  | vblank past =>
    simp only [Session.answerAwaited, ite_eq_right_iff, reduceCtorEq, imp_false, UInt64.not_lt]
    refine ⟨fun before => ⟨fun same => ?_, fun other same => ?_⟩,
      fun lacks => lacks.vblank past rfl⟩
    · cases same
    · cases same
      exact before

theorem vblank_of_sends (mode : Mode) (moves : List Move) {count : UInt64} {files : List File}
    (sends : ((Hub.new mode).run moves).Sends number (.vblank count) files) :
    files = [] ∧ count = ((Hub.new mode).run moves).relay.pacer.sequence ∧
      ∃ first exchange asked,
        let past := asked.getD ((Hub.new mode).run first).relay.pacer.sequence
        past < count ∧ exchange.request = .waitVblank asked ∧
        ((Hub.new mode).run first).exchange? number = some exchange ∧
        (first = moves ∨ ∃ session,
          Pending (.new mode) moves first number session exchange (.vblank past)) := by
  obtain ⟨exchange, given, answer⟩ | ⟨session, awaited, after, handled, present, waits, answered,
    answer⟩ := sends.cases
  · obtain ⟨connection, before, opening, requests, last, after, -, -, -, -, -, served, -⟩ :=
      exchange?_cases given
    cases handled : exchange.handled with
    | waits awaited =>
      rw [handled] at answer
      cases answer
    | failed error =>
      rw [handled] at answer
      cases answer
    | reply response more =>
      rw [handled] at answer served
      cases answer
      obtain ⟨none, reached, past, awaits, less⟩ := (Session.handles served).vblank
      obtain ⟨asked, request, rfl⟩ := Session.awaits?_vblank awaits
      exact ⟨none, reached, moves, exchange, asked, less, request, given, .inl rfl⟩
  · cases handled with
    | waits awaited => cases answer
    | failed error => cases answer
    | reply response more =>
      cases answer
      obtain ⟨none, reached, past, rfl, less⟩ := Session.answerAwaited_vblank answered
      obtain ⟨-, first, exchange, pending⟩ :=
        pending_of_waits _ (session?_new mode) moves present waits
      obtain ⟨asked, request, rfl⟩ := Session.awaits?_vblank pending.asked
      exact ⟨none, reached, first, exchange, asked, less, request, pending.handled.1,
        .inr ⟨session, pending⟩⟩

/-- The sessions get to where none can go on, by steps of their own.  At any moment, a session that
cannot go on waits for an event while it has the registration and nothing was raised, or for a
vertical blank that has not come.  A count that a session tells is the count of that moment; the
session was asked for it, at once or before it began to wait, and it is past the count that was
asked about or, if none was, past the count when the request was handled. -/
theorem no_wakeup_lost (mode : Mode) (moves : List Move) :
    let hub := (Hub.new mode).run moves
    ((∃ steps : List Nat, hub.settle = hub.run (steps.map .advance)) ∧ hub.settle.Settled) ∧
    (∀ number session awaited, hub.session? number = some session →
      session.awaited = some awaited → hub.advance number = none →
        hub.Lacks session awaited ∧ (awaited = .event → ∃ link, session.link = some link ∧
          hub.relay.registered = some link ∧ (hub.relay.link link).tornDown = false)) ∧
    (∀ number count files, hub.Sends number (.vblank count) files →
      files = [] ∧ count = hub.relay.pacer.sequence ∧
        ∃ first exchange asked,
          let past := asked.getD ((Hub.new mode).run first).relay.pacer.sequence
          past < count ∧ exchange.request = .waitVblank asked ∧
          ((Hub.new mode).run first).exchange? number = some exchange ∧
          (first = moves ∨ ∃ session,
            Pending (.new mode) moves first number session exchange (.vblank past))) := by
  intro hub
  refine ⟨⟨exists_run_settleWithin hub.rounds hub, hub.settled_settle⟩, ?_, ?_⟩
  · intro number session awaited present waits blocked
    refine ⟨(unanswered_iff_lacks mode moves present waits).mp
      (blocked_of_advance present waits blocked), ?_⟩
    rintro rfl
    exact registered_of_waits mode moves present waits
  · intro number count files sends
    exact vblank_of_sends mode moves sends

/-- One session waits for a vertical blank and another for an event, and a vertical blank comes
that puts no record into the active slot. -/
theorem no_wakeup_lost_two_sessions :
    let moves : List Move :=
      [.connect, .connect,
        .send 0 ⟨Frame.encode (Request.waitVblank none).encode, []⟩, .advance 0, .advance 0,
        .send 1 ⟨Frame.encode Request.wait.encode, []⟩, .advance 1, .advance 1]
    let hub := (Hub.new ⟨640, 480, 60⟩).run moves
    let later := (Hub.new ⟨640, 480, 60⟩).run (moves ++ [.tick])
    hub.relay.pacer.sequence ≤ 0 ∧ later.Sends 0 (.vblank 1) [] ∧
    later.relay.pacer.sequence = 1 ∧ later.relay.registered = some 0 ∧
    (later.relay.link 0).raised = .none := by
  intro moves hub later
  have first : hub.session? 0 = some ⟨none, none, some (.vblank 0)⟩ := by decide +kernel
  have second : later.session? 1 = some ⟨none, some 0, some .event⟩ := by decide +kernel
  have still : (hub.advance 0).isNone = true := by decide +kernel
  have yet : (later.advance 1).isNone = true := by decide +kernel
  obtain ⟨before, found, after, left, sent⟩ : ∃ before ∈ later.connections[0]?,
      ∃ after ∈ (later.move (.advance 0)).connections[0]?,
        after.replies.chunks = before.replies.chunks ++
          [⟨Frame.encode (Response.vblank 1).encode, []⟩] := by decide +kernel
  have fits : Frame.send (Response.vblank 1).encode [] =
      .ok ⟨Frame.encode (Response.vblank 1).encode, []⟩ := by decide +kernel
  have sends : later.Sends 0 (.vblank 1) [] := ⟨before, after, _, found, left, fits, sent⟩
  obtain ⟨-, blocked, -⟩ := no_wakeup_lost ⟨640, 480, 60⟩ moves
  obtain ⟨-, waits, told⟩ := no_wakeup_lost ⟨640, 480, 60⟩ (moves ++ [.tick])
  obtain ⟨before, -⟩ := blocked 0 _ _ first rfl (Option.isNone_iff_eq_none.mp still)
  obtain ⟨quiet, consumer⟩ := waits 1 _ _ second rfl (Option.isNone_iff_eq_none.mp yet)
  obtain ⟨link, held, registered, -⟩ := consumer rfl
  cases held
  exact ⟨before.vblank 0 rfl, sends, (told 0 1 [] sends).2.1.symm, registered,
    quiet.event rfl 0 rfl⟩

end Hub

end PresentRelay
