import PresentRelay.Proofs.Hub.Waits

/-!
# Peers that hang up on a waiting session

A waiting session looks ahead on its stream to see whether its peer hung up.  What it sees there is
the end of the stream, or a request that the peer sent before it left.
-/

set_option autoImplicit false

namespace PresentRelay

/-! ## What is on a stream -/

namespace Stream

variable {stream : Stream}

def Solid (stream : Stream) : Prop := ∀ chunk ∈ stream.chunks, chunk.bytes ≠ []

theorem Solid.send (solid : stream.Solid) (chunk : Chunk) : (stream.send chunk).Solid := by
  unfold Stream.send
  split
  · exact solid
  · next sent =>
    intro other member
    rcases List.mem_append.mp member with old | new
    · exact solid other old
    · rw [List.mem_singleton.mp new]
      rintro nothing
      simp [nothing] at sent

theorem Solid.close (solid : stream.Solid) (ending : StreamEnd) : (stream.close ending).Solid := by
  unfold Stream.close
  split <;> exact solid

theorem ending_close {ending : StreamEnd} (ends : ending ≠ .flowing) :
    (stream.close ending).ending ≠ .flowing := by
  unfold Stream.close
  split
  · exact ends
  · next ended => exact ended

theorem bytes_eq_nil (solid : stream.Solid) : stream.bytes = [] ↔ stream.chunks = [] := by
  refine ⟨fun nothing => ?_, fun nothing => by rw [bytes, nothing]; rfl⟩
  rw [List.eq_nil_iff_forall_not_mem]
  intro chunk member
  exact solid chunk member (List.flatMap_eq_nil_iff.mp nothing chunk member)

/-- Of a stream that ended, a receiver sees the end exactly if nothing is unread. -/
theorem isFinished_iff (solid : stream.Solid) (ended : stream.ending ≠ .flowing) :
    stream.isFinished = true ↔ stream.bytes = [] := by
  simp [isFinished, bytes_eq_nil solid, ended]

theorem bytes_send_ne_nil (unread : stream.bytes ≠ []) (chunk : Chunk) :
    (stream.send chunk).bytes ≠ [] := by
  by_cases flowing : stream.ending = .flowing
  · rw [bytes_send flowing]
    simp [unread]
  · have same : stream.send chunk = stream := by simp [Stream.send, flowing]
    rw [same]
    exact unread

/-- What a receiver leaves of a stream: the end is the same, and every chunk still has bytes. -/
structure Leaves (before after : Stream) : Prop where
  ending : after.ending = before.ending
  solid : before.Solid → after.Solid

theorem Leaves.refl (stream : Stream) : stream.Leaves stream := ⟨rfl, id⟩

end Stream

theorem solid_receive (count : Nat) {chunks : List Chunk}
    (solid : ∀ chunk ∈ chunks, chunk.bytes ≠ []) :
    ∀ chunk ∈ (receive count chunks).2.2, chunk.bytes ≠ [] := by
  induction chunks generalizing count with
  | nil => exact nofun
  | cons first rest ih =>
    obtain ⟨some, others⟩ := List.forall_mem_cons.mp solid
    unfold receive
    split
    · exact solid
    · split
      · refine List.forall_mem_cons.mpr ⟨?_, others⟩
        simpa using by assumption
      · split
        · exact ih _ others
        · exact others

theorem solid_receiveBytes (count : Nat) {chunks : List Chunk}
    (solid : ∀ chunk ∈ chunks, chunk.bytes ≠ []) :
    ∀ chunk ∈ (receiveBytes count chunks).2, chunk.bytes ≠ [] := by
  induction chunks generalizing count with
  | nil => exact nofun
  | cons first rest ih =>
    obtain ⟨some, others⟩ := List.forall_mem_cons.mp solid
    unfold receiveBytes
    split
    · exact solid
    · split
      · refine List.forall_mem_cons.mpr ⟨?_, others⟩
        simpa using by assumption
      · exact ih _ others

namespace Frame

theorem leaves_takeOpening (stream : Stream) : stream.Leaves (takeOpening stream).1 := by
  have received :
      stream.Leaves { stream with
        chunks := (PresentRelay.receive prefixLength stream.chunks).2.2 } :=
    ⟨rfl, solid_receive prefixLength⟩
  unfold takeOpening
  dsimp only
  split
  · exact .refl stream
  · split <;> exact received

theorem leaves_cutShort {μ : Type} (stream : Stream) :
    stream.Leaves (cutShort (μ := μ) stream).1 := by
  unfold cutShort
  split
  · exact .refl stream
  · exact ⟨rfl, nofun⟩
  · exact ⟨rfl, nofun⟩

theorem leaves_complete {μ : Type} (decode : Bytes → Except Json.Fault μ) (opening : Opening)
    (stream : Stream) : stream.Leaves (complete decode opening stream).1 := by
  unfold complete
  dsimp only
  split
  · exact leaves_cutShort stream
  · split
    · exact ⟨rfl, solid_receiveBytes _⟩
    · split
      · exact leaves_cutShort stream
      · split <;> exact ⟨rfl, fun solid => solid_receiveBytes _ (solid_receiveBytes _ solid)⟩

end Frame

/-! ## Connections with a session -/

/-- Whether the peer closed its connection, altogether or for what it sends. -/
def Connection.PeerLeft (connection : Connection) : Prop :=
  connection.gone = true ∨ connection.requests.ending ≠ .flowing

/-- What holds of a connection while it has a session. -/
structure Connection.Steady (connection : Connection) : Prop where
  solid : connection.requests.Solid
  ended : connection.gone = true → connection.requests.ending ≠ .flowing

namespace Hub

variable {hub next : Hub} {number : Nat} {connection : Connection} {session : Session}

def Steady (hub : Hub) : Prop :=
  ∀ connection ∈ hub.connections, connection.session.isSome → connection.Steady

theorem Does.steady (does : Does hub number connection session next)
    (steady : connection.Steady) :
    ∃ left, next.connections = hub.connections.set number left ∧
      (left.session.isSome → left.Steady) := by
  have drained {left : Connection} (leaves : connection.requests.Leaves left.requests)
      (gone : left.gone = connection.gone) : left.Steady :=
    ⟨leaves.solid steady.solid, by rw [gone, leaves.ending]; exact steady.ended⟩
  cases does with
  | opens serves between requests opening taken =>
    refine ⟨_, rfl, fun _ => drained ?_ rfl⟩
    have leaves := Frame.leaves_takeOpening connection.requests
    rwa [taken] at leaves
  | serves serves opening started requests request files received ends last after handled served =>
    obtain ⟨session', replies, connections, -⟩ :=
      connections_conclude _ number { connection with requests, opening := none } last handled
    refine ⟨_, connections, fun _ => drained ?_ rfl⟩
    have leaves := Frame.leaves_complete Request.decode opening connection.requests
    rwa [received] at leaves
  | answers awaited waits after handled answered =>
    obtain ⟨session', replies, connections, -⟩ :=
      connections_conclude _ number connection { session with awaited := none } handled
    exact ⟨_, connections, fun _ => drained (.refl _) rfl⟩
  | leaves | breaks => exact ⟨_, rfl, nofun⟩

theorem steady_advance (steady : hub.Steady) (advanced : hub.advance number = some next) :
    next.Steady := by
  obtain ⟨connection, session, found, present, does⟩ := advance_does advanced
  have before := steady connection (List.mem_of_getElem? found) (by rw [present]; rfl)
  obtain ⟨left, connections, after⟩ := does.steady before
  intro other member
  rw [connections] at member
  rcases List.mem_or_eq_of_mem_set member with old | rfl
  · exact steady other old
  · exact after

theorem getElem?_onPeer (found : hub.connections[number]? = some connection) (asked : Nat)
    (change : Connection → Connection) :
    (hub.onPeer asked change).connections[number]? = some connection ∨
      (hub.onPeer asked change).connections[number]? = some (change connection) := by
  simp only [onPeer, List.getElem?_modify, found, Option.map_eq_map, Option.map_some,
    Option.some.injEq]
  split
  · split
    · exact .inr rfl
    · exact .inl rfl
  · exact .inl rfl

theorem mem_onPeer {change : Connection → Connection} {left : Connection}
    (member : left ∈ (hub.onPeer number change).connections) :
    ∃ connection ∈ hub.connections, left = connection ∨ left = change connection := by
  obtain ⟨place, old, found⟩ := List.mem_iff_getElem.mp member
  rw [onPeer, List.length_modify] at old
  have there := List.getElem?_eq_getElem old
  refine ⟨hub.connections[place], List.getElem_mem old, ?_⟩
  rcases getElem?_onPeer there number change with same | changed
  · exact .inl (found.symm.trans (List.getElem?_eq_some_iff.mp same).2)
  · exact .inr (found.symm.trans (List.getElem?_eq_some_iff.mp changed).2)

theorem steady_onPeer (steady : hub.Steady) (number : Nat) {change : Connection → Connection}
    (keeps : ∀ connection : Connection, (change connection).session = connection.session)
    (changes : ∀ connection : Connection, connection.Steady → (change connection).Steady) :
    (hub.onPeer number change).Steady := by
  intro left member present
  obtain ⟨connection, there, rfl | rfl⟩ := mem_onPeer member
  · exact steady _ there present
  · rw [keeps] at present
    exact changes connection (steady connection there present)

theorem steady_take (steady : hub.Steady) (number : Nat) : (hub.take number).1.Steady := by
  obtain same | ⟨connection, replies, isOpen, found, same⟩ := hub.take_cases number <;> rw [same]
  · exact steady
  · intro other member present
    rcases List.mem_or_eq_of_mem_set member with old | rfl
    · exact steady other old present
    · obtain ⟨solid, ended⟩ := steady connection (List.mem_of_getElem? found) present
      exact ⟨solid, ended⟩

theorem steady_move (steady : hub.Steady) (move : Move) : (hub.move move).Steady := by
  cases move with
  | connect =>
    intro connection member present
    rcases List.mem_append.mp member with old | new
    · exact steady connection old present
    · rw [List.mem_singleton.mp new]
      exact ⟨nofun, nofun⟩
  | describe count | drain | tick | power target => exact steady
  | send number chunk =>
    exact steady_onPeer steady number (fun _ => rfl) fun connection before =>
      ⟨before.solid.send chunk, fun gone => by
        have ended := before.ended gone
        simp [Stream.send, ended]⟩
  | finish number =>
    exact steady_onPeer steady number (fun _ => rfl) fun connection before =>
      ⟨before.solid.close .closed, fun _ => Stream.ending_close nofun⟩
  | hangUp number =>
    refine steady_onPeer steady number (fun _ => rfl) fun connection before =>
      ⟨before.solid.close _, fun _ => Stream.ending_close ?_⟩
    split <;> exact nofun
  | take number => exact steady_take steady number
  | advance number =>
    rw [Hub.move]
    cases advanced : hub.advance number with
    | none => exact steady
    | some next => exact steady_advance steady advanced

theorem steady_run (mode : Mode) (moves : List Move) : ((Hub.new mode).run moves).Steady :=
  List.foldlRecOn moves move (fun _ member => absurd member List.not_mem_nil)
    fun _ steady move _ => steady_move steady move

/-! ## Requests that are not taken -/

theorem unread_move (found : hub.connections[number]? = some connection)
    (unread : connection.requests.bytes ≠ []) {move : Move} (other : move ≠ .advance number) :
    ∃ left, (hub.move move).connections[number]? = some left ∧ left.requests.bytes ≠ [] := by
  have peer (asked : Nat) {change : Connection → Connection}
      (kept : (change connection).requests.bytes ≠ []) :
      ∃ left, (hub.onPeer asked change).connections[number]? = some left ∧
        left.requests.bytes ≠ [] := by
    rcases getElem?_onPeer found asked change with same | changed
    · exact ⟨connection, same, unread⟩
    · exact ⟨_, changed, kept⟩
  have set {connections : List Connection} {asked : Nat} {left : Connection}
      (changed : connections = hub.connections.set asked left)
      (kept : asked = number → left.requests.bytes ≠ []) :
      ∃ left, connections[number]? = some left ∧ left.requests.bytes ≠ [] := by
    by_cases same : asked = number
    · subst same
      refine ⟨left, ?_, kept rfl⟩
      rw [changed, List.getElem?_set_self (List.getElem?_eq_some_iff.mp found).1]
    · exact ⟨connection, by rw [changed, List.getElem?_set_ne same, found], unread⟩
  cases move with
  | connect =>
    have old := (List.getElem?_eq_some_iff.mp found).1
    exact ⟨connection, (List.getElem?_append_left old).trans found, unread⟩
  | describe | drain | tick | power => exact ⟨connection, found, unread⟩
  | send asked chunk => exact peer asked (Stream.bytes_send_ne_nil unread chunk)
  | finish asked | hangUp asked =>
    apply peer asked
    rw [Stream.bytes_close]
    exact unread
  | take asked =>
    rw [Hub.move]
    obtain same | ⟨taken, replies, isOpen, there, same⟩ := hub.take_cases asked <;> rw [same]
    · exact ⟨connection, found, unread⟩
    · refine set rfl fun own => ?_
      subst own
      rw [found] at there
      cases there
      exact unread
  | advance asked =>
    have apart : asked ≠ number := fun same => other (congrArg Move.advance same)
    rw [Hub.move]
    cases advanced : hub.advance asked with
    | none => exact ⟨connection, found, unread⟩
    | some next =>
      obtain ⟨serving, session, there, present, does⟩ := advance_does advanced
      obtain ⟨left, connections, -⟩ := does.exists_set present
      exact set connections fun same => absurd same apart

/-! ## Hang-ups -/

theorem advance_of_unread (found : hub.connections[number]? = some connection)
    (present : connection.session = some session) {awaited : Awaited}
    (waits : session.awaited = some awaited)
    (unanswered : (session.answerAwaited hub.relay awaited).2 = none)
    (unseen : connection.requests.isFinished = false) : hub.advance number = none := by
  rcases answered : session.answerAwaited hub.relay awaited with ⟨after, answer⟩
  rw [answered] at unanswered
  obtain rfl : answer = none := unanswered
  simp [advance_eq found present, waits, advanceWaiting, answered, unseen]

theorem isFinished_of_unread {stream : Stream} (unread : stream.bytes ≠ []) :
    stream.isFinished = false := by
  have some_ : stream.chunks ≠ [] := fun nothing => unread (by rw [Stream.bytes, nothing]; rfl)
  simp [Stream.isFinished, some_]

/-- As long as it lacks what it waits for, nothing that happens ends a session whose peer left a
request unread. -/
theorem stays_unread (mode : Mode) (moves later : List Move) {awaited : Awaited}
    (found : ((Hub.new mode).run moves).connections[number]? = some connection)
    (present : ((Hub.new mode).run moves).session? number = some session)
    (waits : session.awaited = some awaited) (unread : connection.requests.bytes ≠ [])
    (lacks : ∀ passed, passed <+: later →
      ((Hub.new mode).run (moves ++ passed)).Lacks session awaited) :
    ((Hub.new mode).run (moves ++ later)).session? number = some session ∧
      ∃ left, ((Hub.new mode).run (moves ++ later)).connections[number]? = some left ∧
        left.requests.bytes ≠ [] := by
  induction later using List.reverseRecOn with
  | nil =>
    rw [List.append_nil]
    exact ⟨present, connection, found, unread⟩
  | append_singleton later move ih =>
    obtain ⟨still, left, there, waiting⟩ :=
      ih fun passed within => lacks passed (within.trans (List.prefix_append later [move]))
    rw [← List.append_assoc, run_concat]
    by_cases own : move = .advance number
    · subst own
      have lacking := lacks later (List.prefix_append later _)
      have blocked := advance_of_unread there ((session?_eq_some there).mp still) waits
        ((unanswered_iff_lacks mode (moves ++ later) still waits).mpr lacking)
        (isFinished_of_unread waiting)
      rw [Hub.move, blocked, Option.getD_none]
      exact ⟨still, left, there, waiting⟩
    · exact ⟨session?_move_of_present still move own, unread_move there waiting own⟩

/-- The peer of a session left while the session lacks what it waits for.  The session sees that
and ends, with all that it has on the relay, exactly if the peer left nothing unread.  Otherwise it
stays for as long as it lacks what it waits for; if it is the consumer it keeps the registration,
and no other can attach. -/
theorem hang_up_frees_iff_nothing_unread (mode : Mode) (moves : List Move) (number : Nat)
    (connection : Connection) (session : Session) (awaited : Awaited) :
    let hub := (Hub.new mode).run moves
    let next := hub.move (.advance number)
    hub.connections[number]? = some connection → connection.session = some session →
    session.awaited = some awaited → hub.Lacks session awaited → connection.PeerLeft →
      (connection.requests.isFinished = true ↔ connection.requests.bytes = []) ∧
      (next.session? number = none ↔ connection.requests.bytes = []) ∧
      (connection.requests.bytes = [] → Released hub number session hub.relay next) ∧
      (connection.requests.bytes ≠ [] → ∀ later,
        (∀ passed, passed <+: later → (hub.run passed).Lacks session awaited) →
          (hub.run later).session? number = some session ∧
          ∀ link, session.link = some link →
            (hub.run later).relay.registered = some link ∧
            (hub.run later).relay.attach = ((hub.run later).relay, .error .busy)) := by
  intro hub next found held waits lacks left
  have present : hub.session? number = some session := (session?_eq_some found).mpr held
  have unanswered := (unanswered_iff_lacks mode moves present waits).mpr lacks
  obtain ⟨solid, gone⟩ : connection.Steady :=
    steady_run mode moves connection (List.mem_of_getElem? found) (by rw [held]; rfl)
  have seen : connection.requests.isFinished = true ↔ connection.requests.bytes = [] :=
    Stream.isFinished_iff solid (left.elim gone id)
  have released (nothing : connection.requests.bytes = []) :
      Released hub number session hub.relay next := by
    have ending : Ending connection session hub.relay session hub.relay :=
      .hungUp awaited waits unanswered (seen.mpr nothing)
    exact released_of_ends (possessed_run mode moves) present ending.becomes
      (ends_move_of_ending found present ending)
  refine ⟨seen, ⟨fun ended => ?_, fun nothing => (released nothing).ended⟩, released, ?_⟩
  · by_contra unread
    have blocked := advance_of_unread found held waits unanswered (isFinished_of_unread unread)
    simp only [next, Hub.move, blocked, Option.getD_none, present] at ended
    cases ended
  · intro unread later lacking
    simp only [hub, ← run_append] at lacking ⊢
    obtain ⟨still, -⟩ := stays_unread mode moves later found present waits unread lacking
    refine ⟨still, fun link mine => ?_⟩
    have registered := (Possession.backed (possessed_run mode _) still).registered link mine
    exact ⟨registered, by rw [Relay.attach, registered]⟩

/-- A consumer that waits for an event hangs up, once with nothing unread and once after another
request, whereupon a second consumer comes. -/
theorem hang_up_frees_iff_nothing_unread_consumer :
    let waiting : List Move :=
      [.connect, .connect, .send 0 ⟨Frame.encode Request.wait.encode, []⟩, .advance 0, .advance 0]
    let quiet := (Hub.new ⟨640, 480, 60⟩).run (waiting ++ [.hangUp 0])
    let hasty := (Hub.new ⟨640, 480, 60⟩).run
      (waiting ++ [.send 0 ⟨Frame.encode Request.exportFrame.encode, []⟩, .hangUp 0])
    let later : List Move := [.send 1 ⟨Frame.encode Request.wait.encode, []⟩]
    Released quiet 0 ⟨none, some 0, some .event⟩ quiet.relay (quiet.move (.advance 0)) ∧
    (hasty.move (.advance 0)).session? 0 = some ⟨none, some 0, some .event⟩ ∧
    (hasty.run later).relay.attach.2 = .error .busy := by
  intro waiting quiet hasty later
  obtain ⟨first, found, held, left, nothing⟩ :
      ∃ connection ∈ quiet.connections[0]?,
        connection.session = some ⟨none, some 0, some .event⟩ ∧ connection.gone = true ∧
        connection.requests.bytes = [] := by decide +kernel
  obtain ⟨second, found', held', left', unread⟩ :
      ∃ connection ∈ hasty.connections[0]?,
        connection.session = some ⟨none, some 0, some .event⟩ ∧ connection.gone = true ∧
        connection.requests.bytes ≠ [] := by decide +kernel
  have lacks (hub : Hub) (raised : (hub.relay.link 0).raised = .none) :
      hub.Lacks ⟨none, some 0, some .event⟩ .event :=
    ⟨fun _ link held => Option.some.inj held ▸ raised, nofun⟩
  obtain ⟨-, -, released, -⟩ := hang_up_frees_iff_nothing_unread ⟨640, 480, 60⟩
    (waiting ++ [.hangUp 0]) 0 first _ .event found held rfl (lacks quiet (by decide +kernel))
    (.inl left)
  obtain ⟨-, -, -, stays⟩ := hang_up_frees_iff_nothing_unread ⟨640, 480, 60⟩
    (waiting ++ [.send 0 ⟨Frame.encode Request.exportFrame.encode, []⟩, .hangUp 0]) 0 second _
    .event found' held' rfl (lacks hasty (by decide +kernel)) (.inl left')
  have quietly (passed : List Move) (within : passed <+: later) :
      (hasty.run passed).Lacks ⟨none, some 0, some .event⟩ .event := by
    refine lacks _ ?_
    rcases List.prefix_cons_iff.mp within with rfl | ⟨rest, rfl, short⟩
    · decide +kernel
    · rw [List.prefix_nil.mp short]
      decide +kernel
  exact ⟨released nothing, by decide +kernel, by rw [((stays unread later quietly).2 0 rfl).2]⟩

/-- The session of a consumer that left an export request unread when it closed its connection
goes on waiting and keeps others out. -/
theorem hang_up_unseen :
    let hub := (Hub.new ⟨640, 480, 60⟩).run
      [.connect, .connect, .send 0 ⟨Frame.encode Request.wait.encode, []⟩, .advance 0, .advance 0,
        .send 0 ⟨Frame.encode Request.exportFrame.encode, []⟩, .hangUp 0]
    let asked := hub.run
      [.send 1 ⟨Frame.encode Request.wait.encode, []⟩, .advance 1, .advance 1]
    (∃ connection ∈ hub.connections[0]?,
      connection.session = some ⟨none, some 0, some .event⟩ ∧ connection.gone = true ∧
      connection.requests.isFinished = false) ∧
    (hub.relay.link 0).raised = .none ∧
    (hub.advance 0).isNone ∧ hub.settle.session? 0 = some ⟨none, some 0, some .event⟩ ∧
    ∃ connection ∈ asked.connections[1]?,
      connection.replies.chunks = [⟨Frame.encode (Response.ofError .busy).encode, []⟩] := by
  decide +kernel

end Hub

end PresentRelay
