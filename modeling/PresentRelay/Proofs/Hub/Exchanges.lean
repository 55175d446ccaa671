import PresentRelay.Proofs.Hub.Possession
import PresentRelay.Proofs.Wire.Messages

/-!
# Exchanges

An exchange is a request that a session handles and what it comes to.  `exchange?` tells the
exchange of a session's next step and `exchanges` those of a run.  What a peer gets is a frame on
its replies; `Sends.cases` says that such a frame comes from an exchange, or from the end of a
wait.
-/

set_option autoImplicit false

namespace PresentRelay

/-- A request with its descriptors, and what it came to. -/
structure Exchange where
  request : Request
  files : List File
  handled : Handled

theorem Frame.eq_of_encode {payload other : Bytes} (same : encode payload = encode other) :
    payload = other :=
  (List.append_inj same rfl).2

theorem Response.eq_of_send {response other : Response} {files more : List File} {chunk : Chunk}
    (sent : Frame.send response.encode files = .ok chunk)
    (also : Frame.send other.encode more = .ok chunk) : response = other ∧ files = more := by
  obtain ⟨-, -, rfl⟩ := Frame.send_eq_ok.mp sent
  obtain ⟨-, -, same⟩ := Frame.send_eq_ok.mp also
  rw [Chunk.mk.injEq] at same
  have payload : response.encode = other.encode := Frame.eq_of_encode same.1
  have decoded := other.decode_encode
  rw [← payload, response.decode_encode] at decoded
  exact ⟨Except.ok.inj decoded, same.2⟩

namespace Hub

variable {hub next : Hub} {number : Nat} {connection : Connection} {session last : Session}

/-! ## The exchange of a step -/

/-- The exchange of the next step of a session, if that step handles a request. -/
def exchange? (hub : Hub) (number : Nat) : Option Exchange := do
  let connection ← hub.connections[number]?
  let session ← connection.session
  let opening ← connection.opening
  match session.awaited, (Frame.complete Request.decode opening connection.requests).2 with
  | none, .message request files =>
    if session.endless hub.relay request files then none
    else some ⟨request, files, (session.handle hub.relay request files).2.2⟩
  | _, _ => none

def exchangeIn? (hub : Hub) (number : Nat) : Move → Option Exchange
  | .advance asked => if asked = number then hub.exchange? number else none
  | _ => none

def exchanges (number : Nat) : Hub → List Move → List Exchange
  | _, [] => []
  | hub, move :: moves =>
    (hub.exchangeIn? number move).toList ++ exchanges number (hub.move move) moves

theorem exchanges_concat (hub : Hub) (number : Nat) (moves : List Move) (move : Move) :
    hub.exchanges number (moves ++ [move]) =
      hub.exchanges number moves ++ ((hub.run moves).exchangeIn? number move).toList := by
  induction moves generalizing hub with
  | nil => simp [exchanges, run]
  | cons first moves ih => simp [exchanges, run_cons, ih]

theorem exchange?_of_received {opening : Frame.Opening} {requests : Stream} {request : Request}
    {files : List File} (found : hub.connections[number]? = some connection)
    (present : connection.session = some session) (serves : session.awaited = none)
    (started : connection.opening = some opening)
    (received : Frame.complete Request.decode opening connection.requests =
      (requests, .message request files))
    (ends : session.endless hub.relay request files = false) :
    hub.exchange? number =
      some ⟨request, files, (session.handle hub.relay request files).2.2⟩ := by
  simp [exchange?, found, present, started, serves, received, ends]

theorem exchange?_cases {exchange : Exchange} (given : hub.exchange? number = some exchange) :
    ∃ connection session opening requests last after,
      hub.connections[number]? = some connection ∧ connection.session = some session ∧
      session.awaited = none ∧ connection.opening = some opening ∧
      Frame.complete Request.decode opening connection.requests =
        (requests, .message exchange.request exchange.files) ∧
      session.handle hub.relay exchange.request exchange.files =
        (last, after, exchange.handled) ∧
      hub.move (.advance number) =
        { hub with
          relay := after
          log := hub.log ++ session.warnings hub.relay exchange.request }.conclude number
            { connection with requests, opening := none } last exchange.handled := by
  simp only [exchange?, Option.bind_eq_bind, Option.bind_eq_some_iff] at given
  obtain ⟨connection, found, session, present, opening, started, given⟩ := given
  rcases received : Frame.complete Request.decode opening connection.requests with
    ⟨requests, reception⟩
  rw [received] at given
  split at given
  · next request files serves message =>
    split at given
    · cases given
    rename_i ends
    cases given
    obtain rfl : reception = .message request files := message
    rcases served : session.handle hub.relay request files with ⟨last, after, handled⟩
    refine ⟨connection, session, opening, requests, last, after, found, present, serves, started,
      received, served, ?_⟩
    simp only [move, advance_eq found present, serves, advanceServing, started, received, serve,
      if_neg ends, served, Option.getD_some]
  · cases given

/-! ## What is sent -/

def Sends (hub : Hub) (number : Nat) (response : Response) (files : List File) : Prop :=
  ∃ before after chunk, hub.connections[number]? = some before ∧
    (hub.move (.advance number)).connections[number]? = some after ∧
    Frame.send response.encode files = .ok chunk ∧
    after.replies.chunks = before.replies.chunks ++ [chunk]

theorem getElem?_put {left changed : Connection}
    (found : (hub.put number changed).connections[number]? = some left) : left = changed := by
  rw [put, List.getElem?_set_self'] at found
  obtain ⟨_, -, same⟩ := Option.map_eq_some_iff.mp found
  exact same.symm

theorem getElem?_put_self (found : hub.connections[number]? = some connection)
    (changed : Connection) : (hub.put number changed).connections[number]? = some changed :=
  List.getElem?_set_self (List.getElem?_eq_some_iff.mp found).1

theorem chunks_close (stream : Stream) (ending : StreamEnd) :
    (stream.close ending).chunks = stream.chunks := by
  unfold Stream.close
  split <;> rfl

theorem chunks_endSession {left : Connection}
    (found : (hub.endSession number connection last).connections[number]? = some left) :
    left.replies.chunks = connection.replies.chunks := by
  rw [getElem?_put found]
  exact chunks_close _ _

theorem chunks_respond {response : Response} {files : List File} {left : Connection}
    (found : (hub.respond number connection last response files).connections[number]? =
      some left) :
    left.replies.chunks = connection.replies.chunks ∨
      ∃ chunk, Frame.send response.encode files = .ok chunk ∧
        left.replies.chunks = connection.replies.chunks ++ [chunk] ∧
        hub.respond number connection last response files = hub.put number
          { connection with session := some last, replies := connection.replies.send chunk } := by
  unfold respond at found ⊢
  split at found
  · exact .inl (chunks_endSession found)
  · next chunk sent =>
    split at found
    · exact .inl (chunks_endSession found)
    · next present =>
      have either : (connection.replies.send chunk).chunks = connection.replies.chunks ∨
          (connection.replies.send chunk).chunks = connection.replies.chunks ++ [chunk] := by
        unfold Stream.send
        split
        · exact .inl rfl
        · exact .inr rfl
      rw [getElem?_put found]
      exact either.imp_right fun chunks => ⟨chunk, sent, chunks, if_neg present⟩

theorem chunks_conclude {handled : Handled} {left : Connection}
    (found : (hub.conclude number connection last handled).connections[number]? = some left) :
    left.replies.chunks = connection.replies.chunks ∨
      ∃ response files chunk, handled.answer? = some (response, files) ∧
        Frame.send response.encode files = .ok chunk ∧
        left.replies.chunks = connection.replies.chunks ++ [chunk] ∧
        hub.conclude number connection last handled = hub.put number
          { connection with session := some last, replies := connection.replies.send chunk } := by
  cases handled with
  | reply response files =>
    refine (chunks_respond found).imp_right ?_
    rintro ⟨chunk, sent, chunks, goesOn⟩
    exact ⟨response, files, chunk, rfl, sent, chunks, goesOn⟩
  | waits awaited =>
    rw [getElem?_put found]
    exact .inl rfl
  | failed error =>
    rw [conclude] at found ⊢
    split at found
    · exact .inl (chunks_endSession found)
    · next goesOn =>
      rw [if_neg goesOn]
      refine (chunks_respond found).imp_right ?_
      rintro ⟨chunk, sent, chunks, put⟩
      exact ⟨.ofError error, [], chunk, rfl, sent, chunks, put⟩

theorem Sends.goesOn {before : Hub} {handling : Connection} {handled : Handled}
    {response : Response} {files : List File} (sends : hub.Sends number response files)
    (found : hub.connections[number]? = some connection)
    (replies : handling.replies = connection.replies)
    (concluded : hub.move (.advance number) = before.conclude number handling last handled) :
    ∃ chunk, hub.move (.advance number) = before.put number
      { handling with session := some last, replies := handling.replies.send chunk } := by
  obtain ⟨_, left, chunk, there, later, sent, chunks⟩ := sends
  rw [found] at there
  cases there
  rw [concluded] at later ⊢
  obtain same | ⟨_, _, chunk', -, -, -, put⟩ := chunks_conclude later
  · simp [same, replies] at chunks
  · exact ⟨chunk', put⟩

/-- A response that a session sends is what an exchange comes to, or a wait. -/
theorem Sends.cases {response : Response} {files : List File}
    (sends : hub.Sends number response files) :
    (∃ exchange, hub.exchange? number = some exchange ∧
      exchange.handled.answer? = some (response, files)) ∨
    ∃ session awaited after handled, hub.session? number = some session ∧
      session.awaited = some awaited ∧
      session.answerAwaited hub.relay awaited = (after, some handled) ∧
      handled.answer? = some (response, files) := by
  obtain ⟨connection, left, chunk, found, later, sent, chunks⟩ := sends
  have grown : left.replies.chunks ≠ connection.replies.chunks := by simp [chunks]
  have answer {before : Hub} {last : Session} {handled : Handled} {connection' : Connection}
      (same : connection'.replies = connection.replies)
      (concluded : (before.conclude number connection' last handled).connections[number]? =
        some left) : handled.answer? = some (response, files) := by
    obtain none | ⟨other, more, chunk', given, also, chunks', -⟩ := chunks_conclude concluded
    · exact absurd (same ▸ none) grown
    · rw [same, chunks, List.append_cancel_left_eq, List.singleton_inj] at chunks'
      subst chunks'
      obtain ⟨rfl, rfl⟩ := Response.eq_of_send sent also
      exact given
  rw [move] at later
  cases advanced : hub.advance number with
  | none =>
    rw [advanced, Option.getD_none, found] at later
    cases later
    exact absurd rfl grown
  | some next =>
    rw [advanced, Option.getD_some] at later
    obtain ⟨serving, session, there, present, does⟩ := advance_does advanced
    obtain rfl : connection = serving := Option.some.inj (found.symm.trans there)
    cases does with
    | opens serves between requests opening taken =>
      have kept : left.replies.chunks = connection.replies.chunks := by rw [getElem?_put later]
      exact absurd kept grown
    | serves serves opening started requests request given received ends last after handled
        served =>
      refine .inl ⟨_, exchange?_of_received found present serves started received ends, ?_⟩
      rw [served]
      exact answer (by rfl) later
    | answers awaited waits after handled answered =>
      have there : hub.session? number = some session := by rw [session?, found]; exact present
      exact .inr ⟨session, awaited, after, handled, there, waits, answered, answer rfl later⟩
    | leaves ending => exact absurd (chunks_endSession later) grown
    | breaks ending requests opening error => exact absurd (chunks_endSession later) grown

end Hub

end PresentRelay
