import PresentRelay.Proofs.Wire.Calls
import PresentRelay.Proofs.Wire.Frames

/-!
# Calls in step with their replies

A peer makes calls one after the other on a connection that it alone reads.  Whatever the payloads
of the replies are, a call takes one frame off its stream: a payload that is no reply, a reply of
another kind or one that reports an error is found out only after its frame was taken.  `InStep`
says which calls have returned and which frames are left for the others; every turn keeps it.
-/

set_option autoImplicit false

namespace PresentRelay

/-! ## Frames of any payload -/

namespace Frame

def payloadCodec : Codec Bytes := ⟨id, .ok, fun _ => rfl⟩

variable {μ : Type} (decode : Bytes → Except Json.Fault μ)

/-- What a received payload is to a receiver of messages. -/
def Reception.read : Reception Bytes → Reception μ
  | .message payload files =>
    match decode payload with
    | .ok read => .message read files
    | .error fault => .failed (.protocol (.undecodable fault))
  | .finished => .finished
  | .failed error => .failed error
  | .waiting => .waiting

/-- What is taken off a stream does not depend on what the payload says. -/
theorem complete_eq_read (opening : Opening) (stream : Stream) :
    complete decode opening stream =
      ((complete payloadCodec.decode opening stream).1,
        (complete payloadCodec.decode opening stream).2.read decode) := by
  have cut : (cutShort stream : Stream × Reception μ) =
      ((cutShort stream : Stream × Reception Bytes).1, (cutShort stream).2.read decode) := by
    unfold cutShort
    split <;> rfl
  unfold complete
  dsimp only
  split
  · exact cut
  · split
    · rfl
    · split
      · exact cut
      · dsimp only [payloadCodec, Reception.read]
        generalize decode (receiveBytes _ _).1 = read
        cases read with
        | ok message => rfl
        | error fault => rfl

theorem receive_eq_read (stream : Stream) :
    receive decode stream =
      ((receive payloadCodec.decode stream).1,
        (receive payloadCodec.decode stream).2.read decode) := by
  unfold receive
  split
  · dsimp only
    split <;> rfl
  · rfl
  · rw [complete_eq_read decode]
    rcases complete payloadCodec.decode _ _ with ⟨left, payload | _ | _ | _⟩
    · dsimp only [Reception.read]
      cases decode payload <;> rfl
    · rfl
    · rfl
    · rfl

theorem Queued.eq_nil {codec : Codec μ} {pending : List (μ × List File)}
    (queued : Queued codec pending []) : pending = [] := by
  generalize none : ([] : List Chunk) = chunks at queued
  cases queued with
  | nil => rfl
  | cons _ _ carried _ =>
    exact absurd (List.append_eq_nil_iff.mp none.symm).1 carried.chunks_ne_nil

end Frame

abbrev Parcel := Bytes × List File

/-! ## One call -/

namespace Call

/-- What a reception comes to for a call; nothing while the call has to wait. -/
def outcome (call : Call) : Frame.Reception Response → Option (Except RelayError CallResult)
  | .message response files => some (call.interpret files response)
  | .finished => some (.error .disconnected)
  | .failed error => some (.error error)
  | .waiting => none

theorem receive_eq_outcome (call : Call) (replies : Stream) :
    call.receive replies =
      ((Frame.receive Response.decode replies).1,
        call.outcome (Frame.receive Response.decode replies).2) := by
  rw [receive]
  rcases Frame.receive Response.decode replies with ⟨left, _ | _ | _ | _⟩ <;> rfl

/-- What a call makes of the frame that it takes. -/
def conclude (call : Call) (reply : Parcel) : Except RelayError CallResult :=
  match Response.decode reply.1 with
  | .ok response => call.interpret reply.2 response
  | .error fault => .error (.protocol (.undecodable fault))

theorem outcome_read (call : Call) (reply : Parcel) :
    call.outcome (Frame.Reception.read Response.decode (.message reply.1 reply.2)) =
      some (call.conclude reply) := by
  rw [Frame.Reception.read, conclude]
  cases Response.decode reply.1 <;> rfl

/-- A call takes one frame, whatever it makes of it. -/
theorem receive_queued {reply : Parcel} {others : List Parcel} {chunks : List Chunk}
    (queued : Frame.Queued Frame.payloadCodec (reply :: others) chunks) (ending : StreamEnd)
    (call : Call) :
    ∃ left, call.receive ⟨chunks, ending⟩ = (⟨left, ending⟩, some (call.conclude reply)) ∧
      Frame.Queued Frame.payloadCodec others left := by
  obtain ⟨left, received, queued⟩ := Frame.receive_queued queued ending
  refine ⟨left, ?_, queued⟩
  rw [receive_eq_outcome, Frame.receive_eq_read, received, outcome_read]

theorem files_of_conclude {call : Call} {reply : Parcel} {exported : Export}
    (concluded : call.conclude reply = .ok (.exported exported)) : exported.files = reply.2 := by
  rw [conclude] at concluded
  split at concluded
  · next response decoded =>
    cases call <;> cases response <;>
      simp only [interpret, Response.toResult, read, Response.unexpected, reduceCtorEq,
        Except.ok.injEq] at concluded
    next id count valid =>
      obtain ⟨handles, same, -, files⟩ := (interpret_exported id count valid reply.2).2 _ concluded
      cases same
      exact files
  · cases concluded

end Call

/-! ## Calls one after the other -/

/-- A peer that makes calls, on a connection over which replies come in writes. -/
structure Dialogue where
  /-- The calls that have not returned; the first of them is being made. -/
  calls : List Call
  /-- Whether the request of that call is sent. -/
  asked : Bool
  requests : List Chunk
  coming : List Chunk
  replies : Stream
  opening : Option Frame.Opening
  results : List (Except RelayError CallResult)

namespace Dialogue

def start (calls : List Call) (replies : List (Frame.Sending Bytes)) : Dialogue :=
  ⟨calls, false, [], replies.flatMap (Frame.Sending.writes Frame.payloadCodec), .empty, none, []⟩

def yield (dialogue : Dialogue) (replies : Stream) (result : Except RelayError CallResult) :
    Dialogue :=
  { dialogue with
    calls := dialogue.calls.tail
    asked := false
    replies
    opening := none
    results := dialogue.results ++ [result] }

/-- The next write of a reply arrives, or the peer goes on with its call: it sends the request,
takes the start of a reply, or takes the rest of it. -/
def turn (dialogue : Dialogue) : Frame.Turn → Dialogue
  | .arrival =>
    match dialogue.coming with
    | [] => dialogue
    | chunk :: coming => { dialogue with coming, replies := dialogue.replies.send chunk }
  | .reception =>
    match dialogue.calls with
    | [] => dialogue
    | call :: _ =>
      if dialogue.asked then
        match dialogue.opening with
        | none =>
          match Frame.takeOpening dialogue.replies with
          | (replies, some (.ok opening)) => { dialogue with replies, opening := some opening }
          | (replies, some (.error error)) => dialogue.yield replies (.error error)
          | (replies, none) =>
            if replies.ending = .flowing then dialogue
            else dialogue.yield replies (.error .disconnected)
        | some opening =>
          match Frame.complete Response.decode opening dialogue.replies with
          | (replies, reception) =>
            match call.outcome reception with
            | some result => dialogue.yield replies result
            | none => dialogue
      else
        match call.send false with
        | .ok chunk => { dialogue with asked := true, requests := dialogue.requests ++ [chunk] }
        | .error error => dialogue.yield dialogue.replies (.error error)

def run (dialogue : Dialogue) (turns : List Frame.Turn) : Dialogue := turns.foldl turn dialogue

/-- How many turns of the peer its calls take, if the replies are there. -/
def left (dialogue : Dialogue) : Nat :=
  3 * dialogue.calls.length - dialogue.asked.toNat - dialogue.opening.toList.length

/-- Calls that have returned took one frame each and made of it what it is to them; the frames of
the other calls are still to come, whole but for what the call that is being made has taken. -/
structure Stands (returned : List Call) (consumed pending : List Parcel) (dialogue : Dialogue) :
    Prop where
  flowing : dialogue.replies.ending = .flowing
  idle : dialogue.asked = false → dialogue.opening = none
  even : returned.length = consumed.length
  results : dialogue.results = returned.zipWith Call.conclude consumed
  requests : dialogue.requests = (returned ++ dialogue.calls.take dialogue.asked.toNat).map
    fun call => ⟨Frame.encode call.request.encode, call.files⟩
  expects : Frame.Expects Frame.payloadCodec dialogue.opening
    (dialogue.replies.chunks ++ dialogue.coming) pending

def InStep (calls : List Call) (parcels : List Parcel) (dialogue : Dialogue) : Prop :=
  ∃ returned consumed pending, calls = returned ++ dialogue.calls ∧ parcels = consumed ++ pending ∧
    dialogue.Stands returned consumed pending

variable {calls returned others : List Call} {parcels consumed pending : List Parcel} {call : Call}
  {reply : Parcel} {dialogue : Dialogue}

theorem Stands.arrival (stands : dialogue.Stands returned consumed pending) :
    (dialogue.turn .arrival).Stands returned consumed pending := by
  rw [turn]
  split
  · exact stands
  · next chunk coming next =>
    have expects := stands.expects
    rw [next] at expects
    rw [Frame.Line.chunks_send stands.flowing (expects.ne_nil chunk (by simp))]
    refine { stands with flowing := rfl, expects := ?_ }
    rw [List.append_assoc]
    exact expects

theorem Stands.ask (stands : dialogue.Stands returned consumed pending)
    (mine : dialogue.calls = call :: others) (idle : dialogue.asked = false) :
    Stands returned consumed pending { dialogue with
      asked := true
      requests :=
        dialogue.requests ++ [⟨Frame.encode call.request.encode, call.files⟩] } := by
  refine { stands with idle := nofun, requests := ?_ }
  rw [stands.requests, idle, mine]
  simp

theorem Stands.yield {left : List Chunk}
    (stands : dialogue.Stands returned consumed (reply :: pending))
    (mine : dialogue.calls = call :: others) (asked : dialogue.asked = true)
    (queued : Frame.Queued Frame.payloadCodec pending (left ++ dialogue.coming)) :
    (dialogue.yield ⟨left, .flowing⟩ (call.conclude reply)).Stands (returned ++ [call])
      (consumed ++ [reply]) pending where
  flowing := rfl
  idle _ := rfl
  even := by rw [List.length_append, List.length_append, stands.even]; rfl
  results := by
    rw [List.zipWith_append stands.even, ← stands.results]
    rfl
  requests := by
    show dialogue.requests = _
    rw [stands.requests, asked, mine]
    simp [Dialogue.yield]
  expects := .between queued

theorem Stands.results_of_exhausted (stands : dialogue.Stands returned consumed pending)
    (exhausted : dialogue.calls = [] ∨ pending = []) :
    dialogue.results =
      (returned ++ dialogue.calls).zipWith Call.conclude (consumed ++ pending) := by
  rw [List.zipWith_append stands.even, ← stands.results]
  obtain none | none := exhausted
  · rw [none, List.zipWith_nil_left, List.append_nil]
  · rw [none, List.zipWith_nil_right, List.append_nil]

theorem reception_cases (fits : ∀ call ∈ calls, call.request.encode.length ≤ Frame.maxPayload)
    (inStep : dialogue.InStep calls parcels) :
    (dialogue.turn .reception = dialogue ∧
      (dialogue.coming = [] → dialogue.results = calls.zipWith Call.conclude parcels)) ∨
    ((dialogue.turn .reception).InStep calls parcels ∧
      (dialogue.turn .reception).coming = dialogue.coming ∧
      (dialogue.turn .reception).left < dialogue.left) := by
  obtain ⟨returned, consumed, pending, rfl, rfl, stands⟩ := inStep
  obtain ⟨mine, asked, sent, coming, ⟨chunks, ending⟩, opening, results⟩ := dialogue
  obtain rfl : ending = .flowing := stands.flowing
  have expects := stands.expects
  dsimp only at expects fits
  cases mine with
  | nil => exact .inl ⟨rfl, fun _ => stands.results_of_exhausted (.inl rfl)⟩
  | cons call others =>
    cases asked with
    | false =>
      obtain rfl : opening = none := stands.idle rfl
      simp only [turn, Call.send_eq (fits call (by simp)), Bool.false_eq_true, if_false]
      refine .inr ⟨⟨returned, consumed, pending, rfl, rfl, stands.ask rfl rfl⟩, trivial, ?_⟩
      simp [left]
    | true =>
      cases opening with
      | none =>
        cases expects with
        | between queued =>
          by_cases nothing : chunks = []
          · subst nothing
            refine .inl ⟨rfl, fun arrived => stands.results_of_exhausted (.inr ?_)⟩
            obtain rfl : coming = [] := arrived
            exact queued.eq_nil
          · obtain ⟨opening, left, taken, expects⟩ :=
              Frame.takeOpening_queued queued nothing .flowing
            simp only [turn, taken, if_true]
            refine .inr ⟨⟨returned, consumed, pending, rfl, rfl, ?_⟩, trivial, ?_⟩
            · exact { stands with idle := nofun, expects := expects }
            · simp only [Dialogue.left, List.length_cons, Bool.toNat_true, Option.toList_some,
                Option.toList_none, List.length_nil]
              omega
      | some opening =>
        simp only [turn, Frame.complete_eq_read Response.decode, if_true]
        obtain ⟨payload, files, remaining, left, rfl, completed, queued⟩ | ⟨waits, more⟩ :=
          Frame.complete_expected .flowing expects (fun _ => rfl)
        · rw [completed]
          have outcome := call.outcome_read (payload, files)
          dsimp only at outcome ⊢
          rw [outcome]
          refine .inr ⟨⟨_, _, remaining, ?_, ?_, stands.yield rfl rfl queued⟩, rfl, ?_⟩
          · simp [Dialogue.yield]
          · simp
          · simp only [Dialogue.left, Dialogue.yield, List.tail_cons, List.length_cons,
              Bool.toNat_true, Bool.toNat_false, Option.toList_some, Option.toList_none,
              List.length_nil]
            omega
        · rw [waits]
          exact .inl ⟨rfl, fun arrived => absurd arrived more⟩

theorem inStep_start (calls : List Call) (replies : List (Frame.Sending Bytes)) :
    (start calls replies).InStep calls (Frame.accepted Frame.payloadCodec replies) :=
  ⟨[], [], _, rfl, rfl, rfl, fun _ => rfl, rfl, rfl, rfl,
    .between (Frame.queued_writes Frame.payloadCodec replies)⟩

theorem inStep_run (fits : ∀ call ∈ calls, call.request.encode.length ≤ Frame.maxPayload)
    (inStep : dialogue.InStep calls parcels) (turns : List Frame.Turn) :
    (dialogue.run turns).InStep calls parcels := by
  induction turns generalizing dialogue with
  | nil => exact inStep
  | cons turn turns ih =>
    apply ih
    cases turn with
    | arrival =>
      obtain ⟨returned, consumed, pending, all, frames, stands⟩ := inStep
      refine ⟨returned, consumed, pending, ?_, frames, stands.arrival⟩
      rw [all, Dialogue.turn]
      split <;> rfl
    | reception =>
      obtain ⟨stuck, -⟩ | ⟨inStep, -⟩ := reception_cases fits inStep
      · rwa [stuck]
      · exact inStep

/-! ## All replies -/

theorem run_arrivals (dialogue : Dialogue) :
    ∃ replies, dialogue.run (.replicate dialogue.coming.length .arrival) =
      { dialogue with coming := [], replies } := by
  generalize remaining : dialogue.coming = coming
  induction coming generalizing dialogue with
  | nil =>
    obtain ⟨calls, asked, requests, coming, replies, opening, results⟩ := dialogue
    obtain rfl : coming = [] := remaining
    exact ⟨replies, rfl⟩
  | cons chunk coming ih =>
    obtain ⟨replies, arrived⟩ := ih (dialogue.turn .arrival) (by rw [turn, remaining])
    refine ⟨replies, ?_⟩
    rw [List.length_cons, List.replicate_succ]
    refine arrived.trans ?_
    rw [turn, remaining]

/-- When the replies are there, the calls return for which there is one. -/
theorem results_receptions (fits : ∀ call ∈ calls, call.request.encode.length ≤ Frame.maxPayload)
    (inStep : dialogue.InStep calls parcels) (arrived : dialogue.coming = []) {count : Nat}
    (enough : dialogue.left ≤ count) :
    (dialogue.run (.replicate count .reception)).results =
      calls.zipWith Call.conclude parcels := by
  induction count generalizing dialogue with
  | zero =>
    obtain ⟨returned, consumed, pending, rfl, rfl, stands⟩ := inStep
    refine stands.results_of_exhausted (.inl (List.length_eq_zero_iff.mp ?_))
    have asked := dialogue.asked.toNat_le
    have opened := dialogue.opening.length_toList_le
    rw [left] at enough
    omega
  | succ count ih =>
    obtain ⟨stuck, finished⟩ | ⟨inStep, same, fewer⟩ := reception_cases fits inStep
    · have stays (turns : Nat) : dialogue.run (.replicate turns .reception) = dialogue := by
        induction turns with
        | zero => rfl
        | succ turns ih => rw [List.replicate_succ, run, List.foldl_cons, stuck, ← run, ih]
      rw [stays, finished arrived]
    · exact ih inStep (same.trans arrived) (by omega)

theorem accepted_of_fits {replies : List (Frame.Sending Bytes)}
    (fit : ∀ reply ∈ replies, reply.Fits Frame.payloadCodec) :
    Frame.accepted Frame.payloadCodec replies =
      replies.map fun reply => (reply.message, reply.files) := by
  rw [Frame.accepted, List.filter_eq_self.mpr]
  intro reply member
  exact decide_eq_true (fit reply member)

/-- Whatever calls are made, whatever the frames of the replies hold, in whatever writes these come
and however the turns fall: the calls return in order, each with what it makes of the frame in its
place, and between two calls all frames are left but one for each that has returned.  Every call
returns for which a reply comes.  The descriptors of an export are those of its own reply. -/
theorem calls_and_replies_in_step (calls : List Call) (replies : List (Frame.Sending Bytes))
    (fits : ∀ call ∈ calls, call.request.encode.length ≤ Frame.maxPayload)
    (fit : ∀ reply ∈ replies, reply.Fits Frame.payloadCodec) (turns : List Frame.Turn)
    (extra : Nat) :
    let parcels := replies.map fun reply => (reply.message, reply.files)
    let outcomes := calls.zipWith Call.conclude parcels
    let dialogue := (start calls replies).run turns
    let returned := dialogue.results.length
    (dialogue.results = outcomes.take returned ∧ dialogue.calls = calls.drop returned ∧
      dialogue.requests = (calls.take (returned + dialogue.asked.toNat)).map
        (fun call => ⟨Frame.encode call.request.encode, call.files⟩) ∧
      (dialogue.opening = none → Frame.Queued Frame.payloadCodec (parcels.drop returned)
        (dialogue.replies.chunks ++ dialogue.coming))) ∧
    (dialogue.run (.replicate dialogue.coming.length .arrival ++
      .replicate (3 * calls.length + extra) .reception)).results = outcomes ∧
    (∀ (call : Call) reply others chunks ending,
      Frame.Queued Frame.payloadCodec (reply :: others) chunks →
        ∃ left, call.receive ⟨chunks, ending⟩ = (⟨left, ending⟩, some (call.conclude reply)) ∧
          Frame.Queued Frame.payloadCodec others left) ∧
    ∀ (i : Nat) exported, outcomes[i]? = some (.ok (.exported exported)) →
      ∃ reply, replies[i]? = some reply ∧ exported.files = reply.files := by
  intro parcels outcomes dialogue returned
  have inStep : dialogue.InStep calls parcels := by
    have started := inStep_start calls replies
    rw [accepted_of_fits fit] at started
    exact inStep_run fits started turns
  refine ⟨?_, ?_, fun call _ _ _ ending queued => call.receive_queued queued ending, ?_⟩
  · obtain ⟨earlier, consumed, pending, all, frames, stands⟩ := inStep
    have count : returned = earlier.length := by
      show dialogue.results.length = _
      rw [stands.results, List.length_zipWith, ← stands.even, Nat.min_self]
    have left : dialogue.calls = calls.drop earlier.length := by rw [all, List.drop_left]
    have split : outcomes = dialogue.results ++ dialogue.calls.zipWith Call.conclude pending := by
      show calls.zipWith Call.conclude parcels = _
      rw [stands.results, ← List.zipWith_append stands.even, ← all, ← frames]
    rw [count]
    refine ⟨?_, left, ?_, fun between => ?_⟩
    · rw [split, ← count, List.take_left]
    · rw [stands.requests, List.take_add, ← left, all, List.take_left]
    · have expects := stands.expects
      rw [between] at expects
      rw [frames, stands.even, List.drop_left]
      cases expects with
      | between queued => exact queued
  · obtain ⟨stream, arrived⟩ := run_arrivals dialogue
    rw [run, List.foldl_append, ← run, ← run]
    have later := inStep_run fits inStep (.replicate dialogue.coming.length .arrival)
    refine results_receptions fits later (by rw [arrived]) ?_
    obtain ⟨earlier, _, _, all, -, -⟩ := later
    rw [all, List.length_append, left]
    omega
  · intro i exported concluded
    rw [List.getElem?_zipWith_eq_some] at concluded
    obtain ⟨call, parcel, -, given, concluded⟩ := concluded
    rw [List.getElem?_map, Option.map_eq_some_iff] at given
    obtain ⟨reply, given, rfl⟩ := given
    exact ⟨reply, given, Call.files_of_conclude concluded⟩

/-- A reply with a descriptor too few and one that is cut off fail the calls that they are for; the
third call has its export. -/
theorem calls_and_replies_in_step_spoiled :
    let replies : List (Frame.Sending Bytes) :=
      [⟨(Response.exported 7 1 [true]).encode, [], [3]⟩, ⟨[0x7b], [⟨5, []⟩], []⟩,
        ⟨(Response.exported 8 2 [false, true]).encode, [⟨6, []⟩], [1, 20]⟩]
    let dialogue := (start [.exportFrame, .wait, .exportFrame] replies).run [.reception, .arrival]
    (dialogue.run (.replicate dialogue.coming.length .arrival ++ .replicate 9 .reception)).results =
      [.error (.protocol (.exportMismatch 1 0)),
        .error (.protocol (.undecodable (.malformed .endInObject))),
        .ok (.exported ⟨8, [none, some ⟨6, []⟩]⟩)] := by
  intro replies dialogue
  have fits : ∀ call ∈ [Call.exportFrame, .wait, .exportFrame],
      call.request.encode.length ≤ Frame.maxPayload := by decide +kernel
  have fit : ∀ reply ∈ replies, reply.Fits Frame.payloadCodec := by decide +kernel
  obtain ⟨-, finished, -⟩ := calls_and_replies_in_step _ replies fits fit [.reception, .arrival] 0
  refine finished.trans ?_
  decide +kernel

end Dialogue

end PresentRelay
