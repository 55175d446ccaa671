import PresentRelay.Daemon.Station
import PresentRelay.Proofs.Wire.Dialogue

/-!
# A daemon whose relay leaves

A daemon at the end of a connection asks its relay one question after the other.  A question is
sent, and then its answer is awaited; in between the daemon does its own work.  The relay may leave
between any two frames: a daemon that then waits for an answer sees the end, but one that is to ask
again cannot send, and that is another error.  `departure_ends_cleanly_iff` says when the daemon's
run ends well.
-/

set_option autoImplicit false

namespace PresentRelay

/-! ## The work of a daemon between its questions -/

inductive Stage where
  | listening
  | fetching
  | ended (result : Except Failure Unit)
  deriving DecidableEq

namespace Stage

/-- How a run goes on after a dispatch: a relay that reports the end of the registration is the end
of the run, and any other error fails it. -/
def after : Except RelayError Unit → Stage
  | .ok () => .listening
  | .error .disconnected => .ended (.ok ())
  | .error error => .ended (.error ((Failure.ofRelay error).during "error processing relay events"))

def call : Stage → Option Call
  | .listening => some .wait
  | .fetching => some .exportFrame
  | .ended _ => none

theorem call_after_error (error : RelayError) : (after (.error error)).call = none := by
  cases error <;> rfl

theorem after_error_eq_ended_iff (error : RelayError) : after (.error error) = .ended (.ok ()) ↔
    error = .disconnected := by
  cases error <;> simp [after]

theorem fits_call {stage : Stage} {call : Call} (asks : stage.call = some call) :
    call.request.encode.length ≤ Frame.maxPayload := by
  cases stage <;> cases asks <;> decide +kernel

end Stage

namespace Daemon

variable {β : Type} [Backlight β]

def hear (daemon : Daemon β) : Except RelayError RelayEvent → Daemon β × Stage
  | .error error => (daemon, .after (.error error))
  | .ok event =>
    (if event.flags.powerChanged then (daemon.handlePower event.power).1 else daemon,
      if event.flags.presentReady then .fetching else .after (.ok ()))

def fetch (daemon : Daemon β) : Except RelayError Export → Daemon β × Stage
  | .error error => (daemon, .after (.error error))
  | .ok exported => ((daemon.presentExport exported).1, .after (.ok ()))

def resume (daemon : Daemon β) (stage : Stage) (answer : Except RelayError CallResult) :
    Daemon β × Stage :=
  match stage with
  | .listening => daemon.hear (Feed.answerOf CallResult.event? (some answer))
  | .fetching => daemon.fetch (Feed.answerOf CallResult.exported? (some answer))
  | .ended result => (daemon, .ended result)

theorem resume_conclude (daemon : Daemon β) {stage : Stage} {call : Call}
    (asks : stage.call = some call) {reply : Parcel} {result : CallResult}
    (concluded : call.conclude reply = .ok result) :
    (daemon.resume stage (.ok result)).2.call.isSome := by
  have read : ∃ response, call.read reply.2 response = .ok result := by
    rw [Call.conclude] at concluded
    split at concluded
    · next response _ =>
      rw [Call.interpret] at concluded
      split at concluded
      · exact ⟨_, concluded⟩
      · cases concluded
    · cases concluded
  obtain ⟨response, read⟩ := read
  cases stage with
  | ended => cases asks
  | listening =>
    cases asks
    cases response <;> cases read
    simp only [resume, Feed.answerOf, CallResult.event?, Option.elim_some, hear]
    split <;> rfl
  | fetching =>
    cases asks
    cases response <;> try cases read
    simp only [Call.read, Call.readExport] at read
    split at read <;> cases read
    rfl

theorem resume_error (daemon : Daemon β) {stage : Stage} {call : Call}
    (asks : stage.call = some call) (error : RelayError) :
    (daemon.resume stage (.error error)).2 = .after (.error error) := by
  cases stage with
  | ended => cases asks
  | listening | fetching => rfl

end Daemon

namespace Station

variable {β : Type} [Backlight β]

def ask (station : Station β) : Stage → Station β × Stage
  | .listening =>
    let told := station.feed.wait
    let (daemon, stage) := station.daemon.hear told.answer
    (⟨told.feed, daemon⟩, stage)
  | .fetching =>
    let told := station.feed.exportFrame
    let (daemon, stage) := station.daemon.fetch told.answer
    (⟨told.feed, daemon⟩, stage)
  | .ended result => (station, .ended result)

/-- A dispatch is one question, or two if there is a frame to fetch. -/
theorem dispatch_eq_ask (station : Station β) :
    (station.dispatch.station, Stage.after station.dispatch.result) =
      match station.ask .listening with
      | (heard, .fetching) => heard.ask .fetching
      | heard => heard := by
  unfold dispatch ask
  cases told : station.feed.wait.answer with
  | error error => cases error <;> simp [Daemon.hear, Stage.after, told]
  | ok event =>
    simp only [handleEvent, Daemon.hear, told]
    cases event.flags.presentReady with
    | false => cases event.flags.powerChanged <;> rfl
    | true =>
      -- the frame is fetched by the daemon as the notice left it
      have fetched (powered : Daemon β) :
          let done := presentActive ⟨station.feed.wait.feed, powered⟩
          (done.station, Stage.after (done.result.map fun _ => ())) =
            ask ⟨station.feed.wait.feed, powered⟩ .fetching := by
        unfold presentActive ask
        cases shown : station.feed.wait.feed.exportFrame.answer with
        | error error => simp [Daemon.fetch, shown, Except.map]
        | ok exported => simp [Daemon.fetch, shown, Except.map]
      cases event.flags.powerChanged
      · exact fetched station.daemon
      · exact fetched (station.daemon.handlePower event.power).1

/-- A run is dispatches until one of them ends it. -/
theorem run_succ (bound : Nat) (station : Station β) :
    ((station.run (bound + 1)).1, (station.run (bound + 1)).2.2) =
      match Stage.after station.dispatch.result with
      | .ended result => (station.dispatch.station, some result)
      | _ =>
        ((station.dispatch.station.run bound).1, (station.dispatch.station.run bound).2.2) := by
  rw [run]
  cases station.dispatch.result with
  | error error => cases error <;> rfl
  | ok done => rfl

end Station

/-! ## One call over a connection -/

namespace Call

/-- How far a call is: its request is not sent, its reply is awaited, or the start of that was
taken. -/
inductive Progress where
  | unasked
  | asked
  | started (opening : Frame.Opening)
  deriving DecidableEq

def Progress.opening? : Progress → Option Frame.Opening
  | .started opening => some opening
  | _ => none

def advance (call : Call) (progress : Progress) (replies : Stream) :
    Progress × Stream × Option (Except RelayError CallResult) :=
  match progress with
  | .unasked =>
    match call.send (replies.ending != .flowing) with
    | .ok _ => (.asked, replies, none)
    | .error error => (.unasked, replies, some (.error error))
  | .asked =>
    match Frame.takeOpening replies with
    | (replies, some (.ok opening)) => (.started opening, replies, none)
    | (replies, some (.error error)) => (.asked, replies, some (.error error))
    | (replies, none) =>
      (.asked, replies, if replies.ending = .flowing then none else some (.error .disconnected))
  | .started opening =>
    let (replies, reception) := Frame.complete Response.decode opening replies
    (.started opening, replies, call.outcome reception)

theorem send_gone {call : Call} (fits : call.request.encode.length ≤ Frame.maxPayload) :
    call.send true = .error (.io .brokenPipe) := by
  rw [Call.send, Frame.send_eq_ok.mpr ⟨fits, call.length_files_le, rfl⟩]
  rfl

end Call

/-! ## A daemon at the end of a connection -/

/-- A daemon with the connection to its relay: what the relay has written and has not arrived, what
has arrived, and what the calls have come to. -/
structure Outpost (β : Type) where
  daemon : Daemon β
  stage : Stage
  progress : Call.Progress
  coming : List Chunk
  replies : Stream
  results : List (Except RelayError CallResult)

namespace Outpost

variable {β : Type}

def start (daemon : Daemon β) (replies : List (Frame.Sending Bytes)) : Outpost β :=
  ⟨daemon, .listening, .unasked, replies.flatMap (Frame.Sending.writes Frame.payloadCodec), .empty,
    []⟩

/-- The relay writes what it still is to write and closes its end altogether; it may have left
requests unread. -/
def leave (post : Outpost β) (unread : Bool) : Outpost β :=
  { post with
    coming := []
    replies := (post.coming.foldl Stream.send post.replies).close
      (if unread then .reset else .closed) }

/-- Each call that returned took one frame; the frames of the others are still to come, whole but
for what the call that is being made has taken. -/
structure Awaits (parcels : List Parcel) (post : Outpost β) : Prop where
  flowing : post.replies.ending = .flowing
  expects : Frame.Expects Frame.payloadCodec post.progress.opening?
    (post.replies.chunks ++ post.coming) (parcels.drop post.results.length)

theorem awaits_start (daemon : Daemon β) (replies : List (Frame.Sending Bytes)) :
    (start daemon replies).Awaits (Frame.accepted Frame.payloadCodec replies) where
  flowing := rfl
  expects := .between (Frame.queued_writes Frame.payloadCodec replies)

variable {parcels : List Parcel} {post : Outpost β}

/-- The relay has left between two frames; those that it wrote before are there. -/
structure Deserted (parcels : List Parcel) (post : Outpost β) : Prop where
  gone : post.replies.ending ≠ .flowing
  expects : Frame.Expects Frame.payloadCodec post.progress.opening? post.replies.chunks
    (parcels.drop post.results.length)

theorem Awaits.leave (awaits : post.Awaits parcels) (unread : Bool) :
    (post.leave unread).Deserted parcels := by
  have arrived := Frame.Line.foldl_send awaits.flowing fun chunk member =>
    awaits.expects.ne_nil chunk (List.mem_append_right _ member)
  rw [Outpost.leave, arrived]
  exact ⟨by cases unread <;> nofun, awaits.expects⟩

variable [Backlight β]

def yield (post : Outpost β) (replies : Stream) (result : Except RelayError CallResult) :
    Outpost β :=
  let (daemon, stage) := post.daemon.resume post.stage result
  ⟨daemon, stage, .unasked, post.coming, replies, post.results ++ [result]⟩

def goOn (post : Outpost β) : Outpost β :=
  match post.stage.call with
  | none => post
  | some call =>
    match call.advance post.progress post.replies with
    | (progress, replies, none) => { post with progress, replies }
    | (_, replies, some result) => post.yield replies result

inductive Turn (β : Type) where
  | arrival
  | goesOn
  | meanwhile (change : Daemon β → Daemon β)

def turn (post : Outpost β) : Turn β → Outpost β
  | .arrival =>
    match post.coming with
    | [] => post
    | chunk :: coming => { post with coming, replies := post.replies.send chunk }
  | .goesOn => post.goOn
  | .meanwhile change => { post with daemon := change post.daemon }

def run (post : Outpost β) (turns : List (Turn β)) : Outpost β := turns.foldl turn post

theorem Awaits.goOn (awaits : post.Awaits parcels) : post.goOn.Awaits parcels := by
  obtain ⟨daemon, stage, progress, coming, ⟨chunks, ending⟩, results⟩ := post
  obtain ⟨rfl, expects⟩ := awaits
  dsimp only at expects
  rw [Outpost.goOn]
  cases asks : stage.call with
  | none => exact ⟨rfl, expects⟩
  | some call =>
    cases progress with
    | unasked =>
      have sent : call.send ((.flowing : StreamEnd) != .flowing) = _ :=
        Call.send_eq (Stage.fits_call asks)
      simp only [Call.advance, sent]
      exact ⟨rfl, expects⟩
    | asked =>
      cases expects with
      | between queued =>
        by_cases nothing : chunks = []
        · subst nothing
          exact ⟨rfl, .between queued⟩
        · obtain ⟨opening, left, taken, expects⟩ :=
            Frame.takeOpening_queued queued nothing .flowing
          simp only [Call.advance, taken]
          exact ⟨rfl, expects⟩
    | started opening =>
      simp only [Call.advance, Frame.complete_eq_read Response.decode]
      obtain ⟨payload, files, others, left, pending, completed, queued⟩ | ⟨waits, -⟩ :=
        Frame.complete_expected .flowing expects (fun _ => rfl)
      · rw [completed]
        simp only [call.outcome_read (payload, files)]
        refine ⟨rfl, ?_⟩
        have rest : parcels.drop (results ++ [call.conclude (payload, files)]).length = others := by
          rw [List.length_append, List.length_singleton, ← List.drop_drop, pending]
          rfl
        simp only [yield, rest]
        exact .between queued
      · rw [waits]
        exact ⟨rfl, expects⟩

theorem Awaits.turn (awaits : post.Awaits parcels) (turn : Turn β) :
    (post.turn turn).Awaits parcels := by
  cases turn with
  | goesOn => exact awaits.goOn
  | meanwhile change => exact ⟨awaits.flowing, awaits.expects⟩
  | arrival =>
    rw [Outpost.turn]
    split
    · exact awaits
    · next chunk coming next =>
      have expects := awaits.expects
      rw [next] at expects
      rw [Frame.Line.chunks_send awaits.flowing (expects.ne_nil chunk (by simp))]
      refine ⟨rfl, ?_⟩
      rw [List.append_assoc]
      exact expects

theorem Awaits.run (awaits : post.Awaits parcels) (turns : List (Turn β)) :
    (post.run turns).Awaits parcels :=
  List.foldlRecOn turns Outpost.turn awaits fun _ awaits turn _ => awaits.turn turn

/-! ## Without a relay -/

theorem goOn_of_call {call : Call} (asks : post.stage.call = some call) :
    post.goOn =
      match call.advance post.progress post.replies with
      | (progress, replies, none) => { post with progress, replies }
      | (_, replies, some result) => post.yield replies result := by
  rw [goOn, asks]

theorem breaks {call : Call} (asks : post.stage.call = some call)
    (gone : post.replies.ending ≠ .flowing) (unasked : post.progress = .unasked) :
    post.goOn.results = post.results ++ [.error (.io .brokenPipe)] ∧
      post.goOn.stage = .after (.error (.io .brokenPipe)) := by
  have refused : call.send (post.replies.ending != .flowing) = _ :=
    (bne_iff_ne.mpr gone).symm ▸ Call.send_gone (Stage.fits_call asks)
  rw [goOn_of_call asks, unasked]
  simp only [Call.advance, refused]
  exact ⟨rfl, post.daemon.resume_error asks _⟩

theorem Deserted.completes {call : Call} {opening : Frame.Opening}
    (deserted : post.Deserted parcels) (asks : post.stage.call = some call)
    (started : post.progress = .started opening) :
    ∃ reply left, parcels[post.results.length]? = some reply ∧
      left.ending = post.replies.ending ∧ post.goOn = post.yield left (call.conclude reply) := by
  have expects := deserted.expects
  rw [started, ← List.append_nil post.replies.chunks] at expects
  obtain ⟨payload, files, others, left, pending, completed, -⟩ | ⟨-, more⟩ :=
    Frame.complete_expected post.replies.ending expects (by simp)
  · refine ⟨(payload, files), ⟨left, post.replies.ending⟩, ?_, rfl, ?_⟩
    · rw [← List.head?_drop, pending, List.head?_cons]
    · rw [goOn_of_call asks, started]
      simp only [Call.advance, Frame.complete_eq_read Response.decode, completed,
        call.outcome_read (payload, files)]
  · exact absurd rfl more

theorem Deserted.opens {call : Call} {reply : Parcel} {others : List Parcel}
    (deserted : post.Deserted parcels) (asks : post.stage.call = some call)
    (asked : post.progress = .asked) (there : parcels.drop post.results.length = reply :: others) :
    ∃ opening left, post.goOn = { post with progress := .started opening, replies := left } ∧
      left.ending = post.replies.ending ∧
      Deserted parcels { post with progress := .started opening, replies := left } := by
  obtain ⟨gone, expects⟩ := deserted
  rw [asked, there] at expects
  cases expects with
  | between queued =>
    have nonempty : post.replies.chunks ≠ [] := by
      intro nothing
      rw [nothing] at queued
      cases queued.eq_nil
    rw [← List.append_nil post.replies.chunks] at queued
    obtain ⟨opening, left, taken, expects⟩ :=
      Frame.takeOpening_queued queued nonempty post.replies.ending
    rw [List.append_nil, ← there] at expects
    refine ⟨opening, ⟨left, post.replies.ending⟩, ?_, rfl, gone, expects⟩
    rw [goOn_of_call asks, asked]
    simp only [Call.advance, taken]

theorem Deserted.finishes {call : Call} (deserted : post.Deserted parcels)
    (asks : post.stage.call = some call) (asked : post.progress = .asked)
    (nothing : parcels.drop post.results.length = []) :
    post.goOn = post.yield post.replies (.error .disconnected) := by
  obtain ⟨gone, expects⟩ := deserted
  rw [asked, nothing] at expects
  cases expects with
  | between queued =>
    generalize replies : post.replies = stream at gone queued
    obtain ⟨chunks, ending⟩ := stream
    cases queued
    rw [goOn_of_call asks, asked, replies]
    simp only [Call.advance, Frame.takeOpening, receive, List.isEmpty_nil, if_true, if_neg gone]

theorem Deserted.returns {call : Call} (deserted : post.Deserted parcels)
    (asks : post.stage.call = some call) (asked : post.progress ≠ .unasked) :
    ∃ steps left, steps ≤ 2 ∧ left.ending = post.replies.ending ∧
      post.run (.replicate steps .goesOn) = post.yield left
        (parcels[post.results.length]?.elim (.error .disconnected) call.conclude) := by
  cases progress : post.progress with
  | unasked => exact absurd progress asked
  | started opening =>
    obtain ⟨reply, left, there, ending, goesOn⟩ := deserted.completes asks progress
    exact ⟨1, left, by decide, ending, by rw [there]; exact goesOn⟩
  | asked =>
    cases pending : parcels.drop post.results.length with
    | nil =>
      refine ⟨1, post.replies, by decide, rfl, ?_⟩
      rw [← List.head?_drop, pending]
      exact deserted.finishes asks progress pending
    | cons reply others =>
      obtain ⟨opening, left, opened, same, deserted⟩ := deserted.opens asks progress pending
      obtain ⟨reply, last, there, ending, goesOn⟩ := deserted.completes asks rfl
      refine ⟨2, last, by decide, ending.trans same, ?_⟩
      rw [there]
      show post.goOn.goOn = _
      rw [opened, goesOn]
      rfl

theorem goOn_of_ended (ended : post.stage.call = none) (count : Nat) :
    post.run (.replicate count .goesOn) = post := by
  induction count with
  | zero => rfl
  | succ count ih =>
    have stays : post.turn .goesOn = post := by rw [turn, goOn, ended]
    rw [List.replicate_succ, run, List.foldl_cons, stays]
    exact ih

theorem run_replicate_add (post : Outpost β) (first second : Nat) :
    post.run (.replicate (first + second) .goesOn) =
      (post.run (.replicate first .goesOn)).run (.replicate second .goesOn) := by
  rw [← List.replicate_append_replicate, run, List.foldl_append]
  rfl

/-- What the calls come to that a daemon still makes after its relay left: one that succeeds, if its
reply is there, and the error of the last. -/
def farewell (call : Call) (progress : Call.Progress) (reply : Option Parcel) :
    List CallResult × RelayError :=
  if progress = .unasked then ([], .io .brokenPipe)
  else
    match reply.elim (.error .disconnected) call.conclude with
    | .ok result => ([result], .io .brokenPipe)
    | .error error => ([], error)

theorem farewell_eq_disconnected_iff (call : Call) (progress : Call.Progress)
    (reply : Option Parcel) : (farewell call progress reply).2 = .disconnected ↔
      progress ≠ .unasked ∧ ∀ parcel ∈ reply, call.conclude parcel = .error .disconnected := by
  unfold farewell
  by_cases unasked : progress = .unasked
  · simp [unasked]
  · rw [if_neg unasked]
    cases reply with
    | none => simp [unasked]
    | some parcel => cases concluded : call.conclude parcel <;> simp [unasked, concluded]

theorem Deserted.ends {call : Call} (deserted : post.Deserted parcels)
    (asks : post.stage.call = some call) :
    let last := farewell call post.progress parcels[post.results.length]?
    ∃ steps, steps ≤ 3 ∧
      (post.run (.replicate steps .goesOn)).results =
        post.results ++ last.1.map .ok ++ [.error last.2] ∧
      (post.run (.replicate steps .goesOn)).stage = .after (.error last.2) := by
  intro last
  by_cases unasked : post.progress = .unasked
  · have only : last = ([], .io .brokenPipe) := if_pos unasked
    rw [only, List.map_nil, List.append_nil]
    exact ⟨1, by decide, breaks asks deserted.gone unasked⟩
  · obtain ⟨steps, left, few, ending, returned⟩ := deserted.returns asks unasked
    generalize told : parcels[post.results.length]?.elim (.error .disconnected) call.conclude =
      result at returned
    cases result with
    | error error =>
      have only : last = ([], error) := by simp only [last, farewell, if_neg unasked, told]
      rw [only, List.map_nil, List.append_nil]
      refine ⟨steps, by omega, ?_⟩
      rw [returned]
      exact ⟨rfl, post.daemon.resume_error asks error⟩
    | ok result =>
      have fine : last = ([result], .io .brokenPipe) := by
        simp only [last, farewell, if_neg unasked, told]
      obtain ⟨parcel, concluded⟩ : ∃ parcel, call.conclude parcel = .ok result := by
        cases there : parcels[post.results.length]? with
        | none => rw [there] at told; cases told
        | some parcel => rw [there] at told; exact ⟨parcel, told⟩
      -- the call has returned, and the next request cannot be sent
      obtain ⟨next, asksNext⟩ :=
        Option.isSome_iff_exists.mp (post.daemon.resume_conclude asks concluded)
      have gone : (post.yield left (.ok result)).replies.ending ≠ .flowing := ending ▸ deserted.gone
      obtain ⟨results, stage⟩ := breaks asksNext gone rfl
      rw [fine]
      refine ⟨steps + 1, by omega, ?_⟩
      rw [run_replicate_add, returned]
      exact ⟨results, stage⟩

/-- Whatever a relay writes, however the daemon's turns fall between the arrivals, and whatever
happens to the daemon's collaborators: when the relay leaves between two frames, the run of the
daemon is over a few steps later.  It ends well, its last call having reported the end of the
registration, exactly if the request of the call that was being made was sent and no reply to it was
there, or one that itself reports that end.  Otherwise the run fails with the error of its last
call; for a daemon that was about to send a request this is the broken pipe. -/
theorem departure_ends_cleanly_iff (daemon : Daemon β) (replies : List (Frame.Sending Bytes))
    (turns : List (Turn β)) (unread : Bool) (extra : Nat) {call : Call}
    (working : ((start daemon replies).run turns).stage.call = some call) :
    let before := (start daemon replies).run turns
    let later := (before.leave unread).run (.replicate (3 + extra) .goesOn)
    let reply := (Frame.accepted Frame.payloadCodec replies)[before.results.length]?
    let last := farewell call before.progress reply
    later.results = before.results ++ last.1.map .ok ++ [.error last.2] ∧
    (later.results.getLast? = some (.error .disconnected) ∧ later.stage = .ended (.ok ()) ↔
      before.progress ≠ .unasked ∧
        ∀ parcel ∈ reply, call.conclude parcel = .error .disconnected) ∧
    (last.2 ≠ .disconnected → later.stage =
      .ended (.error ((Failure.ofRelay last.2).during "error processing relay events"))) ∧
    (before.progress = .unasked →
      later.results = before.results ++ [.error (.io .brokenPipe)] ∧
      later.stage = .ended (.error
        ⟨"error processing relay events", ["Broken pipe (os error 32)"]⟩)) := by
  intro before later reply last
  have deserted := ((awaits_start daemon replies).run turns).leave unread
  obtain ⟨steps, few, results, stage⟩ := deserted.ends working
  have done : later = (before.leave unread).run (.replicate steps .goesOn) := by
    have enough : 3 + extra = steps + (3 + extra - steps) := by omega
    show (before.leave unread).run _ = _
    rw [enough, run_replicate_add]
    exact goOn_of_ended (by rw [stage, Stage.call_after_error]) _
  rw [← done] at results stage
  have results : later.results = before.results ++ last.1.map .ok ++ [.error last.2] := results
  have stage : later.stage = .after (.error last.2) := stage
  refine ⟨results, ?_, ?_, ?_⟩
  · rw [results, List.getLast?_concat, stage, Stage.after_error_eq_ended_iff,
      ← farewell_eq_disconnected_iff]
    simp only [Option.some.injEq, Except.error.injEq, and_self]
    rfl
  · intro other
    rw [stage]
    cases failed : last.2 <;> first | rfl | exact absurd failed other
  · intro unasked
    have only : last = ([], .io .brokenPipe) := if_pos unasked
    rw [results, stage, only]
    exact ⟨by simp, rfl⟩

/-- A daemon has heard of power off and waits for the next notice when its relay leaves. -/
theorem departure_ends_cleanly_iff_waiting :
    let daemon : Daemon Panel :=
      .new (.new 64) (.new (.ofMode .default)) none (.scanout 1920 1080) .default
    let notice : RelayEvent := ⟨.power, .off⟩
    let replies : List (Frame.Sending Bytes) := [⟨(Response.ofEvent notice).encode, [], [3]⟩]
    let before := (start daemon replies).run
      [.arrival, .goesOn, .goesOn, .arrival, .goesOn, .goesOn]
    let later := (before.leave true).run (.replicate 3 .goesOn)
    before.results = [.ok (.event notice)] ∧ before.progress = .asked ∧
    later.results = [.ok (.event notice), .error .disconnected] ∧
    later.stage = .ended (.ok ()) := by
  intro daemon notice replies before later
  have working : before.stage.call = some .wait := by decide +kernel
  have heard : before.results = [.ok (.event notice)] := by decide +kernel
  have asked : before.progress = .asked := by decide +kernel
  have nothing : (Frame.accepted Frame.payloadCodec replies)[before.results.length]? = none := by
    rw [heard]
    exact List.getElem?_eq_none (Frame.length_accepted_le _ _)
  obtain ⟨results, clean, -⟩ := departure_ends_cleanly_iff daemon replies _ true 0 working
  obtain ⟨-, ended⟩ := clean.mpr ⟨by rw [asked]; nofun, by rw [nothing]; nofun⟩
  have results : later.results = _ := results
  rw [nothing, heard, asked] at results
  exact ⟨heard, asked, results, ended⟩

/-- A daemon has heard of power off, and its relay leaves before it asks for the next notice: the
wait does not report the end of the registration, and the run of the daemon fails. -/
theorem departure_breaks_run :
    let daemon : Daemon Panel :=
      .new (.new 64) (.new (.ofMode .default)) none (.scanout 1920 1080) .default
    let notice : RelayEvent := ⟨.power, .off⟩
    let before := (start daemon [⟨(Response.ofEvent notice).encode, [], []⟩]).run
      [.arrival, .goesOn, .goesOn, .goesOn]
    let later := (before.leave false).run [.goesOn]
    before.stage = .listening ∧ before.progress = .unasked ∧ before.coming = [] ∧
    before.results = [.ok (.event notice)] ∧
    later.results = [.ok (.event notice), .error (.io .brokenPipe)] ∧
    later.stage = .ended (.error
      ⟨"error processing relay events", ["Broken pipe (os error 32)"]⟩) := by
  decide +kernel

end Outpost

end PresentRelay
