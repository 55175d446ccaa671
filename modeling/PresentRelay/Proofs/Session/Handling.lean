import PresentRelay.Session

/-!
# How a session handles requests

A request of a producer is the work of the session's client, which `Relay.produce` states;
those of a consumer need the session's link.  `Handles` says in which ways a request is handled,
and `handles` that there are no others.
-/

set_option autoImplicit false

namespace PresentRelay

namespace Relay

def produce (relay : Relay) (client : Nat) (files : List File) :
    Request → Option (Relay × Handled)
  | .registerBuffer =>
    match files with
    | [file] =>
      let (relay, handle) := relay.register client (.ofDescriptor file.number file)
      some (relay, .reply (.handle handle) [])
    | _ => none
  | .releaseHandle handle =>
    let (relay, released) := relay.release client handle
    some (relay, Session.acknowledged released)
  | .addFramebuffer handles =>
    match relay.addFramebuffer client handles with
    | (relay, .ok id) => some (relay, .reply (.framebuffer id) [])
    | (relay, .error error) => some (relay, .failed error)
  | .removeFramebuffer id =>
    let (relay, removed) := relay.removeFramebuffer client id
    some (relay, Session.acknowledged removed)
  | .pageFlip id =>
    let (relay, flipped) := relay.pageFlip client id
    some (relay, Session.acknowledged flipped)
  | .setCrtc id =>
    let (relay, shown) := relay.setCrtcById client id
    some (relay, Session.acknowledged shown)
  | .configure .. | .wait | .exportFrame | .waitVblank _ => none

/-- The number of the next framebuffer once a request failed: one that is to make a framebuffer
uses up a number. -/
def numberAfter (relay : Relay) : Request → UInt32
  | .addFramebuffer _ => relay.nextFramebuffer + 1
  | _ => relay.nextFramebuffer

end Relay

namespace Session

def NeedsLink : Request → Prop
  | .configure .. | .wait | .exportFrame => True
  | _ => False

/-- The ways in which a session handles a request that came with some descriptors: what the
session and the relay are then, and what it comes to. -/
inductive Handles (session : Session) (relay : Relay) (files : List File) :
    Request → Session → Relay → Handled → Prop
  | misfit {width height refresh : Int32} {error : RelayError}
      (asked : Mode.ofRequest width height refresh = .error error) :
      Handles session relay files (.configure width height refresh) session relay (.failed error)
  | miscounted (count : ∀ file, files ≠ [file]) :
      Handles session relay files .registerBuffer session relay
        (.failed (.invalidArgument .oneDescriptor))
  | produces {request : Request} {opened : Session} {middle after : Relay} {client : Nat}
      {handled : Handled} (given : session.withClient relay = (opened, middle, client))
      (done : middle.produce client files request = some (after, handled)) :
      Handles session relay files request opened after handled
  | denied {request : Request} (needs : NeedsLink request) (without : session.link = none)
      (taken : relay.registered.isSome) :
      Handles session relay files request session relay (.failed .busy)
  | configures {width height refresh : Int32} {mode : Mode} {opened : Session} {middle : Relay}
      {link : Nat} (asked : Mode.ofRequest width height refresh = .ok mode)
      (given : session.withLink relay = (opened, middle, .ok link)) :
      Handles session relay files (.configure width height refresh) opened
        (middle.configure mode).1 (.reply (.ack (some (middle.configure mode).2)) [])
  | exports {opened : Session} {middle : Relay} {link : Nat}
      (given : session.withLink relay = (opened, middle, .ok link)) :
      Handles session relay files .exportFrame opened middle.exportActive.1
        (exportReply middle.exportActive.2)
  | listens {opened last : Session} {middle after : Relay} {link : Nat} {handled : Handled}
      (given : session.withLink relay = (opened, middle, .ok link))
      (awaits : opened.await middle .event = (last, after, handled)) :
      Handles session relay files .wait last after handled
  | watches {sequence : Option UInt64} {last : Session} {after : Relay} {handled : Handled}
      (awaits : session.await relay (.vblank (sequence.getD relay.pacer.sequence)) =
        (last, after, handled)) :
      Handles session relay files (.waitVblank sequence) last after handled

variable {session opened last : Session} {relay middle after : Relay}

theorem link_of_withLink {link : Nat}
    (given : session.withLink relay = (opened, middle, .ok link)) :
    opened.link = some link := by
  unfold withLink at given
  split at given
  · next held =>
    cases given
    exact held
  · split at given
    · cases given
      rfl
    · cases given

theorem awaited_of_withLink {answer : Except RelayError Nat}
    (given : session.withLink relay = (opened, middle, answer)) :
    opened.awaited = session.awaited := by
  unfold withLink at given
  split at given
  · cases given
    rfl
  · split at given <;> cases given <;> rfl

theorem withLink_error {error : RelayError}
    (given : session.withLink relay = (opened, middle, .error error)) :
    opened = session ∧ middle = relay ∧ error = .busy ∧ session.link = none ∧
      relay.registered.isSome := by
  unfold withLink at given
  split at given
  · cases given
  · next without =>
    unfold Relay.attach at given
    cases registered : relay.registered with
    | none =>
      rw [registered] at given
      cases given
    | some link =>
      rw [registered] at given
      cases given
      exact ⟨rfl, rfl, rfl, without, rfl⟩

theorem withClient_cases {client : Nat}
    (given : session.withClient relay = (opened, middle, client)) :
    (session.client = some client ∧ opened = session ∧ middle = relay) ∨
      (session.client = none ∧ client = relay.clients.length ∧
        opened = { session with client := some client } ∧ middle = relay.openClient.1) := by
  unfold withClient at given
  split at given
  · next held =>
    cases given
    exact .inl ⟨held, rfl, rfl⟩
  · next without =>
    cases given
    exact .inr ⟨without, rfl, rfl, rfl⟩

theorem handle_of_produce {request : Request} {files : List File} {client : Nat}
    {handled : Handled} (given : session.withClient relay = (opened, middle, client))
    (done : middle.produce client files request = some (after, handled)) :
    session.handle relay request files = (opened, after, handled) := by
  cases request with
  | registerBuffer =>
    simp only [Relay.produce] at done
    split at done
    · cases done
      simp only [handle, given]
    · cases done
  | addFramebuffer handles =>
    simp only [Relay.produce] at done
    split at done <;> cases done <;> simp only [handle, *]
  | releaseHandle | removeFramebuffer | pageFlip | setCrtc =>
    simp only [Relay.produce, Option.some.injEq, Prod.mk.injEq] at done
    obtain ⟨rfl, rfl⟩ := done
    simp only [handle, given]
  | configure | wait | exportFrame | waitVblank => cases done

theorem handles {request : Request} {files : List File} {handled : Handled}
    (served : session.handle relay request files = (last, after, handled)) :
    session.Handles relay files request last after handled := by
  rcases client : session.withClient relay with ⟨opened, middle, number⟩
  rcases link : session.withLink relay with ⟨consuming, links, attached⟩
  have produced (done : (middle.produce number files request).isSome) :
      session.Handles relay files request last after handled := by
    obtain ⟨⟨after', handled'⟩, done⟩ := Option.isSome_iff_exists.mp done
    have same := (handle_of_produce client done).symm.trans served
    cases same
    exact .produces client done
  have denied {error : RelayError} (needs : NeedsLink request) (given : attached = .error error)
      (same : (consuming, links, Handled.failed error) = (last, after, handled)) :
      session.Handles relay files request last after handled := by
    obtain ⟨rfl, rfl, rfl, without, taken⟩ := withLink_error (given ▸ link)
    cases same
    exact .denied needs without taken
  cases request with
  | configure width height refresh =>
    cases asked : Mode.ofRequest width height refresh with
    | error error =>
      simp only [handle, asked] at served
      cases served
      exact .misfit asked
    | ok mode =>
      cases attached with
      | error error => exact denied trivial rfl (by simpa only [handle, asked, link] using served)
      | ok number =>
        simp only [handle, asked, link] at served
        cases served
        exact .configures asked link
  | wait =>
    cases attached with
    | error error => exact denied trivial rfl (by simpa only [handle, link] using served)
    | ok number =>
      simp only [handle, link] at served
      exact .listens link served
  | exportFrame =>
    cases attached with
    | error error => exact denied trivial rfl (by simpa only [handle, link] using served)
    | ok number =>
      simp only [handle, link] at served
      cases served
      exact .exports link
  | registerBuffer =>
    by_cases single : ∃ file, files = [file]
    · obtain ⟨file, rfl⟩ := single
      exact produced rfl
    · simp only [handle] at served
      split at served
      · next file => exact absurd ⟨file, rfl⟩ single
      · cases served
        exact .miscounted fun file same => single ⟨file, same⟩
  | addFramebuffer handles =>
    apply produced
    simp only [Relay.produce]
    split <;> rfl
  | releaseHandle | removeFramebuffer | pageFlip | setCrtc => exact produced rfl
  | waitVblank sequence => exact .watches served

/-! ## Waiting -/

theorem await_cases {awaited : Awaited} {handled : Handled}
    (awaits : session.await relay awaited = (last, after, handled)) :
    (last = session ∧ session.answerAwaited relay awaited = (after, some handled)) ∨
      (last = { session with awaited := some awaited } ∧ handled = .waits awaited ∧
        session.answerAwaited relay awaited = (after, none)) := by
  unfold await at awaits
  split at awaits
  · next answered =>
    cases awaits
    exact .inl ⟨rfl, answered⟩
  · next blocked =>
    cases awaits
    exact .inr ⟨rfl, rfl, blocked⟩

/-- A wait comes to an error, an event, or the count of vertical blanks once that is past. -/
theorem answerAwaited_cases {awaited : Awaited} {handled : Handled}
    (answered : session.answerAwaited relay awaited = (after, some handled)) :
    (∃ error, awaited = .event ∧ handled = .failed error) ∨
    (∃ event, awaited = .event ∧ handled = .reply (.ofEvent event) []) ∨
    (∃ past, awaited = .vblank past ∧ past < relay.pacer.sequence ∧
      handled = .reply (.vblank relay.pacer.sequence) []) := by
  cases awaited with
  | event =>
    simp only [answerAwaited] at answered
    split at answered
    · cases answered
      exact .inl ⟨_, rfl, rfl⟩
    · split at answered <;> cases answered
      · exact .inl ⟨_, rfl, rfl⟩
      · exact .inr (.inl ⟨_, rfl, rfl⟩)
  | vblank past =>
    simp only [answerAwaited] at answered
    split at answered
    · next reached =>
      cases answered
      exact .inr (.inr ⟨past, rfl, reached, rfl⟩)
    · cases answered

theorem answerAwaited_vblank {awaited : Awaited} {count : UInt64} {files : List File}
    (answered : session.answerAwaited relay awaited =
      (after, some (.reply (.vblank count) files))) :
    files = [] ∧ count = relay.pacer.sequence ∧
      ∃ past, awaited = .vblank past ∧ past < count := by
  obtain ⟨_, -, none⟩ | ⟨_, -, none⟩ | ⟨past, rfl, reached, same⟩ := answerAwaited_cases answered
  · cases none
  · cases none
  · cases same
    exact ⟨rfl, rfl, past, rfl, reached⟩

/-- What a request makes a session wait for, by the count of vertical blanks. -/
def awaits? (count : UInt64) : Request → Option Awaited
  | .wait => some .event
  | .waitVblank asked => some (.vblank (asked.getD count))
  | _ => none

theorem awaits?_vblank {count past : UInt64} {request : Request}
    (awaits : awaits? count request = some (.vblank past)) :
    ∃ asked, request = .waitVblank asked ∧ past = asked.getD count := by
  cases request <;> cases awaits
  exact ⟨_, rfl, rfl⟩

/-- The work of a client fails and leaves all but a number as it was, or is answered at once. -/
theorem produce_cases {request : Request} {client : Nat} {files : List File} {handled : Handled}
    (done : relay.produce client files request = some (after, handled)) :
    (∃ error, handled = .failed error ∧
      after = { relay with nextFramebuffer := relay.numberAfter request }) ∨
    ∃ response, handled = .reply response [] ∧
      (response = .ack none ∨ (∃ handle, response = .handle handle) ∨
        ∃ id, response = .framebuffer id) := by
  cases request with
  | registerBuffer =>
    simp only [Relay.produce] at done
    split at done
    · cases done
      exact .inr ⟨_, rfl, .inr (.inl ⟨_, rfl⟩)⟩
    · cases done
  | addFramebuffer handles =>
    simp only [Relay.produce, Relay.addFramebuffer, Relay.createFramebuffer] at done
    cases created : Framebuffer.create relay.nextFramebuffer (relay.client client).registry handles
    all_goals
      rw [created] at done
      cases done
    · exact .inl ⟨_, rfl, rfl⟩
    · exact .inr ⟨_, rfl, .inr (.inr ⟨_, rfl⟩)⟩
  | releaseHandle handle =>
    simp only [Relay.produce, Relay.release] at done
    split at done <;> cases done
    · exact .inr ⟨_, rfl, .inl rfl⟩
    · exact .inl ⟨_, rfl, rfl⟩
  | removeFramebuffer id =>
    simp only [Relay.produce, Relay.removeFramebuffer] at done
    split at done <;> cases done
    · exact .inr ⟨_, rfl, .inl rfl⟩
    · exact .inl ⟨_, rfl, rfl⟩
  | pageFlip id =>
    simp only [Relay.produce, Relay.pageFlip] at done
    split at done <;> cases done
    · exact .inr ⟨_, rfl, .inl rfl⟩
    · exact .inl ⟨_, rfl, rfl⟩
  | setCrtc id =>
    simp only [Relay.produce, Relay.setCrtcById] at done
    split at done
    · cases done
      exact .inr ⟨_, rfl, .inl rfl⟩
    · split at done <;> cases done
      · exact .inr ⟨_, rfl, .inl rfl⟩
      · exact .inl ⟨_, rfl, rfl⟩
  | configure | wait | exportFrame | waitVblank => cases done

theorem response_produce {request : Request} {client : Nat} {files given : List File}
    {response : Response}
    (done : relay.produce client files request = some (after, .reply response given)) :
    response = .ack none ∨ (∃ handle, response = .handle handle) ∨
      ∃ id, response = .framebuffer id := by
  obtain ⟨_, failed, -⟩ | ⟨_, same, which⟩ := produce_cases done
  · cases failed
  · cases same
    exact which

theorem awaited_of_withClient {client : Nat}
    (given : session.withClient relay = (opened, middle, client)) :
    opened.awaited = session.awaited := by
  obtain ⟨-, rfl, -⟩ | ⟨-, -, rfl, -⟩ := withClient_cases given <;> rfl

/-- A session waits for what it was asked to wait for, or does not wait; one that waits for an
event has a link. -/
theorem Handles.waits {request : Request} {files : List File} {handled : Handled}
    (handles : session.Handles relay files request last after handled)
    (serves : session.awaited = none) {awaited : Awaited} (waits : last.awaited = some awaited) :
    handled = .waits awaited ∧ awaits? relay.pacer.sequence request = some awaited ∧
      (awaited = .event → last.link.isSome) := by
  cases handles with
  | misfit | miscounted | denied =>
    rw [serves] at waits
    cases waits
  | produces given =>
    rw [awaited_of_withClient given, serves] at waits
    cases waits
  | configures _ given | exports given =>
    rw [awaited_of_withLink given, serves] at waits
    cases waits
  | listens given awaits =>
    obtain ⟨rfl, -⟩ | ⟨rfl, rfl, -⟩ := await_cases awaits
    · rw [awaited_of_withLink given, serves] at waits
      cases waits
    · cases waits
      exact ⟨rfl, rfl, fun _ => by simp [link_of_withLink given]⟩
  | watches awaits =>
    obtain ⟨rfl, -⟩ | ⟨rfl, rfl, -⟩ := await_cases awaits
    · rw [serves] at waits
      cases waits
    · cases waits
      exact ⟨rfl, rfl, nofun⟩

theorem Handles.vblank {request : Request} {files given : List File} {count : UInt64}
    (handles : session.Handles relay files request last after (.reply (.vblank count) given)) :
    given = [] ∧ count = relay.pacer.sequence ∧
      ∃ past, awaits? relay.pacer.sequence request = some (.vblank past) ∧ past < count := by
  cases handles with
  | produces _ done =>
    rcases response_produce done with none | ⟨_, none⟩ | ⟨_, none⟩ <;> cases none
  | listens _ awaits =>
    obtain ⟨-, answered⟩ | ⟨-, none, -⟩ := await_cases awaits
    · obtain ⟨-, -, past, never, -⟩ := answerAwaited_vblank answered
      cases never
    · cases none
  | watches awaits =>
    obtain ⟨-, answered⟩ | ⟨-, none, -⟩ := await_cases awaits
    · obtain ⟨no_files, reached, past, asked, less⟩ := answerAwaited_vblank answered
      exact ⟨no_files, reached, past, congrArg some asked, less⟩
    · cases none

end Session

end PresentRelay
