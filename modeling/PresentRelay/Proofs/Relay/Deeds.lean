import Mathlib.Logic.Relation
import PresentRelay.Proofs.Events.Notices
import PresentRelay.Proofs.Hub.Possession
import PresentRelay.Proofs.Session.Handling

/-!
# What is done to a relay

Users in the same process call the operations of a relay, and sessions call them for their peers.
Either way it is a list of deeds, each one operation: `deeds_step` says so of the steps of a run,
`deeds_handle` of the requests to a session, and `Hub.deeds_move` of all that happens to a hub.
What every deed keeps is therefore kept by all that can happen to a relay: `Deeds.keep`.
-/

set_option autoImplicit false

namespace PresentRelay

namespace Relay

/-- One operation of a relay.  The framebuffers that callers own are `kept` outside of it. -/
inductive Deed (kept : Framebuffer → Prop) (relay : Relay) : Relay → Prop
  | opens : Deed kept relay relay.openClient.1
  | closes (client : Nat) : Deed kept relay (relay.closeClient client)
  | registers (client : Nat) (buffer : Buffer) : Deed kept relay (relay.register client buffer).1
  | releases (client : Nat) (handle : UInt32) : Deed kept relay (relay.release client handle).1
  | creates (client : Nat) (handles : List UInt32) :
      Deed kept relay (relay.createFramebuffer client handles).1
  | adds (client : Nat) (handles : List UInt32) :
      Deed kept relay (relay.addFramebuffer client handles).1
  | removes (client : Nat) (id : UInt32) : Deed kept relay (relay.removeFramebuffer client id).1
  | commits {framebuffer : Framebuffer} (there : kept framebuffer ∨
      ∃ client id, (relay.client client).framebuffers.get? id = some framebuffer) :
      Deed kept relay (relay.commit framebuffer)
  | powers (target : Power) : Deed kept relay (relay.setPower target)
  | ticks : Deed kept relay relay.tick.1
  | attaches : Deed kept relay relay.attach.1
  | tearsDown (link : Nat) : Deed kept relay (relay.teardown link)
  | polls (link : Nat) : Deed kept relay (relay.poll link).1
  | exports : Deed kept relay relay.exportActive.1
  | configures (mode : Mode) : Deed kept relay (relay.configure mode).1
  | observes (observers : Observers) : Deed kept relay { relay with observers }

abbrev Deeds (kept : Framebuffer → Prop) : Relay → Relay → Prop := Relation.ReflTransGen (Deed kept)

variable {kept : Framebuffer → Prop} {before after : Relay}

theorem Deeds.keep {holds : Relay → Prop}
    (keeps : ∀ {before after}, Deed kept before after → holds before → holds after)
    (deeds : Deeds kept before after) (held : holds before) : holds after := by
  induction deeds with
  | refl => exact held
  | tail _ deed ih => exact keeps deed ih

variable (relay : Relay)

/-- Showing a framebuffer that is there turns the power on first. -/
theorem deeds_show {framebuffer : Framebuffer} (there : kept framebuffer ∨
    ∃ client id, (relay.client client).framebuffers.get? id = some framebuffer) :
    Deeds kept relay (relay.setCrtc (some framebuffer)) := by
  refine .tail (.single (.powers .on)) (.commits (there.imp_right ?_))
  rintro ⟨client, id, found⟩
  refine ⟨client, id, ?_⟩
  rwa [client_congr (congrArg Prod.fst (relay.producers_setPower .on))]

theorem deeds_pageFlip (client : Nat) (id : UInt32) :
    Deeds kept relay (relay.pageFlip client id).1 := by
  unfold pageFlip Client.framebuffer
  cases found : (relay.client client).framebuffers.get? id with
  | none => exact .refl
  | some framebuffer => exact .single (.commits (.inr ⟨client, id, found⟩))

theorem deeds_setCrtcById (client : Nat) (id : Option UInt32) :
    Deeds kept relay (relay.setCrtcById client id).1 := by
  cases id with
  | none => exact .single (.powers .off)
  | some id =>
    simp only [setCrtcById, Client.framebuffer]
    cases found : (relay.client client).framebuffers.get? id with
    | none => exact .refl
    | some framebuffer => exact relay.deeds_show (.inr ⟨client, id, found⟩)

theorem deeds_wait (link : Nat) : Deeds kept relay (relay.wait link).1 := by
  rw [wait_eq]
  exact .single (.polls link)

end Relay

open Relay (Deed Deeds)

/-! ## Steps of a run -/

namespace Scene

theorem relay_createFramebuffer (scene : Scene) (client : Nat) (handles : List UInt32) :
    (scene.step (.createFramebuffer client handles)).1.relay =
      (scene.relay.createFramebuffer client handles).1 := by
  simp only [step, createFramebuffer]
  split <;> simp_all

theorem deeds_registerWith {kept : Framebuffer → Prop} (scene : Scene) (client : Nat)
    (buffer : Buffer) : Deeds kept scene.relay (scene.registerWith client buffer).1.relay := by
  unfold registerWith
  split
  · exact .refl
  · split
    · exact .refl
    · exact .single (.registers client buffer)

theorem deeds_step (scene : Scene) (step : Step) :
    Deeds (fun framebuffer => some framebuffer ∈ scene.framebuffers) scene.relay
      (scene.step step).1.relay := by
  have there {number : Nat} {framebuffer : Framebuffer}
      (found : scene.framebuffer? number = some framebuffer) :
      some framebuffer ∈ scene.framebuffers :=
    List.mem_of_getElem? (Option.join_eq_some_iff.mp found)
  cases step with
  | openClient => exact .single .opens
  | closeClient client => exact .single (.closes client)
  | register client number =>
    simp only [step]
    cases scene.made[number]? with
    | none => exact .refl
    | some buffer => exact scene.deeds_registerWith client buffer
  | registerCopy client number =>
    simp only [step]
    cases scene.made[number]? with
    | none => exact .refl
    | some buffer =>
      exact deeds_registerWith { scene with objects := scene.objects + 1 } client _
  | release client handle =>
    rw [step_release]
    exact .single (.releases client handle)
  | createFramebuffer client handles =>
    rw [relay_createFramebuffer]
    exact .single (.creates client handles)
  | addFramebuffer client handles =>
    rw [step_addFramebuffer]
    exact .single (.adds client handles)
  | removeFramebuffer client id =>
    rw [step_removeFramebuffer]
    exact .single (.removes client id)
  | commit number =>
    simp only [step]
    split
    · next framebuffer found => exact .single (.commits (.inl (there found)))
    · exact .refl
  | pageFlip client id =>
    rw [step_pageFlip]
    exact scene.relay.deeds_pageFlip client id
  | setCrtc number =>
    cases number with
    | none => exact .single (.powers .off)
    | some number =>
      simp only [step]
      split
      · next framebuffer found => exact scene.relay.deeds_show (.inl (there found))
      · exact .refl
  | setCrtcById client id =>
    rw [step_setCrtcById]
    exact scene.relay.deeds_setCrtcById client id
  | power target => exact .single (.powers target)
  | tick => exact .single .ticks
  | attach =>
    rw [step_attach]
    exact .single .attaches
  | teardown link => exact .single (.tearsDown link)
  | poll link =>
    rw [step_poll]
    exact .single (.polls link)
  | wait link =>
    rw [step_wait]
    exact scene.relay.deeds_wait link
  -- the link does not matter to an export
  | exportActive link => exact .single .exports
  | configure mode => exact .single (.configures mode)
  | subscribe | unsubscribe observer | changes observer => exact .single (.observes _)
  | resolve client handle => rw [step_resolve]
  | makeBuffer contents mintable | handleCount client | dropFramebuffer number | tellPower
    | vblanks => exact .refl

end Scene

/-! ## Sessions -/

namespace Session

variable {kept : Framebuffer → Prop} {session opened last : Session} {relay middle after : Relay}

theorem Acquires.deeds (acquires : session.Acquires relay opened middle) :
    Deeds kept relay middle := by
  cases acquires with
  | nothing => exact .refl
  | client => exact .single .opens
  | link => exact .single .attaches

theorem deeds_produce {request : Request} {client : Nat} {files : List File} {handled : Handled}
    (done : relay.produce client files request = some (after, handled)) :
    Deeds kept relay after := by
  cases request with
  | registerBuffer =>
    simp only [Relay.produce] at done
    split at done <;> cases done
    exact .single (.registers client _)
  | releaseHandle handle =>
    cases done
    exact .single (.releases client handle)
  | addFramebuffer handles =>
    have added : Deeds kept relay (relay.addFramebuffer client handles).1 :=
      .single (.adds client handles)
    simp only [Relay.produce] at done
    split at done <;> cases done <;> simp_all only
  | removeFramebuffer id =>
    cases done
    exact .single (.removes client id)
  | pageFlip id =>
    cases done
    exact relay.deeds_pageFlip client id
  | setCrtc id =>
    cases done
    exact relay.deeds_setCrtcById client id
  | configure | wait | exportFrame | waitVblank => cases done

theorem deeds_answerAwaited (session : Session) (relay : Relay) (awaited : Awaited) :
    Deeds kept relay (session.answerAwaited relay awaited).1 := by
  obtain same | ⟨link, polled⟩ := session.relay_answerAwaited relay awaited
  · rw [same]
  · rw [polled]
    exact .single (.polls link)

theorem deeds_await (session : Session) (relay : Relay) (awaited : Awaited) :
    Deeds kept relay (session.await relay awaited).2.1 := by
  have answered : Deeds kept relay (session.answerAwaited relay awaited).1 :=
    session.deeds_answerAwaited relay awaited
  unfold await
  split <;> simp_all only

theorem deeds_handle (session : Session) (relay : Relay) (request : Request) (files : List File) :
    Deeds kept relay (session.handle relay request files).2.1 := by
  rcases served : session.handle relay request files with ⟨last, after, handled⟩
  cases Session.handles served with
  | misfit | miscounted | denied => exact .refl
  | produces given done =>
    obtain opened | ⟨-, -, -, rfl⟩ := withClient_cases given
    · obtain ⟨-, -, rfl⟩ := opened
      exact deeds_produce done
    · exact .trans (.single .opens) (deeds_produce done)
  | configures asked given => exact .tail (acquires_of_withLink given).deeds (.configures _)
  | exports given => exact .tail (acquires_of_withLink given).deeds .exports
  | @listens opened last middle after link handled given awaits =>
    have listened : Deeds kept middle (opened.await middle .event).2.1 := opened.deeds_await _ _
    rw [awaits] at listened
    exact (acquires_of_withLink given).deeds.trans listened
  | @watches sequence last after handled awaits =>
    have watched : Deeds kept relay (session.await relay _).2.1 :=
      session.deeds_await relay (.vblank (sequence.getD relay.pacer.sequence))
    rw [awaits] at watched
    exact watched

theorem deeds_close (session : Session) (relay : Relay) :
    Deeds kept relay (session.close relay) := by
  unfold close
  have closed : Deeds kept relay (session.client.elim relay relay.closeClient) := by
    cases session.client with
    | none => exact .refl
    | some client => exact .single (.closes client)
  cases session.link with
  | none => exact closed
  | some link => exact .tail closed (.tearsDown link)

end Session

namespace Hub

variable {kept : Framebuffer → Prop} {hub next : Hub} {number : Nat}

theorem deeds_conclude (hub : Hub) (number : Nat) (connection : Connection) (last : Session)
    (handled : Handled) :
    Deeds kept hub.relay (hub.conclude number connection last handled).relay := by
  obtain same | closed := hub.relay_conclude number connection last handled
  · rw [same]
  · rw [closed]
    exact last.deeds_close hub.relay

theorem deeds_advance (advanced : hub.advance number = some next) :
    Deeds kept hub.relay next.relay := by
  obtain ⟨connection, session, found, present, does⟩ := advance_does advanced
  cases does with
  | opens => exact .refl
  | serves _ _ _ requests request files _ _ last after handled served =>
    have handle : Deeds kept hub.relay (session.handle hub.relay request files).2.1 :=
      session.deeds_handle hub.relay request files
    rw [served] at handle
    exact handle.trans (deeds_conclude { hub with
      relay := after
      log := hub.log ++ session.warnings hub.relay request } number _ last handled)
  | answers awaited _ after handled answered =>
    have answer : Deeds kept hub.relay (session.answerAwaited hub.relay awaited).1 :=
      session.deeds_answerAwaited hub.relay awaited
    rw [answered] at answer
    exact answer.trans (deeds_conclude { hub with relay := after } number _ _ handled)
  | leaves | breaks => exact session.deeds_close hub.relay

theorem deeds_move (hub : Hub) (move : Move) : Deeds kept hub.relay (hub.move move).relay := by
  cases move with
  | tick => exact .single .ticks
  | power target => exact .single (.powers target)
  | advance number =>
    rw [Hub.move]
    cases advanced : hub.advance number with
    | none => exact .refl
    | some next => exact deeds_advance advanced
  | take number => rw [Hub.move, relay_take]
  | connect | describe count | send number chunk | finish number | hangUp number | drain =>
    exact .refl

end Hub

end PresentRelay
