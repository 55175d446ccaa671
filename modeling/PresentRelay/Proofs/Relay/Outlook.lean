import PresentRelay.Proofs.Hub.Closing
import PresentRelay.Proofs.Hub.Exchanges
import PresentRelay.Proofs.Scene.Steps
import PresentRelay.Proofs.Session.Handling

/-!
# The mode, its interval and its observers

These three parts of a relay are its outlook.  A relay that is asked for a mode changes them
together; what observers do changes the observers; nothing else does anything to them:
`heeds_handle` says so of requests, `Hub.heeds_advance` of the steps of sessions, and
`Scene.outlook_step` of what users in the process do.
-/

set_option autoImplicit false

namespace PresentRelay

/-- What a relay shows of its mode. -/
structure Outlook where
  mode : Mode
  interval : Nat
  observers : Observers

namespace Outlook

/-- Another mode brings its own interval, and every observer learns of it. -/
def configure (outlook : Outlook) (mode : Mode) : Outlook :=
  if outlook.mode = mode then outlook
  else ⟨mode, refreshInterval mode.refresh, outlook.observers.broadcast mode⟩

theorem mode_configure (outlook : Outlook) (mode : Mode) :
    (outlook.configure mode).mode = mode := by
  unfold configure
  split
  · next same => exact same
  · rfl

/-- The outlook after a mode was asked for and the answer was given whether that is another one,
or after no mode was asked for. -/
def Heeds (outlook : Outlook) : Option (Mode × Bool) → Outlook → Prop
  | none, after => after = outlook
  | some (mode, changed), after =>
    changed = decide (mode ≠ outlook.mode) ∧ after = outlook.configure mode

end Outlook

namespace Relay

variable (relay : Relay)

def outlook : Outlook := ⟨relay.mode, relay.pacer.interval, relay.observers⟩

/-! ## Operations -/

theorem outlook_configure (mode : Mode) :
    (relay.configure mode).1.outlook = relay.outlook.configure mode := by
  unfold configure Outlook.configure
  by_cases same : relay.mode = mode
  · rw [if_pos same, if_pos (show relay.outlook.mode = mode from same)]
  · rw [if_neg same, if_neg (show relay.outlook.mode ≠ mode from same)]
    rfl

theorem changed_configure (mode : Mode) :
    (relay.configure mode).2 = decide (mode ≠ relay.mode) := by
  unfold configure
  by_cases same : relay.mode = mode
  · simp [same]
  · simp [same, Ne.symm same]

theorem heeds_configure (mode : Mode) :
    relay.outlook.Heeds (some (mode, (relay.configure mode).2))
      (relay.configure mode).1.outlook :=
  ⟨relay.changed_configure mode, relay.outlook_configure mode⟩

@[simp] theorem outlook_tellConsumer (change : EventChannel → EventChannel) :
    (relay.tellConsumer change).outlook = relay.outlook := by
  obtain ⟨links, told⟩ := relay.exists_tellConsumer change
  rw [told]
  rfl

@[simp] theorem outlook_setPower (target : Power) :
    (relay.setPower target).outlook = relay.outlook := by
  unfold setPower
  rw [outlook_tellConsumer]
  cases target <;> rfl

@[simp] theorem outlook_closeClient (client : Nat) :
    (relay.closeClient client).outlook = relay.outlook := by
  obtain ⟨clients, links, power, closed⟩ := relay.exists_closeClient client
  rw [closed]
  rfl

@[simp] theorem outlook_release (client : Nat) (handle : UInt32) :
    (relay.release client handle).1.outlook = relay.outlook := by
  unfold release
  split <;> rfl

@[simp] theorem outlook_addFramebuffer (client : Nat) (handles : List UInt32) :
    (relay.addFramebuffer client handles).1.outlook = relay.outlook := by
  unfold addFramebuffer createFramebuffer
  cases Framebuffer.create relay.nextFramebuffer (relay.client client).registry handles <;> rfl

@[simp] theorem outlook_removeFramebuffer (client : Nat) (id : UInt32) :
    (relay.removeFramebuffer client id).1.outlook = relay.outlook := by
  unfold removeFramebuffer
  split <;> rfl

@[simp] theorem outlook_commit (framebuffer : Framebuffer) :
    (relay.commit framebuffer).outlook = relay.outlook := by
  have kept : (relay.pacer.flush (relay.slots.commit (.ofFramebuffer framebuffer)).1).1.interval =
      relay.pacer.interval := by
    unfold Pacer.flush
    split <;> rfl
  rw [outlook, outlook, ← kept]
  rfl

@[simp] theorem outlook_setCrtc (framebuffer : Option Framebuffer) :
    (relay.setCrtc framebuffer).outlook = relay.outlook := by
  cases framebuffer with
  | none => exact relay.outlook_setPower .off
  | some framebuffer =>
    rw [setCrtc, outlook_commit]
    exact relay.outlook_setPower .on

@[simp] theorem outlook_pageFlip (client : Nat) (id : UInt32) :
    (relay.pageFlip client id).1.outlook = relay.outlook := by
  unfold pageFlip
  split
  · exact relay.outlook_commit _
  · rfl

@[simp] theorem outlook_setCrtcById (client : Nat) (id : Option UInt32) :
    (relay.setCrtcById client id).1.outlook = relay.outlook := by
  unfold setCrtcById
  split
  · exact relay.outlook_setCrtc none
  · split
    · exact relay.outlook_setCrtc _
    · rfl

@[simp] theorem outlook_tick : relay.tick.1.outlook = relay.outlook := by
  unfold tick
  dsimp only
  split
  · rw [outlook_tellConsumer]
    rfl
  · rfl

@[simp] theorem outlook_attach : relay.attach.1.outlook = relay.outlook := by
  unfold attach
  split <;> rfl

@[simp] theorem outlook_teardown (link : Nat) :
    (relay.teardown link).outlook = relay.outlook := by
  unfold teardown
  dsimp only
  split <;> rfl

end Relay

/-! ## Sessions -/

/-- The mode that was asked for, and whether it is told to be another one, if a request for a
mode was granted. -/
def Exchange.configured? (exchange : Exchange) : Option (Mode × Bool) :=
  match exchange.request, exchange.handled with
  | .configure width height refresh, .reply (.ack (some changed)) _ =>
    (Mode.ofRequest width height refresh).toOption.map fun mode => (mode, changed)
  | _, _ => none

namespace Session

variable {session opened last : Session} {relay middle after : Relay}

theorem Acquires.outlook (acquires : session.Acquires relay opened middle) :
    middle.outlook = relay.outlook := by
  cases acquires with
  | nothing | client => rfl
  | link => exact relay.outlook_attach

theorem outlook_close (session : Session) (relay : Relay) :
    (session.close relay).outlook = relay.outlook := by
  unfold close
  cases session.client <;> cases session.link <;> simp

theorem outlook_answerAwaited (session : Session) (relay : Relay) (awaited : Awaited) :
    (session.answerAwaited relay awaited).1.outlook = relay.outlook := by
  obtain same | ⟨link, polled⟩ := session.relay_answerAwaited relay awaited
  · rw [same]
  · rw [polled]
    rfl

theorem outlook_await {awaited : Awaited} {handled : Handled}
    (awaits : session.await relay awaited = (last, after, handled)) :
    after.outlook = relay.outlook := by
  have same := session.outlook_answerAwaited relay awaited
  obtain ⟨-, answered⟩ | ⟨-, -, answered⟩ := await_cases awaits <;> rwa [answered] at same

theorem outlook_produce {request : Request} {client : Nat} {files : List File} {handled : Handled}
    (done : relay.produce client files request = some (after, handled)) :
    after.outlook = relay.outlook := by
  cases request with
  | registerBuffer =>
    simp only [Relay.produce] at done
    split at done <;> cases done
    rfl
  | addFramebuffer handles =>
    have added := relay.outlook_addFramebuffer client handles
    simp only [Relay.produce] at done
    split at done <;> cases done <;> simp_all only
  | releaseHandle handle =>
    cases done
    exact relay.outlook_release client handle
  | removeFramebuffer id =>
    cases done
    exact relay.outlook_removeFramebuffer client id
  | pageFlip id =>
    cases done
    exact relay.outlook_pageFlip client id
  | setCrtc id =>
    cases done
    exact relay.outlook_setCrtcById client id
  | configure | wait | exportFrame | waitVblank => cases done

/-- A request for a mode is granted with the answer that it deserves; any other leaves the outlook
as it was. -/
theorem heeds_handle {request : Request} {files : List File} {handled : Handled}
    (served : session.handle relay request files = (last, after, handled)) :
    relay.outlook.Heeds (Exchange.configured? ⟨request, files, handled⟩) after.outlook := by
  cases Session.handles served with
  | misfit | miscounted => rfl
  | denied =>
    cases request <;> rfl
  | produces given done =>
    have same : after.outlook = relay.outlook := by
      rw [outlook_produce done]
      obtain ⟨-, -, rfl⟩ | ⟨-, -, -, rfl⟩ := withClient_cases given <;> rfl
    cases request with
    | configure => cases done
    | _ => exact same
  | configures asked given =>
    have same := (acquires_of_withLink given).outlook
    simp only [Exchange.configured?, asked, Except.toOption, Option.map_some]
    rw [← same]
    exact Relay.heeds_configure _ _
  | exports given => exact (acquires_of_withLink given).outlook
  | listens given awaits => exact (outlook_await awaits).trans (acquires_of_withLink given).outlook
  | watches awaits => exact outlook_await awaits

end Session

namespace Hub

variable {hub : Hub} {number : Nat}

def configured? (hub : Hub) (number : Nat) : Option (Mode × Bool) :=
  (hub.exchange? number).bind Exchange.configured?

theorem outlook_conclude (hub : Hub) (number : Nat) (connection : Connection) (last : Session)
    (handled : Handled) :
    (hub.conclude number connection last handled).relay.outlook = hub.relay.outlook := by
  obtain same | closed := hub.relay_conclude number connection last handled
  · rw [same]
  · rw [closed, last.outlook_close]

theorem heeds_advance (hub : Hub) (number : Nat) :
    hub.relay.outlook.Heeds (hub.configured? number)
      (hub.move (.advance number)).relay.outlook := by
  rw [configured?]
  cases given : hub.exchange? number with
  | some exchange =>
    obtain ⟨connection, session, opening, requests, last, after, -, -, -, -, -, served, moved⟩ :=
      exchange?_cases given
    rw [moved, outlook_conclude]
    exact Session.heeds_handle served
  | none =>
    -- a step that handles a request would be an exchange
    rw [move]
    cases advanced : hub.advance number with
    | none => rfl
    | some next =>
      obtain ⟨connection, session, found, present, does⟩ := advance_does advanced
      cases does with
      | opens => rfl
      | serves serves opening started requests request files received ends =>
        rw [exchange?_of_received found present serves started received ends] at given
        cases given
      | answers awaited _ after handled answered =>
        have same := session.outlook_answerAwaited hub.relay awaited
        rw [answered] at same
        exact (outlook_conclude _ _ _ _ _).trans same
      | leaves | breaks => exact session.outlook_close hub.relay

theorem outlook_move (hub : Hub) {move : Move} (other : ∀ number, move ≠ .advance number) :
    (hub.move move).relay.outlook = hub.relay.outlook := by
  cases move with
  | tick => exact hub.relay.outlook_tick
  | power target => exact hub.relay.outlook_setPower target
  | advance number => exact absurd rfl (other number)
  | take number => rw [Hub.move, relay_take]
  | connect | describe count | send number chunk | finish number | hangUp number | drain => rfl

end Hub

/-! ## Users in the process -/

namespace Scene

def Step.observes? : Step → Option (Observers → Observers)
  | .subscribe => some fun observers => observers.subscribe.1
  | .unsubscribe observer => some fun observers => observers.unsubscribe observer
  | .changes observer => some fun observers => (observers.take observer).1
  | _ => none

theorem outlook_registerWith (scene : Scene) (client : Nat) (buffer : Buffer) :
    (scene.registerWith client buffer).1.relay.outlook = scene.relay.outlook := by
  unfold registerWith
  split
  · rfl
  · split <;> rfl

theorem outlook_step (scene : Scene) {step : Step} (other : ∀ mode, step ≠ .configure mode)
    (deaf : step.observes? = none) : (scene.step step).1.relay.outlook = scene.relay.outlook := by
  cases step with
  | configure mode => exact absurd rfl (other mode)
  | subscribe | unsubscribe | changes => cases deaf
  | closeClient client => exact scene.relay.outlook_closeClient client
  | register client number =>
    simp only [Scene.step]
    split
    · rfl
    · exact scene.outlook_registerWith client _
  | registerCopy client number =>
    simp only [Scene.step]
    split
    · rfl
    · exact outlook_registerWith { scene with objects := scene.objects + 1 } client _
  | createFramebuffer client handles =>
    simp only [Scene.step, createFramebuffer, Relay.createFramebuffer]
    cases Framebuffer.create scene.relay.nextFramebuffer (scene.relay.client client).registry
      handles <;> rfl
  | commit number =>
    simp only [Scene.step]
    split
    · exact scene.relay.outlook_commit _
    · rfl
  | setCrtc number =>
    cases number with
    | none => exact scene.relay.outlook_setCrtc none
    | some number =>
      simp only [Scene.step]
      split
      · exact scene.relay.outlook_setCrtc _
      · rfl
  | power target => exact scene.relay.outlook_setPower target
  | tick => exact scene.relay.outlook_tick
  | teardown link => exact scene.relay.outlook_teardown link
  | resolve client handle => rw [step_resolve]
  | release | addFramebuffer | removeFramebuffer | pageFlip | setCrtcById | attach =>
    simp only [step_release, step_addFramebuffer, step_removeFramebuffer, step_pageFlip,
      step_setCrtcById, step_attach, Relay.outlook_release, Relay.outlook_addFramebuffer,
      Relay.outlook_removeFramebuffer, Relay.outlook_pageFlip, Relay.outlook_setCrtcById,
      Relay.outlook_attach]
  | poll link => rw [step_poll]; rfl
  | wait link => rw [step_wait]; rfl
  | makeBuffer | openClient | handleCount | dropFramebuffer | tellPower | exportActive | vblanks =>
    rfl

end Scene

end PresentRelay
