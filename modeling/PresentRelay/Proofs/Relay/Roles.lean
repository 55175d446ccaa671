import PresentRelay.Proofs.Events.Registration

/-!
# Who is who on a relay

Clients and links come and go by four operations: a client opens or closes, a link attaches or
ends.  `Relay.KeepsRoles` says that an operation is none of these: it leaves open what is open
and registered what is registered, and changes what one client has at most.
-/

set_option autoImplicit false

namespace PresentRelay

namespace Consumers

/-- Only attaching and ending are about the registration. -/
theorem registered_after (consumers : Consumers) {notice : Notice}
    (stays : ∀ link, notice ≠ .attached link ∧ notice ≠ .ended link) :
    (consumers.after notice).registered = consumers.registered := by
  cases notice with
  | retired => exact registered_tell _ _
  | entered power => exact registered_tell _ _
  | attached link => exact absurd rfl (stays link).1
  | delivered link => rfl
  | ended link => exact absurd rfl (stays link).2

end Consumers

namespace Relay

/-- An operation that opens, closes, attaches and ends nothing, and changes what `own` has at
most. -/
structure KeepsRoles (own : Option Nat) (before after : Relay) : Prop where
  isOpen : ∀ client, after.isOpen client = before.isOpen client
  others : ∀ client, own ≠ some client → after.client client = before.client client
  registered : after.registered = before.registered
  sound : before.consumers.Sound → after.consumers.Sound

variable {own : Option Nat} {before after : Relay}

theorem KeepsRoles.refl (own : Option Nat) (relay : Relay) : KeepsRoles own relay relay :=
  ⟨fun _ => rfl, fun _ _ => rfl, rfl, id⟩

theorem keepsRoles_of_consumers (own : Option Nat) (clients : after.clients = before.clients)
    (consumers : after.consumers = before.consumers) : KeepsRoles own before after where
  isOpen client := congrArg Client.isOpen (client_congr clients client)
  others client _ := client_congr clients client
  registered := congrArg Consumers.registered consumers
  sound := fun sound => consumers ▸ sound

theorem keepsRoles_of_notice (own : Option Nat) {notice : Notice}
    (clients : after.clients = before.clients)
    (told : after.consumers = before.consumers.after notice)
    (stays : ∀ link, notice ≠ .attached link ∧ notice ≠ .ended link) :
    KeepsRoles own before after where
  isOpen client := congrArg Client.isOpen (client_congr clients client)
  others client _ := client_congr clients client
  registered := (congrArg Consumers.registered told).trans
    (before.consumers.registered_after stays)
  sound := fun sound => told ▸ sound.after fun link same => absurd same (stays link).1

theorem KeepsRoles.trans {last : Relay} (first : KeepsRoles own before after)
    (second : KeepsRoles own after last) : KeepsRoles own before last where
  isOpen client := (second.isOpen client).trans (first.isOpen client)
  others client other := (second.others client other).trans (first.others client other)
  registered := second.registered.trans first.registered
  sound := second.sound ∘ first.sound

variable (relay : Relay)

theorem clients_setPower (target : Power) : (relay.setPower target).clients = relay.clients :=
  congrArg Prod.fst (relay.producers_setPower target)

theorem keepsRoles_setPower (own : Option Nat) (target : Power) :
    KeepsRoles own relay (relay.setPower target) :=
  keepsRoles_of_notice own (relay.clients_setPower target) (relay.consumers_setPower target)
    fun _ => ⟨nofun, nofun⟩

theorem keepsRoles_tick (own : Option Nat) : KeepsRoles own relay relay.tick.1 := by
  have clients : relay.tick.1.clients = relay.clients := congrArg Prod.fst relay.producers_tick
  have consumers := relay.consumers_tick
  split at consumers
  · exact keepsRoles_of_notice own clients consumers fun _ => ⟨nofun, nofun⟩
  · exact keepsRoles_of_consumers own clients consumers

theorem keepsRoles_poll (own : Option Nat) (link : Nat) :
    KeepsRoles own relay (relay.poll link).1 := by
  have consumers := relay.consumers_poll link
  split at consumers
  · exact keepsRoles_of_notice own rfl consumers fun _ => ⟨nofun, nofun⟩
  · exact keepsRoles_of_consumers own rfl consumers

theorem keepsRoles_commit (own : Option Nat) (framebuffer : Framebuffer) :
    KeepsRoles own relay (relay.commit framebuffer) := keepsRoles_of_consumers own rfl rfl

theorem keepsRoles_exportActive (own : Option Nat) :
    KeepsRoles own relay relay.exportActive.1 := keepsRoles_of_consumers own rfl rfl

theorem keepsRoles_configure (own : Option Nat) (mode : Mode) :
    KeepsRoles own relay (relay.configure mode).1 := by
  unfold configure
  split
  · exact .refl own relay
  · exact keepsRoles_of_consumers own rfl rfl

theorem keepsRoles_pageFlip (own : Option Nat) (client : Nat) (id : UInt32) :
    KeepsRoles own relay (relay.pageFlip client id).1 := by
  unfold pageFlip
  split
  · exact relay.keepsRoles_commit own _
  · exact .refl own relay

theorem keepsRoles_setCrtcById (own : Option Nat) (client : Nat) (id : Option UInt32) :
    KeepsRoles own relay (relay.setCrtcById client id).1 := by
  unfold setCrtcById
  split
  · exact relay.keepsRoles_setPower own .off
  · split
    · exact (relay.keepsRoles_setPower own .on).trans (keepsRoles_commit _ own _)
    · exact .refl own relay

/-! ## What one client has -/

theorem client_onClient_of_ne {client asked : Nat} (other : client ≠ asked)
    (change : Client → Client) :
    (relay.onClient client change).client asked = relay.client asked := by
  simp [Relay.client, onClient, other]

theorem keepsRoles_onClient (client : Nat) {change : Client → Client}
    (keeps : ∀ held : Client, (change held).isOpen = held.isOpen) :
    KeepsRoles (some client) relay (relay.onClient client change) where
  isOpen asked := by
    by_cases same : client = asked
    · subst same
      simp only [Relay.isOpen, Relay.client, onClient, List.getElem?_modify, if_true]
      cases relay.clients[client]? with
      | none => rfl
      | some held => exact keeps held
    · exact congrArg Client.isOpen (relay.client_onClient_of_ne same change)
  others asked other := relay.client_onClient_of_ne (fun same => other (congrArg some same)) change
  registered := rfl
  sound := id

theorem keepsRoles_register (client : Nat) (buffer : Buffer) :
    KeepsRoles (some client) relay (relay.register client buffer).1 :=
  relay.keepsRoles_onClient client fun _ => rfl

theorem keepsRoles_release (client : Nat) (handle : UInt32) :
    KeepsRoles (some client) relay (relay.release client handle).1 := by
  unfold release
  split
  · exact relay.keepsRoles_onClient client fun _ => rfl
  · exact .refl _ relay

theorem keepsRoles_addFramebuffer (client : Nat) (handles : List UInt32) :
    KeepsRoles (some client) relay (relay.addFramebuffer client handles).1 := by
  have created : KeepsRoles (some client) relay (relay.createFramebuffer client handles).1 :=
    keepsRoles_of_consumers _ rfl rfl
  unfold addFramebuffer
  split
  · next given =>
    rw [given] at created
    exact created.trans (keepsRoles_onClient _ client fun _ => rfl)
  · next given =>
    rw [given] at created
    exact created

theorem keepsRoles_removeFramebuffer (client : Nat) (id : UInt32) :
    KeepsRoles (some client) relay (relay.removeFramebuffer client id).1 := by
  unfold removeFramebuffer
  split
  · exact relay.keepsRoles_onClient client fun _ => rfl
  · exact .refl _ relay

end Relay

end PresentRelay
