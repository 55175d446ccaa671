import PresentRelay.Relay

/-!
# What the operations of a relay change

One lemma for each operation and each part of the state that histories are kept of: the
two slots, and the producers' side.
-/

set_option autoImplicit false

namespace PresentRelay

namespace Relay

variable (relay : Relay)

/-! ## The slots -/

@[simp] theorem slots_tellConsumer (change : EventChannel → EventChannel) :
    (relay.tellConsumer change).slots = relay.slots := by
  unfold tellConsumer
  split <;> rfl

theorem slots_setPower (target : Power) :
    (relay.setPower target).slots = if target = .off then .empty else relay.slots := by
  cases target <;> simp [setPower, Power.enter, Pacer.halt, Slots.clear]

@[simp] theorem slots_closeClient (client : Nat) :
    (relay.closeClient client).slots = relay.slots := by
  unfold closeClient
  split
  · dsimp only
    split
    · rfl
    · rw [slots_setPower]; rfl
  · rfl

@[simp] theorem slots_release (client : Nat) (handle : UInt32) :
    (relay.release client handle).1.slots = relay.slots := by
  unfold release
  split <;> rfl

@[simp] theorem slots_addFramebuffer (client : Nat) (handles : List UInt32) :
    (relay.addFramebuffer client handles).1.slots = relay.slots := by
  unfold addFramebuffer createFramebuffer
  cases Framebuffer.create relay.nextFramebuffer (relay.client client).registry handles <;> rfl

@[simp] theorem slots_removeFramebuffer (client : Nat) (id : UInt32) :
    (relay.removeFramebuffer client id).1.slots = relay.slots := by
  unfold removeFramebuffer
  split <;> rfl

@[simp] theorem slots_commit (framebuffer : Framebuffer) :
    (relay.commit framebuffer).slots =
      (relay.slots.commit (.ofFramebuffer framebuffer)).1 := rfl

@[simp] theorem slots_tick : relay.tick.1.slots = relay.slots.retire.1 := by
  unfold tick
  dsimp only [Pacer.tick]
  split <;> simp

@[simp] theorem slots_attach : relay.attach.1.slots = relay.slots := by
  unfold attach
  split <;> rfl

theorem slots_teardown (link : Nat) :
    (relay.teardown link).slots =
      if relay.registered = some link then .empty else relay.slots := by
  unfold teardown
  dsimp only
  split <;> rfl

theorem teardown_of_registered {link : Nat} (registered : relay.registered = some link) :
    relay.teardown link =
      { relay with
        slots := .empty
        pacer := { relay.pacer with armed := none }
        registered := none
        links := relay.links.modify link EventChannel.teardown } := by
  simp only [teardown, if_pos registered]
  rfl

@[simp] theorem slots_configure (mode : Mode) :
    (relay.configure mode).1.slots = relay.slots := by
  unfold configure
  split <;> rfl

/-! ## The producers' side -/

/-- The part of a relay that only producers change: the clients, and the number of the next
framebuffer. -/
def producers : List Client × UInt32 := (relay.clients, relay.nextFramebuffer)

@[simp] theorem producers_tellConsumer (change : EventChannel → EventChannel) :
    (relay.tellConsumer change).producers = relay.producers := by
  unfold tellConsumer
  split <;> rfl

@[simp] theorem producers_setPower (target : Power) :
    (relay.setPower target).producers = relay.producers := by
  unfold setPower
  exact producers_tellConsumer _ _

@[simp] theorem producers_pageFlip (client : Nat) (id : UInt32) :
    (relay.pageFlip client id).1.producers = relay.producers := by
  unfold pageFlip
  split <;> rfl

@[simp] theorem producers_setCrtc (framebuffer : Option Framebuffer) :
    (relay.setCrtc framebuffer).producers = relay.producers := by
  cases framebuffer with
  | none => exact producers_setPower relay .off
  | some framebuffer => exact producers_setPower relay .on

@[simp] theorem producers_setCrtcById (client : Nat) (id : Option UInt32) :
    (relay.setCrtcById client id).1.producers = relay.producers := by
  unfold setCrtcById
  split
  · exact producers_setCrtc relay none
  · split
    · exact producers_setCrtc relay _
    · rfl

@[simp] theorem producers_tick : relay.tick.1.producers = relay.producers := by
  unfold tick
  dsimp only
  split
  · exact producers_tellConsumer _ _
  · rfl

@[simp] theorem producers_attach : relay.attach.1.producers = relay.producers := by
  unfold attach
  split <;> rfl

@[simp] theorem producers_teardown (link : Nat) :
    (relay.teardown link).producers = relay.producers := by
  unfold teardown
  dsimp only
  split <;> rfl

@[simp] theorem producers_configure (mode : Mode) :
    (relay.configure mode).1.producers = relay.producers := by
  unfold configure
  split <;> rfl

theorem producers_closeClient (client : Nat) :
    (relay.closeClient client).producers =
      (if relay.isOpen client then relay.clients.set client .closed else relay.clients,
        relay.nextFramebuffer) := by
  unfold closeClient
  split
  · dsimp only
    split
    · rfl
    · exact producers_setPower _ _
  · rfl

/-! ## One client -/

theorem client_congr {first second : Relay} (same : first.clients = second.clients)
    (client : Nat) : first.client client = second.client client := by
  rw [Relay.client, Relay.client, same]

theorem lt_of_isOpen {client : Nat} (isOpen : relay.isOpen client = true) :
    client < relay.clients.length := by
  apply Nat.lt_of_not_le
  intro past
  have missing : relay.clients[client]? = none := List.getElem?_eq_none past
  simp [Relay.isOpen, Relay.client, missing, Client.closed] at isOpen

theorem client_onClient {client : Nat} (isOpen : relay.isOpen client = true)
    (change : Client → Client) (asked : Nat) :
    (relay.onClient client change).client asked =
      if asked = client then change (relay.client client) else relay.client asked := by
  have bound := relay.lt_of_isOpen isOpen
  by_cases same : asked = client
  · subst same
    simp [Relay.client, onClient, bound]
  · simp [Relay.client, onClient, same, Ne.symm same]

theorem client_openClient (asked : Nat) :
    relay.openClient.1.client asked =
      if asked = relay.clients.length then .new else relay.client asked := by
  simp only [Relay.client, openClient, List.getElem?_append]
  by_cases old : asked < relay.clients.length
  · simp [old, Nat.ne_of_lt old]
  · by_cases same : asked = relay.clients.length
    · simp [same]
    · have past : 1 ≤ asked - relay.clients.length := by omega
      simp [old, same, List.getElem?_eq_none, past]

theorem client_closeClient {client : Nat} (isOpen : relay.isOpen client = true) (asked : Nat) :
    (relay.closeClient client).client asked =
      if asked = client then .closed else relay.client asked := by
  have bound := relay.lt_of_isOpen isOpen
  have clients : (relay.closeClient client).clients = relay.clients.set client .closed :=
    (congrArg Prod.fst (relay.producers_closeClient client)).trans (if_pos isOpen)
  rw [Relay.client, clients]
  by_cases same : asked = client
  · subst same
    simp [bound]
  · simp [Relay.client, same, Ne.symm same]

end Relay

end PresentRelay
