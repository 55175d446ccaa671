import PresentRelay.Proofs.Relay.Roles
import PresentRelay.Session

/-!
# What closing a session leaves of a relay

A session closes its client first and ends its link then.  One lemma for each part of the relay
says what is left of it; all but the consumers' side supposes that the session is backed, as it
is throughout its life.
-/

set_option autoImplicit false

namespace PresentRelay

namespace Relay

variable (relay : Relay)

theorem exists_tellConsumer (change : EventChannel → EventChannel) :
    ∃ links, relay.tellConsumer change = { relay with links } := by
  unfold tellConsumer
  split
  · exact ⟨relay.links, rfl⟩
  · exact ⟨_, rfl⟩

theorem exists_closeClient (client : Nat) :
    ∃ clients links power, relay.closeClient client = { relay with clients, links, power } := by
  unfold closeClient
  split
  · dsimp only
    split
    · exact ⟨_, _, _, rfl⟩
    · obtain ⟨links, entered⟩ := exists_tellConsumer
        { relay with clients := relay.clients.set client .closed, power := .noConsumer }
        fun channel => channel.notifyPower .noConsumer
      exact ⟨_, links, _, entered⟩
  · exact ⟨_, _, _, rfl⟩

theorem buffers_perm_set {clients : List Client} {client : Nat} {held : Client}
    (found : clients[client]? = some held) :
    (clients.flatMap Client.buffers).Perm
      (held.buffers ++ (clients.set client .closed).flatMap Client.buffers) := by
  obtain ⟨bound, rfl⟩ := List.getElem?_eq_some_iff.mp found
  have whole : clients = clients.take client ++ clients[client] :: clients.drop (client + 1) := by
    rw [List.getElem_cons_drop, List.take_append_drop]
  have nothing : Client.buffers .closed = [] := rfl
  rw [List.set_eq_take_append_cons_drop, if_pos bound]
  conv_lhs => rw [whole]
  simp only [List.flatMap_append, List.flatMap_cons, nothing, List.nil_append]
  exact (List.perm_append_comm_assoc _ _ _)

end Relay

namespace Session

variable {session : Session} {relay : Relay}

/-- A session whose client is open and whose link is the registered one. -/
structure Backed (session : Session) (relay : Relay) : Prop where
  opened : ∀ client, session.client = some client → relay.isOpen client = true
  registered : ∀ link, session.link = some link → relay.registered = some link

def LastProducer (session : Session) (relay : Relay) : Prop :=
  ∃ client ∈ session.client, relay.LastOpen client

instance (session : Session) (relay : Relay) : Decidable (session.LastProducer relay) :=
  inferInstanceAs (Decidable (∃ client ∈ session.client, relay.LastOpen client))

/-- The buffers that a relay holds references to on behalf of a session: those of its client,
and those in the slots while the session is the consumer. -/
def references (session : Session) (relay : Relay) : List Buffer :=
  (session.client.elim [] fun client => (relay.client client).buffers) ++
    session.link.elim [] fun _ => relay.slots.buffers

/-! ## The client closes -/

def leave (session : Session) (relay : Relay) : Relay := session.client.elim relay relay.closeClient

theorem exists_leave (session : Session) (relay : Relay) :
    ∃ clients links power, session.leave relay = { relay with clients, links, power } := by
  unfold leave
  cases session.client with
  | none => exact ⟨_, _, _, rfl⟩
  | some client => exact relay.exists_closeClient client

theorem consumers_leave (session : Session) (relay : Relay) :
    (session.leave relay).consumers =
      if session.LastProducer relay then relay.consumers.after (.entered .noConsumer)
      else relay.consumers := by
  unfold leave
  cases held : session.client with
  | none => simp [LastProducer, held]
  | some client => simp [LastProducer, held, relay.consumers_closeClient client]

theorem power_leave (session : Session) (relay : Relay) :
    (session.leave relay).power =
      if session.LastProducer relay then .noConsumer else relay.power := by
  have consumers := congrArg Consumers.power (session.consumers_leave relay)
  by_cases last : session.LastProducer relay
  · rw [if_pos last] at consumers ⊢
    exact consumers.trans (Consumers.power_tell _ _)
  · rw [if_neg last] at consumers ⊢
    exact consumers

theorem sound_leave (sound : relay.consumers.Sound) (session : Session) :
    (session.leave relay).consumers.Sound := by
  rw [consumers_leave]
  split
  · exact sound.after nofun
  · exact sound

theorem clients_leave (backed : session.Backed relay) :
    (session.leave relay).clients =
      session.client.elim relay.clients fun client => relay.clients.set client .closed := by
  unfold leave
  cases held : session.client with
  | none => rfl
  | some client =>
    exact (congrArg Prod.fst (relay.producers_closeClient client)).trans
      (if_pos (backed.opened client held))

/-! ## The link ends -/

theorem close_of_none (without : session.link = none) :
    session.close relay = session.leave relay := by
  rw [close, without]
  rfl

theorem close_of_some {link : Nat} (held : session.link = some link)
    (registered : relay.registered = some link) :
    session.close relay =
      { session.leave relay with
        slots := .empty
        pacer := { relay.pacer with armed := none }
        registered := none
        links := (session.leave relay).links.modify link EventChannel.teardown } := by
  obtain ⟨clients, links, power, left⟩ := session.exists_leave relay
  have registered : (session.leave relay).registered = some link := by rw [left, registered]
  have closed : session.close relay = (session.leave relay).teardown link := by
    rw [close, held]
    rfl
  rw [closed, Relay.teardown_of_registered _ registered, left]

/-- What a close leaves is what the close of the client leaves, but for the registration. -/
theorem exists_close (backed : session.Backed relay) :
    ∃ slots pacer registered links, session.close relay =
      { session.leave relay with slots, pacer, registered, links } := by
  cases held : session.link with
  | none => exact ⟨_, _, _, _, close_of_none held⟩
  | some link => exact ⟨_, _, _, _, close_of_some held (backed.registered link held)⟩

theorem client_close (backed : session.Backed relay) (asked : Nat) :
    (session.close relay).client asked =
      if session.client = some asked then .closed else relay.client asked := by
  obtain ⟨slots, pacer, registered, links, closed⟩ := exists_close backed
  have left : (session.leave relay).client asked =
      if session.client = some asked then .closed else relay.client asked := by
    unfold leave
    cases held : session.client with
    | none => simp
    | some client => simp [relay.client_closeClient (backed.opened client held), eq_comm]
  rw [closed]
  exact left

theorem power_close (backed : session.Backed relay) :
    (session.close relay).power =
      if session.LastProducer relay then .noConsumer else relay.power := by
  obtain ⟨slots, pacer, registered, links, closed⟩ := exists_close backed
  rw [closed]
  exact session.power_leave relay

theorem mode_close (backed : session.Backed relay) :
    (session.close relay).mode = relay.mode := by
  obtain ⟨slots, pacer, registered, links, closed⟩ := exists_close backed
  obtain ⟨clients, channels, power, left⟩ := session.exists_leave relay
  rw [closed, left]

theorem sequence_close (backed : session.Backed relay) :
    (session.close relay).pacer.sequence = relay.pacer.sequence := by
  obtain ⟨clients, links, power, left⟩ := session.exists_leave relay
  cases held : session.link with
  | none => rw [close_of_none held, left]
  | some link => rw [close_of_some held (backed.registered link held)]

theorem sound_close (sound : relay.consumers.Sound) (session : Session) :
    (session.close relay).consumers.Sound := by
  have left := sound_leave sound session
  unfold close
  cases session.link with
  | none => exact left
  | some link =>
    have ended := (session.leave relay).consumers_teardown link
    exact (congrArg Consumers.Sound ended).mpr (left.ended link)

theorem perm_clients_leave (backed : session.Backed relay) :
    (relay.clients.flatMap Client.buffers).Perm
      ((session.client.elim [] fun client => (relay.client client).buffers) ++
        (session.leave relay).clients.flatMap Client.buffers) := by
  rw [clients_leave backed]
  cases held : session.client with
  | none => exact .refl _
  | some client =>
    have bound := relay.lt_of_isOpen (backed.opened client held)
    have found : relay.clients[client]? = some (relay.client client) := by
      rw [Relay.client, List.getElem?_eq_getElem bound, Option.getD_some]
    exact Relay.buffers_perm_set found

theorem slots_close (backed : session.Backed relay) :
    relay.slots.buffers =
      (session.link.elim [] fun _ => relay.slots.buffers) ++
        (session.close relay).slots.buffers := by
  cases held : session.link with
  | none =>
    obtain ⟨clients, links, power, left⟩ := session.exists_leave relay
    rw [close_of_none held, left]
    rfl
  | some link =>
    rw [close_of_some held (backed.registered link held)]
    exact (List.append_nil _).symm

theorem references_close (backed : session.Backed relay) :
    relay.buffers.Perm (session.references relay ++ (session.close relay).buffers) := by
  obtain ⟨slots, pacer, registered, links, closed⟩ := exists_close backed
  have clients : (session.close relay).clients = (session.leave relay).clients := by rw [closed]
  -- the client's references and those of the slots, each split off on its own
  rw [Relay.buffers, slots_close backed, references, Relay.buffers, clients]
  refine ((perm_clients_leave backed).append_right _).trans ?_
  simp only [List.append_assoc]
  exact (List.perm_append_comm_assoc _ _ _).append_left _

end Session

end PresentRelay
