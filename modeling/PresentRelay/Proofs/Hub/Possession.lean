import Mathlib.Logic.Function.Basic
import PresentRelay.Proofs.Hub.Closing
import PresentRelay.Proofs.Hub.Steps

/-!
# What sessions have

Every client and every link of a session is there on the relay, and no other session has it.
`Possession` says so for a relay and the sessions by number; every move of a hub keeps it.
-/

set_option autoImplicit false

namespace PresentRelay

/-! ## Holders -/

/-- Holders by number with one thing each at most: what is held is in use, and held once. -/
structure Held (inUse : Nat → Prop) (holder : Nat → Option Nat) : Prop where
  used : ∀ number thing, holder number = some thing → inUse thing
  alone : ∀ number other thing, holder number = some thing → holder other = some thing →
    number = other

/-- A holder gets one thing for another, or for nothing, and what is in use changes with it: what
it gets is new or was its own, and all but what it had stays in use. -/
structure Swaps (inUse inUse' : Nat → Prop) (had got : Option Nat) : Prop where
  fresh : ∀ thing, got = some thing → had = some thing ∨ ¬ inUse thing
  used : ∀ thing, got = some thing → inUse' thing
  kept : ∀ thing, had ≠ some thing → inUse thing → inUse' thing

section

variable {inUse inUse' inUse'' : Nat → Prop} {holder : Nat → Option Nat} {had got : Option Nat}

theorem Held.put (held : Held inUse holder) {number : Nat}
    (swaps : Swaps inUse inUse' (holder number) got) :
    Held inUse' (Function.update holder number got) where
  used asked thing has := by
    by_cases same : asked = number
    · subst same
      rw [Function.update_self] at has
      exact swaps.used thing has
    · rw [Function.update_of_ne same] at has
      refine swaps.kept thing (fun mine => same ?_) (held.used asked thing has)
      exact held.alone asked number thing has mine
  alone := by
    -- what the holder gets was its own or nobody's
    have apart (other thing : Nat) (differ : other ≠ number) (has : holder other = some thing) :
        got ≠ some thing := by
      intro mine
      rcases swaps.fresh thing mine with before | unused
      · exact differ (held.alone other number thing has before)
      · exact unused (held.used other thing has)
    intro first second thing has too
    by_cases one : first = number <;> by_cases two : second = number
    · exact one.trans two.symm
    · subst one
      rw [Function.update_self] at has
      rw [Function.update_of_ne two] at too
      exact absurd has (apart second thing two too)
    · subst two
      rw [Function.update_self] at too
      rw [Function.update_of_ne one] at has
      exact absurd too (apart first thing one has)
    · rw [Function.update_of_ne one] at has
      rw [Function.update_of_ne two] at too
      exact held.alone first second thing has too

theorem Held.mono (held : Held inUse holder) (kept : ∀ thing, inUse thing → inUse' thing) :
    Held inUse' holder :=
  ⟨fun number thing has => kept thing (held.used number thing has), held.alone⟩

theorem Swaps.mono (swaps : Swaps inUse inUse' had got)
    (kept : ∀ thing, inUse' thing → inUse'' thing) : Swaps inUse inUse'' had got where
  fresh := swaps.fresh
  used thing has := kept thing (swaps.used thing has)
  kept thing lost used := kept thing (swaps.kept thing lost used)

theorem swaps_same (used : ∀ thing, had = some thing → inUse thing)
    (kept : ∀ thing, inUse thing → inUse' thing) : Swaps inUse inUse' had had where
  fresh _ has := .inl has
  used thing has := kept thing (used thing has)
  kept thing _ := kept thing

theorem swaps_take {thing : Nat} (fresh : ¬ inUse thing) (used : inUse' thing)
    (kept : ∀ other, inUse other → inUse' other) : Swaps inUse inUse' none (some thing) where
  fresh _ has := .inr (Option.some.inj has ▸ fresh)
  used _ has := Option.some.inj has ▸ used
  kept other _ := kept other

theorem swaps_drop (kept : ∀ thing, had ≠ some thing → inUse thing → inUse' thing) :
    Swaps inUse inUse' had none := ⟨nofun, nofun, kept⟩

end

/-! ## Sessions -/

structure Possession (relay : Relay) (sessions : Nat → Option Session) : Prop where
  clients : Held (relay.isOpen · = true) fun number => (sessions number).bind Session.client
  links : Held (relay.registered = some ·) fun number => (sessions number).bind Session.link
  sound : relay.consumers.Sound

structure Session.Swaps (had : Option Session) (relay : Relay) (left : Option Session)
    (after : Relay) : Prop where
  clients : PresentRelay.Swaps (relay.isOpen · = true) (after.isOpen · = true)
    (had.bind Session.client) (left.bind Session.client)
  links : PresentRelay.Swaps (relay.registered = some ·) (after.registered = some ·)
    (had.bind Session.link) (left.bind Session.link)
  sound : relay.consumers.Sound → after.consumers.Sound

namespace Session

variable {session opened last : Session} {relay middle after : Relay}

theorem Backed.swaps_acquires (backed : session.Backed relay)
    (acquires : session.Acquires relay opened middle) :
    Session.Swaps (some session) relay (some opened) middle := by
  cases acquires with
  | nothing =>
    exact ⟨swaps_same backed.opened fun _ => id, swaps_same backed.registered fun _ => id, id⟩
  | client without =>
    have isOpen (asked : Nat) : relay.openClient.1.isOpen asked =
        if asked = relay.clients.length then true else relay.isOpen asked := by
      rw [Relay.isOpen, Relay.client_openClient, apply_ite Client.isOpen]
      rfl
    have kept (asked : Nat) (open_ : relay.isOpen asked = true) :
        relay.openClient.1.isOpen asked = true := by
      rw [isOpen, open_, ite_self]
    have fresh : ¬ relay.isOpen relay.clients.length = true := fun open_ =>
      Nat.lt_irrefl _ (relay.lt_of_isOpen open_)
    refine ⟨?_, swaps_same backed.registered fun _ => id, id⟩
    rw [Option.bind_some, without]
    exact swaps_take fresh ((isOpen _).trans (if_pos rfl)) kept
  | link without free =>
    have attached : relay.attach.1 =
        { relay with
          links := relay.links ++ [.new relay.power]
          registered := some relay.links.length } := by rw [Relay.attach, free]
    rw [attached]
    refine ⟨swaps_same backed.opened fun _ => id, ?_, fun sound => sound.attach free⟩
    rw [Option.bind_some, without]
    exact swaps_take (by simp [free]) rfl (by simp [free])

theorem Backed.swaps_becomes (backed : session.Backed relay)
    (becomes : session.Becomes relay last after) :
    Session.Swaps (some session) relay (some last) after := by
  obtain ⟨opened, middle, acquires, client, link, keeps⟩ := becomes
  have swaps := backed.swaps_acquires acquires
  refine ⟨?_, ?_, fun sound => keeps.sound (swaps.sound sound)⟩
  · simp only [Option.bind_some, client]
    exact swaps.clients.mono fun asked isOpen => (keeps.isOpen asked).trans isOpen
  · simp only [Option.bind_some, link]
    exact swaps.links.mono fun asked registered => keeps.registered.trans registered

theorem Backed.swaps_close (backed : session.Backed relay) :
    Session.Swaps (some session) relay none (session.close relay) where
  clients := swaps_drop fun asked other isOpen => by
    have kept : session.client ≠ some asked := other
    rw [Relay.isOpen, client_close backed, if_neg kept]
    exact isOpen
  links := swaps_drop fun asked other registered => by
    cases held : session.link with
    | none =>
      obtain ⟨clients, links, power, left⟩ := session.exists_leave relay
      rw [close_of_none held, left]
      exact registered
    | some link =>
      have mine := backed.registered link held
      exact absurd (held.trans (mine.symm.trans registered)) other
  sound sound := sound_close sound session

theorem Swaps.backed {had : Option Session}
    (swaps : Session.Swaps had relay (some last) after) : last.Backed after :=
  ⟨swaps.clients.used, swaps.links.used⟩

end Session

namespace Possession

variable {relay after : Relay} {sessions : Nat → Option Session} {session last : Session}
  {number : Nat}

theorem backed (possession : Possession relay sessions)
    (present : sessions number = some session) : session.Backed relay where
  opened client has := possession.clients.used number client (by rw [present]; exact has)
  registered link has := possession.links.used number link (by rw [present]; exact has)

theorem bind_update (part : Session → Option Nat) (sessions : Nat → Option Session) (number : Nat)
    (left : Option Session) :
    (fun asked => (Function.update sessions number left asked).bind part) =
      Function.update (fun asked => (sessions asked).bind part) number (left.bind part) :=
  funext fun asked =>
    Function.apply_update (fun _ (session : Option Session) => session.bind part) sessions number
      left asked

theorem put (possession : Possession relay sessions) {left : Option Session}
    (swaps : Session.Swaps (sessions number) relay left after) :
    Possession after (Function.update sessions number left) where
  clients := by
    rw [bind_update]
    exact possession.clients.put swaps.clients
  links := by
    rw [bind_update]
    exact possession.links.put swaps.links
  sound := swaps.sound possession.sound

theorem becomes (possession : Possession relay sessions) (present : sessions number = some session)
    (becomes : session.Becomes relay last after) :
    Possession after (Function.update sessions number (some last)) := by
  have swaps := (possession.backed present).swaps_becomes becomes
  rw [← present] at swaps
  exact possession.put swaps

theorem close (possession : Possession relay sessions)
    (present : sessions number = some session) :
    Possession (session.close relay) (Function.update sessions number none) := by
  have swaps := (possession.backed present).swaps_close
  rw [← present] at swaps
  exact possession.put swaps

theorem client_ne (possession : Possession relay sessions) {other : Nat} {others : Session}
    (present : sessions number = some session) (there : sessions other = some others)
    (apart : other ≠ number) {client : Nat} (held : others.client = some client) :
    session.client ≠ some client := fun also =>
  apart (possession.clients.alone other number client (by rw [there]; exact held)
    (by rw [present]; exact also))

/-- Whatever a session does, it gets no client of another. -/
theorem client_ne_of_becomes (possession : Possession relay sessions)
    (present : sessions number = some session) (becomes : session.Becomes relay last after)
    {other : Nat} {others : Session} (there : sessions other = some others)
    (apart : other ≠ number) {client : Nat} (held : others.client = some client) :
    last.client ≠ some client :=
  (possession.becomes present becomes).client_ne (Function.update_self ..)
    ((Function.update_of_ne apart ..).trans there) apart held

/-- There is one registration, so at most one session has a link. -/
theorem link_eq_none (possession : Possession relay sessions) {other : Nat} {others : Session}
    (present : sessions number = some session) (there : sessions other = some others)
    (apart : other ≠ number) {link : Nat} (held : others.link = some link) :
    session.link = none := by
  have registered := (possession.backed there).registered link held
  refine Option.eq_none_iff_forall_ne_some.mpr fun own also => apart ?_
  have mine := (possession.backed present).registered own also
  obtain rfl : own = link := Option.some.inj (mine.symm.trans registered)
  exact possession.links.alone other number own (by rw [there]; exact held)
    (by rw [present]; exact also)

theorem mono (possession : Possession relay sessions) {own : Option Nat}
    (keeps : Relay.KeepsRoles own relay after) : Possession after sessions where
  clients := possession.clients.mono fun client isOpen => (keeps.isOpen client).trans isOpen
  links := possession.links.mono fun _ registered => keeps.registered.trans registered
  sound := keeps.sound possession.sound

end Possession

namespace Hub

variable {hub next : Hub} {number : Nat}

/-- What holds of a hub at every moment: its sessions have what they say they have. -/
def Possessed (hub : Hub) : Prop := Possession hub.relay hub.session?

theorem session?_of_set {connection left : Connection}
    (found : hub.connections[number]? = some connection)
    (connections : next.connections = hub.connections.set number left) :
    next.session? = Function.update hub.session? number left.session := by
  funext asked
  have bound := (List.getElem?_eq_some_iff.mp found).1
  rw [session?, connections, List.getElem?_set]
  by_cases same : number = asked
  · subst same
    simp [bound]
  · rw [if_neg same, Function.update_of_ne (Ne.symm same), session?]

theorem possessed_advance (possessed : hub.Possessed) (advanced : hub.advance number = some next) :
    next.Possessed := by
  obtain ⟨connection, session, found, present, last, relay, becomes, ends⟩ :=
    advance_cases advanced
  have there : hub.session? number = some session := by rw [session?, found]; exact present
  have served := Possession.becomes possessed there becomes
  unfold Possessed
  rcases ends with ⟨left, connections, goesOn, after⟩ | ⟨⟨left, connections, ended, after⟩, -⟩
  · rw [session?_of_set found connections, goesOn, after]
    exact served
  -- the session did what it was asked, and closed then
  · have closed := served.close (Function.update_self ..)
    rw [Function.update_idem] at closed
    rw [session?_of_set found connections, ended, after]
    exact closed

theorem session?_onPeer (hub : Hub) (number : Nat) {change : Connection → Connection}
    (keeps : ∀ connection : Connection, (change connection).session = connection.session) :
    (hub.onPeer number change).session? = hub.session? := by
  funext asked
  simp only [session?, onPeer, List.getElem?_modify]
  cases hub.connections[asked]? with
  | none => rfl
  | some connection =>
    by_cases same : number = asked
    · simp only [if_pos same, Option.map_eq_map, Option.map_some, Option.bind_some]
      split
      · exact keeps connection
      · rfl
    · simp only [if_neg same, Option.map_eq_map, Option.map_some, Option.bind_some]

theorem session?_put {connection left : Connection}
    (found : hub.connections[number]? = some connection)
    (same : left.session = connection.session) : (hub.put number left).session? = hub.session? := by
  have mine : left.session = hub.session? number := by rw [same, session?, found, Option.bind_some]
  have put : (hub.put number left).session? =
      Function.update hub.session? number left.session := session?_of_set found rfl
  rw [put, mine, Function.update_eq_self]

theorem take_cases (hub : Hub) (number : Nat) :
    (hub.take number).1 = hub ∨
      ∃ connection replies isOpen, hub.connections[number]? = some connection ∧
        (hub.take number).1 = hub.put number { connection with replies, isOpen } := by
  unfold take
  split
  · exact .inl rfl
  · next connection found =>
    split
    · split
      · exact .inr ⟨connection, _, _, found, rfl⟩
      · exact .inl rfl
      · exact .inr ⟨connection, _, _, found, rfl⟩
    · exact .inl rfl

theorem session?_take (hub : Hub) (number : Nat) : (hub.take number).1.session? = hub.session? := by
  obtain same | ⟨connection, replies, isOpen, found, same⟩ := hub.take_cases number <;> rw [same]
  exact session?_put found rfl

theorem relay_take (hub : Hub) (number : Nat) : (hub.take number).1.relay = hub.relay := by
  obtain same | ⟨connection, replies, isOpen, -, same⟩ := hub.take_cases number <;> rw [same]
  rfl

theorem session?_connect (hub : Hub) :
    hub.connect.1.session? =
      Function.update hub.session? hub.connections.length (some .new) := by
  funext asked
  by_cases same : asked = hub.connections.length
  · subst same
    simp [session?, connect]
  · rw [Function.update_of_ne same]
    rcases Nat.lt_or_gt_of_ne same with old | past
    · simp [session?, connect, List.getElem?_append_left old]
    · have missing : (hub.connections ++
          [⟨.empty, .empty, none, some .new, false, true⟩])[asked]? = none :=
        List.getElem?_eq_none (by rw [List.length_append]; exact past)
      simp [session?, connect, missing, Nat.le_of_lt past]

/-- But for a new connection and a session's step, a move leaves the sessions as they are, and
of the relay all that they have. -/
theorem move_cases (hub : Hub) (move : Move) :
    move = .connect ∨ (∃ number, move = .advance number) ∨
      (hub.move move).session? = hub.session? ∧
        Relay.KeepsRoles none hub.relay (hub.move move).relay := by
  cases move with
  | connect => exact .inl rfl
  | advance number => exact .inr (.inl ⟨number, rfl⟩)
  | describe count | drain => exact .inr (.inr ⟨rfl, .refl none _⟩)
  | send number chunk | finish number | hangUp number =>
    exact .inr (.inr ⟨hub.session?_onPeer number fun _ => rfl, .refl none _⟩)
  | take number =>
    have kept : Relay.KeepsRoles none hub.relay (hub.take number).1.relay := by
      rw [relay_take]
      exact .refl none _
    exact .inr (.inr ⟨hub.session?_take number, kept⟩)
  | tick => exact .inr (.inr ⟨rfl, hub.relay.keepsRoles_tick none⟩)
  | power target => exact .inr (.inr ⟨rfl, hub.relay.keepsRoles_setPower none target⟩)

theorem possessed_connect (possessed : hub.Possessed) : hub.connect.1.Possessed := by
  have fresh : hub.session? hub.connections.length = none := by simp [session?]
  have begins : Session.Swaps (hub.session? hub.connections.length) hub.relay (some .new)
      hub.relay := by
    rw [fresh]
    exact ⟨swaps_drop fun _ _ => id, swaps_drop fun _ _ => id, id⟩
  have connected := Possession.put possessed begins
  rw [← hub.session?_connect] at connected
  exact connected

theorem possessed_move (possessed : hub.Possessed) (move : Move) : (hub.move move).Possessed := by
  rcases hub.move_cases move with rfl | ⟨number, rfl⟩ | ⟨sessions, keeps⟩
  · exact possessed_connect possessed
  · rw [Hub.move]
    cases advanced : hub.advance number with
    | none => exact possessed
    | some next => exact possessed_advance possessed advanced
  · rw [Possessed, sessions]
    exact Possession.mono possessed keeps

theorem possessed_new (mode : Mode) : (Hub.new mode).Possessed where
  clients := ⟨nofun, nofun⟩
  links := ⟨nofun, nofun⟩
  sound := Scene.consumers_new mode

theorem possessed_run (mode : Mode) (moves : List Move) : ((Hub.new mode).run moves).Possessed :=
  List.foldlRecOn moves move (possessed_new mode) fun _ possessed move _ =>
    possessed_move possessed move

end Hub

end PresentRelay
