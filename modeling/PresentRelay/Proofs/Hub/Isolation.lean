import PresentRelay.Proofs.Hub.Waits
import PresentRelay.Proofs.Session.Alone

/-!
# Sessions do not reach each other's handles and framebuffers

Sessions share a relay and the count of its framebuffers, in any interleaving.  What the client of a
session has is still accounted for by the exchanges of that session: its handles are those of a
session alone, and its framebuffers those that it was told of and has not removed.
-/

set_option autoImplicit false

namespace PresentRelay

/-! ## Exchanges about framebuffers and buffers -/

namespace Exchange

variable (exchange : Exchange)

def asked : Request × List File := (exchange.request, exchange.files)

def Gives (id : UInt32) : Prop := exchange.handled = .reply (.framebuffer id) []

def Removes (id : UInt32) : Prop :=
  exchange.request = .removeFramebuffer id ∧ exchange.handled = .reply (.ack none) []

def Registers (buffer : Buffer) : Prop :=
  ∃ file handle, exchange.request = .registerBuffer ∧ exchange.files = [file] ∧
    exchange.handled = .reply (.handle handle) [] ∧ buffer = .ofDescriptor file.number file

/-- Whether a session was told of a framebuffer and has not removed it since. -/
def Owned (past : List Exchange) (id : UInt32) : Prop :=
  ∃ before received since, past = before ++ received :: since ∧ received.Gives id ∧
    ∀ exchange ∈ since, ¬ exchange.Removes id

/-- Whether a buffer came with a request of a session to register it. -/
def Registered (past : List Exchange) (buffer : Buffer) : Prop :=
  ∃ exchange ∈ past, exchange.Registers buffer

variable {past : List Exchange} {exchange : Exchange} {id : UInt32} {buffer : Buffer}

theorem owned_concat :
    Owned (past ++ [exchange]) id ↔
      exchange.Gives id ∨ Owned past id ∧ ¬ exchange.Removes id := by
  constructor
  · rintro ⟨before, received, since, split, gives, kept⟩
    rcases List.eq_nil_or_concat since with rfl | ⟨earlier, last, rfl⟩
    · obtain ⟨-, same⟩ := List.append_inj' split rfl
      cases same
      exact .inl gives
    · rw [List.concat_eq_append, ← List.cons_append, ← List.append_assoc] at split
      obtain ⟨rfl, same⟩ := List.append_inj' split rfl
      cases same
      rw [List.concat_eq_append, List.forall_mem_append] at kept
      exact .inr ⟨⟨before, received, earlier, rfl, gives, kept.1⟩,
        kept.2 exchange (List.mem_singleton_self exchange)⟩
  · rintro (gives | ⟨⟨before, received, since, rfl, gives, kept⟩, stays⟩)
    · exact ⟨past, exchange, [], rfl, gives, nofun⟩
    · refine ⟨before, received, since ++ [exchange], by simp, gives, ?_⟩
      rw [List.forall_mem_append, List.forall_mem_singleton]
      exact ⟨kept, stays⟩

theorem Registered.concat (registered : Registered past buffer) :
    Registered (past ++ [exchange]) buffer := by
  obtain ⟨earlier, member, registers⟩ := registered
  exact ⟨earlier, List.mem_append_left _ member, registers⟩

end Exchange

/-! ## Accounts -/

/-- What a client has is accounted for by the exchanges of its session. -/
structure Client.Accounts (held : Client) (mode : Mode) (past : List Exchange) : Prop where
  registry : held.registry = (Session.ownAlone mode (past.map Exchange.asked)).registry
  framebuffers : ∀ id, (held.framebuffers.get? id).isSome = true ↔ Exchange.Owned past id
  handles : ∀ handle buffer, held.registry.table.get? handle = some buffer →
    Exchange.Registered past buffer
  planes : ∀ id framebuffer, held.framebuffers.get? id = some framebuffer →
    ∀ buffer ∈ framebuffer.buffers, Exchange.Registered past buffer

theorem accounts_new (mode : Mode) : Client.new.Accounts mode [] where
  registry := rfl
  framebuffers id := by simp [Client.new, Table.get?_empty, Exchange.Owned]
  handles := nofun
  planes := nofun

theorem Client.Accounts.serve {held left : Client} {mode : Mode} {past : List Exchange}
    (accounts : held.Accounts mode past) {number : UInt32} {request : Request} {files : List File}
    {handled : Handled} {answer : Option Handled}
    (serves : held.serve number files request = (left, answer))
    (told : answer = some handled ∨
      answer = none ∧ ∀ id given, handled ≠ .reply (.framebuffer id) given) :
    left.Accounts mode (past ++ [⟨request, files, handled⟩]) := by
  have registry : left.registry =
      (Session.ownAlone mode
        ((past ++ [(⟨request, files, handled⟩ : Exchange)]).map Exchange.asked)).registry := by
    have same := Client.registry_serve accounts.registry number
      (Session.alone mode (past.map Exchange.asked)).2.nextFramebuffer files request
    rw [serves] at same
    rw [same, List.map_append, List.map_singleton]
    exact congrArg Client.registry (Session.serve_ownAlone mode _ request files).1
  have kinds := held.served number files request
  rw [serves] at kinds
  have given {response : Response} (same : answer = some (.reply response [])) :
      handled = .reply response [] := by
    obtain rfl | ⟨rfl, -⟩ := told
    · exact Option.some.inj same
    · cases same
  have gives (id : UInt32) : answer = some (.reply (.framebuffer id) []) ↔
      Exchange.Gives ⟨request, files, handled⟩ id := by
    refine ⟨given, fun same => ?_⟩
    obtain rfl | ⟨-, never⟩ := told
    · exact congrArg some same
    · exact absurd same (never id [])
  have removes (id : UInt32) :
      request = .removeFramebuffer id ∧ answer = some (.reply (.ack none) []) ↔
        Exchange.Removes ⟨request, files, handled⟩ id := by
    refine and_congr_right fun asks => ⟨given, fun same => ?_⟩
    have names : Client.named? request = some id := by rw [asks]; rfl
    have named := Client.serve_named names held number files
    obtain rfl | ⟨rfl, -⟩ := told
    · exact congrArg some same
    · rw [serves] at named
      cases named
  refine ⟨registry, fun id => ?_, fun handle buffer found => ?_,
    fun id framebuffer found buffer member => ?_⟩
  · rw [kinds.framebuffers id, gives, removes, accounts.framebuffers id, Exchange.owned_concat]
  · obtain old | ⟨file, another, asks, single, same, rfl⟩ := kinds.handles found
    · exact (accounts.handles handle buffer old).concat
    · exact ⟨_, List.mem_append_right _ (List.mem_singleton_self _), file, another, asks, single,
        given same, rfl⟩
  · obtain old | resolve := kinds.planes found
    · exact (accounts.planes id framebuffer old buffer member).concat
    · obtain ⟨handle, entry⟩ := resolve buffer member
      exact (accounts.handles handle buffer entry).concat

namespace Client.Accounts

variable {held left : Client} {mode : Mode} {past : List Exchange} {number : UInt32}
  {files : List File} {handled : Handled}

theorem registers_alone (accounts : held.Accounts mode past)
    (answered : (held.serve number files .registerBuffer).2 = some handled) :
    handled = Session.answerAlone mode (past.map Exchange.asked) .registerBuffer files := by
  rw [Client.serve_registerBuffer accounts.registry _ _ files] at answered
  exact ((Session.serve_ownAlone mode _ _ files).2 handled answered).symm

theorem releases_alone (accounts : held.Accounts mode past) {handle : UInt32}
    (answered : (held.serve number files (.releaseHandle handle)).2 = some handled) :
    handled =
      Session.answerAlone mode (past.map Exchange.asked) (.releaseHandle handle) files := by
  rw [Client.serve_releaseHandle accounts.registry _ _ files handle] at answered
  exact ((Session.serve_ownAlone mode _ _ files).2 handled answered).symm

/-- A framebuffer is made or fails to be as it would for the session alone, whatever its number. -/
theorem adds_alone (accounts : held.Accounts mode past) {handles : List UInt32}
    (answered : (held.serve number files (.addFramebuffer handles)).2 = some handled) :
    let alone :=
      Session.answerAlone mode (past.map Exchange.asked) (.addFramebuffer handles) files
    ((∃ id, handled = .reply (.framebuffer id) []) ↔ ∃ id, alone = .reply (.framebuffer id) []) ∧
      ∀ error, handled = .failed error ↔ alone = .failed error := by
  intro alone
  obtain ⟨-, alike⟩ :=
    Session.serve_ownAlone mode (past.map Exchange.asked) (.addFramebuffer handles) files
  obtain ⟨made, madeAlone⟩ | ⟨error, refused, refusedAlone⟩ :=
    Client.serve_addFramebuffer accounts.registry number
      (Session.alone mode (past.map Exchange.asked)).2.nextFramebuffer files handles
  · have together : alone = .reply (.framebuffer _) [] := alike _ madeAlone
    rw [together]
    cases answered.symm.trans made
    exact ⟨⟨fun _ => ⟨_, rfl⟩, fun _ => ⟨_, rfl⟩⟩, fun error => ⟨nofun, nofun⟩⟩
  · have together : alone = .failed error := alike _ refusedAlone
    rw [together]
    cases answered.symm.trans refused
    refine ⟨⟨?_, ?_⟩, fun other => Iff.rfl⟩ <;>
    · rintro ⟨_, never⟩
      cases never

theorem framebuffer_of_adds (accounts : held.Accounts mode past) {handles : List UInt32}
    {id : UInt32} (serves : held.serve number files (.addFramebuffer handles) =
      (left, some (.reply (.framebuffer id) []))) :
    ∃ framebuffer, left.framebuffers.get? id = some framebuffer ∧
      framebuffer.Resolves (Session.ownAlone mode (past.map Exchange.asked)).registry handles ∧
      ∀ buffer ∈ framebuffer.buffers, Exchange.Registered past buffer := by
  cases created : Framebuffer.create number held.registry handles with
  | error error =>
    simp only [Client.serve, created] at serves
    cases serves
  | ok framebuffer =>
    obtain ⟨-, -, -, resolves⟩ := Framebuffer.resolves_of_create created
    simp only [Client.serve, created] at serves
    cases serves
    refine ⟨framebuffer, ?_, accounts.registry ▸ resolves, fun buffer member => ?_⟩
    · rw [Table.get?_insert, if_pos rfl]
    · obtain ⟨handle, entry⟩ := resolves.mem_entries member
      exact accounts.handles handle buffer entry

theorem named (accounts : held.Accounts mode past) {request : Request} {id : UInt32}
    (names : Client.named? request = some id)
    (answered : (held.serve number files request).2 = some handled) :
    (Exchange.Owned past id → handled = .reply (.ack none) []) ∧
      (¬ Exchange.Owned past id → handled = .failed .notFound) := by
  rw [Client.serve_named names, Option.some.injEq] at answered
  rw [← accounts.framebuffers id, ← answered]
  exact ⟨fun owned => if_pos owned, fun missing => if_neg missing⟩

end Client.Accounts

/-! ## Runs -/

namespace Hub

variable {hub next : Hub} {number : Nat} {session last : Session}

theorem length_le_move (hub : Hub) (move : Move) :
    hub.connections.length ≤ (hub.move move).connections.length := by
  cases move with
  | connect =>
    rw [Hub.move, connect, List.length_append]
    exact Nat.le_add_right _ _
  | describe | drain | tick | power => exact Nat.le_refl _
  | send | finish | hangUp => exact Nat.le_of_eq (List.length_modify ..).symm
  | take number =>
    rw [Hub.move]
    obtain same | ⟨connection, replies, isOpen, -, same⟩ := hub.take_cases number <;> rw [same]
    exact Nat.le_of_eq List.length_set.symm
  | advance number =>
    rw [Hub.move]
    cases advanced : hub.advance number with
    | none => exact Nat.le_refl _
    | some next =>
      obtain ⟨connection, session, -, present, does⟩ := advance_does advanced
      obtain ⟨left, connections, -⟩ := does.exists_set present
      rw [Option.getD_some, connections, List.length_set]

theorem exchange?_of_missing (missing : hub.connections.length ≤ number) :
    hub.exchange? number = none := by simp [exchange?, List.getElem?_eq_none missing]

theorem exchanges_of_missing (start : Hub) (moves : List Move)
    (missing : (start.run moves).connections.length ≤ number) :
    start.exchanges number moves = [] := by
  induction moves using List.reverseRecOn with
  | nil => rfl
  | append_singleton moves move ih =>
    rw [run_concat] at missing
    have before := (length_le_move (start.run moves) move).trans missing
    have nothing : (start.run moves).exchangeIn? number move = none := by
      cases move with
      | advance asked =>
        simp only [exchangeIn?, exchange?_of_missing before, ite_self]
      | _ => rfl
    rw [exchanges_concat, ih before, nothing]
    rfl

theorem exchangeIn?_of_ne {move : Move} (other : move ≠ .advance number) :
    hub.exchangeIn? number move = none := by
  cases move with
  | advance asked => exact if_neg fun same => other (congrArg Move.advance same)
  | _ => rfl

theorem own_move_of_ne (possessed : hub.Possessed) (present : hub.session? number = some session)
    {move : Move} (other : move ≠ .advance number) :
    session.own (hub.move move).relay = session.own hub.relay := by
  refine Session.own_congr rfl fun client held => ?_
  rcases hub.move_cases move with rfl | ⟨asked, rfl⟩ | ⟨-, keeps⟩
  · rfl
  · have apart : number ≠ asked := fun same => other (congrArg Move.advance same.symm)
    rw [Hub.move]
    cases advanced : hub.advance asked with
    | none => rfl
    | some next =>
      obtain ⟨connection, serving, found, there, last, relay, becomes, ends⟩ :=
        advance_cases advanced
      have there : hub.session? asked = some serving := (session?_eq_some found).mpr there
      have notTheirs := Possession.client_ne_of_becomes possessed there becomes present apart held
      rw [Option.getD_some]
      rcases ends with ⟨left, -, -, after⟩ | ⟨⟨left, -, -, closed⟩, -⟩
      · rw [after]
        exact becomes.client_of_ne notTheirs
      · have served := Possession.becomes possessed there becomes
        rw [closed, Session.client_close (served.backed (Function.update_self ..)),
          if_neg notTheirs]
        exact becomes.client_of_ne notTheirs
  · exact keeps.others client (Option.some_ne_none client).symm

theorem exchange?_goesOn {exchange : Exchange} (given : hub.exchange? number = some exchange)
    (goesOn : (hub.move (.advance number)).session? number = some last) :
    ∃ session, hub.session? number = some session ∧
      session.Handles hub.relay exchange.files exchange.request last
        (hub.move (.advance number)).relay exchange.handled := by
  obtain ⟨connection, session, opening, requests, left, after, found, held, -, -, -, served,
    concluded⟩ := exchange?_cases given
  rw [concluded] at goesOn ⊢
  obtain ⟨rfl, relay⟩ := goesOn_conclude (by exact found) goesOn
  rw [relay]
  exact ⟨session, (session?_eq_some found).mpr held, Session.handles served⟩

/-- A step in which a session handles no request leaves its client as it is. -/
theorem own_advance (nothing : hub.exchange? number = none)
    (goesOn : (hub.move (.advance number)).session? number = some last) :
    ∃ session, hub.session? number = some session ∧
      last.own (hub.move (.advance number)).relay = session.own hub.relay := by
  rw [Hub.move] at goesOn ⊢
  cases advanced : hub.advance number with
  | none =>
    rw [advanced, Option.getD_none] at goesOn
    exact ⟨last, goesOn, rfl⟩
  | some next =>
    rw [advanced, Option.getD_some] at goesOn
    obtain ⟨connection, session, found, held, does⟩ := advance_does advanced
    refine ⟨session, (session?_eq_some found).mpr held, ?_⟩
    cases does with
    | opens serves between requests opening taken =>
      rw [session?_of_set found rfl, Function.update_self, held] at goesOn
      cases goesOn
      rfl
    | serves serves opening started requests request files received ends =>
      rw [exchange?_of_received found held serves started received ends] at nothing
      cases nothing
    | answers awaited waits after handled answered =>
      obtain ⟨rfl, relay⟩ := goesOn_conclude (by exact found) goesOn
      have keeps := session.keepsRoles_answerAwaited none hub.relay awaited
      rw [answered] at keeps
      rw [Option.getD_some, relay]
      exact Session.own_congr rfl fun client _ =>
        keeps.others client (Option.some_ne_none client).symm
    | leaves ending =>
      rw [session?_of_set found rfl, Function.update_self] at goesOn
      cases goesOn
    | breaks ending requests opening error =>
      rw [session?_of_set found rfl, Function.update_self] at goesOn
      cases goesOn

/-- At every moment of a run, what the client of a session has is accounted for by the exchanges of
that session, whatever the others did. -/
theorem accounts_run (mode : Mode) (moves : List Move)
    (present : ((Hub.new mode).run moves).session? number = some session) :
    (session.own ((Hub.new mode).run moves).relay).Accounts mode
      ((Hub.new mode).exchanges number moves) := by
  induction moves using List.reverseRecOn generalizing session with
  | nil => cases present
  | append_singleton moves move ih =>
    have possessed : ((Hub.new mode).run moves).Possessed := possessed_run mode moves
    rw [run_concat] at present ⊢
    rw [exchanges_concat]
    by_cases own : move = .advance number
    · subst own
      cases given : ((Hub.new mode).run moves).exchange? number with
      | none =>
        obtain ⟨before, there, same⟩ := own_advance given present
        simp only [exchangeIn?, if_true, given, same, Option.toList_none, List.append_nil]
        exact ih there
      | some exchange =>
        obtain ⟨before, there, handles⟩ := exchange?_goesOn given present
        simp only [exchangeIn?, if_true, given, Option.toList_some]
        obtain serves | ⟨serves, never⟩ := handles.own (Possession.backed possessed there)
        · exact (ih there).serve serves (.inl rfl)
        · exact (ih there).serve serves (.inr ⟨rfl, never⟩)
    · rw [exchangeIn?_of_ne own, Option.toList_none, List.append_nil]
      rcases session?_of_move present own with there | ⟨rfl, missing⟩
      · rw [own_move_of_ne possessed there own]
        exact ih there
      · rw [exchanges_of_missing _ moves missing]
        exact accounts_new mode

/-! ## Isolation -/

/-- Whatever other sessions do, a session that registers a buffer or releases a handle is answered
as if it had the relay to itself.  It can make a framebuffer exactly if it could then, of the planes
that its handles stand for there, and of buffers that it registered itself.  A framebuffer that it
names is shown or removed exactly if the session was told of it and has not removed it since, and
is not found otherwise. -/
theorem sessions_isolated (mode : Mode) (moves : List Move) (number : Nat)
    (exchange : Exchange) :
    let hub := (Hub.new mode).run moves
    let next := hub.move (.advance number)
    let past := (Hub.new mode).exchanges number moves
    let alone := Session.answerAlone mode (past.map Exchange.asked) exchange.request exchange.files
    hub.exchange? number = some exchange →
      (exchange.request = .registerBuffer ∨ (∃ handle, exchange.request = .releaseHandle handle) →
        exchange.handled = alone) ∧
      (∀ handles, exchange.request = .addFramebuffer handles →
        ((∃ id, exchange.Gives id) ↔ ∃ id, alone = .reply (.framebuffer id) []) ∧
        (∀ error, exchange.handled = .failed error ↔ alone = .failed error) ∧
        ∀ id last, exchange.Gives id → next.session? number = some last →
          ∃ framebuffer, (last.own next.relay).framebuffers.get? id = some framebuffer ∧
            framebuffer.Resolves (Session.ownAlone mode (past.map Exchange.asked)).registry
              handles ∧
            ∀ buffer ∈ framebuffer.buffers, Exchange.Registered past buffer) ∧
      (∀ id, Client.named? exchange.request = some id →
        (Exchange.Owned past id → exchange.handled = .reply (.ack none) []) ∧
        (¬ Exchange.Owned past id → exchange.handled = .failed .notFound)) := by
  intro hub next past alone given
  obtain ⟨connection, session, opening, requests, last, after, found, held, -, -, -, served, -⟩ :=
    exchange?_cases given
  have present : hub.session? number = some session := (session?_eq_some found).mpr held
  have backed : session.Backed hub.relay := Possession.backed (possessed_run mode moves) present
  have accounts : (session.own hub.relay).Accounts mode past := accounts_run mode moves present
  obtain ⟨request, files, handled⟩ := exchange
  have answered (producers : Session.IsProducers request) :
      ((session.own hub.relay).serve hub.relay.nextFramebuffer files request).2 = some handled :=
    congrArg Prod.snd ((Session.handles served).own_of_producers backed producers)
  refine ⟨?_, ?_, ?_⟩
  · rintro (same | ⟨handle, same⟩)
    · obtain rfl : request = .registerBuffer := same
      exact accounts.registers_alone (answered trivial)
    · obtain rfl : request = .releaseHandle handle := same
      exact accounts.releases_alone (answered trivial)
  · intro wanted same
    obtain rfl : request = .addFramebuffer wanted := same
    obtain ⟨alike, fails⟩ := accounts.adds_alone (answered trivial)
    refine ⟨alike, fails, fun id left gives goesOn => ?_⟩
    obtain ⟨before, there, handles⟩ := exchange?_goesOn given goesOn
    obtain rfl : session = before := Option.some.inj (present.symm.trans there)
    have serves := handles.own_of_producers backed trivial
    obtain rfl : handled = .reply (.framebuffer id) [] := gives
    exact accounts.framebuffer_of_adds serves
  · intro id names
    exact accounts.named names (answered (Session.producers_of_named names))

/-- A session guesses the number of another one's framebuffer. -/
theorem sessions_isolated_guessed_number :
    let moves : List Move :=
      [.connect, .connect,
        .send 0 ⟨Frame.encode Request.registerBuffer.encode, [⟨0, []⟩]⟩, .advance 0, .advance 0,
        .send 0 ⟨Frame.encode (Request.addFramebuffer [1]).encode, []⟩, .advance 0, .advance 0,
        .send 1 ⟨Frame.encode (Request.pageFlip 1).encode, []⟩, .advance 1]
    let hub := (Hub.new ⟨640, 480, 60⟩).run moves
    ((hub.relay.client 0).framebuffers.get? 1).isSome = true ∧
    ∃ exchange, hub.exchange? 1 = some exchange ∧ exchange.request = .pageFlip 1 ∧
      exchange.handled = .failed .notFound := by
  intro moves hub
  have asks : (hub.exchange? 1).map Exchange.request = some (.pageFlip 1) := by decide +kernel
  obtain ⟨exchange, given, request⟩ := Option.map_eq_some_iff.mp asks
  have silent : ((Hub.new ⟨640, 480, 60⟩).exchanges 1 moves).length = 0 := by decide +kernel
  have unknown : ¬ Exchange.Owned ((Hub.new ⟨640, 480, 60⟩).exchanges 1 moves) 1 := by
    rw [List.eq_nil_of_length_eq_zero silent]
    rintro ⟨before, received, since, split, -⟩
    simp at split
  obtain ⟨-, -, named⟩ := sessions_isolated ⟨640, 480, 60⟩ moves 1 exchange given
  have names : Client.named? exchange.request = some 1 := by rw [request]; rfl
  exact ⟨by decide +kernel, exchange, given, request, (named 1 names).2 unknown⟩

end Hub

end PresentRelay
