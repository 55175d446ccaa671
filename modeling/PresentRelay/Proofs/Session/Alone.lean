import PresentRelay.Proofs.Framebuffer.Creation
import PresentRelay.Proofs.Hub.Possession
import PresentRelay.Proofs.Session.Handling

/-!
# A session by itself

What a session does with handles and framebuffers is the work of its own client, which
`Client.serve` states.  `Session.alone` is a session with a relay to itself, and what that has of
handles depends on nothing but the requests.
-/

set_option autoImplicit false

namespace PresentRelay

theorem Framebuffer.create_number (number another : UInt32) (registry : Registry)
    (handles : List UInt32) : create another registry handles =
      (create number registry handles).map fun framebuffer =>
        { framebuffer with id := another } := by
  unfold create
  split
  · rfl
  · split
    · rfl
    · dsimp only
      split <;> rfl

namespace Client

/-- What a request does to the client of its session, where a new framebuffer would get a number,
and what it comes to if that is up to the client. -/
def serve (held : Client) (number : UInt32) (files : List File) :
    Request → Client × Option Handled
  | .registerBuffer =>
    match files with
    | [file] =>
      let (registry, handle) := held.registry.register (.ofDescriptor file.number file)
      ({ held with registry }, some (.reply (.handle handle) []))
    | _ => (held, some (.failed (.invalidArgument .oneDescriptor)))
  | .releaseHandle handle =>
    match held.registry.release handle with
    | .ok registry => ({ held with registry }, some (.reply (.ack none) []))
    | .error error => (held, some (.failed error))
  | .addFramebuffer handles =>
    match Framebuffer.create number held.registry handles with
    | .ok framebuffer =>
      ({ held with framebuffers := held.framebuffers.insert framebuffer.id framebuffer },
        some (.reply (.framebuffer framebuffer.id) []))
    | .error error => (held, some (.failed error))
  | .removeFramebuffer id =>
    match held.framebuffer id with
    | .ok _ =>
      ({ held with framebuffers := held.framebuffers.erase id }, some (.reply (.ack none) []))
    | .error error => (held, some (.failed error))
  | .pageFlip id | .setCrtc (some id) =>
    (held, some (Session.acknowledged ((held.framebuffer id).map fun _ => ())))
  | .setCrtc none => (held, some (.reply (.ack none) []))
  | .configure .. | .wait | .exportFrame | .waitVblank _ => (held, none)

theorem serve_of_needsLink {request : Request} (needs : Session.NeedsLink request) (held : Client)
    (number : UInt32) (files : List File) : held.serve number files request = (held, none) := by
  cases request with
  | configure | wait | exportFrame => rfl
  | _ => cases needs

theorem serve_miscounted {files : List File} (count : ∀ file, files ≠ [file]) (held : Client)
    (number : UInt32) : held.serve number files .registerBuffer =
      (held, some (.failed (.invalidArgument .oneDescriptor))) := by
  simp only [serve]

inductive Served (held : Client) (number : UInt32) (files : List File) :
    Request → Client → Option Handled → Prop
  | registers (file : File) (single : files = [file]) :
      Served held number files .registerBuffer
        { held with registry := (held.registry.register (.ofDescriptor file.number file)).1 }
        (some (.reply (.handle (held.registry.register (.ofDescriptor file.number file)).2) []))
  | releases (handle : UInt32) (registry : Registry)
      (released : held.registry.release handle = .ok registry) :
      Served held number files (.releaseHandle handle) { held with registry }
        (some (.reply (.ack none) []))
  | adds (handles : List UInt32) (framebuffer : Framebuffer)
      (created : Framebuffer.create number held.registry handles = .ok framebuffer) :
      Served held number files (.addFramebuffer handles)
        { held with framebuffers := held.framebuffers.insert framebuffer.id framebuffer }
        (some (.reply (.framebuffer framebuffer.id) []))
  | removes (id : UInt32) (framebuffer : Framebuffer)
      (owned : held.framebuffer id = .ok framebuffer) :
      Served held number files (.removeFramebuffer id)
        { held with framebuffers := held.framebuffers.erase id } (some (.reply (.ack none) []))
  | keeps (request : Request) (answer : Option Handled)
      (gives : ∀ id, answer ≠ some (.reply (.framebuffer id) []))
      (removes : ∀ id, request = .removeFramebuffer id →
        answer ≠ some (.reply (.ack none) [])) :
      Served held number files request held answer

theorem served (held : Client) (number : UInt32) (files : List File) (request : Request) :
    held.Served number files request (held.serve number files request).1
      (held.serve number files request).2 := by
  cases request with
  | registerBuffer =>
    simp only [serve]
    split
    · next file => exact .registers file rfl
    · exact .keeps _ _ nofun nofun
  | releaseHandle handle =>
    simp only [serve]
    split
    · next registry released => exact .releases handle registry released
    · exact .keeps _ _ nofun nofun
  | addFramebuffer handles =>
    simp only [serve]
    split
    · next framebuffer created => exact .adds handles framebuffer created
    · exact .keeps _ _ nofun nofun
  | removeFramebuffer id =>
    simp only [serve]
    split
    · next framebuffer owned => exact .removes id framebuffer owned
    · exact .keeps _ _ nofun nofun
  | pageFlip id =>
    refine .keeps _ _ (fun other => ?_) nofun
    simp only [serve]
    cases held.framebuffer id <;> exact nofun
  | setCrtc id =>
    cases id with
    | none => exact .keeps _ _ nofun nofun
    | some id =>
      refine .keeps _ _ (fun other => ?_) nofun
      simp only [serve]
      cases held.framebuffer id <;> exact nofun
  | configure | wait | exportFrame | waitVblank => exact .keeps _ _ nofun nofun

section

variable {held left : Client} {number : UInt32} {files : List File} {request : Request}
  {answer : Option Handled}

theorem Served.handles (served : held.Served number files request left answer) {handle : UInt32}
    {buffer : Buffer} (found : left.registry.table.get? handle = some buffer) :
    held.registry.table.get? handle = some buffer ∨
      ∃ file another, request = .registerBuffer ∧ files = [file] ∧
        answer = some (.reply (.handle another) []) ∧ buffer = .ofDescriptor file.number file := by
  cases served with
  | registers file single =>
    simp only [Registry.register, Table.get?_insert] at found
    split at found
    · cases found
      exact .inr ⟨file, _, rfl, single, rfl, rfl⟩
    · exact .inl found
  | releases released registry freed =>
    obtain ⟨-, rfl⟩ := Registry.release_eq_ok.mp freed
    simp only [Table.get?_erase] at found
    split at found
    · cases found
    · exact .inl found
  | adds | removes | keeps => exact .inl found

theorem Served.planes (served : held.Served number files request left answer) {id : UInt32}
    {framebuffer : Framebuffer} (found : left.framebuffers.get? id = some framebuffer) :
    held.framebuffers.get? id = some framebuffer ∨
      ∀ buffer ∈ framebuffer.buffers, ∃ handle, held.registry.table.get? handle = some buffer := by
  cases served with
  | adds handles made created =>
    rw [Table.get?_insert] at found
    split at found
    · cases found
      obtain ⟨-, -, -, resolves⟩ := Framebuffer.resolves_of_create created
      exact .inr fun buffer member => resolves.mem_entries member
    · exact .inl found
  | removes removed gone owned =>
    rw [Table.get?_erase] at found
    split at found
    · cases found
    · exact .inl found
  | registers | releases | keeps => exact .inl found

theorem Served.framebuffers (served : held.Served number files request left answer) (id : UInt32) :
    (left.framebuffers.get? id).isSome = true ↔
      answer = some (.reply (.framebuffer id) []) ∨
        (held.framebuffers.get? id).isSome = true ∧
          ¬ (request = .removeFramebuffer id ∧ answer = some (.reply (.ack none) [])) := by
  cases served with
  | registers | releases => simp
  | adds handles framebuffer created =>
    rw [Table.get?_insert]
    by_cases same : id = framebuffer.id
    · simp [same]
    · simp [same, Ne.symm same]
  | removes removed framebuffer owned =>
    rw [Table.get?_erase]
    by_cases same : id = removed
    · simp [same]
    · simp [same, Ne.symm same]
  | keeps _ _ gives removes =>
    simp only [gives id, false_or, iff_self_and, not_and]
    exact fun _ asks => removes id asks

end

def named? : Request → Option UInt32
  | .removeFramebuffer id | .pageFlip id | .setCrtc (some id) => some id
  | _ => none

theorem serve_named {request : Request} {id : UInt32} (names : named? request = some id)
    (held : Client) (number : UInt32) (files : List File) :
    (held.serve number files request).2 =
      some (if (held.framebuffers.get? id).isSome then .reply (.ack none) []
        else .failed .notFound) := by
  have answer : (held.serve number files request).2 =
      some (Session.acknowledged ((held.framebuffer id).map fun _ => ())) := by
    cases request with
    | removeFramebuffer other =>
      cases names
      simp only [serve]
      cases held.framebuffer id <;> rfl
    | pageFlip other =>
      cases names
      rfl
    | setCrtc shown =>
      cases shown <;> cases names
      rfl
    | _ => cases names
  rw [answer, framebuffer]
  cases held.framebuffers.get? id <;> rfl

/-! ## What it depends on -/

variable {held other : Client}

/-- What becomes of handles depends on the handles only. -/
theorem registry_serve (same : held.registry = other.registry) (number another : UInt32)
    (files : List File) (request : Request) :
    (held.serve number files request).1.registry =
      (other.serve another files request).1.registry := by
  cases request with
  | registerBuffer =>
    simp only [serve]
    split
    · rw [same]
    · exact same
  | releaseHandle handle =>
    simp only [serve, same]
    split
    · rfl
    · exact same
  | addFramebuffer handles =>
    have registry (client : Client) (number : UInt32) :
        (client.serve number files (.addFramebuffer handles)).1.registry = client.registry := by
      simp only [serve]
      split <;> rfl
    rw [registry, registry, same]
  | removeFramebuffer id =>
    have registry (client : Client) (number : UInt32) :
        (client.serve number files (.removeFramebuffer id)).1.registry = client.registry := by
      simp only [serve]
      split <;> rfl
    rw [registry, registry, same]
  | setCrtc id => cases id <;> exact same
  | pageFlip | configure | wait | exportFrame | waitVblank => exact same

theorem serve_registerBuffer (same : held.registry = other.registry) (number another : UInt32)
    (files : List File) : (held.serve number files .registerBuffer).2 =
      (other.serve another files .registerBuffer).2 := by
  simp only [serve]
  split
  · rw [same]
  · rfl

theorem serve_releaseHandle (same : held.registry = other.registry) (number another : UInt32)
    (files : List File) (handle : UInt32) :
    (held.serve number files (.releaseHandle handle)).2 =
      (other.serve another files (.releaseHandle handle)).2 := by
  simp only [serve, same]
  split <;> rfl

/-- Whether a framebuffer can be made depends on the handles only, and not on its number. -/
theorem serve_addFramebuffer (same : held.registry = other.registry) (number another : UInt32)
    (files : List File) (handles : List UInt32) :
    ((held.serve number files (.addFramebuffer handles)).2 =
        some (.reply (.framebuffer number) []) ∧
      (other.serve another files (.addFramebuffer handles)).2 =
        some (.reply (.framebuffer another) [])) ∨
    ∃ error, (held.serve number files (.addFramebuffer handles)).2 = some (.failed error) ∧
      (other.serve another files (.addFramebuffer handles)).2 = some (.failed error) := by
  have created := Framebuffer.create_number number another held.registry handles
  simp only [serve, ← same]
  cases made : Framebuffer.create number held.registry handles with
  | error error =>
    rw [made] at created
    rw [created]
    exact .inr ⟨error, rfl, rfl⟩
  | ok framebuffer =>
    rw [made] at created
    rw [created, ← (Framebuffer.resolves_of_create made).1]
    exact .inl ⟨rfl, rfl⟩

end Client

namespace Relay

variable {relay after : Relay}

theorem client_produce {client : Nat} (isOpen : relay.isOpen client = true) {request : Request}
    {files : List File} {handled : Handled}
    (done : relay.produce client files request = some (after, handled)) :
    (relay.client client).serve relay.nextFramebuffer files request =
      (after.client client, some handled) := by
  have changed (change : Client → Client) :
      (relay.onClient client change).client client = change (relay.client client) := by
    rw [relay.client_onClient isOpen, if_pos rfl]
  cases request with
  | registerBuffer =>
    simp only [produce] at done
    split at done
    · cases done
      rw [register, changed]
      rfl
    · cases done
  | releaseHandle handle =>
    simp only [produce, release] at done
    cases released : (relay.client client).registry.release handle <;>
    · rw [released] at done
      cases done
      simp only [Client.serve, released, changed]
      rfl
  | addFramebuffer handles =>
    simp only [produce, addFramebuffer, createFramebuffer] at done
    cases created : Framebuffer.create relay.nextFramebuffer (relay.client client).registry
        handles <;> rw [created] at done <;> cases done
    · simp only [Client.serve, created]
      rfl
    · rw [client_onClient _ (by exact isOpen), if_pos rfl]
      simp only [Client.serve, created]
      rfl
  | removeFramebuffer id =>
    simp only [produce, removeFramebuffer] at done
    cases owned : (relay.client client).framebuffer id <;>
    · rw [owned] at done
      cases done
      simp only [Client.serve, owned, changed]
      rfl
  | pageFlip id =>
    simp only [produce, Option.some.injEq, Prod.mk.injEq] at done
    obtain ⟨rfl, rfl⟩ := done
    have clients : (relay.pageFlip client id).1.clients = relay.clients :=
      congrArg Prod.fst (relay.producers_pageFlip client id)
    rw [client_congr clients]
    cases owned : (relay.client client).framebuffer id <;>
    · simp only [Client.serve, pageFlip, owned]
      rfl
  | setCrtc id =>
    simp only [produce, Option.some.injEq, Prod.mk.injEq] at done
    obtain ⟨rfl, rfl⟩ := done
    have clients : (relay.setCrtcById client id).1.clients = relay.clients :=
      congrArg Prod.fst (relay.producers_setCrtcById client id)
    rw [client_congr clients]
    cases id with
    | none => rfl
    | some id =>
      cases owned : (relay.client client).framebuffer id <;>
      · simp only [Client.serve, setCrtcById, owned]
        rfl
  | configure | wait | exportFrame | waitVblank => cases done

end Relay

namespace Session

variable {session opened last : Session} {relay middle after : Relay} {request : Request}
  {files : List File} {handled : Handled}

/-! ## The client of a session -/

/-- What the client of a session has; before it is opened, as much as a new one. -/
def own (session : Session) (relay : Relay) : Client := session.client.elim .new relay.client

theorem own_of_some {client : Nat} (held : session.client = some client) :
    session.own relay = relay.client client := by rw [own, held, Option.elim_some]

theorem own_congr (client : last.client = session.client)
    (same : ∀ asked, session.client = some asked → after.client asked = relay.client asked) :
    last.own after = session.own relay := by
  rw [own, own, client]
  cases held : session.client with
  | none => rfl
  | some asked => exact same asked held

theorem own_of_withLink {answer : Except RelayError Nat}
    (given : session.withLink relay = (opened, middle, answer)) :
    opened.own middle = session.own relay := by
  have attached : relay.attach.1.clients = relay.clients :=
    congrArg Prod.fst relay.producers_attach
  unfold withLink at given
  split at given
  · cases given
    rfl
  · split at given
    · next attaches =>
      cases given
      rw [attaches] at attached
      exact own_congr rfl fun asked _ => Relay.client_congr attached asked
    · next refused =>
      cases given
      rw [refused] at attached
      exact own_congr rfl fun asked _ => Relay.client_congr attached asked

theorem own_await {awaited : Awaited}
    (awaits : session.await relay awaited = (last, after, handled)) :
    last.own after = session.own relay := by
  have keeps := session.keepsRoles_answerAwaited none relay awaited
  have client : last.client = session.client := by
    obtain ⟨rfl, -⟩ | ⟨rfl, -⟩ := await_cases awaits <;> rfl
  refine own_congr client fun asked _ => ?_
  obtain ⟨-, answered⟩ | ⟨-, -, answered⟩ := await_cases awaits <;>
  · rw [answered] at keeps
    exact keeps.others asked nofun

theorem await_ne_framebuffer {awaited : Awaited}
    (awaits : session.await relay awaited = (last, after, handled)) (id : UInt32)
    (given : List File) : handled ≠ .reply (.framebuffer id) given := by
  rintro rfl
  obtain ⟨-, answered⟩ | ⟨-, none, -⟩ := await_cases awaits
  · obtain ⟨_, -, none⟩ | ⟨_, -, none⟩ | ⟨_, -, -, none⟩ := answerAwaited_cases answered <;>
      cases none
  · cases none

theorem opened_of_withClient (backed : session.Backed relay) {client : Nat}
    (given : session.withClient relay = (opened, middle, client)) :
    opened.client = some client ∧ middle.isOpen client = true ∧
      middle.client client = session.own relay ∧
      middle.nextFramebuffer = relay.nextFramebuffer := by
  obtain ⟨held, rfl, rfl⟩ | ⟨without, rfl, rfl, rfl⟩ := withClient_cases given
  · exact ⟨held, backed.opened client held, (own_of_some held).symm, rfl⟩
  · have fresh : relay.openClient.1.client relay.clients.length = .new := by
      rw [relay.client_openClient, if_pos rfl]
    refine ⟨rfl, ?_, ?_, rfl⟩
    · rw [Relay.isOpen, fresh]
      rfl
    · rw [fresh, own, without, Option.elim_none]

/-- Of what a session has for handles and framebuffers, a request does to the session's client what
it would do to the client by itself. -/
theorem Handles.own (handles : session.Handles relay files request last after handled)
    (backed : session.Backed relay) :
    (session.own relay).serve relay.nextFramebuffer files request =
        (last.own after, some handled) ∨
      (session.own relay).serve relay.nextFramebuffer files request = (last.own after, none) ∧
        ∀ id given, handled ≠ .reply (.framebuffer id) given := by
  cases handles with
  | misfit => exact .inr ⟨rfl, nofun⟩
  | miscounted count => exact .inl (Client.serve_miscounted count _ _)
  | denied needs => exact .inr ⟨Client.serve_of_needsLink needs _ _ _, nofun⟩
  | produces given done =>
    obtain ⟨held, isOpen, own, number⟩ := opened_of_withClient backed given
    rw [own_of_some held, ← own, ← number]
    exact .inl (Relay.client_produce isOpen done)
  | @configures width height refresh mode _ middle _ _ given =>
    have clients : (middle.configure mode).1.clients = middle.clients :=
      congrArg Prod.fst (middle.producers_configure mode)
    refine .inr ⟨?_, nofun⟩
    rw [own_congr rfl fun asked _ => Relay.client_congr clients asked, own_of_withLink given]
    rfl
  | @exports _ middle _ given =>
    have clients : middle.exportActive.1.clients = middle.clients := rfl
    refine .inr ⟨?_, nofun⟩
    rw [own_congr rfl fun asked _ => Relay.client_congr clients asked, own_of_withLink given]
    rfl
  | listens given awaits =>
    refine .inr ⟨?_, await_ne_framebuffer awaits⟩
    rw [own_await awaits, own_of_withLink given]
    rfl
  | watches awaits =>
    refine .inr ⟨?_, await_ne_framebuffer awaits⟩
    rw [own_await awaits]
    rfl

def IsProducers : Request → Prop
  | .configure .. | .wait | .exportFrame | .waitVblank _ => False
  | _ => True

theorem producers_of_named {id : UInt32} (names : Client.named? request = some id) :
    IsProducers request := by
  cases request with
  | configure | wait | exportFrame | waitVblank => cases names
  | _ => trivial

theorem Handles.own_of_producers (handles : session.Handles relay files request last after handled)
    (backed : session.Backed relay) (producers : IsProducers request) :
    (session.own relay).serve relay.nextFramebuffer files request =
      (last.own after, some handled) := by
  obtain serves | ⟨serves, -⟩ := handles.own backed
  · exact serves
  -- the client has an answer to each of its requests
  have none := congrArg Prod.snd serves
  cases request with
  | registerBuffer | releaseHandle | addFramebuffer | removeFramebuffer =>
    simp only [Client.serve] at none
    split at none <;> cases none
  | pageFlip => cases none
  | setCrtc id => cases id <;> cases none
  | configure | wait | exportFrame | waitVblank => cases producers

/-! ## A relay to itself -/

/-- A session and its relay after a request whose answer is there before the next request. -/
def serveNext (state : Session × Relay) (asked : Request × List File) : Session × Relay :=
  let (session, relay, _) := state.1.handle state.2 asked.1 asked.2
  ({ session with awaited := none }, relay)

/-- A session that nobody else shares the relay with, after it handled some requests. -/
def alone (mode : Mode) (past : List (Request × List File)) : Session × Relay :=
  past.foldl serveNext (.new, .new mode)

def answerAlone (mode : Mode) (past : List (Request × List File)) (request : Request)
    (files : List File) : Handled :=
  ((alone mode past).1.handle (alone mode past).2 request files).2.2

def ownAlone (mode : Mode) (past : List (Request × List File)) : Client :=
  (alone mode past).1.own (alone mode past).2

theorem alone_concat (mode : Mode) (past : List (Request × List File))
    (asked : Request × List File) :
    alone mode (past ++ [asked]) = serveNext (alone mode past) asked := List.foldl_concat ..

theorem backed_alone (mode : Mode) (past : List (Request × List File)) :
    (alone mode past).1.Backed (alone mode past).2 := by
  induction past using List.reverseRecOn with
  | nil => exact ⟨nofun, nofun⟩
  | append_singleton past asked ih =>
    have becomes := (alone mode past).1.becomes_handle (alone mode past).2 asked.1 asked.2
    obtain ⟨opened, registered⟩ := (ih.swaps_becomes becomes).backed
    rw [alone_concat]
    exact ⟨opened, registered⟩

theorem serve_ownAlone (mode : Mode) (past : List (Request × List File)) (request : Request)
    (files : List File) :
    let served := (ownAlone mode past).serve (alone mode past).2.nextFramebuffer files request
    served.1 = ownAlone mode (past ++ [(request, files)]) ∧
      ∀ answer, served.2 = some answer → answerAlone mode past request files = answer := by
  intro served
  have own : ownAlone mode (past ++ [(request, files)]) =
      ((alone mode past).1.handle (alone mode past).2 request files).1.own
        ((alone mode past).1.handle (alone mode past).2 request files).2.1 := by
    rw [ownAlone, alone_concat]
    rfl
  have handles : (alone mode past).1.Handles (alone mode past).2 files request _ _ _ :=
    Session.handles rfl
  rw [own]
  obtain decided | ⟨open_, -⟩ := handles.own (backed_alone mode past)
  · exact ⟨congrArg Prod.fst decided, fun answer same =>
      Option.some.inj ((congrArg Prod.snd decided).symm.trans same)⟩
  · refine ⟨congrArg Prod.fst open_, fun answer same => ?_⟩
    cases (congrArg Prod.snd open_).symm.trans same

end Session

end PresentRelay
