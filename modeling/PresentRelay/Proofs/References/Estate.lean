import Mathlib.Data.List.Induction
import Mathlib.Logic.Function.Basic
import PresentRelay.Proofs.Framebuffer.Creation
import PresentRelay.Proofs.References.Holdings
import PresentRelay.Proofs.Registry.Handles
import PresentRelay.Proofs.Relay.Effects
import PresentRelay.Proofs.Scene.Steps

/-!
# What users put into a scene

Buffers, clients and framebuffers are the estate of a scene.  `Estate.Becomes` says, step
by step and answer by answer, all that can become of it, and `becomes_step` that steps do
nothing else.  `Estate.Sound` is what every estate satisfies: objects have numbers of
their own, closed clients have nothing, and framebuffers have at most four planes.
-/

set_option autoImplicit false

namespace PresentRelay

open Scene (Step Answer)

structure Estate where
  client : Nat → Client
  next : UInt32
  made : List Buffer
  objects : Nat
  framebuffers : List (Option Framebuffer)

def Scene.estate (scene : Scene) : Estate where
  client := scene.relay.client
  next := scene.relay.nextFramebuffer
  made := scene.made
  objects := scene.objects
  framebuffers := scene.framebuffers

/-! ## Framebuffers and clients that fit -/

/-- At most four planes, each with a buffer among the objects that exist. -/
structure Framebuffer.Fits (objects : Nat) (framebuffer : Framebuffer) : Prop where
  few : framebuffer.buffers.length ≤ maxPlanes
  known : ∀ buffer ∈ framebuffer.buffers, buffer.object < objects

structure Client.Fits (objects : Nat) (client : Client) : Prop where
  registered : ∀ entry ∈ client.registry.table.entries, entry.2.object < objects
  framebuffers : ∀ entry ∈ client.framebuffers.entries, entry.2.Fits objects
  closed : client.isOpen = false → client = .closed

theorem Framebuffer.Fits.mono {objects more : Nat} {framebuffer : Framebuffer}
    (fits : framebuffer.Fits objects) (grown : objects ≤ more) : framebuffer.Fits more :=
  ⟨fits.few, fun buffer member => Nat.lt_of_lt_of_le (fits.known buffer member) grown⟩

namespace Client

theorem Fits.mono {objects more : Nat} {client : Client} (fits : client.Fits objects)
    (grown : objects ≤ more) : client.Fits more where
  registered entry member := Nat.lt_of_lt_of_le (fits.registered entry member) grown
  framebuffers entry member := (fits.framebuffers entry member).mono grown
  closed := fits.closed

theorem fits_closed (objects : Nat) : Client.closed.Fits objects := ⟨nofun, nofun, fun _ => rfl⟩

theorem fits_new (objects : Nat) : Client.new.Fits objects := ⟨nofun, nofun, nofun⟩

variable {objects : Nat} {client : Client}

theorem Fits.isOpen (fits : client.Fits objects)
    (something : client.registry.table.entries ≠ [] ∨ client.framebuffers.entries ≠ []) :
    client.isOpen = true := by
  apply Classical.byContradiction
  intro shut
  rw [fits.closed (Bool.eq_false_iff.mpr shut)] at something
  rcases something with handle | framebuffer
  · exact handle rfl
  · exact framebuffer rfl

theorem Fits.register (fits : client.Fits objects) {buffer : Buffer}
    (known : buffer.object < objects) (isOpen : client.isOpen = true)
    (room : client.registry.isFull = false) :
    { client with registry := (client.registry.register buffer).1 }.Fits objects where
  registered := by
    intro entry member
    simp only [Registry.entries_register _ _ room] at member
    rcases List.mem_cons.mp member with rfl | old
    · exact known
    · exact fits.registered entry old
  framebuffers := fits.framebuffers
  closed := by simp [isOpen]

theorem Fits.release (fits : client.Fits objects) (isOpen : client.isOpen = true)
    (handle : UInt32) :
    { client with registry.table := client.registry.table.erase handle }.Fits objects where
  registered entry member := fits.registered entry (Table.mem_of_mem_erase member)
  framebuffers := fits.framebuffers
  closed := by simp [isOpen]

theorem Fits.addFramebuffer (fits : client.Fits objects) (isOpen : client.isOpen = true)
    {framebuffer : Framebuffer} (fitting : framebuffer.Fits objects) (id : UInt32) :
    { client with framebuffers := client.framebuffers.insert id framebuffer }.Fits objects where
  registered := fits.registered
  framebuffers := by
    intro entry member
    rcases List.mem_cons.mp member with rfl | old
    · exact fitting
    · exact fits.framebuffers entry (Table.mem_of_mem_erase old)
  closed := by simp [isOpen]

theorem Fits.removeFramebuffer (fits : client.Fits objects) (isOpen : client.isOpen = true)
    (id : UInt32) :
    { client with framebuffers := client.framebuffers.erase id }.Fits objects where
  registered := fits.registered
  framebuffers entry member := fits.framebuffers entry (Table.mem_of_mem_erase member)
  closed := by simp [isOpen]

theorem Fits.create (fits : client.Fits objects) {id : UInt32} {handles : List UInt32}
    {framebuffer : Framebuffer}
    (created : Framebuffer.create id client.registry handles = .ok framebuffer) :
    framebuffer.Fits objects ∧ client.isOpen = true := by
  obtain ⟨-, some, few, resolves⟩ := Framebuffer.resolves_of_create created
  have length := resolves.length_buffers
  have known : ∀ buffer ∈ framebuffer.buffers, ∃ handle, (handle, buffer) ∈
      client.registry.table.entries := by
    intro buffer member
    obtain ⟨handle, held⟩ := resolves.mem_entries member
    exact ⟨handle, Table.mem_of_get? held⟩
  refine ⟨⟨by omega, ?_⟩, fits.isOpen (.inl ?_)⟩
  · intro buffer member
    obtain ⟨handle, entry⟩ := known buffer member
    exact fits.registered _ entry
  · intro empty
    have planes : framebuffer.buffers ≠ [] := by
      rw [← List.length_pos_iff, length]
      exact List.length_pos_iff.mpr some
    obtain ⟨buffer, member⟩ := List.exists_mem_of_ne_nil _ planes
    obtain ⟨handle, entry⟩ := known buffer member
    simp [empty] at entry

end Client

/-! ## What can become of an estate -/

namespace Estate

def new : Estate := ⟨fun _ => .closed, 1, [], 0, []⟩

def change (estate : Estate) (client : Nat) (held : Client) : Estate :=
  { estate with client := Function.update estate.client client held }

theorem client_change (estate : Estate) (client : Nat) (held : Client) (asked : Nat) :
    (estate.change client held).client asked =
      if asked = client then held else estate.client asked :=
  Function.update_apply _ _ _ _

def register (estate : Estate) (client : Nat) (buffer : Buffer) : Estate :=
  estate.change client
    { estate.client client with
      registry := ((estate.client client).registry.register buffer).1 }

/-- An estate, a step with its answer, and the estate after it. -/
inductive Becomes (estate : Estate) : Step → Answer → Estate → Prop where
  /-- Nobody has more or less; a copy that is not registered may use up an object. -/
  | same {step : Step} {answer : Answer} {objects : Nat}
      (unnoted : ∀ holdings : Holdings, holdings.note step answer = holdings)
      (grown : estate.objects ≤ objects) :
      Becomes estate step answer { estate with objects }
  | made (contents : Bytes) (mintable : Bool) (answer : Answer) :
      Becomes estate (.makeBuffer contents mintable) answer
        { estate with
          made := estate.made ++ [⟨estate.objects, ⟨estate.objects, contents⟩, mintable⟩]
          objects := estate.objects + 1 }
  | opened {client : Nat} (answer : Answer) (fresh : estate.client client = .closed) :
      Becomes estate .openClient answer (estate.change client .new)
  | closed (client : Nat) (answer : Answer) :
      Becomes estate (.closeClient client) answer (estate.change client .closed)
  | registered {client number : Nat} {buffer : Buffer}
      (found : estate.made[number]? = some buffer)
      (isOpen : (estate.client client).isOpen = true)
      (room : (estate.client client).registry.isFull = false) :
      Becomes estate (.register client number)
        (.handle (estate.client client).registry.nextHandle) (estate.register client buffer)
  | copied {client number : Nat} (file : File)
      (isOpen : (estate.client client).isOpen = true)
      (room : (estate.client client).registry.isFull = false) :
      Becomes estate (.registerCopy client number)
        (.handle (estate.client client).registry.nextHandle)
        ({ estate with objects := estate.objects + 1 }.register client
          (.ofDescriptor estate.objects file))
  | released {client : Nat} {handle : UInt32}
      (isOpen : (estate.client client).isOpen = true) :
      Becomes estate (.release client handle) .done
        (estate.change client
          { estate.client client with
            registry.table := (estate.client client).registry.table.erase handle })
  /-- The creation of a framebuffer failed, which uses up a number. -/
  | refused {step : Step} {answer : Answer}
      (noted : ∀ holdings : Holdings,
        holdings.note step answer = { holdings with numbered := holdings.numbered + 1 }) :
      Becomes estate step answer { estate with next := estate.next + 1 }
  | created {client number : Nat} {handles : List UInt32} {framebuffer : Framebuffer}
      (success : Framebuffer.create estate.next (estate.client client).registry handles =
        .ok framebuffer) :
      Becomes estate (.createFramebuffer client handles) (.framebuffer number framebuffer)
        { estate with
          next := estate.next + 1
          framebuffers := estate.framebuffers ++ [some framebuffer] }
  | dropped (number : Nat) (answer : Answer) :
      Becomes estate (.dropFramebuffer number) answer
        { estate with framebuffers := estate.framebuffers.set number none }
  | added {client : Nat} {handles : List UInt32} {framebuffer : Framebuffer}
      (success : Framebuffer.create estate.next (estate.client client).registry handles =
        .ok framebuffer)
      (isOpen : (estate.client client).isOpen = true) :
      Becomes estate (.addFramebuffer client handles) (.handle estate.next)
        ({ estate with next := estate.next + 1 }.change client
          { estate.client client with
            framebuffers := (estate.client client).framebuffers.insert estate.next framebuffer })
  | removed {client : Nat} {id : UInt32} (isOpen : (estate.client client).isOpen = true) :
      Becomes estate (.removeFramebuffer client id) .done
        (estate.change client
          { estate.client client with
            framebuffers := (estate.client client).framebuffers.erase id })

structure Sound (estate : Estate) : Prop where
  made_lt : ∀ buffer ∈ estate.made, buffer.object < estate.objects
  made_nodup : (estate.made.map Buffer.object).Nodup
  clients : ∀ client, (estate.client client).Fits estate.objects
  kept : ∀ framebuffer, some framebuffer ∈ estate.framebuffers →
    framebuffer.Fits estate.objects

theorem sound_new : new.Sound := ⟨nofun, .nil, fun _ => Client.fits_closed 0, nofun⟩

theorem Sound.grow {estate : Estate} (sound : estate.Sound) {objects : Nat}
    (grown : estate.objects ≤ objects) : { estate with objects }.Sound where
  made_lt buffer member := Nat.lt_of_lt_of_le (sound.made_lt buffer member) grown
  made_nodup := sound.made_nodup
  clients client := (sound.clients client).mono grown
  kept framebuffer member := (sound.kept framebuffer member).mono grown

theorem Sound.change {estate : Estate} (sound : estate.Sound) (client : Nat) {held : Client}
    (fits : held.Fits estate.objects) : (estate.change client held).Sound where
  made_lt := sound.made_lt
  made_nodup := sound.made_nodup
  clients asked := by
    rw [client_change]
    split
    · exact fits
    · exact sound.clients asked
  kept := sound.kept

theorem Sound.becomes {before after : Estate} {step : Step} {answer : Answer}
    (sound : before.Sound) (becomes : before.Becomes step answer after) : after.Sound := by
  cases becomes with
  | same unnoted grown => exact sound.grow grown
  | made contents mintable =>
    have grown := sound.grow (Nat.le_succ before.objects)
    refine ⟨?_, ?_, grown.clients, grown.kept⟩
    · intro buffer member
      rcases List.mem_append.mp member with old | fresh
      · exact grown.made_lt buffer old
      · obtain rfl := List.mem_singleton.mp fresh
        exact Nat.lt_succ_self _
    · rw [List.map_append, List.map_singleton, ← List.concat_eq_append, List.nodup_concat]
      refine ⟨?_, sound.made_nodup⟩
      intro member
      obtain ⟨buffer, old, same⟩ := List.mem_map.mp member
      exact absurd same (Nat.ne_of_lt (sound.made_lt buffer old))
  | opened => exact sound.change _ (Client.fits_new _)
  | closed => exact sound.change _ (Client.fits_closed _)
  | @registered client number buffer found isOpen room =>
    have known := sound.made_lt buffer (List.mem_of_getElem? found)
    exact sound.change client ((sound.clients client).register known isOpen room)
  | @copied client number file isOpen room =>
    have grown := sound.grow (Nat.le_succ before.objects)
    exact grown.change client
      ((grown.clients client).register (Nat.lt_succ_self _) isOpen room)
  | @released client handle isOpen =>
    exact sound.change client ((sound.clients client).release isOpen handle)
  | refused => exact ⟨sound.made_lt, sound.made_nodup, sound.clients, sound.kept⟩
  | @created client number handles framebuffer success =>
    have fits := ((sound.clients client).create success).1
    refine ⟨sound.made_lt, sound.made_nodup, sound.clients, ?_⟩
    intro other member
    rcases List.mem_append.mp member with old | fresh
    · exact sound.kept other old
    · obtain rfl := Option.some.inj (List.mem_singleton.mp fresh)
      exact fits
  | dropped number =>
    refine ⟨sound.made_lt, sound.made_nodup, sound.clients, ?_⟩
    intro other member
    rcases List.mem_or_eq_of_mem_set member with old | gone
    · exact sound.kept other old
    · cases gone
  | @added client handles framebuffer success isOpen =>
    have fits := ((sound.clients client).create success).1
    have numbered : { before with next := before.next + 1 }.Sound :=
      ⟨sound.made_lt, sound.made_nodup, sound.clients, sound.kept⟩
    exact numbered.change client ((sound.clients client).addFramebuffer isOpen fits _)
  | @removed client id isOpen =>
    exact sound.change client ((sound.clients client).removeFramebuffer isOpen id)

end Estate

/-! ## Steps and estates -/

namespace Scene

theorem estate_of_producers {scene : Scene} {relay : Relay}
    (same : relay.producers = scene.relay.producers) :
    { scene with relay }.estate = scene.estate := by
  have clients : relay.clients = scene.relay.clients := congrArg Prod.fst same
  have next : relay.nextFramebuffer = scene.relay.nextFramebuffer := congrArg Prod.snd same
  have client : relay.client = scene.relay.client := funext (Relay.client_congr clients)
  simp only [estate, client, next]

theorem estate_onClient (scene : Scene) {client : Nat}
    (isOpen : (scene.relay.client client).isOpen = true) (change : Client → Client) :
    { scene with relay := scene.relay.onClient client change }.estate =
      scene.estate.change client (change (scene.relay.client client)) := by
  have held : (scene.relay.onClient client change).client =
      Function.update scene.relay.client client (change (scene.relay.client client)) := by
    funext asked
    rw [Relay.client_onClient _ isOpen, Function.update_apply]
  simp only [estate, Estate.change, held]
  rfl

theorem estate_openClient (scene : Scene) :
    (scene.step .openClient).1.estate =
      scene.estate.change scene.relay.clients.length .new := by
  have held : scene.relay.openClient.1.client =
      Function.update scene.relay.client scene.relay.clients.length .new := by
    funext asked
    rw [Relay.client_openClient, Function.update_apply]
  simp only [step, estate, Estate.change, held]
  rfl

theorem estate_closeClient (scene : Scene) (sound : scene.estate.Sound) (client : Nat) :
    (scene.step (.closeClient client)).1.estate = scene.estate.change client .closed := by
  have held : (scene.relay.closeClient client).client =
      Function.update scene.relay.client client .closed := by
    by_cases isOpen : scene.relay.isOpen client = true
    · funext asked
      rw [Relay.client_closeClient _ isOpen, Function.update_apply]
    · have closed : scene.relay.client client = .closed :=
        (sound.clients client).closed (Bool.eq_false_iff.mpr isOpen)
      rw [Relay.closeClient, if_neg isOpen, ← closed, Function.update_eq_self]
  have next : (scene.relay.closeClient client).nextFramebuffer = scene.relay.nextFramebuffer :=
    congrArg Prod.snd (scene.relay.producers_closeClient client)
  simp only [step, estate, Estate.change, held, next]

theorem becomes_relay {scene : Scene} {step : Step} {answer : Answer} {relay : Relay}
    (unnoted : ∀ holdings : Holdings, holdings.note step answer = holdings)
    (same : relay.producers = scene.relay.producers) :
    scene.estate.Becomes step answer { scene with relay }.estate := by
  rw [estate_of_producers same]
  exact .same unnoted (Nat.le_refl _)

theorem becomes_unchanged {scene : Scene} {step : Step} {answer : Answer}
    (unnoted : ∀ holdings : Holdings, holdings.note step answer = holdings) :
    scene.estate.Becomes step answer scene.estate := .same unnoted (Nat.le_refl _)

/-- A step that registers a buffer, perhaps after making an object for it, changes the estate as
`taken` says, or is refused and not noted. -/
theorem becomes_registerWith {scene : Scene} {step : Step} {objects : Nat}
    (grown : scene.objects ≤ objects) (client : Nat) (buffer : Buffer)
    (unnoted : ∀ answer ∈ [Answer.absent, .blocked], ∀ holdings : Holdings,
      holdings.note step answer = holdings)
    (taken : (scene.relay.client client).isOpen = true →
      (scene.relay.client client).registry.isFull = false →
      scene.estate.Becomes step (.handle (scene.relay.client client).registry.nextHandle)
        ({ scene.estate with objects }.register client buffer)) :
    scene.estate.Becomes step ({ scene with objects }.registerWith client buffer).2
      ({ scene with objects }.registerWith client buffer).1.estate := by
  unfold registerWith
  by_cases isOpen : scene.relay.isOpen client = true
  · cases room : (scene.relay.client client).registry.isFull with
    | true =>
      simp only [isOpen, Bool.not_true, Bool.false_eq_true, if_false, if_true]
      exact .same (unnoted .blocked (by simp)) grown
    | false =>
      have after : { scene with objects, relay := (scene.relay.register client buffer).1 }.estate =
          { scene.estate with objects }.register client buffer :=
        estate_onClient { scene with objects } isOpen _
      simp only [isOpen, Bool.not_true, Bool.false_eq_true, if_false]
      rw [after]
      exact taken isOpen room
  · simp only [isOpen, Bool.not_false, if_true]
    exact .same (unnoted .absent (by simp)) grown

theorem becomes_register (scene : Scene) (client number : Nat) :
    scene.estate.Becomes (.register client number) (scene.step (.register client number)).2
      (scene.step (.register client number)).1.estate := by
  simp only [Scene.step]
  cases found : scene.made[number]? with
  | none => exact becomes_unchanged fun _ => rfl
  | some buffer =>
    refine becomes_registerWith (Nat.le_refl _) client buffer ?_
      fun isOpen room => .registered found isOpen room
    simp [Holdings.note]

theorem becomes_registerCopy (scene : Scene) (client number : Nat) :
    scene.estate.Becomes (.registerCopy client number)
      (scene.step (.registerCopy client number)).2
      (scene.step (.registerCopy client number)).1.estate := by
  simp only [Scene.step]
  cases scene.made[number]? with
  | none => exact becomes_unchanged fun _ => rfl
  | some buffer =>
    refine becomes_registerWith (Nat.le_succ _) client
      (.ofDescriptor scene.objects buffer.file) ?_
      fun isOpen room => .copied buffer.file isOpen room
    simp [Holdings.note]

theorem becomes_release {scene : Scene} (sound : scene.estate.Sound) (client : Nat)
    (handle : UInt32) :
    scene.estate.Becomes (.release client handle) (scene.step (.release client handle)).2
      (scene.step (.release client handle)).1.estate := by
  simp only [Scene.step, Relay.release]
  split
  · next registry success =>
    obtain ⟨held, rfl⟩ := Registry.release_eq_ok.mp success
    have isOpen : (scene.relay.client client).isOpen = true := by
      refine (sound.clients client).isOpen (.inl ?_)
      intro empty
      simp [Table.contains, show (scene.relay.client client).registry.table.entries = [] from
        empty] at held
    rw [outcome, estate_onClient _ isOpen]
    exact .released isOpen
  · exact becomes_unchanged fun _ => rfl

theorem becomes_addFramebuffer {scene : Scene} (sound : scene.estate.Sound) (client : Nat)
    (handles : List UInt32) :
    scene.estate.Becomes (.addFramebuffer client handles)
      (scene.step (.addFramebuffer client handles)).2
      (scene.step (.addFramebuffer client handles)).1.estate := by
  simp only [Scene.step, Relay.addFramebuffer, Relay.createFramebuffer]
  cases success : Framebuffer.create scene.relay.nextFramebuffer
      (scene.relay.client client).registry handles with
  | error error => exact .refused fun _ => rfl
  | ok framebuffer =>
    have isOpen := ((sound.clients client).create success).2
    have number := (Framebuffer.resolves_of_create success).1
    have after := estate_onClient { scene with
        relay.nextFramebuffer := scene.relay.nextFramebuffer + 1 } isOpen
      fun held =>
        { held with framebuffers := held.framebuffers.insert framebuffer.id framebuffer }
    dsimp only
    rw [after, number]
    exact .added success isOpen

theorem becomes_removeFramebuffer {scene : Scene} (sound : scene.estate.Sound) (client : Nat)
    (id : UInt32) :
    scene.estate.Becomes (.removeFramebuffer client id)
      (scene.step (.removeFramebuffer client id)).2
      (scene.step (.removeFramebuffer client id)).1.estate := by
  simp only [Scene.step, Relay.removeFramebuffer, Client.framebuffer]
  cases held : (scene.relay.client client).framebuffers.get? id with
  | none => exact becomes_unchanged fun _ => rfl
  | some framebuffer =>
    have isOpen : (scene.relay.client client).isOpen = true := by
      refine (sound.clients client).isOpen (.inr ?_)
      intro empty
      have entry := Table.mem_of_get? held
      rw [show (scene.relay.client client).framebuffers.entries = [] from empty] at entry
      cases entry
    have after := scene.estate_onClient isOpen
      fun held => { held with framebuffers := held.framebuffers.erase id }
    rw [outcome, after]
    exact .removed isOpen

/-- Steps do to an estate what `Estate.Becomes` says, and nothing else. -/
theorem becomes_step (scene : Scene) (sound : scene.estate.Sound) (step : Step) :
    scene.estate.Becomes step (scene.step step).2 (scene.step step).1.estate := by
  cases step with
  | makeBuffer contents mintable => exact .made contents mintable _
  | openClient =>
    rw [estate_openClient]
    refine .opened _ ?_
    simp [estate, Relay.client]
  | closeClient client =>
    rw [scene.estate_closeClient sound]
    exact .closed client _
  | register client number => exact becomes_register scene client number
  | registerCopy client number => exact becomes_registerCopy scene client number
  | release client handle => exact becomes_release sound client handle
  | createFramebuffer client handles =>
    simp only [Scene.step, createFramebuffer, Relay.createFramebuffer]
    cases success : Framebuffer.create scene.relay.nextFramebuffer
        (scene.relay.client client).registry handles with
    | error error => exact .refused fun _ => rfl
    | ok framebuffer => exact .created success
  | dropFramebuffer number => exact .dropped number _
  | addFramebuffer client handles => exact becomes_addFramebuffer sound client handles
  | removeFramebuffer client id => exact becomes_removeFramebuffer sound client id
  | commit number =>
    simp only [Scene.step]
    split
    · exact becomes_relay (fun _ => rfl) rfl
    · exact becomes_unchanged fun _ => rfl
  | pageFlip client id =>
    rw [step_pageFlip]
    exact becomes_relay (fun _ => rfl) (Relay.producers_pageFlip _ _ _)
  | setCrtc number =>
    cases number with
    | none => exact becomes_relay (fun _ => rfl) (Relay.producers_setCrtc _ none)
    | some number =>
      simp only [Scene.step]
      split
      · exact becomes_relay (fun _ => rfl) (Relay.producers_setCrtc _ _)
      · exact becomes_unchanged fun _ => rfl
  | setCrtcById client id =>
    rw [step_setCrtcById]
    exact becomes_relay (fun _ => rfl) (Relay.producers_setCrtcById _ _ _)
  | power target => exact becomes_relay (fun _ => rfl) (Relay.producers_setPower _ _)
  | tick => exact becomes_relay (fun _ => rfl) (Relay.producers_tick _)
  | attach =>
    rw [step_attach]
    exact becomes_relay (fun _ => rfl) (Relay.producers_attach _)
  | teardown link => exact becomes_relay (fun _ => rfl) (Relay.producers_teardown _ _)
  | poll link =>
    rw [step_poll]
    exact becomes_relay (fun _ => rfl) rfl
  | wait link =>
    rw [step_wait]
    exact becomes_relay (fun _ => rfl) rfl
  | configure mode => exact becomes_relay (fun _ => rfl) (Relay.producers_configure _ _)
  | resolve client handle =>
    rw [step_resolve]
    exact becomes_unchanged fun _ => rfl
  | exportActive link | subscribe | unsubscribe observer | changes observer =>
    exact becomes_relay (fun _ => rfl) rfl
  | handleCount client | tellPower | vblanks => exact becomes_unchanged fun _ => rfl

theorem sound_run (mode : Mode) (steps : List Step) : ((new mode).run steps).estate.Sound := by
  induction steps using List.reverseRecOn with
  | nil => exact Estate.sound_new
  | append_singleton steps step ih =>
    rw [run_concat]
    exact ih.becomes (becomes_step _ ih step)

end Scene

end PresentRelay
