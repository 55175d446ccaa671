import Mathlib.Data.List.Induction
import PresentRelay.Proofs.Framebuffer.Creation
import PresentRelay.Proofs.Site.Runs

/-!
# What holds at a site at every moment

Sessions have what they say they have, whatever the users do beside them: `possessed_run`.  And
every framebuffer and every record, of users and of sessions, has at most four planes:
`slight_run`.
-/

set_option autoImplicit false

namespace PresentRelay

/-! ## What sessions have -/

namespace Scene

theorem isOpen_registerWith (scene : Scene) (client : Nat) (buffer : Buffer) (asked : Nat) :
    (scene.registerWith client buffer).1.relay.isOpen asked = scene.relay.isOpen asked := by
  unfold registerWith
  split
  · rfl
  · split
    · rfl
    · exact (scene.relay.keepsRoles_register client buffer).isOpen asked

theorem isOpen_step (scene : Scene) {step : Step} {client : Nat}
    (stays : step ≠ .closeClient client) (isOpen : scene.relay.isOpen client = true) :
    (scene.step step).1.relay.isOpen client = true := by
  have same {own : Option Nat} {after : Relay} (keeps : Relay.KeepsRoles own scene.relay after) :
      after.isOpen client = true := (keeps.isOpen client).trans isOpen
  cases step with
  | openClient =>
    have opened := scene.relay.client_openClient client
    have old : client ≠ scene.relay.clients.length :=
      Nat.ne_of_lt (scene.relay.lt_of_isOpen isOpen)
    rw [if_neg old] at opened
    exact (congrArg Client.isOpen opened).trans isOpen
  | closeClient closed =>
    have other : client ≠ closed := fun own => stays (congrArg Step.closeClient own.symm)
    by_cases shut : scene.relay.isOpen closed = true
    · have left := scene.relay.client_closeClient shut client
      rw [if_neg other] at left
      exact (congrArg Client.isOpen left).trans isOpen
    · simpa only [step, Relay.closeClient, if_neg shut] using isOpen
  | register client number | registerCopy client number =>
    simp only [step]
    cases scene.made[number]? with
    | none => exact isOpen
    | some buffer => exact (isOpen_registerWith _ _ _ _).trans isOpen
  | release client handle =>
    rw [step_release]
    exact same (scene.relay.keepsRoles_release client handle)
  | createFramebuffer client handles =>
    rw [relay_createFramebuffer]
    exact isOpen
  | addFramebuffer client handles =>
    rw [step_addFramebuffer]
    exact same (scene.relay.keepsRoles_addFramebuffer client handles)
  | removeFramebuffer client id =>
    rw [step_removeFramebuffer]
    exact same (scene.relay.keepsRoles_removeFramebuffer client id)
  | commit number =>
    simp only [step]
    split
    · exact same (scene.relay.keepsRoles_commit none _)
    · exact isOpen
  | pageFlip client id =>
    rw [step_pageFlip]
    exact same (scene.relay.keepsRoles_pageFlip none client id)
  | setCrtc number =>
    cases number with
    | none => exact same (scene.relay.keepsRoles_setPower none .off)
    | some number =>
      simp only [step]
      split
      · exact same ((scene.relay.keepsRoles_setPower none .on).trans
          (Relay.keepsRoles_commit _ none _))
      · exact isOpen
  | setCrtcById client id =>
    rw [step_setCrtcById]
    exact same (scene.relay.keepsRoles_setCrtcById none client id)
  | power target => exact same (scene.relay.keepsRoles_setPower none target)
  | tick => exact same (scene.relay.keepsRoles_tick none)
  | attach =>
    rw [step_attach]
    exact (congrArg Client.isOpen (Relay.client_congr
      (congrArg Prod.fst scene.relay.producers_attach) client)).trans isOpen
  | teardown link =>
    exact (congrArg Client.isOpen (Relay.client_congr
      (congrArg Prod.fst (scene.relay.producers_teardown link)) client)).trans isOpen
  | configure mode => exact same (scene.relay.keepsRoles_configure none mode)
  | poll link =>
    rw [step_poll]
    exact isOpen
  | wait link =>
    rw [step_wait]
    exact isOpen
  | resolve client handle =>
    rw [step_resolve]
    exact isOpen
  | _ => exact isOpen

theorem registered_step (scene : Scene) {step : Step} {link : Nat}
    (stays : step ≠ .teardown link) (registered : scene.relay.registered = some link) :
    (scene.step step).1.relay.registered = some link := by
  have after := congrArg Consumers.registered (scene.consumers_step step)
  cases given : scene.notice? step with
  | none =>
    rw [given] at after
    exact after.trans registered
  | some notice =>
    rw [given, Option.elim_some] at after
    cases notice with
    | attached other =>
      have none := (notice?_attached given).1
      rw [registered] at none
      cases none
    | ended other =>
      have ends : step = .teardown other := notice?_cases given
      have differ : scene.relay.registered ≠ some other := fun own =>
        stays (ends.trans (congrArg Step.teardown (Option.some.inj (own.symm.trans registered))))
      have kept : (scene.relay.consumers.after (.ended other)).registered =
          scene.relay.registered := if_neg differ
      exact after.trans (kept.trans registered)
    -- the other notices only reach the link that is registered
    | retired | entered power | delivered other =>
      refine after.trans (Eq.trans ?_ registered)
      exact scene.relay.consumers.registered_after fun _ => ⟨nofun, nofun⟩

end Scene

theorem Session.owns_eq_false {session : Session} {step : Scene.Step}
    (foreign : session.owns step = false) :
    (∀ client, session.client = some client → step ≠ .closeClient client) ∧
      ∀ link, session.link = some link → step ≠ .teardown link := by
  refine ⟨fun client held own => ?_, fun link held own => ?_⟩ <;>
  · subst own
    simp [owns, held, Scene.Step.client?, Scene.Step.link?] at foreign

/-- A step that leaves alone what sessions have leaves them what they have. -/
theorem Possession.step {scene : Scene} {sessions : Nat → Option Session}
    (possession : Possession scene.relay sessions) {step : Scene.Step}
    (foreign : ∀ number session, sessions number = some session → session.owns step = false) :
    Possession (scene.step step).1.relay sessions where
  clients := by
    refine ⟨fun number client has => ?_, possession.clients.alone⟩
    obtain ⟨session, present, held⟩ := Option.bind_eq_some_iff.mp has
    exact scene.isOpen_step ((Session.owns_eq_false (foreign number session present)).1 client held)
      (possession.clients.used number client has)
  links := by
    refine ⟨fun number link has => ?_, possession.links.alone⟩
    obtain ⟨session, present, held⟩ := Option.bind_eq_some_iff.mp has
    exact scene.registered_step
      ((Session.owns_eq_false (foreign number session present)).2 link held)
      (possession.links.used number link has)
  sound := Scene.consumers_sound_step possession.sound step

namespace Site

theorem owns_of_allows {site : Site} {step : Scene.Step} (allowed : site.allows step = true)
    (number : Nat) (session : Session) (present : site.hub.session? number = some session) :
    session.owns step = false := by
  obtain ⟨connection, found, there⟩ := Option.bind_eq_some_iff.mp present
  have all := List.all_eq_true.mp allowed connection (List.mem_of_getElem? found)
  rw [there] at all
  simpa using all

theorem possessed_act {site : Site} (possessed : site.hub.Possessed) (act : Act) :
    (site.act act).hub.Possessed := by
  cases act with
  | inside step =>
    rw [Site.act]
    split
    · next allowed => exact Possession.step possessed (owns_of_allows allowed)
    · exact possessed
  | outside move => exact Hub.possessed_move possessed move

theorem possessed_run (mode : Mode) (acts : List Act) : ((new mode).run acts).hub.Possessed := by
  induction acts using List.reverseRecOn with
  | nil => exact Hub.possessed_new mode
  | append_singleton acts act ih =>
    rw [run_concat]
    exact possessed_act ih act

end Site

/-! ## How many planes there are -/

/-- Whether a framebuffer was created from handles of some registry. -/
def Framebuffer.Created (framebuffer : Framebuffer) : Prop :=
  ∃ number registry handles, create number registry handles = .ok framebuffer

theorem Framebuffer.Created.few {framebuffer : Framebuffer} (created : framebuffer.Created) :
    framebuffer.buffers.length ≤ maxPlanes := by
  obtain ⟨number, registry, handles, created⟩ := created
  obtain ⟨-, -, few, resolves⟩ := resolves_of_create created
  exact Nat.le_trans (Nat.le_of_eq resolves.length_buffers) few

namespace Relay

variable {kept : Framebuffer → Prop} {before after : Relay} {client : Nat} {id : UInt32}
  {framebuffer : Framebuffer}

theorem framebuffer_onClient (relay : Relay) (changed : Nat) {change : Client → Client}
    (gives : ∀ held : Client, (change held).framebuffers.get? id = some framebuffer →
      held.framebuffers.get? id = some framebuffer ∨ framebuffer.Created)
    (found : ((relay.onClient changed change).client client).framebuffers.get? id =
      some framebuffer) :
    (relay.client client).framebuffers.get? id = some framebuffer ∨ framebuffer.Created := by
  simp only [Relay.client, onClient, List.getElem?_modify] at found ⊢
  cases held : relay.clients[client]? with
  | none =>
    rw [held] at found
    exact .inl found
  | some held' =>
    rw [held] at found
    by_cases own : changed = client
    · exact gives held' (by simpa [own] using found)
    · exact .inl (by simpa [own] using found)

/-- A deed gives a client a framebuffer only by creating it. -/
theorem Deed.gives (deed : Deed kept before after)
    (found : (after.client client).framebuffers.get? id = some framebuffer) :
    (before.client client).framebuffers.get? id = some framebuffer ∨ framebuffer.Created := by
  have same {left : Relay} (clients : left.clients = before.clients)
      (found : (left.client client).framebuffers.get? id = some framebuffer) :
      (before.client client).framebuffers.get? id = some framebuffer ∨ framebuffer.Created := by
    rw [client_congr clients] at found
    exact .inl found
  cases deed with
  | opens =>
    rw [client_openClient] at found
    split at found
    · cases found
    · exact .inl found
  | closes closed =>
    by_cases isOpen : before.isOpen closed = true
    · rw [client_closeClient _ isOpen] at found
      split at found
      · cases found
      · exact .inl found
    · rw [closeClient, if_neg isOpen] at found
      exact .inl found
  | registers other buffer =>
    dsimp only [register] at found
    refine before.framebuffer_onClient other ?_ found
    exact fun _ => .inl
  | releases other handle =>
    unfold release at found
    split at found
    · refine before.framebuffer_onClient other ?_ found
      exact fun _ => .inl
    · exact .inl found
  | removes other gone =>
    unfold removeFramebuffer at found
    split at found
    · refine before.framebuffer_onClient other (fun held left => .inl ?_) found
      rw [Table.get?_erase] at left
      split at left
      · cases left
      · exact left
    · exact .inl found
  | adds other handles =>
    unfold addFramebuffer createFramebuffer at found
    cases created : Framebuffer.create before.nextFramebuffer (before.client other).registry
        handles with
    | error error =>
      rw [created] at found
      exact .inl found
    | ok new =>
      rw [created] at found
      refine framebuffer_onClient { before with nextFramebuffer := before.nextFramebuffer + 1 }
        other (fun held given => ?_) found
      rw [Table.get?_insert] at given
      split at given
      · exact .inr ⟨_, _, _, Option.some.inj given ▸ created⟩
      · exact .inl given
  | powers target => exact same (before.clients_setPower target) found
  | ticks => exact same (congrArg Prod.fst before.producers_tick) found
  | attaches => exact same (congrArg Prod.fst before.producers_attach) found
  | tearsDown link => exact same (congrArg Prod.fst (before.producers_teardown link)) found
  | configures mode => exact same (congrArg Prod.fst (before.producers_configure mode)) found
  | creates | commits | polls | exports | observes => exact .inl found

/-- A deed puts only a framebuffer that is there into a slot. -/
theorem Deed.shows (deed : Deed kept before after) {record : Record}
    (shown : record ∈ after.slots.records) :
    record ∈ before.slots.records ∨ ∃ framebuffer, record = .ofFramebuffer framebuffer ∧
      (kept framebuffer ∨
        ∃ client id, (before.client client).framebuffers.get? id = some framebuffer) := by
  cases deed with
  | @commits committed there =>
    rw [slots_commit, Slots.records_commit] at shown
    rcases List.mem_cons.mp shown with rfl | active
    · exact .inr ⟨committed, rfl, there⟩
    · exact .inl (List.mem_append_right _ active)
  | powers target =>
    rw [slots_setPower] at shown
    split at shown
    · cases shown
    · exact .inl shown
  | ticks =>
    rw [slots_tick, Slots.records_retire] at shown
    left
    cases pending : before.slots.pending with
    | none =>
      rw [pending] at shown
      exact List.mem_append_right _ shown
    | some next =>
      rw [pending] at shown
      exact List.mem_append_left _ (by rw [pending]; exact shown)
  | tearsDown link =>
    rw [slots_teardown] at shown
    split at shown
    · cases shown
    · exact .inl shown
  | exports => exact .inl (List.mem_append_left _ (by simpa [exportActive, Slots.takeActive,
      Slots.records] using shown))
  | closes | releases | adds | removes | attaches | configures =>
    exact .inl (by simpa using shown)
  | opens | registers | creates | polls | observes => exact .inl shown

/-- Every framebuffer of a client and every record has at most four planes. -/
structure Slight (relay : Relay) : Prop where
  owned : ∀ client id framebuffer,
    (relay.client client).framebuffers.get? id = some framebuffer →
      framebuffer.buffers.length ≤ maxPlanes
  shown : ∀ record ∈ relay.slots.records, record.count ≤ maxPlanes

theorem slight_new (mode : Mode) : (new mode).Slight := ⟨nofun, nofun⟩

theorem Deed.slight (deed : Deed kept before after)
    (few : ∀ framebuffer, kept framebuffer → framebuffer.buffers.length ≤ maxPlanes)
    (slight : before.Slight) : after.Slight where
  owned client id framebuffer found := by
    rcases deed.gives found with old | created
    · exact slight.owned client id framebuffer old
    · exact created.few
  shown record shown := by
    rcases deed.shows shown with old | ⟨framebuffer, rfl, there | ⟨client, id, found⟩⟩
    · exact slight.shown record old
    · exact few framebuffer there
    · exact slight.owned client id framebuffer found

end Relay

namespace Scene

theorem kept_step (scene : Scene) (step : Step) {framebuffer : Framebuffer}
    (kept : some framebuffer ∈ (scene.step step).1.framebuffers) :
    some framebuffer ∈ scene.framebuffers ∨ framebuffer.Created := by
  have registers (buffer : Buffer) (scene : Scene) (client : Nat) :
      (scene.registerWith client buffer).1.framebuffers = scene.framebuffers := by
    unfold registerWith
    split
    · rfl
    · split <;> rfl
  cases step with
  | createFramebuffer client handles =>
    simp only [step, createFramebuffer, Relay.createFramebuffer] at kept
    cases created : Framebuffer.create scene.relay.nextFramebuffer
        (scene.relay.client client).registry handles with
    | error error =>
      rw [created] at kept
      exact .inl kept
    | ok new =>
      rw [created] at kept
      rcases List.mem_append.mp kept with old | last
      · exact .inl old
      · obtain rfl := Option.some.inj (List.mem_singleton.mp last)
        exact .inr ⟨_, _, _, created⟩
  | dropFramebuffer number =>
    rcases List.mem_or_eq_of_mem_set kept with old | gone
    · exact .inl old
    · cases gone
  | register client number | registerCopy client number =>
    simp only [step] at kept
    split at kept
    · exact .inl kept
    · rw [registers] at kept
      exact .inl kept
  | release | removeFramebuffer | pageFlip | setCrtcById =>
    rw [step, scene_outcome] at kept
    exact .inl kept
  | addFramebuffer client handles =>
    rw [step_addFramebuffer] at kept
    exact .inl kept
  | attach =>
    rw [step_attach] at kept
    exact .inl kept
  | poll link =>
    rw [step_poll] at kept
    exact .inl kept
  | wait link =>
    rw [step_wait] at kept
    exact .inl kept
  | resolve client handle =>
    rw [step_resolve] at kept
    exact .inl kept
  | setCrtc number =>
    cases number with
    | none => exact .inl kept
    | some number =>
      simp only [step] at kept
      split at kept <;> exact .inl kept
  | commit number =>
    simp only [step] at kept
    split at kept <;> exact .inl kept
  | _ => exact .inl kept

end Scene

namespace Site

/-- The relay and its users have framebuffers of at most four planes. -/
structure Slight (site : Site) : Prop where
  relay : site.scene.relay.Slight
  kept : ∀ framebuffer, some framebuffer ∈ site.scene.framebuffers →
    framebuffer.buffers.length ≤ maxPlanes

theorem Slight.act {site : Site} (slight : site.Slight) (act : Act) : (site.act act).Slight where
  relay := (site.deeds_act act).keep (fun deed => deed.slight slight.kept) slight.relay
  kept framebuffer kept := by
    cases act with
    | inside step =>
      rw [Site.act] at kept
      split at kept
      · rcases site.scene.kept_step step kept with old | created
        · exact slight.kept framebuffer old
        · exact created.few
      · exact slight.kept framebuffer kept
    | outside move => exact slight.kept framebuffer kept

theorem slight_run (mode : Mode) (acts : List Act) : ((new mode).run acts).Slight := by
  induction acts using List.reverseRecOn with
  | nil => exact ⟨Relay.slight_new mode, nofun⟩
  | append_singleton acts act ih =>
    rw [run_concat]
    exact ih.act act

end Site

end PresentRelay
