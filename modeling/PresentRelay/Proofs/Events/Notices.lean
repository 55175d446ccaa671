import PresentRelay.Proofs.Scene.Steps

/-!
# What consumers learn of

The channels of all links, the registration and the power state are what consumers see of a
relay.  A step gives them one of five notices, or none, and `consumers_step` says that the
notice alone decides what becomes of them.
-/

set_option autoImplicit false

namespace PresentRelay

structure Consumers where
  /-- The channel of every link that was ever made. -/
  links : List EventChannel
  registered : Option Nat
  power : Power

inductive Notice where
  /-- A vertical blank moved a record into the active slot. -/
  | retired
  | entered (power : Power)
  | attached (link : Nat)
  /-- A wait on a link came back with an event. -/
  | delivered (link : Nat)
  | ended (link : Nat)
  deriving DecidableEq, Repr

def Notice.isEntry : Notice → Bool
  | .entered _ => true
  | _ => false

namespace Consumers

def tell (consumers : Consumers) (change : EventChannel → EventChannel) : Consumers :=
  match consumers.registered with
  | none => consumers
  | some link => { consumers with links := consumers.links.modify link change }

def after (consumers : Consumers) : Notice → Consumers
  | .retired => consumers.tell EventChannel.notifyPresent
  | .entered power => { consumers with power }.tell fun channel => channel.notifyPower power
  | .attached link => ⟨consumers.links ++ [.new consumers.power], some link, consumers.power⟩
  | .delivered link =>
    { consumers with
      links := consumers.links.modify link fun channel => { channel with raised := .none } }
  | .ended link =>
    { consumers with
      links := consumers.links.modify link EventChannel.teardown
      registered := if consumers.registered = some link then none else consumers.registered }

end Consumers

namespace Relay

variable (relay : Relay)

def consumers : Consumers := ⟨relay.links, relay.registered, relay.power⟩

theorem consumers_tellConsumer (change : EventChannel → EventChannel) :
    (relay.tellConsumer change).consumers = relay.consumers.tell change := by
  cases registered : relay.registered <;>
    simp [tellConsumer, Consumers.tell, consumers, registered]

theorem consumers_setPower (target : Power) :
    (relay.setPower target).consumers = relay.consumers.after (.entered target) := by
  unfold setPower
  exact consumers_tellConsumer _ _

theorem consumers_tick :
    relay.tick.1.consumers =
      if relay.tick.2.retired.isSome then relay.consumers.after .retired else relay.consumers := by
  unfold tick
  dsimp only
  split
  · exact consumers_tellConsumer _ _
  · rfl

def LastOpen (client : Nat) : Prop :=
  relay.isOpen client = true ∧
    ∀ other < relay.clients.length, relay.isOpen other = true → other = client

instance (client : Nat) : Decidable (relay.LastOpen client) :=
  inferInstanceAs (Decidable (_ ∧ _))

theorem any_isOpen_set (client : Nat) :
    (relay.clients.set client .closed).any Client.isOpen = true ↔
      ∃ other < relay.clients.length, relay.isOpen other = true ∧ other ≠ client := by
  rw [List.any_eq_true]
  constructor
  · rintro ⟨held, member, isOpen⟩
    obtain ⟨other, bound, rfl⟩ := List.mem_iff_getElem.mp member
    rw [List.length_set] at bound
    by_cases same : client = other
    · subst same
      simp [Client.closed] at isOpen
    · rw [List.getElem_set_ne same] at isOpen
      exact ⟨other, bound, by simpa [Relay.isOpen, Relay.client, bound] using isOpen,
        Ne.symm same⟩
  · rintro ⟨other, bound, isOpen, apart⟩
    have length : other < (relay.clients.set client .closed).length := by simpa using bound
    refine ⟨(relay.clients.set client .closed)[other], List.getElem_mem length, ?_⟩
    rw [List.getElem_set_ne (Ne.symm apart)]
    simpa [Relay.isOpen, Relay.client, bound] using isOpen

theorem consumers_closeClient (client : Nat) :
    (relay.closeClient client).consumers =
      if relay.LastOpen client then relay.consumers.after (.entered .noConsumer)
      else relay.consumers := by
  unfold closeClient
  by_cases isOpen : relay.isOpen client = true
  · rw [if_pos isOpen]
    dsimp only
    by_cases others : (relay.clients.set client .closed).any Client.isOpen = true
    · obtain ⟨other, bound, open_, apart⟩ := (relay.any_isOpen_set client).mp others
      have notLast : ¬ relay.LastOpen client := fun last => apart (last.2 other bound open_)
      rw [if_pos others, if_neg notLast]
      rfl
    · have last : relay.LastOpen client := by
        refine ⟨isOpen, fun other bound open_ => Decidable.byContradiction fun apart => ?_⟩
        exact others ((relay.any_isOpen_set client).mpr ⟨other, bound, open_, apart⟩)
      rw [if_neg others, if_pos last]
      exact consumers_setPower _ _
  · rw [if_neg isOpen, if_neg fun last => isOpen last.1]

theorem consumers_attach :
    relay.attach.1.consumers = match relay.attach.2 with
      | .ok link => relay.consumers.after (.attached link)
      | .error _ => relay.consumers := by
  unfold attach
  split <;> rfl

theorem attach_eq_ok {link : Nat} (attached : relay.attach.2 = .ok link) :
    relay.registered = none ∧ link = relay.links.length := by
  unfold attach at attached
  split at attached
  · cases attached
  · next free =>
    cases attached
    exact ⟨free, rfl⟩

theorem consumers_teardown (link : Nat) :
    (relay.teardown link).consumers = relay.consumers.after (.ended link) := by
  unfold teardown Consumers.after consumers
  by_cases holds : relay.registered = some link
  · simp only [if_pos holds]
  · simp only [if_neg holds]

theorem set_link (link : Nat) (change : EventChannel → EventChannel) :
    relay.links.set link (change (relay.link link)) = relay.links.modify link change := by
  apply List.ext_getElem?
  intro other
  rw [List.getElem?_set, List.getElem?_modify]
  by_cases same : link = other
  · subst same
    cases found : relay.links[link]? with
    | none => simp [Nat.not_lt.mpr (List.getElem?_eq_none_iff.mp found)]
    | some channel =>
      obtain ⟨bound, rfl⟩ := List.getElem?_eq_some_iff.mp found
      simp [Relay.link, bound]
  · simp [same]

theorem set_link_self (link : Nat) : relay.links.set link (relay.link link) = relay.links := by
  rw [show relay.link link = id (relay.link link) from rfl, set_link, List.modify_id]

theorem consumers_poll (link : Nat) :
    (relay.poll link).1.consumers = match (relay.poll link).2 with
      | .ok (some _) => relay.consumers.after (.delivered link)
      | _ => relay.consumers := by
  unfold poll EventChannel.poll consumers
  by_cases ended : (relay.link link).tornDown = true
  · simp only [if_pos ended, set_link_self]
  · by_cases nothing : (relay.link link).raised = .none
    · simp only [if_neg ended, if_pos nothing, set_link_self]
    · simp only [if_neg ended, if_neg nothing, Consumers.after, ← relay.set_link]

theorem wait_eq (link : Nat) :
    relay.wait link = ((relay.poll link).1, match (relay.poll link).2 with
      | .error error => .ready (.error error)
      | .ok (some event) => .ready (.ok event)
      | .ok none => .blocked) := by
  unfold wait EventChannel.wait poll
  rcases (relay.link link).poll with ⟨channel, _ | _ | _⟩ <;> rfl

end Relay

namespace Scene

def entry? (scene : Scene) : Step → Option Power
  | .power target => some target
  | .setCrtc none | .setCrtcById _ none => some .off
  | .setCrtc (some number) => (scene.framebuffer? number).map fun _ => .on
  | .setCrtcById client (some id) =>
    ((scene.relay.client client).framebuffers.get? id).map fun _ => .on
  | .closeClient client => if scene.relay.LastOpen client then some .noConsumer else none
  | _ => none

def Answer.retires : Answer → Bool
  | .ticked tick => tick.retired.isSome
  | _ => false

def Answer.delivers : Answer → Bool
  | .event (some _) => true
  | _ => false

def Answer.number? : Answer → Option Nat
  | .number n => some n
  | _ => none

/-- The notice that a step gives.  Only for power states it is not read off the answer. -/
def notice? (scene : Scene) (step : Step) : Option Notice :=
  let answer := (scene.step step).2
  match step with
  | .tick => if answer.retires then some .retired else none
  | .attach => answer.number?.map .attached
  | .poll link | .wait link => if answer.delivers then some (.delivered link) else none
  | .teardown link => some (.ended link)
  | other => (scene.entry? other).map .entered

def notices : Scene → List Step → List Notice
  | _, [] => []
  | scene, step :: steps => (scene.notice? step).toList ++ notices (scene.step step).1 steps

theorem notices_concat (scene : Scene) (steps : List Step) (step : Step) :
    scene.notices (steps ++ [step]) =
      scene.notices steps ++ ((scene.run steps).notice? step).toList := by
  induction steps generalizing scene with
  | nil => simp [notices]
  | cons first steps ih => simp [notices, ih, run_cons]

theorem answer_attach (scene : Scene) :
    (scene.step .attach).2 = match scene.relay.attach.2 with
      | .ok link => .number link
      | .error error => .failed error := by
  simp only [step]
  rcases scene.relay.attach with ⟨relay, _ | _⟩ <;> rfl

theorem answer_poll (scene : Scene) (link : Nat) :
    (scene.step (.poll link)).2 = match (scene.relay.poll link).2 with
      | .ok event => .event event
      | .error error => .failed error := by
  simp only [step]
  rcases scene.relay.poll link with ⟨relay, _ | _⟩ <;> rfl

theorem answer_wait (scene : Scene) (link : Nat) :
    (scene.step (.wait link)).2 = match (scene.relay.poll link).2 with
      | .ok none => .blocked
      | .ok (some event) => .event (some event)
      | .error error => .failed error := by
  simp only [step, Relay.wait_eq]
  rcases scene.relay.poll link with ⟨relay, _ | _ | _⟩ <;> rfl

theorem notice?_cases {scene : Scene} {step : Step} {notice : Notice}
    (given : scene.notice? step = some notice) :
    match notice with
    | .retired => step = .tick
    | .entered power => scene.entry? step = some power
    | .attached link => step = .attach ∧ (scene.step step).2.number? = some link
    | .delivered link =>
      (step = .poll link ∨ step = .wait link) ∧ (scene.step step).2.delivers = true
    | .ended link => step = .teardown link := by
  cases step with
  | tick =>
    simp only [notice?] at given
    split at given
    · cases given
      rfl
    · cases given
  | attach =>
    simp only [notice?, Option.map_eq_some_iff] at given
    obtain ⟨link, answer, rfl⟩ := given
    exact ⟨rfl, answer⟩
  | poll link | wait link =>
    simp only [notice?] at given
    split at given
    · next delivers =>
      cases given
      exact ⟨by simp, delivers⟩
    · cases given
  | teardown link =>
    cases given
    rfl
  | _ =>
    simp only [notice?, Option.map_eq_some_iff] at given
    obtain ⟨power, entry, rfl⟩ := given
    exact entry

/-- A registration is given only while there is none, to a link of the next number. -/
theorem notice?_attached {scene : Scene} {step : Step} {link : Nat}
    (attached : scene.notice? step = some (.attached link)) :
    scene.relay.registered = none ∧ link = scene.relay.links.length := by
  obtain ⟨rfl, answer⟩ := notice?_cases attached
  rw [answer_attach] at answer
  cases given : scene.relay.attach.2 with
  | error error => simp [given, Answer.number?] at answer
  | ok number =>
    have same : number = link := by simpa [given, Answer.number?] using answer
    exact Relay.attach_eq_ok scene.relay (same ▸ given)

theorem consumers_registerWith (scene : Scene) (client : Nat) (buffer : Buffer) :
    (scene.registerWith client buffer).1.relay.consumers = scene.relay.consumers := by
  unfold registerWith
  split
  · rfl
  · split <;> rfl

theorem consumers_step (scene : Scene) (step : Step) :
    (scene.step step).1.relay.consumers =
      (scene.notice? step).elim scene.relay.consumers scene.relay.consumers.after := by
  cases step with
  | power target => exact Relay.consumers_setPower scene.relay target
  | setCrtc number =>
    cases number with
    | none => exact Relay.consumers_setPower scene.relay .off
    | some number =>
      simp only [step, notice?, entry?]
      cases scene.framebuffer? number with
      | none => rfl
      | some framebuffer => exact Relay.consumers_setPower scene.relay .on
  | setCrtcById client id =>
    rw [step_setCrtcById]
    cases id with
    | none => exact Relay.consumers_setPower scene.relay .off
    | some id =>
      simp only [notice?, entry?, Relay.setCrtcById, Client.framebuffer]
      cases (scene.relay.client client).framebuffers.get? id with
      | none => rfl
      | some framebuffer => exact Relay.consumers_setPower scene.relay .on
  | closeClient client =>
    have closed := scene.relay.consumers_closeClient client
    simp only [step, notice?, entry?, closed]
    split <;> rfl
  | tick =>
    have notice : scene.notice? .tick =
        if scene.relay.tick.2.retired.isSome then some .retired else none := rfl
    have ticked : (scene.step .tick).1.relay.consumers = scene.relay.tick.1.consumers := rfl
    rw [notice, ticked, Relay.consumers_tick]
    split <;> rfl
  | attach =>
    have attached := scene.relay.consumers_attach
    simp only [step_attach, attached, notice?, answer_attach]
    cases scene.relay.attach.2 <;> rfl
  | poll link =>
    have polled := scene.relay.consumers_poll link
    simp only [step_poll, polled, notice?, answer_poll]
    rcases (scene.relay.poll link).2 with _ | _ | event <;> rfl
  | wait link =>
    have polled := scene.relay.consumers_poll link
    simp only [step_wait, Relay.wait_eq, polled, notice?, answer_wait]
    rcases (scene.relay.poll link).2 with _ | _ | event <;> rfl
  | teardown link => exact Relay.consumers_teardown scene.relay link
  -- no other step gives a notice
  | register client number | registerCopy client number =>
    simp only [step, notice?, entry?, Option.map_none, Option.elim_none]
    cases scene.made[number]? with
    | none => rfl
    | some buffer => exact consumers_registerWith _ _ _
  | release client handle =>
    rw [step_release]
    unfold Relay.release
    split <;> rfl
  | createFramebuffer client handles =>
    simp only [step, createFramebuffer, Relay.createFramebuffer]
    cases Framebuffer.create scene.relay.nextFramebuffer (scene.relay.client client).registry
      handles <;> rfl
  | addFramebuffer client handles =>
    rw [step_addFramebuffer]
    unfold Relay.addFramebuffer Relay.createFramebuffer
    cases Framebuffer.create scene.relay.nextFramebuffer (scene.relay.client client).registry
      handles <;> rfl
  | removeFramebuffer client id =>
    rw [step_removeFramebuffer]
    unfold Relay.removeFramebuffer
    split <;> rfl
  | commit number =>
    simp only [step]
    cases scene.framebuffer? number <;> rfl
  | pageFlip client id =>
    rw [step_pageFlip]
    unfold Relay.pageFlip
    split <;> rfl
  | resolve client handle => rw [step_resolve]; rfl
  | configure mode =>
    simp only [step, Relay.configure]
    split <;> rfl
  | _ => rfl

end Scene

end PresentRelay
