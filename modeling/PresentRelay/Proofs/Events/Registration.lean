import PresentRelay.Proofs.Events.Deliveries
import PresentRelay.Proofs.Relay.Effects

/-!
# The one registration

Links pile up: one that was torn down stays with whoever has it.  `Consumers.Sound` says that
the registered link is just the one that lives, and that nothing is left on the others; every
notice keeps it.  So a link of an earlier consumer can do nothing to the registration of a
later one.
-/

set_option autoImplicit false

namespace PresentRelay

namespace EventChannel

/-- Nothing was raised on a channel that was torn down. -/
def Silent (channel : EventChannel) : Prop := channel.tornDown = true → channel.raised = .none

theorem silent_notify {channel : EventChannel} (silent : channel.Silent) (flags : EventFlags)
    (power : Option Power) : (channel.notify flags power).Silent := by
  unfold notify
  split
  · exact silent
  · next live => exact fun ended => absurd ended live

theorem teardown_of_silent {channel : EventChannel} (silent : channel.Silent)
    (ended : channel.tornDown = true) : channel.teardown = channel := by
  obtain ⟨raised, power, tornDown⟩ := channel
  obtain rfl : tornDown = true := ended
  obtain rfl : raised = .none := silent rfl
  rfl

end EventChannel

namespace Consumers

def isLive (consumers : Consumers) (link : Nat) : Bool :=
  consumers.links[link]?.any fun channel => !channel.tornDown

/-- What consumers find at every point of a run. -/
structure Sound (consumers : Consumers) : Prop where
  exclusive : ∀ link, consumers.registered = some link ↔ consumers.isLive link = true
  silent : ∀ channel ∈ consumers.links, channel.Silent

theorem isLive_modify (consumers : Consumers) {change : EventChannel → EventChannel}
    (keeps : ∀ channel : EventChannel, (change channel).tornDown = channel.tornDown)
    (changed asked : Nat) :
    isLive { consumers with links := consumers.links.modify changed change } asked =
      consumers.isLive asked := by
  simp only [isLive, List.getElem?_modify]
  by_cases same : changed = asked <;> cases consumers.links[asked]? <;> simp [same, keeps]

theorem isLive_teardown (consumers : Consumers) (ended asked : Nat) :
    isLive { consumers with links := consumers.links.modify ended EventChannel.teardown } asked =
      (decide (asked ≠ ended) && consumers.isLive asked) := by
  simp only [isLive, List.getElem?_modify]
  by_cases same : ended = asked
  · cases consumers.links[asked]? <;> simp [same, EventChannel.teardown]
  · cases consumers.links[asked]? <;> simp [same, Ne.symm same]

theorem silent_modify {links : List EventChannel} {change : EventChannel → EventChannel}
    (keeps : ∀ channel : EventChannel, channel.Silent → (change channel).Silent)
    (silent : ∀ channel ∈ links, channel.Silent) (changed : Nat) :
    ∀ channel ∈ links.modify changed change, channel.Silent := by
  intro channel member
  obtain ⟨link, found⟩ := List.mem_iff_getElem?.mp member
  rw [List.getElem?_modify] at found
  obtain ⟨before, held, rfl⟩ := Option.map_eq_some_iff.mp found
  have was := silent before (List.mem_of_getElem? held)
  split
  · exact keeps before was
  · exact was

theorem Sound.tell {consumers : Consumers} (sound : consumers.Sound)
    {change : EventChannel → EventChannel}
    (keeps : ∀ channel : EventChannel, (change channel).tornDown = channel.tornDown)
    (silences : ∀ channel : EventChannel, channel.Silent → (change channel).Silent) :
    (consumers.tell change).Sound := by
  unfold Consumers.tell
  split
  · exact sound
  · next link _ =>
    refine ⟨fun asked => ?_, silent_modify silences sound.silent link⟩
    rw [isLive_modify consumers keeps]
    exact sound.exclusive asked

theorem Sound.attach {consumers : Consumers} (sound : consumers.Sound)
    (free : consumers.registered = none) :
    (consumers.after (.attached consumers.links.length)).Sound where
  exclusive asked := by
    have dead : consumers.isLive asked = false := by
      rw [Bool.eq_false_iff, Ne, ← sound.exclusive asked, free]
      exact (Option.some_ne_none asked).symm
    by_cases old : asked < consumers.links.length
    · have kept : isLive (consumers.after (.attached consumers.links.length)) asked =
          consumers.isLive asked := by
        simp only [isLive, after, List.getElem?_append_left old]
      rw [kept, dead]
      simp [after, Nat.ne_of_gt old]
    · by_cases same : asked = consumers.links.length
      · simp [isLive, after, same, EventChannel.new]
      · have past : consumers.links.length + 1 ≤ asked := by omega
        have missing :
            (consumers.links ++ [EventChannel.new consumers.power])[asked]? = none := by
          apply List.getElem?_eq_none
          simpa using past
        simp [isLive, after, missing, Ne.symm same]
  silent channel member := by
    rcases List.mem_append.mp member with old | new
    · exact sound.silent channel old
    · rw [List.mem_singleton.mp new]
      exact fun ended => absurd ended Bool.false_ne_true

theorem Sound.ended {consumers : Consumers} (sound : consumers.Sound) (link : Nat) :
    (consumers.after (.ended link)).Sound where
  exclusive asked := by
    have live : (consumers.after (.ended link)).isLive asked =
        (decide (asked ≠ link) && consumers.isLive asked) := consumers.isLive_teardown link asked
    rw [live, Bool.and_eq_true, decide_eq_true_eq, ← sound.exclusive asked]
    simp only [after]
    by_cases holds : consumers.registered = some link
    · simp [holds, eq_comm]
    · rw [if_neg holds]
      refine ⟨fun registered => ⟨fun same => holds (same ▸ registered), registered⟩, And.right⟩
  silent := silent_modify (fun _ _ _ => rfl) sound.silent link

theorem Sound.after {consumers : Consumers} (sound : consumers.Sound) {notice : Notice}
    (next : ∀ link, notice = .attached link →
      consumers.registered = none ∧ link = consumers.links.length) :
    (consumers.after notice).Sound := by
  cases notice with
  | retired =>
    exact sound.tell (fun _ => EventChannel.tornDown_notify _ _ _)
      fun _ silent => EventChannel.silent_notify silent _ _
  | entered power =>
    have entered : ({ consumers with power } : Consumers).Sound := ⟨sound.exclusive, sound.silent⟩
    exact entered.tell (fun _ => EventChannel.tornDown_notify _ _ _)
      fun _ silent => EventChannel.silent_notify silent _ _
  | attached link =>
    obtain ⟨free, rfl⟩ := next link rfl
    exact sound.attach free
  | delivered link =>
    refine ⟨fun asked => ?_, silent_modify (fun _ _ _ => rfl) sound.silent link⟩
    have keeps (channel : EventChannel) :
        { channel with raised := .none }.tornDown = channel.tornDown := rfl
    have kept : (consumers.after (.delivered link)).isLive asked = consumers.isLive asked :=
      consumers.isLive_modify keeps link asked
    rw [kept]
    exact sound.exclusive asked
  | ended link => exact sound.ended link

end Consumers

namespace Scene

theorem consumers_new (mode : Mode) : (Scene.new mode).relay.consumers.Sound where
  exclusive link := by simp [Consumers.isLive, Relay.consumers, new, Relay.new]
  silent := nofun

theorem consumers_sound_step {scene : Scene} (sound : scene.relay.consumers.Sound) (step : Step) :
    (scene.step step).1.relay.consumers.Sound := by
  rw [consumers_step]
  cases given : scene.notice? step with
  | none => exact sound
  | some notice => exact sound.after fun link attached => notice?_attached (attached ▸ given)

theorem consumers_sound_run {scene : Scene} (sound : scene.relay.consumers.Sound)
    (steps : List Step) : (scene.run steps).relay.consumers.Sound := by
  induction steps generalizing scene with
  | nil => exact sound
  | cons step steps ih => exact ih (consumers_sound_step sound step)

theorem ended_run {scene : Scene} {link : Nat} (ended : scene.relay.consumers.Tells link .ended)
    (steps : List Step) : (scene.run steps).relay.consumers.Tells link .ended := by
  induction steps generalizing scene with
  | nil => exact ended
  | cons step steps ih =>
    refine ih ?_
    rw [consumers_step]
    cases scene.notice? step with
    | none => exact ended
    | some notice => exact Consumers.tells_ended ended notice

/-- The end of a link that ended before is no step at all. -/
theorem step_teardown_of_ended {scene : Scene} (sound : scene.relay.consumers.Sound) {link : Nat}
    (ended : scene.relay.consumers.Tells link .ended) :
    (scene.step (.teardown link)).1 = scene := by
  obtain ⟨channel, found, tornDown⟩ := ended
  have found : scene.relay.links[link]? = some channel := found
  have dead : scene.relay.registered ≠ some link := by
    intro registered
    have live := (sound.exclusive link).mp registered
    simp [Consumers.isLive, Relay.consumers, found, tornDown] at live
  have silent := sound.silent channel (List.mem_of_getElem? found)
  have same : scene.relay.links.modify link EventChannel.teardown = scene.relay.links := by
    apply List.ext_getElem?
    intro asked
    rw [List.getElem?_modify]
    by_cases here : link = asked
    · subst here
      simp [found, EventChannel.teardown_of_silent silent tornDown]
    · simp [here]
  simp only [step, Relay.teardown, if_neg dead, same]

/-- At most one link of all that were ever made is not torn down, and there is a consumer
exactly if there is such a link.  A consumer can attach exactly if there is none; otherwise it
is told that the relay is busy, and nothing else happens.  The end of the one link empties the
slots, disarms the pacer and frees the registration, and changes nothing else; the end of a
link that ended before changes nothing, then and at any later time, and however often. -/
theorem one_registration (mode : Mode) (steps : List Step) :
    let scene := (Scene.new mode).run steps
    let live := fun link => scene.relay.consumers.isLive link = true
    (∀ first second, live first → live second → first = second) ∧
    (scene.relay.registered.isSome = true ↔ ∃ link, live link) ∧
    ((¬ ∃ link, live link) → scene.step .attach =
      ({ scene with relay :=
          { scene.relay with
            links := scene.relay.links ++ [.new scene.relay.power]
            registered := some scene.relay.links.length } },
        .number scene.relay.links.length)) ∧
    (∀ link, live link →
      scene.step .attach = (scene, .failed .busy) ∧
      scene.step (.teardown link) =
        ({ scene with relay :=
            { scene.relay with
              slots := .empty
              pacer := { scene.relay.pacer with armed := none }
              registered := none
              links := scene.relay.links.modify link EventChannel.teardown } },
          .done)) ∧
    (∀ link channel, scene.relay.links[link]? = some channel → channel.tornDown = true →
      ∀ later times,
        (scene.run later).run (List.replicate times (.teardown link)) = scene.run later) := by
  intro scene live
  have sound : scene.relay.consumers.Sound := consumers_sound_run (consumers_new mode) steps
  have registered : ∀ link, live link → scene.relay.registered = some link :=
    fun link => (sound.exclusive link).mpr
  have consumer : scene.relay.registered.isSome = true ↔ ∃ link, live link := by
    rw [Option.isSome_iff_exists]
    exact exists_congr sound.exclusive
  refine ⟨?_, consumer, ?_, ?_, ?_⟩
  · intro first second one other
    exact Option.some.inj ((registered first one).symm.trans (registered second other))
  · intro none
    have free : scene.relay.registered = Option.none := by
      rwa [← consumer, Option.isSome_iff_ne_none, not_not] at none
    simp only [step, Relay.attach, free]
  · intro link one
    constructor
    · simp only [step, Relay.attach, registered link one]
    · rw [step, Relay.teardown_of_registered _ (registered link one)]
  · intro link channel found tornDown later times
    have ended : (scene.run later).relay.consumers.Tells link .ended :=
      ended_run ⟨channel, found, tornDown⟩ later
    have kept := step_teardown_of_ended (consumers_sound_run sound later) ended
    induction times with
    | zero => rfl
    | succ times ih => rw [List.replicate_succ, run_cons, kept, ih]

end Scene

end PresentRelay
