import PresentRelay.Proofs.Events.Registration
import PresentRelay.Proofs.Slots.Moves

/-!
# Which frames are announced

A vertical blank tells the consumer of the record that it moved to the active slot, if there
is a consumer then.  The record stays there while consumers come and go.  So the consumer of
now was told of the active record, or still has the notice of it due, exactly if it was there
when the record was moved: `announced_iff_registered`.
-/

set_option autoImplicit false

namespace PresentRelay

namespace Scene

/-! ## Events that reach a link -/

def delivery? (scene : Scene) (link : Nat) (step : Step) : Option RelayEvent :=
  match step, (scene.step step).2 with
  | .poll asked, .event event | .wait asked, .event event => if asked = link then event else none
  | _, _ => none

def deliveries (link : Nat) : Scene → List Step → List RelayEvent
  | _, [] => []
  | scene, step :: steps =>
    (scene.delivery? link step).toList ++ deliveries link (scene.step step).1 steps

theorem deliveries_concat (link : Nat) (scene : Scene) (steps : List Step) (step : Step) :
    deliveries link scene (steps ++ [step]) =
      deliveries link scene steps ++ ((scene.run steps).delivery? link step).toList := by
  induction steps generalizing scene with
  | nil => simp [deliveries]
  | cons first steps ih => simp [deliveries, ih, run_cons]

theorem delivery?_eq_none {scene : Scene} {link : Nat} {step : Step}
    (other : scene.notice? step ≠ some (.delivered link)) : scene.delivery? link step = none := by
  cases step with
  | poll asked | wait asked =>
    simp only [notice?] at other
    unfold delivery?
    cases answer : (scene.step _).2 with
    | event event =>
      cases event with
      | none => exact ite_self _
      | some event =>
        rw [answer] at other
        exact if_neg fun same => other (congrArg (some ∘ Notice.delivered) same)
    | _ => rfl
  | _ => rfl

theorem delivery?_of_delivered {scene : Scene} {link : Nat} {step : Step}
    (delivered : scene.notice? step = some (.delivered link)) :
    ∃ event, (scene.relay.poll link).2 = .ok (some event) ∧
      scene.delivery? link step = some event := by
  obtain ⟨looks, delivers⟩ := notice?_cases delivered
  rcases looks with rfl | rfl <;> simp only [answer_poll, answer_wait] at delivers <;>
    rcases polled : (scene.relay.poll link).2 with error | _ | event
  all_goals simp [polled, Answer.delivers] at delivers
  all_goals exact ⟨event, rfl, by simp [delivery?, answer_poll, answer_wait, polled]⟩

theorem delivery?_of_tells {scene : Scene} {link : Nat} {story : LinkStory}
    (tells : scene.relay.consumers.Tells link story) {step : Step}
    (delivered : scene.notice? step = some (.delivered link)) :
    ∃ since, story = .attached since ∧
      scene.delivery? link step = some ⟨.ofNotices since, scene.relay.power⟩ := by
  obtain ⟨event, polled, brings⟩ := delivery?_of_delivered delivered
  rw [poll_of_tells tells] at polled
  cases story with
  | attached since =>
    refine ⟨since, rfl, ?_⟩
    simp only [LinkStory.due] at polled
    split at polled
    · cases polled
    · cases polled
      exact brings
  | unmade | ended => cases polled

/-! ## After the last retirement -/

/-- What a link was told of a record, if its story was `first` just after the record was
retired and is `last` now, and these events reached it in between. -/
def Announces (first : LinkStory) (events : List RelayEvent) : LinkStory → Prop
  | .attached since =>
    (.retired ∈ since ∨ ∃ event ∈ events, event.flags.presentReady = true) ↔
      ∃ before, first = .attached before ∧ .retired ∈ before
  | .unmade => first = .unmade ∧ events = []
  | .ended => True

theorem announces_start (first : LinkStory) : Announces first [] first := by
  cases first with
  | unmade => exact ⟨rfl, rfl⟩
  | attached since => simp [Announces]
  | ended => trivial

theorem announces_step {scene : Scene} {link : Nat} {first story : LinkStory}
    {events : List RelayEvent} (announces : Announces first events story)
    (tells : scene.relay.consumers.Tells link story) {step : Step}
    (quiet : scene.notice? step ≠ some .retired) :
    Announces first (events ++ (scene.delivery? link step).toList)
      ((scene.notice? step).toList.foldl (LinkStory.after link) story) := by
  by_cases delivered : scene.notice? step = some (.delivered link)
  · obtain ⟨since, rfl, brings⟩ := delivery?_of_tells tells delivered
    have told : (.retired ∈ since ∨ ∃ event ∈ events, event.flags.presentReady = true) ↔ _ :=
      announces
    simp [delivered, brings, LinkStory.after, Announces, EventFlags.ofNotices, ← told, or_comm]
  · rw [delivery?_eq_none delivered, Option.toList_none, List.append_nil]
    cases given : scene.notice? step with
    | none => exact announces
    | some notice =>
      rw [given] at quiet delivered
      have other : notice ≠ .retired := fun same => quiet (congrArg some same)
      have apart : notice ≠ .delivered link := fun same => delivered (congrArg some same)
      simp only [Option.toList_some, List.foldl_cons, List.foldl_nil]
      cases story with
      | unmade =>
        obtain ⟨rfl, rfl⟩ := announces
        by_cases attached : notice = .attached link
        · simp [LinkStory.after, attached, Announces]
        · simp [LinkStory.after, attached, Announces]
      | attached since =>
        by_cases ended : notice = .ended link
        · simp [LinkStory.after, ended, Announces]
        · simpa [LinkStory.after, ended, apart, Announces, Ne.symm other] using announces
      | ended => trivial

theorem announces_run {scene : Scene} {link : Nat} {first : LinkStory}
    (tells : scene.relay.consumers.Tells link first) (steps : List Step)
    (quiet : .retired ∉ scene.notices steps) :
    Announces first (deliveries link scene steps)
      ((scene.notices steps).foldl (LinkStory.after link) first) := by
  induction steps using List.reverseRecOn with
  | nil => exact announces_start first
  | append_singleton steps step ih =>
    rw [notices_concat, List.mem_append, not_or] at quiet
    rw [notices_concat, List.foldl_append, deliveries_concat]
    refine announces_step (ih quiet.1) (tells_run_of_tells tells steps) fun retired => ?_
    exact quiet.2 (by simp [retired])

/-! ## The retirement of the active record -/

theorem notice?_ne_retired {scene : Scene} {step : Step} (other : step ≠ .tick) :
    scene.notice? step ≠ some .retired := fun retired => other (notice?_cases retired)

theorem active_of_ne_tick {scene : Scene} {step : Step} (other : step ≠ .tick) {record : Record}
    (active : (scene.step step).1.relay.slots.active = some record) :
    scene.relay.slots.active = some record := by
  have noBlank : scene.move? step ≠ some .blank := by
    intro blank
    cases step with
    | tick => exact other rfl
    | commit | pageFlip => simp [move?, commitOf] at blank
    | setCrtc number => cases number <;> simp [move?, commitOf] at blank
    | setCrtcById client id => cases id <;> simp [move?, commitOf] at blank
    | power target => cases target <;> cases blank
    | teardown link =>
      simp only [move?] at blank
      split at blank <;> cases blank
    | _ => cases blank
  rw [slots_step] at active
  cases move : scene.move? step with
  | none => rwa [move] at active
  | some made =>
    rw [move, Option.elim_some] at active
    cases made with
    | commit committed => exact active
    | blank => exact absurd move noBlank
    | take | clear => cases active

/-- The active record was moved there by some vertical blank, and none moved another since. -/
theorem exists_retirement (mode : Mode) (steps : List Step) {record : Record}
    (active : ((Scene.new mode).run steps).relay.slots.active = some record) :
    ∃ before after, steps = before ++ .tick :: after ∧
      ((Scene.new mode).run before).relay.slots.pending = some record ∧
      .retired ∉ (((Scene.new mode).run before).step .tick).1.notices after := by
  induction steps using List.reverseRecOn with
  | nil => cases active
  | append_singleton steps step ih =>
    rw [run_concat] at active
    have carry : ((Scene.new mode).run steps).relay.slots.active = some record →
        ((Scene.new mode).run steps).notice? step ≠ some .retired →
        ∃ before after, steps ++ [step] = before ++ .tick :: after ∧
          ((Scene.new mode).run before).relay.slots.pending = some record ∧
          .retired ∉ (((Scene.new mode).run before).step .tick).1.notices after := by
      intro earlier quiet
      obtain ⟨before, after, rfl, pending, none⟩ := ih earlier
      refine ⟨before, after ++ [step], by simp, pending, ?_⟩
      have reached : (Scene.new mode).run (before ++ .tick :: after) =
          (((Scene.new mode).run before).step .tick).1.run after := by
        rw [run, List.foldl_append]
        rfl
      rw [reached] at quiet
      rw [notices_concat, List.mem_append, not_or]
      refine ⟨none, fun member => quiet ?_⟩
      simpa using member
    by_cases tick : step = .tick
    · subst tick
      rw [slots_step] at active
      cases pending : ((Scene.new mode).run steps).relay.slots.pending with
      | none =>
        simp only [move?, Option.elim_some, Slots.move, Slots.retire, pending] at active
        refine carry active ?_
        simp [notice?, step, Relay.tick, Pacer.tick, Slots.retire, pending, Answer.retires]
      | some waiting =>
        simp only [move?, Option.elim_some, Slots.move, Slots.retire, pending] at active
        exact ⟨steps, [], rfl, pending.trans active, List.not_mem_nil⟩
    · exact carry (active_of_ne_tick tick active) (notice?_ne_retired tick)

theorem attached_iff_registered {relay : Relay} {link : Nat} {story : LinkStory}
    (sound : relay.consumers.Sound) (tells : relay.consumers.Tells link story) :
    relay.registered = some link ↔ ∃ since, story = .attached since := by
  constructor
  · intro registered
    have live := (sound.exclusive link).mp registered
    cases story with
    | attached since => exact ⟨since, rfl⟩
    | unmade =>
      have missing : relay.links[link]? = none := List.getElem?_eq_none tells
      simp [Consumers.isLive, Relay.consumers, missing] at live
    | ended =>
      obtain ⟨channel, found, torn⟩ := tells
      have found : relay.links[link]? = some channel := found
      simp [Consumers.isLive, Relay.consumers, found, torn] at live
  · rintro ⟨since, rfl⟩
    exact tells.1

/-- The active record was retired by one vertical blank of the run, and the consumer either
has the notice of a frame due or was delivered one since, exactly if it was registered when
that vertical blank came. -/
theorem announced_iff_registered (mode : Mode) (steps : List Step) (link : Nat) (record : Record)
    (registered : ((Scene.new mode).run steps).relay.registered = some link)
    (active : ((Scene.new mode).run steps).relay.slots.active = some record) :
    ∃ before after, steps = before ++ .tick :: after ∧
      let shown := (Scene.new mode).run before
      let retired := (shown.step .tick).1
      shown.relay.slots.pending = some record ∧
      .retired ∉ retired.notices after ∧
      ((((Scene.new mode).run steps).relay.link link).raised.presentReady = true ∨
          (∃ event ∈ deliveries link retired after, event.flags.presentReady = true) ↔
        shown.relay.registered = some link) := by
  obtain ⟨before, after, rfl, pending, quiet⟩ := exists_retirement mode steps active
  refine ⟨before, after, rfl, pending, quiet, ?_⟩
  have reached : (Scene.new mode).run (before ++ .tick :: after) =
      (((Scene.new mode).run before).step .tick).1.run after := by
    rw [run, List.foldl_append]
    rfl
  rw [reached] at registered ⊢
  have sound : ((Scene.new mode).run before).relay.consumers.Sound :=
    consumers_sound_run (consumers_new mode) before
  have told := tells_run mode before link
  -- the story of the link just after the vertical blank
  have notice : ((Scene.new mode).run before).notice? .tick = some .retired := by
    simp [notice?, step, Relay.tick, Pacer.tick, Slots.retire, pending, Answer.retires]
  have ticked : (((Scene.new mode).run before).step .tick).1.relay.consumers.Tells link
      (((Scene.new mode).story link before).after link .retired) := by
    rw [consumers_step, notice]
    refine Consumers.tells_after told fun number attached => ?_
    cases attached
  have announces := announces_run ticked after quiet
  obtain ⟨since, last⟩ := (attached_iff_registered (consumers_sound_run
    (consumers_sound_step sound .tick) after) (tells_run_of_tells ticked after)).mp registered
  have channel := tells_run_of_tells ticked after
  rw [last] at announces channel
  have found : ((((Scene.new mode).run before).step .tick).1.run after).relay.links[link]? =
      some ⟨.ofNotices since, _, false⟩ := channel.2
  have due : (((((Scene.new mode).run before).step .tick).1.run after).relay.link link).raised =
      .ofNotices since := by simp [Relay.link, found]
  rw [due, EventFlags.ofNotices, decide_eq_true_eq, attached_iff_registered sound told]
  refine announces.trans ?_
  cases (Scene.new mode).story link before <;> simp [LinkStory.after]

/-- A consumer that was there is told, and looks, and may then export. -/
theorem announced_iff_registered_looked :
    let mode : Mode := ⟨1920, 1080, 60⟩
    let steps : List Step :=
      [.makeBuffer [] true, .openClient, .register 0 0, .createFramebuffer 0 [1], .attach,
        .commit 0, .tick, .poll 0]
    ((Scene.new mode).run steps).relay.registered = some 0 ∧
    ((Scene.new mode).run steps).relay.slots.active = some ⟨1, [⟨0, ⟨0, []⟩, true⟩]⟩ ∧
    ∃ before after, steps = before ++ .tick :: after ∧
      let shown := (Scene.new mode).run before
      let retired := (shown.step .tick).1
      shown.relay.slots.pending = some ⟨1, [⟨0, ⟨0, []⟩, true⟩]⟩ ∧
      .retired ∉ retired.notices after ∧
      ((((Scene.new mode).run steps).relay.link 0).raised.presentReady = true ∨
          (∃ event ∈ deliveries 0 retired after, event.flags.presentReady = true) ↔
        shown.relay.registered = some 0) := by
  refine ⟨by decide +kernel, by decide +kernel, ?_⟩
  exact announced_iff_registered ⟨1920, 1080, 60⟩ _ 0 _ (by decide +kernel) (by decide +kernel)

/-- A frame was shown before the first consumer came: nothing is due to that consumer, nothing
was ever delivered to it, and the frame waits in the active slot. -/
theorem early_frame_unannounced :
    let steps : List Step :=
      [.makeBuffer [] true, .openClient, .register 0 0, .createFramebuffer 0 [1], .commit 0,
        .tick, .attach]
    let start := Scene.new ⟨1920, 1080, 60⟩
    (start.run steps).relay.registered = some 0 ∧
    (start.run steps).relay.slots.active = some ⟨1, [⟨0, ⟨0, []⟩, true⟩]⟩ ∧
    ((start.run steps).relay.link 0).raised = .none ∧
    deliveries 0 start steps = [] ∧
    ((start.run steps).step (.wait 0)).2 = .blocked :=
  ⟨rfl, rfl, rfl, rfl, rfl⟩

end Scene

end PresentRelay
