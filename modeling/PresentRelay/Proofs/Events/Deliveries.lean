import Mathlib.Data.List.Induction
import PresentRelay.Proofs.Events.Notices

/-!
# What a wait delivers

A link's channel keeps two flags and a power state, whatever happens.  The story of a link
keeps everything that it was told since its last delivery.  `tells_after` shows that the
channel is what the story says, for every notice; so a delivery is exactly what happened
since the one before.
-/

set_option autoImplicit false

namespace PresentRelay

inductive LinkStory where
  | unmade
  /-- With the notices since it was attached or last delivered an event, in order. -/
  | attached (since : List Notice)
  | ended
  deriving DecidableEq, Repr

def EventFlags.ofNotices (notices : List Notice) : EventFlags :=
  ⟨decide (.retired ∈ notices), notices.any Notice.isEntry⟩

namespace LinkStory

def after (link : Nat) (story : LinkStory) (notice : Notice) : LinkStory :=
  match story with
  | .unmade => if notice = .attached link then .attached [] else .unmade
  | .attached since =>
    if notice = .ended link then .ended
    else if notice = .delivered link then .attached []
    else .attached (since ++ [notice])
  | .ended => .ended

def due (story : LinkStory) (power : Power) : Except RelayError (Option RelayEvent) :=
  match story with
  | .attached since =>
    if EventFlags.ofNotices since = .none then .ok none
    else .ok (some ⟨.ofNotices since, power⟩)
  | .unmade | .ended => .error .disconnected

end LinkStory

theorem EventChannel.tornDown_notify (channel : EventChannel) (flags : EventFlags)
    (power : Option Power) : (channel.notify flags power).tornDown = channel.tornDown := by
  unfold notify
  split <;> rfl

theorem EventFlags.ofNotices_concat (notices : List Notice) (notice : Notice) :
    ofNotices (notices ++ [notice]) = match notice with
      | .retired => (ofNotices notices).union .present
      | .entered _ => (ofNotices notices).union .power
      | _ => ofNotices notices := by
  cases notice <;> simp [ofNotices, union, present, power, Notice.isEntry]

namespace Consumers

/-- The channel of a link is what its story says. -/
def Tells (consumers : Consumers) (link : Nat) : LinkStory → Prop
  | .unmade => consumers.links.length ≤ link
  | .attached since =>
    consumers.registered = some link ∧
      consumers.links[link]? = some ⟨.ofNotices since, consumers.power, false⟩
  | .ended => ∃ channel, consumers.links[link]? = some channel ∧ channel.tornDown = true

theorem length_tell (consumers : Consumers) (change : EventChannel → EventChannel) :
    (consumers.tell change).links.length = consumers.links.length := by
  unfold tell
  split
  · rfl
  · exact List.length_modify _ _ _

theorem getElem?_tell (consumers : Consumers) {link : Nat}
    (registered : consumers.registered = some link) (change : EventChannel → EventChannel) :
    (consumers.tell change).links[link]? = consumers.links[link]?.map change := by
  simp only [tell, registered, List.getElem?_modify, if_true]
  rfl

theorem power_tell (consumers : Consumers) (change : EventChannel → EventChannel) :
    (consumers.tell change).power = consumers.power := by
  unfold tell
  split <;> rfl

theorem registered_tell (consumers : Consumers) (change : EventChannel → EventChannel) :
    (consumers.tell change).registered = consumers.registered := by
  unfold tell
  split <;> rfl

theorem ended_modify {links : List EventChannel} {link : Nat} {change : EventChannel → EventChannel}
    (keeps : ∀ channel : EventChannel, channel.tornDown = true → (change channel).tornDown = true)
    (other : Nat) (ended : ∃ channel, links[link]? = some channel ∧ channel.tornDown = true) :
    ∃ channel, (links.modify other change)[link]? = some channel ∧ channel.tornDown = true := by
  obtain ⟨channel, found, tornDown⟩ := ended
  rw [List.getElem?_modify, found]
  by_cases same : other = link
  · exact ⟨change channel, by simp [same], keeps channel tornDown⟩
  · exact ⟨channel, by simp [same], tornDown⟩

theorem ended_tell (consumers : Consumers) {link : Nat} {change : EventChannel → EventChannel}
    (keeps : ∀ channel : EventChannel, channel.tornDown = true → (change channel).tornDown = true)
    (ended : consumers.Tells link .ended) : (consumers.tell change).Tells link .ended := by
  unfold tell
  split
  · exact ended
  · exact ended_modify keeps _ ended

/-! ## One notice -/

theorem tells_unmade {consumers : Consumers} {link : Nat} (unmade : consumers.Tells link .unmade)
    {notice : Notice} (next : ∀ number, notice = .attached number →
      consumers.registered = none ∧ number = consumers.links.length) :
    (consumers.after notice).Tells link (LinkStory.unmade.after link notice) := by
  cases notice with
  | retired => exact Nat.le_trans (Nat.le_of_eq (length_tell _ _)) unmade
  | entered power => exact Nat.le_trans (Nat.le_of_eq (length_tell _ _)) unmade
  | attached number =>
    obtain ⟨-, rfl⟩ := next number rfl
    by_cases same : consumers.links.length = link
    · subst same
      simp [LinkStory.after, Tells, after, EventChannel.new, EventFlags.ofNotices]
      rfl
    · have past : consumers.links.length + 1 ≤ link := Nat.lt_of_le_of_ne unmade same
      simpa [LinkStory.after, Tells, after, same] using past
  | delivered number | ended number =>
    exact Nat.le_trans (Nat.le_of_eq (List.length_modify _ _ _)) unmade

theorem tells_attached {consumers : Consumers} {link : Nat} {since : List Notice}
    (attached : consumers.Tells link (.attached since)) {notice : Notice}
    (next : ∀ number, notice = .attached number → consumers.registered = none) :
    (consumers.after notice).Tells link ((LinkStory.attached since).after link notice) := by
  obtain ⟨registered, found⟩ := attached
  cases notice with
  | retired =>
    refine ⟨(registered_tell _ _).trans registered, ?_⟩
    rw [after, getElem?_tell _ registered, power_tell, found, EventFlags.ofNotices_concat]
    rfl
  | entered power =>
    have told : ({ consumers with power } : Consumers).registered = some link := registered
    refine ⟨(registered_tell _ _).trans told, ?_⟩
    rw [after, getElem?_tell _ told, power_tell, EventFlags.ofNotices_concat]
    simp only [found]
    rfl
  | attached number => exact absurd registered (by simp [next number rfl])
  | delivered number =>
    by_cases same : number = link
    · subst same
      simp [LinkStory.after, Tells, after, registered, found, EventFlags.ofNotices]
      rfl
    · have other : (LinkStory.attached since).after link (.delivered number) =
          .attached (since ++ [.delivered number]) := by simp [LinkStory.after, same]
      rw [other]
      refine ⟨registered, ?_⟩
      rw [after, EventFlags.ofNotices_concat]
      simp [same, found]
  | ended number =>
    by_cases same : number = link
    · subst same
      simp [LinkStory.after, Tells, after, found, EventChannel.teardown]
    · have other : (LinkStory.attached since).after link (.ended number) =
          .attached (since ++ [.ended number]) := by simp [LinkStory.after, same]
      rw [other]
      refine ⟨?_, ?_⟩
      · simp [after, registered, Ne.symm same]
      · rw [after, EventFlags.ofNotices_concat]
        simp [same, found]

theorem tells_ended {consumers : Consumers} {link : Nat} (ended : consumers.Tells link .ended)
    (notice : Notice) : (consumers.after notice).Tells link .ended := by
  cases notice with
  | retired =>
    exact ended_tell consumers (fun _ => (EventChannel.tornDown_notify _ _ _).trans) ended
  | entered power =>
    exact ended_tell { consumers with power }
      (fun _ => (EventChannel.tornDown_notify _ _ _).trans) ended
  | attached number =>
    obtain ⟨channel, found, torn⟩ := ended
    have bound := (List.getElem?_eq_some_iff.mp found).1
    exact ⟨channel, by rw [after, List.getElem?_append_left bound, found], torn⟩
  | delivered number =>
    have keeps (channel : EventChannel) (torn : channel.tornDown = true) :
        { channel with raised := .none }.tornDown = true := torn
    exact ended_modify keeps number ended
  | ended number => exact ended_modify (fun _ _ => rfl) number ended

theorem tells_after {consumers : Consumers} {link : Nat} {story : LinkStory}
    (tells : consumers.Tells link story) {notice : Notice}
    (next : ∀ number, notice = .attached number →
      consumers.registered = none ∧ number = consumers.links.length) :
    (consumers.after notice).Tells link (story.after link notice) := by
  cases story with
  | unmade => exact tells_unmade tells next
  | attached since => exact tells_attached tells fun number given => (next number given).1
  | ended => exact tells_ended tells notice

end Consumers

namespace Scene

def story (scene : Scene) (link : Nat) (steps : List Step) : LinkStory :=
  (scene.notices steps).foldl (LinkStory.after link) .unmade

theorem tells_run_of_tells {scene : Scene} {link : Nat} {story : LinkStory}
    (tells : scene.relay.consumers.Tells link story) (steps : List Step) :
    (scene.run steps).relay.consumers.Tells link
      ((scene.notices steps).foldl (LinkStory.after link) story) := by
  induction steps using List.reverseRecOn with
  | nil => exact tells
  | append_singleton steps step ih =>
    rw [run_concat, consumers_step, notices_concat, List.foldl_append]
    cases given : (scene.run steps).notice? step with
    | none => exact ih
    | some notice =>
      refine Consumers.tells_after ih fun number attached => ?_
      exact notice?_attached (attached ▸ given)

theorem tells_run (mode : Mode) (steps : List Step) (link : Nat) :
    ((Scene.new mode).run steps).relay.consumers.Tells link
      ((Scene.new mode).story link steps) := by
  have unmade : (Scene.new mode).relay.consumers.Tells link .unmade := Nat.zero_le link
  exact tells_run_of_tells unmade steps

theorem poll_of_tells {relay : Relay} {link : Nat} {story : LinkStory}
    (tells : relay.consumers.Tells link story) :
    (relay.poll link).2 = story.due relay.power := by
  cases story with
  | unmade =>
    have missing : relay.links[link]? = none := List.getElem?_eq_none tells
    simp [Relay.poll, Relay.link, missing, EventChannel.teardown, EventChannel.poll,
      LinkStory.due]
  | attached since =>
    have found : relay.links[link]? = some ⟨.ofNotices since, relay.power, false⟩ := tells.2
    by_cases nothing : EventFlags.ofNotices since = .none
    · simp [Relay.poll, Relay.link, found, EventChannel.poll, nothing, LinkStory.due]
    · simp [Relay.poll, Relay.link, found, EventChannel.poll, nothing, LinkStory.due]
  | ended =>
    obtain ⟨channel, found, torn⟩ := tells
    have found : relay.links[link]? = some channel := found
    simp [Relay.poll, Relay.link, found, EventChannel.poll, torn, LinkStory.due]

/-- An event says that a record was retired, or that a power state was entered, exactly if that
happened since the link's last delivery or, before its first, since it was attached; and it
carries the power state of its moment.  A look that finds neither comes back with nothing, and
a wait goes on.  After its end a link has no event left, and gets none. -/
theorem deliveries_coalesce (mode : Mode) (steps : List Step) (link : Nat) :
    let scene := (Scene.new mode).run steps
    match (Scene.new mode).story link steps with
    | .attached since =>
      let flags : EventFlags := ⟨decide (.retired ∈ since), since.any Notice.isEntry⟩
      (scene.step (.poll link)).2 =
          .event (if flags = .none then none else some ⟨flags, scene.relay.power⟩) ∧
        (scene.step (.wait link)).2 =
          if flags = .none then .blocked else .event (some ⟨flags, scene.relay.power⟩)
    | .unmade | .ended =>
      (scene.step (.poll link)).2 = .failed .disconnected ∧
        (scene.step (.wait link)).2 = .failed .disconnected := by
  intro scene
  have polled := poll_of_tells (tells_run mode steps link)
  have poll := scene.answer_poll link
  have wait := scene.answer_wait link
  rw [polled] at poll wait
  cases story : (Scene.new mode).story link steps with
  | attached since =>
    rw [story, LinkStory.due, EventFlags.ofNotices] at poll wait
    dsimp only
    rw [poll, wait]
    by_cases nothing :
        (⟨decide (.retired ∈ since), since.any Notice.isEntry⟩ : EventFlags) = .none
    · simp only [if_pos nothing, and_self]
    · simp only [if_neg nothing]
      exact ⟨rfl, rfl⟩
  | unmade | ended =>
    rw [story] at poll wait
    exact ⟨poll, wait⟩

/-- Two power states are one event with the last of them; the next look finds nothing, and
after the end of the link no state reaches it. -/
example : (Scene.new ⟨640, 480, 60⟩).answers
    [.attach, .power .off, .power .noConsumer, .poll 0, .wait 0, .teardown 0, .power .on, .wait 0] =
      [.number 0, .done, .done, .event (some ⟨.power, .noConsumer⟩), .blocked, .done, .done,
        .failed .disconnected] := rfl

end Scene

end PresentRelay
