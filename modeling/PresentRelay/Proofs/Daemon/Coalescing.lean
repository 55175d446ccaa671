import Mathlib.Data.List.Induction
import PresentRelay.Proofs.Daemon.Lights
import PresentRelay.Proofs.Events.Deliveries

/-!
# Power states told together

Between two waits of the daemon several power states can be entered; it is told of the last
alone.  `Heard` says what a daemon is like that was told of each.  Where the two agree on the
display, on the level of its backlight and on what is cached, and where they do not, is
`coalesced_power_exact`.
-/

set_option autoImplicit false

namespace PresentRelay

namespace Station

variable {β : Type} [Backlight β]

def hear (station : Station β) (states : List Power) : Daemon β :=
  (states.foldl (fun station state => (station.handleEvent ⟨.power, state⟩).station) station).daemon

theorem hear_concat (station : Station β) (states : List Power) (state : Power) :
    station.hear (states ++ [state]) = ((station.hear states).handlePower state).1 := by
  rw [hear, List.foldl_append]
  rfl

end Station

namespace DisplayPower

theorem switched_concat {display : DisplayPower} {states : List Power} {state : Power} :
    (∃ told ∈ states ++ [state], display.next told ≠ display) ↔
      (display.after states).next state ≠ display.after states ∨
        ∃ told ∈ states, display.next told ≠ display := by
  by_cases before : ∃ told ∈ states, display.next told ≠ display
  · obtain ⟨told, member, switches⟩ := before
    exact ⟨fun _ => .inr ⟨told, member, switches⟩,
      fun _ => ⟨told, List.mem_append_left _ member, switches⟩⟩
  · have still : display.after states = display := after_of_still (by simpa using before)
    rw [still]
    constructor
    · rintro ⟨told, member, switches⟩
      obtain member | member := List.mem_append.mp member
      · exact absurd ⟨told, member, switches⟩ before
      · exact .inl (List.mem_singleton.mp member ▸ switches)
    · rintro (switches | earlier)
      · exact ⟨state, List.mem_append_right _ (List.mem_singleton_self _), switches⟩
      · exact absurd earlier before

theorem next_eq_on {display : DisplayPower} {state : Power}
    (switches : display.next state ≠ display) : display.next state = .on ↔ state = .on := by
  cases state with
  | noConsumer => exact absurd rfl switches
  | off => simp [next, Power.display?]
  | on => simp [next, Power.display?]

end DisplayPower

namespace Daemon

variable {β : Type} [Backlight β]

/-- What power states, told one by one, make of a daemon that works. -/
structure Heard (before : Daemon β) (states : List Power) (after : Daemon β) : Prop where
  working : after.Working
  display : after.policy.display = before.policy.display.after states
  level : after.policy.level? =
    if ∃ state ∈ states, before.policy.display.next state ≠ before.policy.display then
      before.policy.level?.map fun level =>
        if before.policy.display.after states = .on then before.policy.litLevel level else 0
    else before.policy.level?
  lit : after.policy.level?.map after.policy.litLevel =
    before.policy.level?.map before.policy.litLevel
  cachedIds : after.cachedIds = if .noConsumer ∈ states then [] else before.cachedIds

theorem Heard.heed {before middle after : Daemon β} {states : List Power} {state : Power}
    (heard : before.Heard states middle) (heeds : middle.Heeds state after) :
    before.Heard (states ++ [state]) after where
  working := heeds.working
  display := by rw [heeds.follows.display, heard.display, DisplayPower.after_concat]
  level := by
    rw [heeds.follows.level, heard.display]
    by_cases still : (before.policy.display.after states).next state =
        before.policy.display.after states
    · -- the display stays as it was after the states before
      have same : (∃ told ∈ states ++ [state],
            before.policy.display.next told ≠ before.policy.display) ↔
          ∃ told ∈ states, before.policy.display.next told ≠ before.policy.display := by
        rw [DisplayPower.switched_concat]
        simp [still]
      rw [if_pos still, heard.level]
      simp only [same, DisplayPower.after_concat, still]
    · have switched : ∃ told ∈ states ++ [state],
          before.policy.display.next told ≠ before.policy.display :=
        DisplayPower.switched_concat.mpr (.inl still)
      have lit (known : middle.policy.level?.map middle.policy.litLevel =
          before.policy.level?.map before.policy.litLevel) :
          middle.policy.level?.map
              (fun level => if state = .on then middle.policy.litLevel level else 0) =
            before.policy.level?.map
              fun level => if state = .on then before.policy.litLevel level else 0 := by
        have told := congrArg (Option.map fun level => if state = .on then level else 0) known
        simpa only [Option.map_map, Function.comp_def] using told
      rw [if_neg still, if_pos switched, lit heard.lit]
      simp only [DisplayPower.after_concat, DisplayPower.next_eq_on still]
  lit := heeds.follows.lit.trans heard.lit
  cachedIds := by
    rw [heeds.cachedIds, heard.cachedIds]
    by_cases gone : state = .noConsumer
    · simp [gone]
    · simp [gone, Ne.symm gone]

theorem Working.heard {daemon : Daemon β} (working : daemon.Working) (feed : Feed)
    (states : List Power) :
    daemon.Heard states ((⟨feed, daemon⟩ : Station β).hear states) := by
  induction states using List.reverseRecOn with
  | nil => exact ⟨working, rfl, (if_neg (by simp)).symm, rfl, (if_neg (by simp)).symm⟩
  | append_singleton states state ih =>
    rw [Station.hear_concat]
    exact ih.heed (ih.working.heeds state)

end Daemon

/-! ## The event -/

namespace Scene

theorem notices_append (scene : Scene) (steps more : List Step) :
    scene.notices (steps ++ more) = scene.notices steps ++ (scene.run steps).notices more := by
  induction steps generalizing scene with
  | nil => rfl
  | cons step steps ih => rw [List.cons_append, notices, ih, notices, List.append_assoc, run_cons]

theorem consumers_run (scene : Scene) (steps : List Step) :
    (scene.run steps).relay.consumers =
      (scene.notices steps).foldl Consumers.after scene.relay.consumers := by
  induction steps generalizing scene with
  | nil => rfl
  | cons step steps ih =>
    rw [run_cons, ih, consumers_step, notices, List.foldl_append]
    cases scene.notice? step <;> rfl

theorem foldl_entered (link : Nat) (since : List Notice) (states : List Power) :
    (states.map Notice.entered).foldl (LinkStory.after link) (.attached since) =
      .attached (since ++ states.map .entered) := by
  induction states generalizing since with
  | nil => simp
  | cons state states ih =>
    have told : (LinkStory.attached since).after link (.entered state) =
        .attached (since ++ [.entered state]) := by simp [LinkStory.after]
    rw [List.map_cons, List.foldl_cons, told, ih, List.append_assoc, List.singleton_append]

/-- However many power states were entered since the last delivery, the next is one event
with the last of them. -/
theorem wait_entered {mode : Mode} {steps more : List Step} {link : Nat}
    (delivered : (Scene.new mode).story link steps = .attached []) {before : List Power}
    {last : Power} (entered : ((Scene.new mode).run steps).notices more =
      (before ++ [last]).map .entered) :
    (((Scene.new mode).run (steps ++ more)).step (.wait link)).2 =
      .event (some ⟨.power, last⟩) := by
  have notices : (Scene.new mode).notices (steps ++ more) =
      (Scene.new mode).notices steps ++ (before ++ [last]).map .entered := by
    rw [notices_append, entered]
  have story : (Scene.new mode).story link (steps ++ more) =
      .attached ((before ++ [last]).map .entered) := by
    rw [Scene.story, notices, List.foldl_append, ← Scene.story, delivered, foldl_entered]
    rfl
  have power : ((Scene.new mode).run (steps ++ more)).relay.power = last := by
    have told := congrArg Consumers.power ((Scene.new mode).consumers_run (steps ++ more))
    rw [notices, List.map_append, ← List.append_assoc, List.foldl_append] at told
    exact told.trans (Consumers.power_tell _ _)
  have tells := tells_run mode (steps ++ more) link
  rw [story] at tells
  have flags : EventFlags.ofNotices ((before ++ [last]).map .entered) = .power := by
    simp [EventFlags.ofNotices, EventFlags.power, Notice.isEntry]
  rw [answer_wait, poll_of_tells tells, power, LinkStory.due, flags]
  rfl

end Scene

/-! ## Where one event is as good as several -/

namespace Daemon

variable {β : Type} [Backlight β] {daemon together apart : Daemon β} {before : List Power}
  {last : Power}

theorem same_display_iff (one : daemon.Heard [last] together)
    (all : daemon.Heard (before ++ [last]) apart) :
    together.display = apart.display ↔
      (last = .noConsumer → daemon.policy.display.after before = daemon.policy.display) := by
  rw [one.working.shown, all.working.shown, one.display, all.display, DisplayPower.after_concat,
    Option.some_inj]
  cases last with
  | noConsumer =>
    exact ⟨fun same _ => same.symm, fun same => (same rfl).symm⟩
  | off | on => exact ⟨fun _ => nofun, fun _ => rfl⟩

theorem same_level_iff (one : daemon.Heard [last] together)
    (all : daemon.Heard (before ++ [last]) apart) :
    together.policy.level? = apart.policy.level? ↔
      ((∃ state ∈ before, daemon.policy.display.next state ≠ daemon.policy.display) →
        daemon.policy.display.next last ≠ daemon.policy.display ∨
          ∀ level, daemon.policy.level? = some level →
            level = if daemon.policy.display.after (before ++ [last]) = .on then
              daemon.policy.litLevel level else 0) := by
  have first : (∃ state ∈ [last], daemon.policy.display.next state ≠ daemon.policy.display) ↔
      daemon.policy.display.next last ≠ daemon.policy.display := by simp
  rw [one.level, all.level]
  by_cases turns : daemon.policy.display.next last ≠ daemon.policy.display
  · -- the last state alone says what becomes of the light
    have switched : ∃ state ∈ before ++ [last],
        daemon.policy.display.next state ≠ daemon.policy.display :=
      ⟨last, List.mem_append_right _ (List.mem_singleton_self _), turns⟩
    have same : daemon.policy.display.after (before ++ [last]) =
        daemon.policy.display.after [last] := by
      rw [DisplayPower.after_concat]
      exact DisplayPower.next_eq_of_ne turns _
    rw [if_pos (first.mpr turns), if_pos switched, same]
    exact ⟨fun _ _ => .inl turns, fun _ => rfl⟩
  · rw [if_neg (first.not.mpr turns)]
    by_cases switched : ∃ state ∈ before,
        daemon.policy.display.next state ≠ daemon.policy.display
    · obtain ⟨state, member, switches⟩ := switched
      have among : ∃ state ∈ before ++ [last],
          daemon.policy.display.next state ≠ daemon.policy.display :=
        ⟨state, List.mem_append_left _ member, switches⟩
      rw [if_pos among]
      cases found : daemon.policy.level? with
      | none => exact ⟨fun _ _ => .inr nofun, fun _ => rfl⟩
      | some level =>
        rw [Option.map_some, Option.some_inj]
        constructor
        · rintro same -
          right
          rintro _ ⟨⟩
          exact same
        · intro known
          obtain turned | known := known ⟨state, member, switches⟩
          · exact absurd turned turns
          · exact known level rfl
    · have still : ¬ ∃ state ∈ before ++ [last],
          daemon.policy.display.next state ≠ daemon.policy.display := by
        rintro ⟨state, member, switches⟩
        obtain member | member := List.mem_append.mp member
        · exact switched ⟨state, member, switches⟩
        · exact turns (List.mem_singleton.mp member ▸ switches)
      rw [if_neg still]
      exact ⟨fun _ earlier => absurd earlier switched, fun _ => rfl⟩

theorem same_cachedIds_iff (one : daemon.Heard [last] together)
    (all : daemon.Heard (before ++ [last]) apart) :
    together.cachedIds = apart.cachedIds ↔
      (.noConsumer ∈ before → last = .noConsumer ∨ daemon.cachedIds = []) := by
  rw [one.cachedIds, all.cachedIds]
  by_cases gone : last = .noConsumer
  · simp [gone]
  · by_cases earlier : .noConsumer ∈ before
    · simp [gone, earlier, Ne.symm gone]
    · simp [earlier, Ne.symm gone]

end Daemon

namespace Station

variable {β : Type} [Backlight β]

/-- Power states that are entered between two waits reach the daemon as one event with the
last of them.  A daemon whose display and backlight did as they were told all along then has
what it would have if it had been told of each:
its display, unless the last state does not speak of it and those before changed it;
the level of its backlight, unless those before turned the display and the last did not, and
the level is not the one that this leads to;
the frames in its cache, unless one before the last, but not that, said that the producers
were gone, and something was cached. -/
theorem coalesced_power_exact {feed : Feed} {start : Allocator} {compositor : Compositor}
    {backlight : Option β} {config : DaemonConfig} {station : Station β}
    (started : (Station.start feed start compositor backlight config).1 = .running station)
    (dependable : ∀ light, backlight = some light → Backlight.Dependable light)
    {run : List (Daemon.Step β)} (calm : ∀ step ∈ run, step.Calm)
    {mode : Mode} {steps more : List Scene.Step} {link : Nat}
    (delivered : (Scene.new mode).story link steps = .attached [])
    {before : List Power} {last : Power}
    (entered : ((Scene.new mode).run steps).notices more = (before ++ [last]).map .entered) :
    let daemon := station.daemon.steps run
    let display := daemon.policy.display
    let together := ({ station with daemon }.handleEvent ⟨.power, last⟩).station.daemon
    let apart := { station with daemon }.hear (before ++ [last])
    (((Scene.new mode).run (steps ++ more)).step (.wait link)).2 =
        .event (some ⟨.power, last⟩) ∧
    (together.display = apart.display ↔
      (last = .noConsumer → display.after before = display)) ∧
    (together.policy.level? = apart.policy.level? ↔
      ((∃ state ∈ before, display.next state ≠ display) → display.next last ≠ display ∨
        ∀ level, daemon.policy.level? = some level →
          level = if display.after (before ++ [last]) = .on then
            daemon.policy.litLevel level else 0)) ∧
    (together.cachedIds = apart.cachedIds ↔
      (.noConsumer ∈ before → last = .noConsumer ∨ daemon.cachedIds = [])) := by
  intro daemon display together apart
  have working : daemon.Working := (working_start started dependable).steps calm
  have one : daemon.Heard [last] together := working.heard station.feed [last]
  have all : daemon.Heard (before ++ [last]) apart :=
    working.heard station.feed (before ++ [last])
  exact ⟨Scene.wait_entered delivered entered, Daemon.same_display_iff one all,
    Daemon.same_level_iff one all, Daemon.same_cachedIds_iff one all⟩

/-- A frame is cached while the last producer closes and another turns the display on.  The
daemon is told of the display alone, which is as it was, and keeps the frame. -/
theorem coalesced_power_exact_next_producer :
    ∃ station : Station Panel,
      (Station.start ⟨.new .default, .link 0 []⟩ (.new 1920) (.new (.ofMode .default))
        (some (.new 200)) .default).1 = .running station ∧
      (((Scene.new .default).run ([.attach] ++ [.power .noConsumer, .power .on])).step
        (.wait 0)).2 = .event (some ⟨.power, .on⟩) ∧
      let daemon := station.daemon.steps [.frame ⟨1, [some ⟨1, []⟩, some ⟨9, [7]⟩]⟩]
      let together := ({ station with daemon }.handleEvent ⟨.power, .on⟩).station.daemon
      let apart := { station with daemon }.hear [.noConsumer, .on]
      together.display = apart.display ∧ together.policy.level? = apart.policy.level? ∧
        together.cachedIds ≠ apart.cachedIds := by
  have started : (Station.start ⟨.new .default, .link 0 []⟩ (.new 1920) (.new (.ofMode .default))
      (some (Panel.new 200)) .default).1 = .running _ := rfl
  refine ⟨_, started, ?_⟩
  have calm : ∀ step ∈ [(.frame ⟨1, [some ⟨1, []⟩, some ⟨9, [7]⟩]⟩ : Daemon.Step Panel)],
      step.Calm := by
    intro step member
    obtain rfl := List.mem_singleton.mp member
    trivial
  have dependable : ∀ light : Panel, some (Panel.new 200) = some light →
      Backlight.Dependable light := by
    rintro _ ⟨⟩
    exact Panel.dependable rfl rfl
  have delivered : (Scene.new .default).story 0 [.attach] = .attached [] := by decide
  have entered : ((Scene.new .default).run [.attach]).notices [.power .noConsumer, .power .on] =
      ([Power.noConsumer] ++ [Power.on]).map .entered := by decide
  obtain ⟨event, display, level, cachedIds⟩ :=
    coalesced_power_exact started dependable calm delivered entered
  refine ⟨event, display.mpr nofun, level.mpr ?_, ?_⟩
  · decide
  · exact cachedIds.not.mpr (by decide)

/-- One event is not always as good as several: a cached frame outlives its producer; a
display stays on, and lit, that was turned off before its producer went away; and a level of
zero is not replaced by the default. -/
theorem coalesced_power_not_transparent :
    ∃ station : Station Panel,
      (Station.start ⟨.new .default, .link 0 []⟩ (.new 1920) (.new (.ofMode .default))
        (some (.new 200)) .default).1 = .running station ∧
      let told (states : List Power) :=
        (((Scene.new .default).run (.attach :: states.map .power)).step (.wait 0)).2
      let shown := { station with
        daemon := station.daemon.steps [.frame ⟨1, [some ⟨1, []⟩, some ⟨9, [7]⟩]⟩] }
      let dark := { station with
        daemon := station.daemon.steps [.backlight fun panel => panel.write 0] }
      (told [.noConsumer, .on] = .event (some ⟨.power, .on⟩) ∧
        (shown.handleEvent ⟨.power, .on⟩).station.daemon.cachedIds = [1] ∧
        (shown.hear [.noConsumer, .on]).cachedIds = []) ∧
      (told [.off, .noConsumer] = .event (some ⟨.power, .noConsumer⟩) ∧
        (shown.handleEvent ⟨.power, .noConsumer⟩).station.daemon.display = some .on ∧
        (shown.hear [.off, .noConsumer]).display = some .off) ∧
      (told [.off, .on] = .event (some ⟨.power, .on⟩) ∧
        (dark.handleEvent ⟨.power, .on⟩).station.daemon.policy.level? = some 0 ∧
        (dark.hear [.off, .on]).policy.level? = some 5) := by
  exact ⟨_, rfl, ⟨rfl, rfl, rfl⟩, ⟨rfl, rfl, rfl⟩, ⟨rfl, rfl, rfl⟩⟩

end Station

end PresentRelay
