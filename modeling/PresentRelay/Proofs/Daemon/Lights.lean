import PresentRelay.Daemon.Station
import PresentRelay.Proofs.Daemon.Operations

/-!
# Display and backlight

What power notices do to the display and the level of the backlight, while neither refuses.
Frames leave both alone, so that what a run made of them depends on its power notices and on
what else happened to the backlight.
-/

set_option autoImplicit false

namespace PresentRelay

def Power.display? : Power → Option DisplayPower
  | .off => some .off
  | .on => some .on
  | .noConsumer => none

namespace DisplayPower

def next (display : DisplayPower) (state : Power) : DisplayPower := state.display?.getD display

def after (display : DisplayPower) (states : List Power) : DisplayPower := states.foldl next display

theorem after_concat (display : DisplayPower) (states : List Power) (state : Power) :
    display.after (states ++ [state]) = (display.after states).next state := by
  rw [after, List.foldl_append]
  rfl

theorem after_of_still {display : DisplayPower} {states : List Power}
    (still : ∀ state ∈ states, display.next state = display) : display.after states = display := by
  induction states with
  | nil => rfl
  | cons state states ih =>
    obtain ⟨first, others⟩ := List.forall_mem_cons.mp still
    rw [after, List.foldl_cons, first]
    exact ih others

theorem next_eq_of_ne {display : DisplayPower} {state : Power}
    (switches : display.next state ≠ display) (other : DisplayPower) :
    other.next state = display.next state := by
  cases state with
  | noConsumer => exact absurd rfl switches
  | off | on => rfl

end DisplayPower

namespace Backlight

variable {β : Type} [Backlight β]

/-- A backlight that can be read, and set to any level, and then read again and so on. -/
def Dependable (backlight : β) : Prop :=
  ∃ works : β → Prop, works backlight ∧ ∀ light, works light →
    (∃ level, Backlight.level light = .ok level) ∧
      ∀ level, ∃ lit, setLevel light level = .ok lit ∧ works lit ∧ Backlight.level lit = .ok level

theorem Dependable.read {backlight : β} (dependable : Dependable backlight) :
    ∃ level, Backlight.level backlight = .ok level := by
  obtain ⟨works, now, kept⟩ := dependable
  exact (kept backlight now).1

theorem Dependable.set {backlight : β} (dependable : Dependable backlight) (level : UInt32) :
    ∃ lit, setLevel backlight level = .ok lit ∧ Dependable lit ∧
      Backlight.level lit = .ok level := by
  obtain ⟨works, now, kept⟩ := dependable
  obtain ⟨lit, set, still, shows⟩ := (kept backlight now).2 level
  exact ⟨lit, set, ⟨works, still, kept⟩, shows⟩

end Backlight

theorem Panel.dependable {panel : Panel} (reads : panel.readFails = false)
    (writes : panel.writeFails = false) : Backlight.Dependable panel := by
  refine ⟨fun panel => panel.readFails = false ∧ panel.writeFails = false, ⟨reads, writes⟩, ?_⟩
  rintro panel ⟨reads, writes⟩
  refine ⟨⟨panel.level, by simp [Backlight.level, read, reads]⟩, fun level => ?_⟩
  exact ⟨panel.write level, by simp [Backlight.setLevel, writes], ⟨reads, writes⟩,
    by simp [Backlight.level, read, write, reads]⟩

namespace PowerPolicy

variable {β : Type} [Backlight β]

def display (policy : PowerPolicy β) : DisplayPower := if policy.displayOn then .on else .off

def level? (policy : PowerPolicy β) : Option UInt32 :=
  policy.backlight.bind fun light => (Backlight.level light).toOption

/-- The level that a backlight which now has some level gets whenever its display comes on. -/
def litLevel (policy : PowerPolicy β) (level : UInt32) : UInt32 :=
  if policy.displayOn then if level = 0 then policy.defaultLevel else level
  else policy.restoredLevel

/-- The backlight, if there is one, is dependable and dimmed just while the display is off. -/
def Works (policy : PowerPolicy β) : Prop :=
  ∀ light, policy.backlight = some light →
    Backlight.Dependable light ∧ policy.dimmed = !policy.displayOn

/-- What a notice makes of a policy. -/
structure Follows (before : PowerPolicy β) (state : Power) (after : PowerPolicy β) : Prop where
  works : after.Works
  display : after.display = before.display.next state
  level : after.level? =
    if before.display.next state = before.display then before.level?
    else before.level?.map fun level => if state = .on then before.litLevel level else 0
  lit : after.level?.map after.litLevel = before.level?.map before.litLevel

theorem follows_still {policy : PowerPolicy β} (works : policy.Works) {state : Power}
    (still : policy.display.next state = policy.display) : policy.Follows state policy :=
  ⟨works, still.symm, by rw [if_pos still], rfl⟩

theorem follows_off {policy : PowerPolicy β} (works : policy.Works)
    (on : policy.displayOn = true) :
    policy.Follows .off { policy with displayOn := false }.dim.1 := by
  obtain ⟨backlight, defaultLevel, savedLevel, dimmed, displayOn⟩ := policy
  obtain rfl : displayOn = true := on
  cases backlight with
  | none =>
    have same : dim ⟨none, defaultLevel, savedLevel, dimmed, false⟩ =
        ((⟨none, defaultLevel, savedLevel, dimmed, false⟩ : PowerPolicy β), []) := by
      cases dimmed <;> rfl
    rw [same]
    exact ⟨nofun, rfl, rfl, rfl⟩
  | some light =>
    obtain ⟨dependable, dimmedEq⟩ := works light rfl
    obtain rfl : dimmed = false := dimmedEq
    obtain ⟨level, read⟩ := dependable.read
    obtain ⟨dark, set, still, shows⟩ := dependable.set 0
    have dims : (dim ⟨some light, defaultLevel, savedLevel, false, false⟩).1 =
        (⟨some dark, defaultLevel, level, true, false⟩ : PowerPolicy β) := by
      simp [dim, levelBefore, read, set]
    rw [dims]
    refine ⟨?_, rfl, ?_, ?_⟩
    · rintro _ ⟨⟩
      exact ⟨still, rfl⟩
    · simp [level?, read, shows, display, DisplayPower.next, Power.display?, Except.toOption]
    · simp [level?, read, shows, litLevel, restoredLevel, Except.toOption]

theorem follows_on {policy : PowerPolicy β} (works : policy.Works)
    (off : policy.displayOn = false) :
    policy.Follows .on { policy with displayOn := true }.restore.1 := by
  obtain ⟨backlight, defaultLevel, savedLevel, dimmed, displayOn⟩ := policy
  obtain rfl : displayOn = false := off
  cases backlight with
  | none =>
    have same : restore ⟨none, defaultLevel, savedLevel, dimmed, true⟩ =
        ((⟨none, defaultLevel, savedLevel, dimmed, true⟩ : PowerPolicy β), []) := by
      cases dimmed <;> rfl
    rw [same]
    exact ⟨nofun, rfl, rfl, rfl⟩
  | some light =>
    obtain ⟨dependable, dimmedEq⟩ := works light rfl
    obtain rfl : dimmed = true := dimmedEq
    obtain ⟨level, read⟩ := dependable.read
    let restored :=
      restoredLevel (⟨some light, defaultLevel, savedLevel, true, true⟩ : PowerPolicy β)
    obtain ⟨lit, set, still, shows⟩ := dependable.set restored
    have restores : (restore ⟨some light, defaultLevel, savedLevel, true, true⟩).1 =
        (⟨some lit, defaultLevel, savedLevel, false, true⟩ : PowerPolicy β) := by
      simp only [restore, set, restored]
    rw [restores]
    refine ⟨?_, rfl, ?_, ?_⟩
    · rintro _ ⟨⟩
      exact ⟨still, rfl⟩
    · simp [level?, read, shows, display, DisplayPower.next, Power.display?, Except.toOption]
      rfl
    · -- the default comes back as itself, even if it is zero
      by_cases zero : savedLevel = 0 <;>
        simp [level?, read, shows, litLevel, restored, restoredLevel, zero, Except.toOption]

theorem transition_still {policy : PowerPolicy β} {state : Power}
    (still : policy.display.next state = policy.display) :
    policy.transition state =
      (policy, if state = .noConsumer then .invalidateCache else .none, []) := by
  cases state with
  | noConsumer => rfl
  | off | on =>
    cases on : policy.displayOn <;>
      simp_all [display, transition, DisplayPower.next, Power.display?]

theorem transition_off {policy : PowerPolicy β} (on : policy.displayOn = true) :
    policy.transition .off = (({ policy with displayOn := false }.dim).1, .displayOff,
      ({ policy with displayOn := false }.dim).2) :=
  if_pos on

theorem transition_on {policy : PowerPolicy β} (off : policy.displayOn = false) :
    policy.transition .on = (({ policy with displayOn := true }.restore).1, .displayOn,
      ({ policy with displayOn := true }.restore).2) :=
  if_neg (Bool.eq_false_iff.mp off)

omit [Backlight β] in
theorem turn_cases (policy : PowerPolicy β) (state : Power) :
    policy.display.next state = policy.display ∨ (state = .off ∧ policy.displayOn = true) ∨
      (state = .on ∧ policy.displayOn = false) := by
  cases state with
  | noConsumer => exact .inl rfl
  | off | on =>
    cases on : policy.displayOn <;> simp [display, on, DisplayPower.next, Power.display?]

theorem transition_cases {policy : PowerPolicy β} (works : policy.Works) (state : Power) :
    policy.Follows state (policy.transition state).1 ∧
      ((policy.display.next state = policy.display ∧
          (policy.transition state).2.1 = if state = .noConsumer then .invalidateCache else .none) ∨
        (state = .off ∧ (policy.transition state).2.1 = .displayOff) ∨
        (state = .on ∧ (policy.transition state).2.1 = .displayOn)) := by
  obtain still | ⟨rfl, on⟩ | ⟨rfl, off⟩ := policy.turn_cases state
  · rw [transition_still still]
    exact ⟨follows_still works still, .inl ⟨still, rfl⟩⟩
  · rw [transition_off on]
    exact ⟨follows_off works on, .inr (.inl ⟨rfl, rfl⟩)⟩
  · rw [transition_on off]
    exact ⟨follows_on works off, .inr (.inr ⟨rfl, rfl⟩)⟩

end PowerPolicy

namespace Daemon

variable {β : Type}

def display (daemon : Daemon β) : Option DisplayPower := daemon.compositor.powers.getLast?

def cachedIds (daemon : Daemon β) : List UInt32 := (daemon.cache.slots.filterMap id).map Prod.fst

/-! ## Frames -/

/-- The part of a daemon that frames leave alone: the policy, and what the compositor refuses
and was told of the display. -/
def lights (daemon : Daemon β) : PowerPolicy β × List CompositorRequest × List DisplayPower :=
  (daemon.policy, daemon.compositor.refused, daemon.compositor.powers)

theorem lights_release (daemon : Daemon β) (serial : Serial) :
    (daemon.release serial).lights = daemon.lights := by
  unfold release
  split <;> rfl

theorem lights_emptyCache (daemon : Daemon β) : daemon.emptyCache.lights = daemon.lights := by
  refine emptyCache_induction (motive := fun other => other.lights = daemon.lights) rfl ?_
  intro other serial kept
  exact (lights_release other serial).trans kept

theorem lights_shutdown (daemon : Daemon β) : daemon.shutdown.lights = daemon.lights := by
  obtain ⟨-, same⟩ | ⟨serial, -, same⟩ := daemon.shutdown_cases
  · rw [same, lights_emptyCache]
  · rw [same, lights_release]
    exact daemon.lights_emptyCache

theorem lights_fetchBuffer {daemon fetched : Daemon β} {exported : Export} {serial : Serial}
    {hit : Bool} (success : daemon.fetchBuffer exported = .ok (fetched, serial, hit)) :
    fetched.lights = daemon.lights := by
  unfold fetchBuffer at success
  split at success
  · cases success
    rfl
  · split at success
    · cases success
    · next imported new frame =>
      cases success
      obtain ⟨planes, metadata, allocator, -, -, rfl⟩ := importFrame_eq_ok frame
      cases (daemon.cache.insert exported.id serial).2 with
      | none => rfl
      | some evicted => exact lights_release _ evicted

theorem lights_bindLayer (daemon : Daemon β) (serial : Serial) :
    (daemon.bindLayer serial).1.lights = daemon.lights := by
  unfold bindLayer
  split
  · rfl
  · split
    · rfl
    · next compositor done =>
      obtain ⟨-, answer⟩ := Compositor.allow_eq_ok.mp done
      cases answer
      rfl

theorem lights_validateLayer (daemon : Daemon β) :
    daemon.validateLayer.1.lights = daemon.lights := by
  have validated {compositor after : Compositor} {changes : Bool}
      (success : compositor.validate = .ok (after, changes)) :
      after.refused = compositor.refused ∧ after.powers = compositor.powers := by
    obtain ⟨-, answer⟩ := Compositor.allow_eq_ok.mp success
    cases answer
    exact ⟨rfl, rfl⟩
  unfold validateLayer
  split
  · split
    · rfl
    · next after done =>
      obtain ⟨refused, powers⟩ := validated done
      simp only [lights, Daemon.validated, refused, powers]
    · next after done =>
      obtain ⟨refused, powers⟩ := validated done
      split
      · simp only [lights, refused, powers]
      · next accepted agreed =>
        obtain ⟨-, answer⟩ := Compositor.allow_eq_ok.mp agreed
        cases answer
        simp only [lights, Daemon.validated, refused, powers]
  · rfl

theorem lights_prepareLayer (daemon : Daemon β) (serial : Serial) :
    (daemon.prepareLayer serial).1.lights = daemon.lights := by
  have bound := daemon.lights_bindLayer serial
  unfold prepareLayer
  split
  · next layered failure done => rwa [done] at bound
  · next layered done =>
    rw [done] at bound
    exact layered.lights_validateLayer.trans bound

theorem lights_presentLayer (daemon : Daemon β) : daemon.presentLayer.1.lights = daemon.lights := by
  unfold presentLayer
  split
  · rfl
  · next compositor done =>
    obtain ⟨-, answer⟩ := Compositor.allow_eq_ok.mp done
    split at answer
    · cases answer
      rfl
    · cases answer

theorem lights_showFrame (daemon : Daemon β) (id : UInt32) (serial : Serial) (hit : Bool) :
    (daemon.showFrame id serial hit).1.lights = daemon.lights := by
  have prepared := daemon.lights_prepareLayer serial
  obtain dropped | ⟨-, after, presented, shown⟩ := daemon.showFrame_cases id serial hit
  · rw [dropped, lights_release]
    exact prepared
  · have kept := (daemon.prepareLayer serial).1.lights_presentLayer
    rw [presented] at kept
    rw [shown, ← prepared, ← kept]
    cases after.lastPresented with
    | none => rfl
    | some previous => exact lights_release _ previous

theorem lights_presentExport (daemon : Daemon β) (exported : Export) :
    (daemon.presentExport exported).1.lights = daemon.lights := by
  unfold presentExport
  split
  · rfl
  · split
    · rfl
    · next fetched serial hit success =>
      exact (fetched.lights_showFrame exported.id serial hit).trans (lights_fetchBuffer success)

/-! ## Power -/

theorem cachedIds_emptyCache (daemon : Daemon β) : daemon.emptyCache.cachedIds = [] := by
  obtain ⟨cache, -⟩ := daemon.after_emptyCache
  rw [cachedIds, cache]
  simp [BufferCache.clear]

theorem setDisplayPower_eq {daemon : Daemon β} (obeyed : .power ∉ daemon.compositor.refused)
    (power : DisplayPower) :
    (daemon.setDisplayPower power).1 =
      { daemon with compositor.powers := daemon.compositor.powers ++ [power] } := by
  have taken : daemon.compositor.setPower power =
      .ok { daemon.compositor with powers := daemon.compositor.powers ++ [power] } := if_neg obeyed
  rw [setDisplayPower, taken]

variable [Backlight β]

structure Working (daemon : Daemon β) : Prop where
  obeyed : .power ∉ daemon.compositor.refused
  shown : daemon.display = some daemon.policy.display
  policy : daemon.policy.Works

theorem Working.same {before after : Daemon β} (working : before.Working)
    (same : after.lights = before.lights) : after.Working := by
  obtain ⟨policy, others⟩ := Prod.mk.inj same
  obtain ⟨refused, powers⟩ := Prod.mk.inj others
  exact ⟨refused ▸ working.obeyed, by rw [display, powers, policy]; exact working.shown,
    policy ▸ working.policy⟩

structure Heeds (before : Daemon β) (state : Power) (after : Daemon β) : Prop where
  working : after.Working
  follows : before.policy.Follows state after.policy
  cachedIds : after.cachedIds = if state = .noConsumer then [] else before.cachedIds

theorem Working.heeds {daemon : Daemon β} (working : daemon.Working) (state : Power) :
    daemon.Heeds state (daemon.handlePower state).1 := by
  obtain ⟨obeyed, shown, works⟩ := working
  obtain ⟨follows, action⟩ := PowerPolicy.transition_cases works state
  let noted : Daemon β :=
    { daemon with policy := (daemon.policy.transition state).1, revalidate := true }
  have turned (power : DisplayPower) (asked : state.display? = some power)
      (told : (daemon.handlePower state).1 = (noted.setDisplayPower power).1) :
      daemon.Heeds state (daemon.handlePower state).1 := by
    have obeys : .power ∉ noted.compositor.refused := obeyed
    have speaks : state ≠ .noConsumer := by
      rintro rfl
      cases asked
    rw [told, setDisplayPower_eq obeys]
    refine ⟨⟨obeyed, ?_, follows.works⟩, follows, (if_neg speaks).symm⟩
    rw [follows.display, DisplayPower.next, asked]
    exact List.getLast?_concat
  obtain ⟨still, same⟩ | ⟨rfl, same⟩ | ⟨rfl, same⟩ := action
  · have kept : noted.Working :=
      ⟨obeyed, by rw [follows.display, still]; exact shown, follows.works⟩
    by_cases gone : state = .noConsumer
    · have handled : (daemon.handlePower state).1 = noted.emptyCache := by
        simp only [handlePower, same, if_pos gone, noted]
      have lights := noted.lights_emptyCache
      have policy : noted.emptyCache.policy = noted.policy := (Prod.mk.inj lights).1
      rw [handled]
      exact ⟨kept.same lights, policy.symm ▸ follows,
        noted.cachedIds_emptyCache.trans (if_pos gone).symm⟩
    · have handled : (daemon.handlePower state).1 = noted := by
        simp only [handlePower, same, if_neg gone, noted]
      rw [handled]
      exact ⟨kept, follows, (if_neg gone).symm⟩
  · exact turned .off rfl (by simp only [handlePower, same, noted])
  · exact turned .on rfl (by simp only [handlePower, same, noted])

/-! ## Runs -/

/-- A step after which display and backlight still do as they are told. -/
def Step.Calm : Step β → Prop
  | .refuseRequest request refused => request = .power → refused ≠ true
  | .backlight change => ∀ light, Backlight.Dependable light → Backlight.Dependable (change light)
  | _ => True

theorem Working.step {daemon : Daemon β} (working : daemon.Working) {step : Step β}
    (calm : step.Calm) : (daemon.step step).daemon.Working := by
  cases step with
  | power notice => exact (working.heeds notice).working
  | frame exported => exact working.same (daemon.lights_presentExport exported)
  | expectValidation changes | refuseImports refused | loseFiles unreadable =>
    exact ⟨working.obeyed, working.shown, working.policy⟩
  | refuseRequest request refused =>
    have obeyed : .power ∉ daemon.compositor.refused.filter (· ≠ request) := fun refuses =>
      working.obeyed (List.mem_filter.mp refuses).1
    refine ⟨?_, working.shown, working.policy⟩
    cases refused with
    | false => exact obeyed
    | true =>
      intro refuses
      obtain same | refuses := List.mem_cons.mp refuses
      · exact calm same.symm rfl
      · exact obeyed refuses
  | backlight change =>
    refine ⟨working.obeyed, working.shown, ?_⟩
    intro light there
    obtain ⟨old, found, rfl⟩ := Option.map_eq_some_iff.mp there
    obtain ⟨dependable, dimmed⟩ := working.policy old found
    exact ⟨calm old dependable, dimmed⟩
  | shutdown => exact working.same daemon.lights_shutdown

theorem Working.steps {daemon : Daemon β} (working : daemon.Working) {run : List (Step β)}
    (calm : ∀ step ∈ run, step.Calm) : (daemon.steps run).Working := by
  induction run generalizing daemon with
  | nil => exact working
  | cons step run ih =>
    obtain ⟨first, others⟩ := List.forall_mem_cons.mp calm
    exact ih (working.step first) others

end Daemon

namespace Station

variable {β : Type}

theorem lights_startDisplay {feed : Feed} {allocator : Allocator} {compositor : Compositor}
    {backlight : Option β} {config : DaemonConfig} {display : Display} {desc : BufferDesc}
    {station : Station β}
    (started : (startDisplay feed allocator compositor backlight config display desc).1 =
      .running station) :
    compositor.setPower .on = .ok station.daemon.compositor ∧
      station.daemon.policy = .new backlight config.defaultBacklightLevel := by
  unfold startDisplay at started
  cases turned : compositor.setPower .on with
  | error failure =>
    rw [turned] at started
    cases started
  | ok lit =>
    rw [turned] at started
    dsimp only at started
    cases told : (feed.configure display.mode).answer with
    | error error =>
      rw [told] at started
      cases started
    | ok changed =>
      rw [told] at started
      cases started
      exact ⟨rfl, rfl⟩

theorem lights_start {feed : Feed} {start : Allocator} {compositor : Compositor}
    {backlight : Option β} {config : DaemonConfig} {station : Station β}
    (started : (Station.start feed start compositor backlight config).1 = .running station) :
    compositor.setPower .on = .ok station.daemon.compositor ∧
      station.daemon.policy = .new backlight config.defaultBacklightLevel := by
  unfold Station.start at started
  split at started
  · cases started
  · dsimp only at started
    split at started
    · cases started
    · split at started
      · cases started
      · exact lights_startDisplay started

theorem working_start [Backlight β] {feed : Feed} {start : Allocator} {compositor : Compositor}
    {backlight : Option β} {config : DaemonConfig} {station : Station β}
    (started : (Station.start feed start compositor backlight config).1 = .running station)
    (dependable : ∀ light, backlight = some light → Backlight.Dependable light) :
    station.daemon.Working := by
  obtain ⟨turned, policy⟩ := lights_start started
  obtain ⟨obeyed, answer⟩ := Compositor.allow_eq_ok.mp turned
  have lit := Except.ok.inj answer
  refine ⟨?_, ?_, ?_⟩
  · rw [← lit]
    exact obeyed
  · rw [Daemon.display, ← lit, policy]
    exact List.getLast?_concat
  · rw [policy]
    intro light there
    exact ⟨dependable light there, rfl⟩

end Station

end PresentRelay
