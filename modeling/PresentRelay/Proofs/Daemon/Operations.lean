import PresentRelay.Daemon.Run

/-!
# What the operations of a daemon come to

For each operation: what it can come to, and what it leaves alone of the buffers that the
daemon holds and of the layer that its compositor shows.
-/

set_option autoImplicit false

namespace PresentRelay

namespace Daemon

variable {β : Type} {daemon : Daemon β}

/-! ## What stays the same -/

/-- Two daemons that hold the same buffers of the same allocator. -/
structure SameBuffers (before after : Daemon β) : Prop where
  allocator : after.allocator = before.allocator
  cache : after.cache = before.cache
  lastPresented : after.lastPresented = before.lastPresented

/-- Two daemons whose compositors have the same buffer bound and presented the same. -/
structure SameScreen (before after : Daemon β) : Prop where
  lastBound : after.lastBound = before.lastBound
  bound : after.compositor.bound = before.compositor.bound
  binds : after.compositor.binds = before.compositor.binds
  presents : after.compositor.presents = before.compositor.presents

structure Quiet (before after : Daemon β) : Prop extends
  SameBuffers before after, SameScreen before after

theorem SameBuffers.trans {first second third : Daemon β} (earlier : SameBuffers first second)
    (later : SameBuffers second third) : SameBuffers first third :=
  ⟨later.allocator.trans earlier.allocator, later.cache.trans earlier.cache,
    later.lastPresented.trans earlier.lastPresented⟩

theorem SameScreen.trans {first second third : Daemon β} (earlier : SameScreen first second)
    (later : SameScreen second third) : SameScreen first third :=
  ⟨later.lastBound.trans earlier.lastBound, later.bound.trans earlier.bound,
    later.binds.trans earlier.binds, later.presents.trans earlier.presents⟩

theorem Quiet.refl (daemon : Daemon β) : Quiet daemon daemon :=
  ⟨⟨rfl, rfl, rfl⟩, rfl, rfl, rfl, rfl⟩

theorem Quiet.trans {first second third : Daemon β} (earlier : Quiet first second)
    (later : Quiet second third) : Quiet first third :=
  ⟨earlier.toSameBuffers.trans later.toSameBuffers, earlier.toSameScreen.trans later.toSameScreen⟩

theorem quiet_countDropped (daemon : Daemon β) : Quiet daemon daemon.countDropped :=
  ⟨⟨rfl, rfl, rfl⟩, rfl, rfl, rfl, rfl⟩

/-! ## Buffers -/

theorem holds_iff {serial : Serial} :
    daemon.holds serial = true ↔
      serial ∈ daemon.cache.buffers ∨ daemon.lastPresented = some serial := by
  simp [holds]

theorem SameBuffers.holds {before after : Daemon β} (same : SameBuffers before after)
    (serial : Serial) : after.holds serial = before.holds serial := by
  rw [Daemon.holds, same.cache, same.lastPresented]
  rfl

theorem cache_release (daemon : Daemon β) (serial : Serial) :
    (daemon.release serial).cache = daemon.cache := by
  unfold release
  split <;> rfl

theorem lastPresented_release (daemon : Daemon β) (serial : Serial) :
    (daemon.release serial).lastPresented = daemon.lastPresented := by
  unfold release
  split <;> rfl

theorem next_release (daemon : Daemon β) (serial : Serial) :
    (daemon.release serial).allocator.next = daemon.allocator.next := by
  unfold release
  split <;> rfl

theorem imports_release (daemon : Daemon β) (serial : Serial) :
    (daemon.release serial).allocator.imports = daemon.allocator.imports := by
  unfold release
  split <;> rfl

theorem sameScreen_release (daemon : Daemon β) (serial : Serial) :
    SameScreen daemon (daemon.release serial) := by
  unfold release
  split <;> exact ⟨rfl, rfl, rfl, rfl⟩

/-- What holds once the cache is cleared, and is kept by releasing, holds of an emptied cache. -/
theorem emptyCache_induction {motive : Daemon β → Prop}
    (cleared : motive { daemon with cache := daemon.cache.clear.1, lastBound := none })
    (release : ∀ other serial, motive other → motive (other.release serial)) :
    motive daemon.emptyCache :=
  List.foldlRecOn _ _ cleared fun other kept serial _ => release other serial kept

theorem shutdown_cases (daemon : Daemon β) :
    (daemon.emptyCache.lastPresented = none ∧ daemon.shutdown = daemon.emptyCache) ∨
      ∃ serial, daemon.emptyCache.lastPresented = some serial ∧
        daemon.shutdown = { daemon.emptyCache with lastPresented := none }.release serial := by
  unfold shutdown
  dsimp only
  cases shown : daemon.emptyCache.lastPresented with
  | none => exact .inl ⟨rfl, rfl⟩
  | some serial => exact .inr ⟨serial, rfl, rfl⟩

theorem after_emptyCache (daemon : Daemon β) :
    daemon.emptyCache.cache = daemon.cache.clear.1 ∧
      daemon.emptyCache.lastPresented = daemon.lastPresented ∧
      daemon.emptyCache.allocator.next = daemon.allocator.next ∧
      daemon.emptyCache.compositor.presents = daemon.compositor.presents := by
  refine emptyCache_induction (motive := fun other =>
      other.cache = daemon.cache.clear.1 ∧ other.lastPresented = daemon.lastPresented ∧
        other.allocator.next = daemon.allocator.next ∧
        other.compositor.presents = daemon.compositor.presents)
    ⟨rfl, rfl, rfl, rfl⟩ ?_
  intro other serial kept
  obtain ⟨cache, shown, next, presents⟩ := kept
  exact ⟨(cache_release other serial).trans cache,
    (lastPresented_release other serial).trans shown, (next_release other serial).trans next,
    (sameScreen_release other serial).presents.trans presents⟩

/-! ## Imports -/

/-- The daemon with an import in its cache that has not let go of what that evicts. -/
def withImport (daemon : Daemon β) (allocator : Allocator) (frame : UInt32) (serial : Serial) :
    Daemon β :=
  { daemon with
    allocator
    cache := (daemon.cache.insert frame serial).1
    stats.imports := daemon.stats.imports + 1 }

theorem importFrame_eq_ok {exported : Export} {imported : Daemon β} {serial : Serial}
    (success : daemon.importFrame exported = .ok (imported, serial)) :
    ∃ planes metadata allocator, exported.takeApart daemon.unreadable = .ok (planes, metadata) ∧
      daemon.allocator.importBuffer planes metadata daemon.desc = .ok (allocator, serial) ∧
      imported = (daemon.cache.insert exported.id serial).2.elim
        (daemon.withImport allocator exported.id serial)
        (daemon.withImport allocator exported.id serial).release := by
  unfold importFrame at success
  split at success
  · cases success
  · next planes metadata apart =>
    split at success
    · cases success
    · next allocator new given =>
      obtain ⟨rfl, rfl⟩ := Prod.mk.inj (Except.ok.inj success)
      exact ⟨planes, metadata, allocator, apart, given, rfl⟩

theorem fetchBuffer_of_cached {exported : Export} {serial : Serial}
    (hit : daemon.cache.lookup exported.id = some serial) :
    daemon.fetchBuffer exported =
      .ok ({ daemon with stats.cacheHits := daemon.stats.cacheHits + 1 }, serial, true) := by
  unfold fetchBuffer
  rw [hit]

theorem fetchBuffer_eq_ok {exported : Export} {fetched : Daemon β} {serial : Serial} {hit : Bool}
    (success : daemon.fetchBuffer exported = .ok (fetched, serial, hit)) :
    (hit = true ∧ daemon.cache.lookup exported.id = some serial ∧ Quiet daemon fetched) ∨
      (hit = false ∧ daemon.cache.lookup exported.id = none ∧
        daemon.importFrame exported = .ok (fetched, serial)) := by
  unfold fetchBuffer at success
  split at success
  · next cached found =>
    cases success
    exact .inl ⟨rfl, found, ⟨rfl, rfl, rfl⟩, rfl, rfl, rfl, rfl⟩
  · next missed =>
    split at success
    · cases success
    · next imported new frame =>
      cases success
      exact .inr ⟨rfl, missed, frame⟩

theorem screen_importFrame {exported : Export} {imported : Daemon β} {serial : Serial}
    (success : daemon.importFrame exported = .ok (imported, serial)) :
    SameScreen daemon imported ∧ imported.lastPresented = daemon.lastPresented := by
  obtain ⟨planes, metadata, allocator, -, -, rfl⟩ := importFrame_eq_ok success
  have cached : SameScreen daemon (daemon.withImport allocator exported.id serial) :=
    ⟨rfl, rfl, rfl, rfl⟩
  cases (daemon.cache.insert exported.id serial).2 with
  | none => exact ⟨cached, rfl⟩
  | some evicted =>
    exact ⟨cached.trans (sameScreen_release _ evicted), lastPresented_release _ evicted⟩

theorem screen_fetchBuffer {exported : Export} {fetched : Daemon β} {serial : Serial}
    {hit : Bool} (success : daemon.fetchBuffer exported = .ok (fetched, serial, hit)) :
    SameScreen daemon fetched ∧ fetched.lastPresented = daemon.lastPresented := by
  obtain ⟨-, -, quiet⟩ | ⟨-, -, imported⟩ := fetchBuffer_eq_ok success
  · exact ⟨quiet.toSameScreen, quiet.lastPresented⟩
  · exact screen_importFrame imported

/-! ## The layer -/

structure Bound (daemon : Daemon β) (serial : Serial) : Prop where
  now : daemon.compositor.bound = some serial
  last : daemon.compositor.binds.getLast? = some serial

theorem Bound.same {before after : Daemon β} {serial : Serial} (bound : before.Bound serial)
    (same : SameScreen before after) : after.Bound serial :=
  ⟨same.bound.trans bound.now, same.binds ▸ bound.last⟩

theorem bindLayer_cases (daemon : Daemon β) (serial : Serial) :
    (∃ failure, daemon.bindLayer serial = (daemon, .error failure)) ∨
      (daemon.lastBound = some serial ∧ daemon.bindLayer serial = (daemon, .ok ())) ∨
      ∃ after, daemon.bindLayer serial = (after, .ok ()) ∧ SameBuffers daemon after ∧
        after.Bound serial ∧ after.lastBound = some serial ∧
        after.compositor.presents = daemon.compositor.presents := by
  unfold bindLayer
  split
  · next already => exact .inr (.inl ⟨already.1, rfl⟩)
  · split
    · next failure refused => exact .inl ⟨_, rfl⟩
    · next compositor done =>
      obtain ⟨-, answer⟩ := Compositor.allow_eq_ok.mp done
      cases answer
      exact .inr (.inr ⟨_, rfl, ⟨rfl, rfl, rfl⟩, ⟨rfl, List.getLast?_concat⟩, rfl, rfl⟩)

theorem validate_eq_ok {compositor after : Compositor} {changes : Bool}
    (success : compositor.validate = .ok (after, changes)) :
    after.bound = compositor.bound ∧ after.binds = compositor.binds ∧
      after.presents = compositor.presents := by
  obtain ⟨-, answer⟩ := Compositor.allow_eq_ok.mp success
  cases answer
  exact ⟨rfl, rfl, rfl⟩

theorem accept_eq_ok {compositor after : Compositor} (success : compositor.accept = .ok after) :
    after.bound = compositor.bound ∧ after.binds = compositor.binds ∧
      after.presents = compositor.presents := by
  obtain ⟨-, answer⟩ := Compositor.allow_eq_ok.mp success
  cases answer
  exact ⟨rfl, rfl, rfl⟩

theorem quiet_validateLayer (daemon : Daemon β) : Quiet daemon daemon.validateLayer.1 := by
  unfold validateLayer
  split
  · split
    · exact .refl daemon
    · next after done =>
      obtain ⟨bound, binds, presents⟩ := validate_eq_ok done
      exact ⟨⟨rfl, rfl, rfl⟩, rfl, bound, binds, presents⟩
    · next after done =>
      obtain ⟨bound, binds, presents⟩ := validate_eq_ok done
      split
      · exact ⟨⟨rfl, rfl, rfl⟩, rfl, bound, binds, presents⟩
      · next accepted done =>
        obtain ⟨boundStill, bindsStill, presentsStill⟩ := accept_eq_ok done
        exact ⟨⟨rfl, rfl, rfl⟩, rfl, boundStill.trans bound, bindsStill.trans binds,
          presentsStill.trans presents⟩
  · exact .refl daemon

theorem same_prepareLayer (daemon : Daemon β) (serial : Serial) :
    SameBuffers daemon (daemon.prepareLayer serial).1 ∧
      (daemon.prepareLayer serial).1.compositor.presents = daemon.compositor.presents := by
  unfold prepareLayer
  obtain ⟨failure, done⟩ | ⟨-, done⟩ | ⟨after, done, buffers, -, -, presents⟩ :=
    daemon.bindLayer_cases serial
  · rw [done]
    exact ⟨⟨rfl, rfl, rfl⟩, rfl⟩
  · rw [done]
    have quiet := quiet_validateLayer daemon
    exact ⟨quiet.toSameBuffers, quiet.presents⟩
  · rw [done]
    have quiet := quiet_validateLayer after
    exact ⟨buffers.trans quiet.toSameBuffers, quiet.presents.trans presents⟩

theorem presentLayer_cases (daemon : Daemon β) :
    (∃ failure, daemon.presentLayer = (daemon, .error failure)) ∨
      ∃ after, daemon.presentLayer = (after, .ok ()) ∧ SameBuffers daemon after ∧
        ∃ serial, daemon.compositor.bound = some serial ∧
          after.lastBound = daemon.lastBound ∧ after.compositor.bound = some serial ∧
          after.compositor.binds = daemon.compositor.binds ∧
          after.compositor.presents = daemon.compositor.presents ++ [serial] := by
  unfold presentLayer
  split
  · exact .inl ⟨_, rfl⟩
  · next compositor done =>
    obtain ⟨-, answer⟩ := Compositor.allow_eq_ok.mp done
    cases bound : daemon.compositor.bound with
    | none =>
      rw [bound] at answer
      cases answer
    | some serial =>
      rw [bound] at answer
      cases answer
      exact .inr ⟨_, rfl, ⟨rfl, rfl, rfl⟩, serial, rfl, rfl, rfl, rfl, rfl⟩

theorem sameBuffers_presentLayer (daemon : Daemon β) :
    SameBuffers daemon daemon.presentLayer.1 := by
  obtain ⟨failure, refused⟩ | ⟨after, done, buffers, -⟩ := daemon.presentLayer_cases
  · rw [refused]
    exact ⟨rfl, rfl, rfl⟩
  · rw [done]
    exact buffers

/-! ## Frames and power -/

/-- The daemon with another buffer on screen that has not let go of the one before. -/
def withShown (daemon : Daemon β) (serial : Serial) : Daemon β :=
  { daemon with lastPresented := some serial, stats.presented := daemon.stats.presented + 1 }

/-- Whatever comes of it, showing a buffer gets the layer ready first, and may then present it. -/
theorem showBuffer_fst (daemon : Daemon β) (serial : Serial) :
    (daemon.showBuffer serial).1 = (daemon.prepareLayer serial).1 ∨
      (daemon.showBuffer serial).1 = (daemon.prepareLayer serial).1.presentLayer.1 := by
  unfold showBuffer
  rcases daemon.prepareLayer serial with ⟨layered, failure | _⟩
  · exact .inl rfl
  · exact .inr rfl

theorem showFrame_cases (daemon : Daemon β) (id : UInt32) (serial : Serial) (hit : Bool) :
    ((daemon.showFrame id serial hit).1 =
        (daemon.prepareLayer serial).1.countDropped.release serial) ∨
      (daemon.prepareLayer serial).2 = .ok () ∧ ∃ after,
        (daemon.prepareLayer serial).1.presentLayer = (after, .ok ()) ∧
        (daemon.showFrame id serial hit).1 =
          after.lastPresented.elim (after.withShown serial) (after.withShown serial).release := by
  unfold showFrame showBuffer
  rcases daemon.prepareLayer serial with ⟨caller, failure | _⟩
  · exact .inl rfl
  · dsimp only
    obtain ⟨failure, done⟩ | ⟨after, done, -⟩ := caller.presentLayer_cases
    · rw [done]
      exact .inl rfl
    · rw [done]
      exact .inr ⟨rfl, after, rfl, rfl⟩

theorem quiet_setDisplayPower (daemon : Daemon β) (power : DisplayPower) :
    Quiet daemon (daemon.setDisplayPower power).1 := by
  unfold setDisplayPower
  split
  · next compositor done =>
    obtain ⟨-, answer⟩ := Compositor.allow_eq_ok.mp done
    cases answer
    exact ⟨⟨rfl, rfl, rfl⟩, rfl, rfl, rfl, rfl⟩
  · exact .refl daemon

theorem handlePower_cases [Backlight β] (daemon : Daemon β) (power : Power) :
    ∃ noted, Quiet daemon noted ∧
      ((daemon.handlePower power).1 = noted ∨ (daemon.handlePower power).1 = noted.emptyCache) := by
  have noted : Quiet daemon
      { daemon with policy := (daemon.policy.transition power).1, revalidate := true } :=
    ⟨⟨rfl, rfl, rfl⟩, rfl, rfl, rfl, rfl⟩
  unfold handlePower
  dsimp only
  cases (daemon.policy.transition power).2.1 with
  | none => exact ⟨_, noted, .inl rfl⟩
  | displayOff => exact ⟨_, noted.trans (quiet_setDisplayPower _ _), .inl rfl⟩
  | displayOn => exact ⟨_, noted.trans (quiet_setDisplayPower _ _), .inl rfl⟩
  | invalidateCache => exact ⟨_, noted, .inr rfl⟩

end Daemon

end PresentRelay
