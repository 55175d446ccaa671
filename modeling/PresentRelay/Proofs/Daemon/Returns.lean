import Mathlib.Data.List.Dedup
import PresentRelay.Daemon.Station
import PresentRelay.Proofs.Daemon.Custody

/-!
# Every buffer comes back once

A daemon starts with custody of nothing but a probe that it gave back already, and ends
with a shutdown, after which it holds nothing.
-/

set_option autoImplicit false

namespace PresentRelay

namespace Daemon

variable {β : Type} {start : Allocator} {capacity : Nat} {daemon : Daemon β}

/-! ## Shutting down -/

theorem holds_shutdown (daemon : Daemon β) :
    daemon.shutdown.cache.buffers = [] ∧ daemon.shutdown.lastPresented = none := by
  have emptied : daemon.emptyCache.cache.buffers = [] := by
    rw [daemon.after_emptyCache.1, BufferCache.buffers_clear]
  obtain ⟨shown, same⟩ | ⟨serial, -, released⟩ := daemon.shutdown_cases
  · rw [same]
    exact ⟨emptied, shown⟩
  · rw [released, cache_release, lastPresented_release]
    exact ⟨emptied, rfl⟩

theorem next_shutdown (daemon : Daemon β) :
    daemon.shutdown.allocator.next = daemon.allocator.next := by
  have emptied := daemon.after_emptyCache.2.2.1
  obtain ⟨-, same⟩ | ⟨serial, -, released⟩ := daemon.shutdown_cases
  · rw [same, emptied]
  · rw [released, next_release]
    exact emptied

theorem allocator_shutdown (daemon : Daemon β) (cached : daemon.cache.buffers = [])
    (shown : daemon.lastPresented = none) : daemon.shutdown.allocator = daemon.allocator := by
  have emptied : daemon.emptyCache =
      { daemon with cache := daemon.cache.clear.1, lastBound := none } := by
    simp only [emptyCache, BufferCache.clear, cached, List.foldl_nil]
  rw [shutdown, emptied]
  simp [shown]

theorem Custody.perm_of_free (custody : Custody start capacity daemon [])
    (cached : daemon.cache.buffers = []) (shown : daemon.lastPresented = none) :
    (start.returnedSince daemon.allocator).Perm (start.givenSince daemon.allocator) := by
  refine (List.perm_ext_iff_of_nodup custody.once List.nodup_range').mpr ?_
  intro serial
  have free : ¬daemon.holds serial = true := by
    rw [holds_iff, cached, shown]
    simp
  refine Iff.trans ?_ (custody.accounted serial).symm
  simp [free]

theorem Custody.perm_held (custody : Custody start capacity daemon []) :
    (((start.importedSince daemon.allocator).map Import.serial).filter
        fun serial => serial ∉ start.returnedSince daemon.allocator).Perm
      (daemon.cache.buffers ++ daemon.lastPresented.toList).dedup := by
  have given := custody.since.given
  have distinct : (start.givenSince daemon.allocator).Nodup := List.nodup_range'
  rw [given, List.nodup_cons] at distinct
  refine (List.perm_ext_iff_of_nodup (distinct.2.filter _) (List.nodup_dedup _)).mpr ?_
  intro serial
  have accounted := custody.accounted serial
  rw [given, List.mem_cons, holds_iff] at accounted
  rw [List.mem_filter, List.mem_dedup, List.mem_append, Option.mem_toList, decide_eq_true_eq]
  constructor
  · rintro ⟨imported, out⟩
    rcases accounted.mp (.inr imported) with back | held | none
    · exact absurd back out
    · exact held
    · cases none
  · intro held
    have out := custody.not_returned (holds_iff.mpr held)
    refine ⟨?_, out⟩
    rcases accounted.mpr (.inr (.inl held)) with rfl | imported
    · exact absurd custody.probe out
    · exact imported

end Daemon

/-! ## From the start to the end -/

namespace Station

variable {β : Type}

def probed (start : Allocator) : Allocator :=
  { start with
    next := start.next + 1
    allocations := start.allocations + 1
    releases := start.releases ++ [start.next] }

theorem since_probed (start : Allocator) :
    start.Since (probed start) ∧ start.returnedSince (probed start) = [start.next] ∧
      start.givenSince (probed start) = [start.next] := by
  have given : start.givenSince (probed start) = [start.next] := by
    have one : start.next + 1 - start.next = 1 := Nat.add_sub_cancel_left ..
    rw [Allocator.givenSince, probed, one]
    rfl
  refine ⟨⟨Nat.le_refl _, ?_, Nat.lt_succ_self _, ?_⟩, List.drop_left .., given⟩
  · simp [probed]
  · rw [given]
    simp [Allocator.importedSince, probed]

theorem custody_new (start : Allocator) (compositor : Compositor) (backlight : Option β)
    (desc : BufferDesc) (config : DaemonConfig) :
    Daemon.Custody start (max config.cacheSlots.toNat 1)
      (.new (probed start) compositor backlight desc config) [] := by
  obtain ⟨since, returned, given⟩ := since_probed start
  have allocator : (Daemon.new (probed start) compositor backlight desc config).allocator =
      probed start := rfl
  have cached :
      (Daemon.new (probed start) compositor backlight desc config).cache.buffers = [] := by
    simp [Daemon.new, BufferCache.buffers, BufferCache.new]
  have free : ∀ serial,
      (Daemon.new (probed start) compositor backlight desc config).holds serial = false := by
    intro serial
    rw [Bool.eq_false_iff, Ne, Daemon.holds_iff, cached]
    simp [Daemon.new]
  refine ⟨since, ?_, ?_, ?_, fun serial _ => ⟨free serial, List.not_mem_nil⟩, ?_,
    BufferCache.capacity_new _⟩
  · rw [allocator, returned]
    exact List.nodup_singleton _
  · rw [allocator, returned]
    exact List.mem_singleton_self _
  · intro serial
    rw [allocator, returned, given, free]
    simp
  · rw [cached]
    exact .nil

theorem startDisplay_cases (feed : Feed) (allocator : Allocator) (compositor : Compositor)
    (backlight : Option β) (config : DaemonConfig) (display : Display) (desc : BufferDesc) :
    match (startDisplay feed allocator compositor backlight config display desc).1 with
    | .failed _ _ left _ => left = allocator
    | .running station => ∃ compositor,
        station.daemon = .new allocator compositor backlight desc config := by
  unfold startDisplay
  cases compositor.setPower .on with
  | error failure => rfl
  | ok lit =>
    dsimp only
    cases (feed.configure display.mode).answer with
    | error error => rfl
    | ok changed => exact ⟨lit, rfl⟩

theorem start_cases (feed : Feed) (start : Allocator) (compositor : Compositor)
    (backlight : Option β) (config : DaemonConfig) :
    match (Station.start feed start compositor backlight config).1 with
    | .failed _ _ left _ => left = start ∨ left = probed start
    | .running station => ∃ compositor desc,
        station.daemon = .new (probed start) compositor backlight desc config := by
  unfold Station.start
  cases compositor.activeDisplay with
  | error failure => exact .inl rfl
  | ok display =>
    simp only [Allocator.allocate]
    by_cases refused : start.refusesAllocations = true
    · rw [if_pos refused]
      exact .inl rfl
    · rw [if_neg refused]
      have back : ({ start with next := start.next + 1, allocations := start.allocations + 1 } :
          Allocator).release start.next = probed start := rfl
      dsimp only
      rw [back]
      by_cases zero : start.stride = 0
      · rw [if_pos zero]
        exact .inr rfl
      · rw [if_neg zero]
        have displayed := startDisplay_cases feed (probed start) compositor backlight config display
          { BufferDesc.scanout display.width display.height with stride := start.stride }
        dsimp only at displayed
        generalize startDisplay feed (probed start) compositor backlight config display _ =
          started at displayed ⊢
        obtain ⟨started, raised⟩ := started
        cases started with
        | failed failure scene left refusing => exact .inr displayed
        | running station =>
          obtain ⟨lit, same⟩ := displayed
          exact ⟨lit, _, same⟩

theorem custody_steps [Backlight β] {feed : Feed} {start : Allocator} {compositor : Compositor}
    {backlight : Option β} {config : DaemonConfig} {station : Station β}
    (started : (Station.start feed start compositor backlight config).1 = .running station)
    (run : List (Daemon.Step β)) :
    Daemon.Custody start (max config.cacheSlots.toNat 1) (station.daemon.steps run) [] := by
  have cases := start_cases feed start compositor backlight config
  rw [started] at cases
  obtain ⟨lit, desc, new⟩ := cases
  rw [new]
  exact (custody_new start lit backlight desc config).steps run

/-- A daemon that was started on a relay with nothing to show. -/
def idle (backlight : Option β) (config : DaemonConfig) : Station β :=
  let lit : Compositor := { Compositor.new (.ofMode .default) with powers := [.on] }
  let desc : BufferDesc := { BufferDesc.scanout 1920 1080 with stride := 1920 }
  ⟨⟨.new .default, .link 0 []⟩, .new (probed (.new 1920)) lit backlight desc config⟩

theorem start_idle (backlight : Option β) (config : DaemonConfig) :
    (Station.start ⟨.new .default, .link 0 []⟩ (.new 1920) (.new (.ofMode .default)) backlight
      config).1 = .running (idle backlight config) := rfl

/-- What a daemon got from its allocator, it gives back exactly once.  A start that fails
has given back what it took.  In every run after that, the buffers given out are the probe and
the imports; none comes back twice; those that did not come back are just the ones in the
cache and on screen, no more than the cache has slots and one; and a shutdown gives back the
rest, so that another has nothing to give back. -/
theorem buffers_returned_once [Backlight β] (feed : Feed) (start : Allocator)
    (compositor : Compositor) (backlight : Option β) (config : DaemonConfig) :
    match (Station.start feed start compositor backlight config).1 with
    | .failed _ _ left _ =>
      start.importedSince left = [] ∧ start.returnedSince left = start.givenSince left
    | .running station => ∀ run : List (Daemon.Step β),
      let daemon := station.daemon.steps run
      let imported := (start.importedSince daemon.allocator).map Import.serial
      let returned := start.returnedSince daemon.allocator
      let ended := daemon.shutdown
      start.givenSince daemon.allocator = start.next :: imported ∧
        returned.Nodup ∧ returned ⊆ start.next :: imported ∧ start.next ∈ returned ∧
        (imported.filter fun serial => serial ∉ returned).Perm
          (daemon.cache.buffers ++ daemon.lastPresented.toList).dedup ∧
        (imported.filter fun serial => serial ∉ returned).length ≤
          max config.cacheSlots.toNat 1 + 1 ∧
        (start.returnedSince ended.allocator).Perm (start.givenSince ended.allocator) ∧
        start.givenSince ended.allocator = start.givenSince daemon.allocator ∧
        ended.shutdown.allocator = ended.allocator := by
  have cases := start_cases feed start compositor backlight config
  split
  · next failure scene left refusing failed =>
    rw [failed] at cases
    rcases cases with rfl | rfl
    · simp [Allocator.importedSince, Allocator.returnedSince, Allocator.givenSince]
    · obtain ⟨since, returned, given⟩ := since_probed start
      have imported : start.importedSince (probed start) = [] := by
        simp [Allocator.importedSince, probed]
      exact ⟨imported, returned.trans given.symm⟩
  · next station started =>
    intro run daemon imported returned ended
    have custody : Daemon.Custody start (max config.cacheSlots.toNat 1) daemon [] :=
      custody_steps started run
    obtain ⟨cached, shown⟩ := daemon.holds_shutdown
    have given : start.givenSince daemon.allocator = start.next :: imported :=
      custody.since.given
    have out := custody.perm_held
    refine ⟨given, custody.once, ?_, custody.probe, out, ?_,
      custody.shutdown.perm_of_free cached shown, ?_, ended.allocator_shutdown cached shown⟩
    · intro serial back
      rw [← given]
      exact (custody.accounted serial).mpr (.inl back)
    · have slots := daemon.cache.length_buffers_le
      rw [custody.capacity] at slots
      have distinct := (List.dedup_sublist (daemon.cache.buffers ++
        daemon.lastPresented.toList)).length_le
      have one : daemon.lastPresented.toList.length ≤ 1 := Option.length_toList_le
      rw [List.length_append] at distinct
      rw [out.length_eq]
      omega
    · rw [Allocator.givenSince, Allocator.givenSince, daemon.next_shutdown]

end Station

end PresentRelay
