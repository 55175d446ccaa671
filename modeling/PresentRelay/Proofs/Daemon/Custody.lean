import PresentRelay.Proofs.Daemon.Operations
import PresentRelay.Proofs.Daemon.Supply

/-!
# Who has a buffer

Every buffer that an allocator gave to a daemon is with the daemon, in the cache or on
screen, or was handed back, and never both.  `Custody` says so while some buffers are in
hand as well; each operation of the daemon takes buffers in hand and releases them again,
and at the end of a step none is left.
-/

set_option autoImplicit false

namespace PresentRelay

/-! ## Custody -/

namespace Daemon

variable {β : Type} {start : Allocator} {capacity : Nat} {daemon : Daemon β}

/-- Buffers in hand apart, every buffer given out since the start is held or came back. -/
structure Custody (start : Allocator) (capacity : Nat) (daemon : Daemon β)
    (inHand : List Serial) : Prop where
  since : start.Since daemon.allocator
  once : (start.returnedSince daemon.allocator).Nodup
  probe : start.next ∈ start.returnedSince daemon.allocator
  accounted : ∀ serial, serial ∈ start.givenSince daemon.allocator ↔
    serial ∈ start.returnedSince daemon.allocator ∨ daemon.holds serial = true ∨ serial ∈ inHand
  apart : ∀ serial ∈ start.returnedSince daemon.allocator,
    daemon.holds serial = false ∧ serial ∉ inHand
  cached : daemon.cache.buffers.Nodup
  capacity : daemon.cache.capacity = capacity

theorem Custody.exchange {inHand others : List Serial}
    (custody : Custody start capacity daemon inHand) {after : Daemon β}
    (allocator : after.allocator = daemon.allocator)
    (kept : ∀ serial, (after.holds serial = true ∨ serial ∈ others) ↔
      (daemon.holds serial = true ∨ serial ∈ inHand))
    (cached : after.cache.buffers.Nodup) (room : after.cache.capacity = capacity) :
    Custody start capacity after others where
  since := allocator ▸ custody.since
  once := allocator ▸ custody.once
  probe := allocator ▸ custody.probe
  accounted serial := by
    rw [allocator, kept]
    exact custody.accounted serial
  apart serial returned := by
    rw [allocator] at returned
    obtain ⟨free, other⟩ := custody.apart serial returned
    have neither : ¬(after.holds serial = true ∨ serial ∈ others) := by
      rw [kept]
      rintro (held | loose)
      · exact absurd held (Bool.eq_false_iff.mp free)
      · exact other loose
    exact ⟨Bool.eq_false_iff.mpr fun held => neither (.inl held), fun loose => neither (.inr loose)⟩
  cached := cached
  capacity := room

theorem Custody.same {inHand : List Serial} (custody : Custody start capacity daemon inHand)
    {after : Daemon β} (same : SameBuffers daemon after) :
    Custody start capacity after inHand :=
  custody.exchange same.allocator (fun serial => by rw [same.holds])
    (same.cache ▸ custody.cached) (same.cache ▸ custody.capacity)

theorem Custody.release {serial : Serial} {inHand : List Serial}
    (custody : Custody start capacity daemon (serial :: inHand)) (single : serial ∉ inHand) :
    Custody start capacity (daemon.release serial) inHand := by
  have apart := custody.apart
  unfold Daemon.release
  by_cases held : daemon.holds serial = true
  · rw [if_pos held]
    refine ⟨custody.since, custody.once, custody.probe, ?_, ?_, custody.cached, custody.capacity⟩
    · intro other
      rw [custody.accounted other, List.mem_cons]
      constructor
      · rintro (returned | kept | rfl | loose)
        · exact .inl returned
        · exact .inr (.inl kept)
        · exact .inr (.inl held)
        · exact .inr (.inr loose)
      · rintro (returned | kept | loose)
        · exact .inl returned
        · exact .inr (.inl kept)
        · exact .inr (.inr (.inr loose))
    · intro other returned
      obtain ⟨free, other⟩ := apart other returned
      exact ⟨free, fun loose => other (List.mem_cons_of_mem _ loose)⟩
  · rw [if_neg held]
    obtain ⟨since, returned⟩ := custody.since.release serial
    have fresh : serial ∉ start.returnedSince daemon.allocator :=
      fun back => (apart serial back).2 (List.mem_cons_self ..)
    refine ⟨since, ?_, ?_, ?_, ?_, custody.cached, custody.capacity⟩
    · rw [returned, ← List.concat_eq_append, List.nodup_concat]
      exact ⟨fresh, custody.once⟩
    · rw [returned]
      exact List.mem_append_left _ custody.probe
    · intro other
      rw [returned, List.mem_append, List.mem_singleton]
      have accounted := custody.accounted other
      rw [List.mem_cons] at accounted
      refine accounted.trans ?_
      constructor
      · rintro (back | kept | same | loose)
        · exact .inl (.inl back)
        · exact .inr (.inl kept)
        · exact .inl (.inr same)
        · exact .inr (.inr loose)
      · rintro ((back | same) | kept | loose)
        · exact .inl back
        · exact .inr (.inr (.inl same))
        · exact .inr (.inl kept)
        · exact .inr (.inr (.inr loose))
    · intro other back
      rw [returned, List.mem_append, List.mem_singleton] at back
      rcases back with back | rfl
      · obtain ⟨free, other⟩ := apart other back
        exact ⟨free, fun loose => other (List.mem_cons_of_mem _ loose)⟩
      · exact ⟨Bool.eq_false_iff.mpr held, single⟩

theorem Custody.releaseAll {inHand : List Serial}
    (custody : Custody start capacity daemon inHand) (single : inHand.Nodup) :
    Custody start capacity (inHand.foldl Daemon.release daemon) [] := by
  induction inHand generalizing daemon with
  | nil => exact custody
  | cons serial inHand ih =>
    obtain ⟨other, rest⟩ := List.nodup_cons.mp single
    exact ih (custody.release other) rest

theorem Custody.releaseOption {inHand : Option Serial}
    (custody : Custody start capacity daemon inHand.toList) :
    Custody start capacity (inHand.elim daemon daemon.release) [] := by
  cases inHand with
  | none => exact custody
  | some serial => exact custody.release List.not_mem_nil

/-! ## Buffers taken in hand -/

theorem Custody.lt_of_holds {inHand : List Serial}
    (custody : Custody start capacity daemon inHand) {serial : Serial}
    (held : daemon.holds serial = true) : serial < daemon.allocator.next :=
  ((Allocator.mem_givenSince custody.since).mp
    ((custody.accounted serial).mpr (.inr (.inl held)))).2

theorem Custody.not_returned {inHand : List Serial}
    (custody : Custody start capacity daemon inHand) {serial : Serial}
    (held : daemon.holds serial = true) :
    serial ∉ start.returnedSince daemon.allocator :=
  fun back => absurd held (Bool.eq_false_iff.mp (custody.apart serial back).1)

theorem Custody.importBuffer (custody : Custody start capacity daemon []) {planes : List File}
    {metadata : Bytes} {desc : BufferDesc} {allocator : Allocator} {serial : Serial}
    (success : daemon.allocator.importBuffer planes metadata desc = .ok (allocator, serial)) :
    Custody start capacity { daemon with allocator } [serial] ∧ daemon.holds serial = false := by
  obtain ⟨rfl, since, given, -, returned⟩ := custody.since.importBuffer success
  have free : daemon.holds daemon.allocator.next = false :=
    Bool.eq_false_iff.mpr fun held => Nat.lt_irrefl _ (custody.lt_of_holds held)
  refine ⟨⟨since, returned ▸ custody.once, returned ▸ custody.probe, ?_,
    ?_, custody.cached, custody.capacity⟩, free⟩
  · intro other
    rw [given, returned, List.mem_append, custody.accounted other]
    constructor
    · rintro ((back | held | none) | new)
      · exact .inl back
      · exact .inr (.inl held)
      · cases none
      · exact .inr (.inr new)
    · rintro (back | held | new)
      · exact .inl (.inl back)
      · exact .inl (.inr (.inl held))
      · exact .inr new
  · intro other back
    rw [returned] at back
    refine ⟨(custody.apart other back).1, ?_⟩
    intro new
    obtain rfl := List.mem_singleton.mp new
    have old := (custody.accounted daemon.allocator.next).mpr (.inl back)
    exact Nat.lt_irrefl _ ((Allocator.mem_givenSince custody.since).mp old).2

theorem Custody.insert {serial : Serial} (custody : Custody start capacity daemon [serial])
    (free : daemon.holds serial = false) (frame : UInt32) :
    Custody start capacity { daemon with cache := (daemon.cache.insert frame serial).1 }
      (daemon.cache.insert frame serial).2.toList := by
  obtain ⟨others, before, after⟩ := daemon.cache.buffers_insert frame serial
  have fresh : serial ∉ daemon.cache.buffers :=
    fun cached => absurd (holds_iff.mpr (.inl cached)) (Bool.eq_false_iff.mp free)
  refine custody.exchange rfl ?_ ?_ ?_
  · intro asked
    rw [holds_iff, holds_iff, after.mem_iff, before.mem_iff, List.mem_cons, List.mem_append,
      List.mem_singleton]
    constructor
    · rintro (((same | cached) | shown) | evicted)
      · exact .inr same
      · exact .inl (.inl (.inr cached))
      · exact .inl (.inr shown)
      · exact .inl (.inl (.inl evicted))
    · rintro (((evicted | cached) | shown) | same)
      · exact .inr evicted
      · exact .inl (.inl (.inr cached))
      · exact .inl (.inr shown)
      · exact .inl (.inl (.inl same))
  · have once := before.nodup_iff.mp custody.cached
    refine after.nodup_iff.mpr (List.nodup_cons.mpr ⟨?_, ?_⟩)
    · intro other
      exact fresh (before.mem_iff.mpr (List.mem_append_right _ other))
    · exact (List.nodup_append.mp once).2.1
  · rw [BufferCache.capacity_insert]
    exact custody.capacity

theorem Custody.present (custody : Custody start capacity daemon []) (next : Option Serial)
    (cached : ∀ serial, next = some serial → serial ∈ daemon.cache.buffers) :
    Custody start capacity { daemon with lastPresented := next } daemon.lastPresented.toList := by
  refine custody.exchange rfl ?_ custody.cached custody.capacity
  intro asked
  rw [holds_iff, holds_iff, Option.mem_toList]
  constructor
  · rintro ((kept | shown) | last)
    · exact .inl (.inl kept)
    · exact .inl (.inl (cached asked shown))
    · exact .inl (.inr last)
  · rintro ((kept | last) | none)
    · exact .inl (.inl kept)
    · exact .inr last
    · cases none

theorem Custody.clear (custody : Custody start capacity daemon []) (lastBound : Option Serial) :
    Custody start capacity { daemon with cache := daemon.cache.clear.1, lastBound }
      daemon.cache.buffers := by
  refine custody.exchange rfl ?_ ?_ ?_
  · intro asked
    rw [holds_iff, holds_iff]
    show (asked ∈ daemon.cache.clear.1.buffers ∨ _) ∨ _ ↔ _
    rw [BufferCache.buffers_clear]
    constructor
    · rintro ((none | shown) | kept)
      · cases none
      · exact .inl (.inr shown)
      · exact .inl (.inl kept)
    · rintro ((kept | shown) | none)
      · exact .inr kept
      · exact .inl (.inr shown)
      · cases none
  · show daemon.cache.clear.1.buffers.Nodup
    rw [BufferCache.buffers_clear]
    exact .nil
  · exact (BufferCache.capacity_clear _).trans custody.capacity

/-! ## Frames -/

theorem Custody.importFrame (custody : Custody start capacity daemon []) {exported : Export}
    {imported : Daemon β} {serial : Serial}
    (success : daemon.importFrame exported = .ok (imported, serial)) :
    Custody start capacity imported [] ∧ serial ∈ imported.cache.buffers := by
  obtain ⟨planes, metadata, allocator, -, given, rfl⟩ := importFrame_eq_ok success
  obtain ⟨taken, free⟩ := custody.importBuffer given
  have cached := taken.insert free exported.id
  have inserted : Custody start capacity (daemon.withImport allocator exported.id serial)
      (daemon.cache.insert exported.id serial).2.toList := cached.same ⟨rfl, rfl, rfl⟩
  have member : serial ∈ (daemon.cache.insert exported.id serial).1.buffers := by
    obtain ⟨others, -, after⟩ := daemon.cache.buffers_insert exported.id serial
    exact after.mem_iff.mpr (List.mem_cons_self ..)
  refine ⟨inserted.releaseOption, ?_⟩
  cases (daemon.cache.insert exported.id serial).2 with
  | none => exact member
  | some evicted =>
    rw [Option.elim_some, cache_release]
    exact member

theorem Custody.fetchBuffer (custody : Custody start capacity daemon []) {exported : Export}
    {fetched : Daemon β} {serial : Serial} {hit : Bool}
    (success : daemon.fetchBuffer exported = .ok (fetched, serial, hit)) :
    Custody start capacity fetched [] ∧ serial ∈ fetched.cache.buffers := by
  obtain ⟨-, found, quiet⟩ | ⟨-, -, imported⟩ := fetchBuffer_eq_ok success
  · refine ⟨custody.same quiet.toSameBuffers, ?_⟩
    rw [quiet.cache]
    exact BufferCache.mem_buffers_of_lookup found
  · exact custody.importFrame imported

theorem Custody.showFrame (custody : Custody start capacity daemon []) (id : UInt32)
    {serial : Serial} (cached : serial ∈ daemon.cache.buffers) (hit : Bool) :
    Custody start capacity (daemon.showFrame id serial hit).1 [] := by
  have ready := (daemon.same_prepareLayer serial).1
  obtain dropped | ⟨-, after, done, shown⟩ := daemon.showFrame_cases id serial hit
  · have same := ready.trans (quiet_countDropped _).toSameBuffers
    have held : (daemon.prepareLayer serial).1.countDropped.holds serial = true := by
      rw [same.holds, holds_iff]
      exact .inl cached
    rw [dropped, Daemon.release, if_pos held]
    exact custody.same same
  · obtain ⟨failure, refused⟩ | ⟨presented, same, buffers, -⟩ :=
      (daemon.prepareLayer serial).1.presentLayer_cases
    · rw [refused] at done
      cases done
    · obtain rfl := (Prod.mk.inj (done.symm.trans same)).1
      have kept := ready.trans buffers
      have replaced := (custody.same kept).present (some serial) fun other asked => by
        obtain rfl := Option.some.inj asked
        rw [kept.cache]
        exact cached
      have counted : Custody start capacity (after.withShown serial) after.lastPresented.toList :=
        replaced.same ⟨rfl, rfl, rfl⟩
      rw [shown]
      exact counted.releaseOption

theorem Custody.presentExport (custody : Custody start capacity daemon []) (exported : Export) :
    Custody start capacity (daemon.presentExport exported).1 [] := by
  unfold Daemon.presentExport
  split
  · exact custody
  · split
    · exact custody.same (quiet_countDropped daemon).toSameBuffers
    · next fetched serial hit success =>
      obtain ⟨kept, cached⟩ := custody.fetchBuffer success
      exact kept.showFrame exported.id cached hit

/-! ## Runs -/

theorem Custody.emptyCache (custody : Custody start capacity daemon []) :
    Custody start capacity daemon.emptyCache [] :=
  (custody.clear none).releaseAll custody.cached

theorem Custody.shutdown (custody : Custody start capacity daemon []) :
    Custody start capacity daemon.shutdown [] := by
  have emptied := custody.emptyCache
  obtain ⟨-, same⟩ | ⟨serial, shown, released⟩ := daemon.shutdown_cases
  · rw [same]
    exact emptied
  · have gone := emptied.present none nofun
    rw [shown] at gone
    rw [released]
    exact gone.release List.not_mem_nil

theorem Custody.handlePower [Backlight β] (custody : Custody start capacity daemon [])
    (power : Power) : Custody start capacity (daemon.handlePower power).1 [] := by
  obtain ⟨noted, quiet, same | emptied⟩ := daemon.handlePower_cases power
  · rw [same]
    exact custody.same quiet.toSameBuffers
  · rw [emptied]
    exact (custody.same quiet.toSameBuffers).emptyCache

theorem Custody.step [Backlight β] (custody : Custody start capacity daemon [])
    (step : Step β) : Custody start capacity (daemon.step step).daemon [] := by
  cases step with
  | power notice => exact custody.handlePower notice
  | frame exported => exact custody.presentExport exported
  | refuseImports refused =>
    exact ⟨⟨custody.since.imports, custody.since.releases, custody.since.next,
      custody.since.given⟩, custody.once, custody.probe, custody.accounted, custody.apart,
      custody.cached, custody.capacity⟩
  | expectValidation | loseFiles | refuseRequest | backlight =>
    exact custody.same ⟨rfl, rfl, rfl⟩
  | shutdown => exact custody.shutdown

theorem Custody.steps [Backlight β] (custody : Custody start capacity daemon [])
    (run : List (Step β)) : Custody start capacity (daemon.steps run) [] := by
  induction run generalizing daemon with
  | nil => exact custody
  | cons step run ih => exact ih (custody.step step)

end Daemon

end PresentRelay
