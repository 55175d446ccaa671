import PresentRelay.Proofs.Daemon.Attempts
import PresentRelay.Proofs.Daemon.Screen

/-!
# What a dropped frame costs

A frame is dropped where it cannot be imported, or where the compositor refuses to show it.  In
the first case the daemon only counts it.  In the second the buffer on screen stays, and the
frame stays in the cache, where later exports of its id find it whatever their handles.
-/

set_option autoImplicit false

namespace PresentRelay

/-! ## What cannot be imported -/

/-- Why an export cannot be imported: it lacks a position or a handle, what its last handle leads
to cannot be read or is empty, or the allocator refuses. -/
inductive Export.Unfit (exported : Export) (unreadable : File → Option ReadFault)
    (allocator : Allocator) : Prop where
  | tooFew (few : exported.count < 2)
  | missing (gap : none ∈ exported.handles)
  | unread (file : File) (last : exported.handles.getLast? = some (some file)) (fault : ReadFault)
    (lost : unreadable file = some fault)
  | empty (file : File) (last : exported.handles.getLast? = some (some file))
    (blank : file.contents = [])
  | refused (refuses : allocator.refusesImports = true)

theorem Export.handles_of_complete {exported : Export} (complete : none ∉ exported.handles) :
    exported.handles = exported.files.map some := by
  obtain ⟨id, handles⟩ := exported
  simp only [Export.files] at complete ⊢
  induction handles with
  | nil => rfl
  | cons handle handles ih =>
    rw [List.mem_cons, not_or] at complete
    cases handle with
    | none => exact absurd rfl complete.1
    | some file => exact congrArg _ (ih complete.2)

theorem Export.takeApart_isOk (exported : Export) (unreadable : File → Option ReadFault) :
    (∃ parts, exported.takeApart unreadable = .ok parts) ↔
      2 ≤ exported.count ∧ none ∉ exported.handles ∧
        ∃ file, exported.handles.getLast? = some (some file) ∧ unreadable file = none ∧
          file.contents ≠ [] := by
  unfold Export.takeApart
  by_cases few : exported.count < 2
  · rw [if_pos few]
    exact iff_of_false nofun fun fit => Nat.not_le.mpr few fit.1
  rw [if_neg few]
  by_cases gap : none ∈ exported.handles
  · have found : (exported.handles.findIdx? Option.isNone).isSome = true := by
      rw [List.findIdx?_isSome, List.any_eq_true]
      exact ⟨none, gap, rfl⟩
    obtain ⟨position, found⟩ := Option.isSome_iff_exists.mp found
    rw [found]
    exact iff_of_false nofun fun fit => fit.2.1 gap
  have complete : exported.handles.findIdx? Option.isNone = none := by
    rw [List.findIdx?_eq_none_iff]
    intro handle member
    cases handle with
    | none => exact absurd member gap
    | some file => rfl
  have given := Export.handles_of_complete gap
  obtain ⟨file, last⟩ : ∃ file, exported.files.getLast? = some file := by
    rw [← Option.isSome_iff_exists, List.getLast?_isSome]
    intro none
    rw [Export.count, given, none] at few
    exact few (by decide)
  have lastHandle : exported.handles.getLast? = some (some file) := by
    rw [given, List.getLast?_map, last]
    rfl
  rw [complete, last, lastHandle]
  have enough := Nat.not_lt.mp few
  cases lost : unreadable file with
  | some fault => simp [lost]
  | none =>
    cases blank : file.contents <;> simp [lost, blank, gap, enough]

theorem Export.not_unfit_iff {exported : Export} {unreadable : File → Option ReadFault}
    {allocator : Allocator} :
    ¬exported.Unfit unreadable allocator ↔
      (∃ parts, exported.takeApart unreadable = .ok parts) ∧ allocator.refusesImports = false := by
  rw [Export.takeApart_isOk]
  constructor
  · intro fit
    have enough : 2 ≤ exported.count := Nat.not_lt.mp fun few => fit (.tooFew few)
    have complete : none ∉ exported.handles := fun gap => fit (.missing gap)
    obtain ⟨handle, last⟩ : ∃ handle, exported.handles.getLast? = some handle := by
      rw [← Option.isSome_iff_exists, List.getLast?_isSome]
      intro none
      rw [Export.count, none] at enough
      exact absurd enough (by decide)
    cases handle with
    | none => exact absurd (List.mem_of_getLast? last) complete
    | some file =>
      have readable : unreadable file = none :=
        Option.eq_none_iff_forall_ne_some.mpr fun fault lost => fit (.unread file last fault lost)
      refine ⟨⟨enough, complete, file, last, readable, ?_⟩, ?_⟩
      · exact fun blank => fit (.empty file last blank)
      · exact Bool.eq_false_iff.mpr fun refuses => fit (.refused refuses)
  · rintro ⟨⟨enough, complete, file, last, readable, content⟩, willing⟩ unfit
    cases unfit with
    | tooFew few => exact Nat.not_lt.mpr enough few
    | missing gap => exact complete gap
    | unread other same fault lost =>
      obtain rfl := Option.some.inj (Option.some.inj (last.symm.trans same))
      rw [readable] at lost
      cases lost
    | empty other same blank =>
      obtain rfl := Option.some.inj (Option.some.inj (last.symm.trans same))
      exact content blank
    | refused refuses =>
      rw [willing] at refuses
      cases refuses

/-- What became of frames: how many were presented, and dropped; and where their buffers were
found: in the cache, or by an import. -/
def Stats.frames (stats : Stats) : Nat × Nat × Nat × Nat :=
  (stats.presented, stats.dropped, stats.cacheHits, stats.imports)

namespace Daemon

variable {β : Type} {daemon : Daemon β}

theorem importFrame_error_iff (daemon : Daemon β) (exported : Export) :
    (∃ failure, daemon.importFrame exported = .error failure) ↔
      exported.Unfit daemon.unreadable daemon.allocator := by
  rw [← not_iff_not, Export.not_unfit_iff]
  unfold importFrame Allocator.importBuffer
  cases exported.takeApart daemon.unreadable with
  | error fault => simp
  | ok parts => cases daemon.allocator.refusesImports <;> simp

theorem importFrame_error_congr {exported : Export} {failure : Failure}
    (failed : daemon.importFrame exported = .error failure) (compositor : Compositor) :
    importFrame { daemon with compositor } exported = .error failure := by
  unfold importFrame at failed ⊢
  dsimp only
  split at failed
  · exact failed
  · split at failed
    · exact failed
    · cases failed

/-! ## Showing a buffer that is cached -/

theorem same_showBuffer (daemon : Daemon β) (serial : Serial) :
    SameBuffers daemon (daemon.showBuffer serial).1 := by
  have ready := (daemon.same_prepareLayer serial).1
  rcases daemon.showBuffer_fst serial with same | same
  · rw [same]
    exact ready
  · rw [same]
    exact ready.trans (daemon.prepareLayer serial).1.sameBuffers_presentLayer

theorem stats_presentLayer (daemon : Daemon β) : daemon.presentLayer.1.stats = daemon.stats := by
  unfold presentLayer
  split <;> rfl

theorem frames_validateLayer (daemon : Daemon β) :
    daemon.validateLayer.1.stats.frames = daemon.stats.frames := by
  have validation := daemon.validation
  generalize daemon.validateLayer = outcome at validation ⊢
  cases validation <;> rfl

theorem frames_prepareLayer (daemon : Daemon β) (serial : Serial) :
    (daemon.prepareLayer serial).1.stats.frames = daemon.stats.frames := by
  have binding := daemon.binding serial
  unfold prepareLayer
  generalize daemon.bindLayer serial = outcome at binding ⊢
  cases binding with
  | spared => exact daemon.frames_validateLayer
  | refused => rfl
  | done => exact (daemon.withBound serial).frames_validateLayer

theorem frames_showBuffer (daemon : Daemon β) (serial : Serial) :
    (daemon.showBuffer serial).1.stats.frames = daemon.stats.frames := by
  rcases daemon.showBuffer_fst serial with same | same
  · rw [same]
    exact daemon.frames_prepareLayer serial
  · rw [same, stats_presentLayer]
    exact daemon.frames_prepareLayer serial

theorem showFrame_of_refused {serial : Serial} (cached : serial ∈ daemon.cache.buffers)
    {failure : Failure} (refused : (daemon.showBuffer serial).2 = .error failure) (id : UInt32)
    (hit : Bool) :
    daemon.showFrame id serial hit =
      ((daemon.showBuffer serial).1.countDropped, .dropped id, [.presentFailed failure id]) := by
  have same := daemon.same_showBuffer serial
  unfold showFrame
  rcases done : daemon.showBuffer serial with ⟨shown, result⟩
  rw [done] at same refused
  obtain rfl : result = .error failure := refused
  have held : shown.countDropped.holds serial = true := by
    rw [(same.trans (quiet_countDropped shown).toSameBuffers).holds, holds_iff]
    exact .inl cached
  dsimp only
  rw [release, if_pos held]

theorem stored_showFrame (daemon : Daemon β) (id : UInt32) (serial : Serial) (hit : Bool) :
    (daemon.showFrame id serial hit).1.cache = daemon.cache ∧
      (daemon.showFrame id serial hit).1.allocator.imports = daemon.allocator.imports := by
  have same := daemon.same_showBuffer serial
  unfold showFrame
  rcases done : daemon.showBuffer serial with ⟨shown, failure | _⟩
  · rw [done] at same
    exact ⟨(cache_release _ serial).trans same.cache,
      (imports_release _ serial).trans (congrArg Allocator.imports same.allocator)⟩
  · rw [done] at same
    dsimp only
    cases shown.lastPresented with
    | none => exact ⟨same.cache, congrArg Allocator.imports same.allocator⟩
    | some previous =>
      exact ⟨(cache_release _ previous).trans same.cache,
        (imports_release _ previous).trans (congrArg Allocator.imports same.allocator)⟩

/-! ## What is handed back, and what is kept -/

theorem releases_release (daemon : Daemon β) (serial : Serial) :
    (daemon.release serial).allocator.releases = daemon.allocator.releases ∨
      (daemon.release serial).allocator.releases = daemon.allocator.releases ++ [serial] ∧
        (daemon.release serial).holds serial = false := by
  unfold release
  split
  · exact .inl rfl
  · next free => exact .inr ⟨rfl, Bool.eq_false_iff.mpr free⟩

theorem released_fetchBuffer {exported : Export} {fetched : Daemon β} {serial : Serial}
    {hit : Bool} (success : daemon.fetchBuffer exported = .ok (fetched, serial, hit)) :
    ∀ released ∈ fetched.allocator.releases.drop daemon.allocator.releases.length,
      fetched.holds released = false := by
  have unreleased {after : Daemon β}
      (same : after.allocator.releases = daemon.allocator.releases) :
      ∀ released ∈ after.allocator.releases.drop daemon.allocator.releases.length,
        after.holds released = false := by
    rw [same, List.drop_length]
    exact nofun
  obtain ⟨-, -, quiet⟩ | ⟨-, -, imported⟩ := fetchBuffer_eq_ok success
  · exact unreleased (congrArg Allocator.releases quiet.allocator)
  · obtain ⟨planes, metadata, allocator, -, given, rfl⟩ := importFrame_eq_ok imported
    have before : allocator.releases = daemon.allocator.releases := by
      unfold Allocator.importBuffer at given
      split at given <;> cases given
      rfl
    cases (daemon.cache.insert exported.id serial).2 with
    | none => exact unreleased before
    | some evicted =>
      obtain same | ⟨more, free⟩ :=
        (daemon.withImport allocator exported.id serial).releases_release evicted
      · exact unreleased (same.trans before)
      · intro released member
        rw [Option.elim_some, more, ← before] at member
        obtain rfl : released = evicted := by simpa [withImport] using member
        exact free

def kept (daemon : Daemon β) (exported : Export) : List File :=
  ((daemon.presentExport exported).1.allocator.imports.drop
    daemon.allocator.imports.length).flatMap Import.planes

theorem kept_of_imports {exported : Export}
    (same : (daemon.presentExport exported).1.allocator.imports = daemon.allocator.imports) :
    daemon.kept exported = [] := by
  rw [kept, same, List.drop_length]
  rfl

/-! ## Exports that find their buffer -/

theorem presentExport_of_cached {exported : Export} (content : exported.isEmpty = false)
    {serial : Serial} (cached : daemon.cache.lookup exported.id = some serial) :
    daemon.presentExport exported =
      showFrame { daemon with stats.cacheHits := daemon.stats.cacheHits + 1 } exported.id serial
        true := by
  rw [presentExport, if_neg (Bool.eq_false_iff.mp content), fetchBuffer_of_cached cached]

theorem kept_of_cached {exported : Export} {serial : Serial}
    (cached : daemon.cache.lookup exported.id = some serial) : daemon.kept exported = [] := by
  apply kept_of_imports
  cases content : exported.isEmpty with
  | true => rw [presentExport, if_pos content]
  | false =>
    rw [presentExport_of_cached content cached]
    exact (stored_showFrame _ _ _ _).2

theorem lookup_fetchBuffer {exported : Export} {fetched : Daemon β} {serial : Serial} {hit : Bool}
    (success : daemon.fetchBuffer exported = .ok (fetched, serial, hit)) :
    fetched.cache.lookup exported.id = some serial := by
  obtain ⟨-, found, quiet⟩ | ⟨-, -, imported⟩ := fetchBuffer_eq_ok success
  · rw [quiet.cache]
    exact found
  · obtain ⟨planes, metadata, allocator, -, -, rfl⟩ := importFrame_eq_ok imported
    have inserted := daemon.cache.lookup_insert_self exported.id serial
    cases (daemon.cache.insert exported.id serial).2 with
    | none => exact inserted
    | some evicted =>
      rw [Option.elim_some, cache_release]
      exact inserted

/-- The slot of an id is the same in both caches, and it has the same buffer there. -/
def SameSlot (before after : BufferCache Serial) (id : UInt32) : Prop :=
  after.capacity = before.capacity ∧ after.lookup id = before.lookup id

theorem sameSlot_presentExport (daemon : Daemon β) {id : UInt32}
    (cached : (daemon.cache.lookup id).isSome = true) (exported : Export)
    (apart : ∀ made ∈ daemon.importOf (.frame exported), made.1 ≠ id →
      daemon.cache.slot made.1 ≠ daemon.cache.slot id) :
    SameSlot daemon.cache (daemon.presentExport exported).1.cache id := by
  simp only [importOf] at apart
  unfold presentExport
  split
  · exact ⟨rfl, rfl⟩
  · next content =>
    rw [if_neg content] at apart
    cases success : daemon.fetchBuffer exported with
    | error failure => exact ⟨rfl, rfl⟩
    | ok found =>
      obtain ⟨fetched, serial, hit⟩ := found
      rw [success] at apart
      dsimp only
      rw [(stored_showFrame _ _ _ _).1]
      obtain ⟨-, -, quiet⟩ | ⟨rfl, missed, imported⟩ := fetchBuffer_eq_ok success
      · rw [quiet.cache]
        exact ⟨rfl, rfl⟩
      · have other : exported.id ≠ id := by
          rintro rfl
          rw [missed] at cached
          cases cached
        have elsewhere := apart _ (List.mem_singleton_self _) other
        obtain ⟨planes, metadata, allocator, -, -, rfl⟩ := importFrame_eq_ok imported
        have inserted : SameSlot daemon.cache
            (daemon.withImport allocator exported.id serial).cache id := by
          refine ⟨BufferCache.capacity_insert _ _ _, ?_⟩
          simp only [withImport, BufferCache.lookup, BufferCache.occupant_insert,
            if_neg (Ne.symm elsewhere)]
        cases (daemon.cache.insert exported.id serial).2 with
        | none => exact inserted
        | some evicted =>
          rw [Option.elim_some, cache_release]
          exact inserted

theorem sameSlot_step [Backlight β] (daemon : Daemon β) {id : UInt32}
    (cached : (daemon.cache.lookup id).isSome = true) {step : Step β}
    (producing : step ≠ .power .noConsumer) (running : step ≠ .shutdown)
    (apart : ∀ made ∈ daemon.importOf step, made.1 ≠ id →
      daemon.cache.slot made.1 ≠ daemon.cache.slot id) :
    SameSlot daemon.cache (daemon.step step).daemon.cache id := by
  cases step with
  | frame exported => exact daemon.sameSlot_presentExport cached exported apart
  | power notice =>
    have other : notice ≠ .noConsumer := fun same => producing (congrArg Step.power same)
    obtain same | ⟨asked, same⟩ := daemon.handlePower_of_ne other
    · simp only [Daemon.step, same]
      exact ⟨rfl, rfl⟩
    · simp only [Daemon.step, same, (quiet_setDisplayPower _ asked).cache]
      exact ⟨rfl, rfl⟩
  | expectValidation | refuseImports | loseFiles | refuseRequest | backlight => exact ⟨rfl, rfl⟩
  | shutdown => exact absurd rfl running

theorem slot_congr {before after : BufferCache Serial} (same : after.capacity = before.capacity)
    (id : UInt32) : after.slot id = before.slot id :=
  congrArg (id.toNat % ·) same

/-- A buffer stays in the cache until another is imported into its slot, the producers go, or
the daemon is shut down. -/
theorem lookup_steps [Backlight β] {id : UInt32} {serial : Serial} (run : List (Step β))
    {daemon : Daemon β} (cached : daemon.cache.lookup id = some serial)
    (producing : .power .noConsumer ∉ run) (running : .shutdown ∉ run)
    (apart : ∀ made ∈ daemon.importsOf run, made.1 ≠ id →
      daemon.cache.slot made.1 ≠ daemon.cache.slot id) :
    (daemon.steps run).cache.lookup id = some serial := by
  induction run generalizing daemon with
  | nil => exact cached
  | cons step run ih =>
    rw [List.mem_cons, not_or] at producing running
    obtain ⟨capacity, same⟩ := daemon.sameSlot_step (Option.isSome_iff_exists.mpr ⟨serial, cached⟩)
      (Ne.symm producing.1) (Ne.symm running.1)
      fun made member => apart made (List.mem_append_left _ member)
    refine ih (same.trans cached) producing.2 running.2 ?_
    intro made member other
    rw [slot_congr capacity, slot_congr capacity]
    exact apart made (List.mem_append_right _ member) other

/-! ## Dropped frames -/

theorem showBuffer_outer {serial : Serial} {failure : Failure}
    (refused : (daemon.showBuffer serial).2 = .error failure) :
    failure.outer ∈ ["error binding layer buffer", "error validating",
      "error accepting changes", "error presenting"] := by
  have presenting {daemon : Daemon β} (refused : daemon.presentLayer.2 = .error failure) :
      failure.outer ∈ ["error binding layer buffer", "error validating",
        "error accepting changes", "error presenting"] := by
    rw [presentLayer_outer (Prod.ext rfl refused)]
    decide
  have validating {daemon : Daemon β} (refused : daemon.presentValidated.2 = .error failure) :
      failure.outer ∈ ["error binding layer buffer", "error validating",
        "error accepting changes", "error presenting"] := by
    have validation := daemon.validation
    unfold presentValidated at refused
    generalize daemon.validateLayer = outcome at validation refused
    cases validation with
    | spared | completed => exact presenting refused
    | refused | unaccepted =>
      cases refused
      simp [Failure.during]
  have binding := daemon.binding serial
  rw [showBuffer_eq] at refused
  generalize daemon.bindLayer serial = outcome at binding refused
  cases binding with
  | spared | done => exact validating refused
  | refused =>
    cases refused
    simp [Failure.during]

theorem presentExport_of_unfit {exported : Export} (content : exported.isEmpty = false)
    (missed : daemon.cache.lookup exported.id = none) {failure : Failure}
    (failed : daemon.importFrame exported = .error failure) :
    daemon.presentExport exported =
      (daemon.countDropped, .dropped exported.id, [.importFailed failure exported.id]) := by
  rw [presentExport, if_neg (Bool.eq_false_iff.mp content), fetchBuffer, missed, failed]

theorem stats_release (daemon : Daemon β) (serial : Serial) :
    (daemon.release serial).stats = daemon.stats := by
  unfold release
  split <;> rfl

theorem stats_fetchBuffer {exported : Export} {fetched : Daemon β} {serial : Serial} {hit : Bool}
    (success : daemon.fetchBuffer exported = .ok (fetched, serial, hit)) :
    fetched.stats = { daemon.stats with
      cacheHits := daemon.stats.cacheHits + hit.toNat
      imports := daemon.stats.imports + (!hit).toNat } := by
  unfold fetchBuffer at success
  split at success
  · cases success
    rfl
  · split at success
    · cases success
    · next imported new frame =>
      cases success
      obtain ⟨planes, metadata, allocator, -, -, rfl⟩ := importFrame_eq_ok frame
      cases (daemon.cache.insert exported.id serial).2 with
      | none => rfl
      | some evicted =>
        rw [Option.elim_some, stats_release]
        rfl

section Refused

variable {exported : Export} (content : exported.isEmpty = false) {fetched : Daemon β}
  {serial : Serial} {hit : Bool}
  (success : daemon.fetchBuffer exported = .ok (fetched, serial, hit)) {failure : Failure}
  (refused : (fetched.showBuffer serial).2 = .error failure)

include content success refused

theorem presentExport_of_refused :
    daemon.presentExport exported =
      ((fetched.showBuffer serial).1.countDropped, .dropped exported.id,
        [.presentFailed failure exported.id]) := by
  have cached := BufferCache.mem_buffers_of_lookup (lookup_fetchBuffer success)
  rw [presentExport, if_neg (Bool.eq_false_iff.mp content), success]
  exact showFrame_of_refused cached refused exported.id hit

theorem sameBuffers_of_refused : SameBuffers fetched (daemon.presentExport exported).1 := by
  rw [presentExport_of_refused content success refused]
  exact (fetched.same_showBuffer serial).trans (quiet_countDropped _).toSameBuffers

theorem not_released_of_refused {held : Serial} (holds : fetched.holds held = true) :
    held ∉ (daemon.presentExport exported).1.allocator.releases.drop
      daemon.allocator.releases.length := by
  rw [(sameBuffers_of_refused content success refused).allocator]
  intro back
  exact absurd holds (Bool.eq_false_iff.mp (released_fetchBuffer success held back))

theorem dropped_of_refused :
    (daemon.presentExport exported).1.stats.dropped = daemon.stats.dropped + 1 := by
  have shown := congrArg (·.2.1) (fetched.frames_showBuffer serial)
  have found := congrArg Stats.dropped (stats_fetchBuffer success)
  rw [presentExport_of_refused content success refused]
  exact congrArg (· + 1) (shown.trans found)

end Refused

/-- A frame that is dropped costs nothing else, in every state of a daemon.  Where its id is not
cached, it is imported, which fails just for an export that is unfit.  Then the daemon counts the
frame and changes in nothing else, whatever its compositor is like, and keeps none of the files.
Where the compositor refuses to have a buffer bound, validated, accepted or presented, the buffer
on screen stays there and is not handed back, and the frame stays in the cache, and is found by
later exports of its id whatever handles they have, until another buffer is imported into its
slot, the producers go, or the daemon is shut down.  A frame that is in the cache fares alike
whatever its handles, and none of them is kept. -/
theorem dropped_frame_costs_nothing [Backlight β] (daemon : Daemon β) (exported : Export)
    (content : exported.isEmpty = false) :
    let after := (daemon.presentExport exported).1
    let released := after.allocator.releases.drop daemon.allocator.releases.length
    (daemon.cache.lookup exported.id = none →
      ((∃ failure, daemon.importFrame exported = .error failure) ↔
        exported.Unfit daemon.unreadable daemon.allocator) ∧
      ∀ failure, daemon.importFrame exported = .error failure →
        daemon.kept exported = [] ∧
        ∀ compositor, presentExport { daemon with compositor } exported =
          ({ daemon with compositor, stats.dropped := daemon.stats.dropped + 1 },
            .dropped exported.id, [.importFailed failure exported.id])) ∧
    (∀ fetched serial hit failure, daemon.fetchBuffer exported = .ok (fetched, serial, hit) →
      (fetched.showBuffer serial).2 = .error failure →
        failure.outer ∈ ["error binding layer buffer", "error validating",
          "error accepting changes", "error presenting"] ∧
        (daemon.presentExport exported).2 =
          (.dropped exported.id, [.presentFailed failure exported.id]) ∧
        after.stats.dropped = daemon.stats.dropped + 1 ∧
        after.lastPresented = daemon.lastPresented ∧
        (∀ shown, daemon.lastPresented = some shown → shown ∉ released) ∧
        after.cache.lookup exported.id = some serial ∧ serial ∉ released ∧
        ∀ more : List (Step β), .power .noConsumer ∉ more → .shutdown ∉ more →
          (∀ made ∈ after.importsOf more, made.1 ≠ exported.id →
            after.cache.slot made.1 ≠ after.cache.slot exported.id) →
          ∀ later : Export, later.id = exported.id →
            (∃ found, (after.steps more).fetchBuffer later = .ok (found, serial, true)) ∧
              (after.steps more).kept later = []) ∧
    ∀ serial, daemon.cache.lookup exported.id = some serial →
      ∀ other : Export, other.id = exported.id → other.isEmpty = false →
        daemon.presentExport other = daemon.presentExport exported ∧ daemon.kept other = [] ∧
          ((daemon.presentExport other).2.1 = .dropped exported.id ↔
            ∃ failure, (showBuffer { daemon with stats.cacheHits := daemon.stats.cacheHits + 1 }
              serial).2 = .error failure) := by
  intro after released
  refine ⟨fun missed => ⟨daemon.importFrame_error_iff exported, fun failure failed => ⟨?_, ?_⟩⟩,
    ?_, ?_⟩
  · apply kept_of_imports
    rw [presentExport_of_unfit content missed failed]
    rfl
  · intro compositor
    refine presentExport_of_unfit content ?_ (importFrame_error_congr failed compositor)
    exact missed
  · intro fetched serial hit failure success refused
    have same := sameBuffers_of_refused content success refused
    have onScreen := (screen_fetchBuffer success).2
    have found := lookup_fetchBuffer success
    have kept : after.cache.lookup exported.id = some serial := by
      rw [same.cache]
      exact found
    have stays {held : Serial} (holds : fetched.holds held = true) : held ∉ released :=
      not_released_of_refused content success refused holds
    refine ⟨showBuffer_outer refused, ?_, dropped_of_refused content success refused,
      same.lastPresented.trans onScreen, fun shown last => ?_, kept, ?_, ?_⟩
    · rw [presentExport_of_refused content success refused]
    · exact stays (holds_iff.mpr (.inr (onScreen.trans last)))
    · exact stays (holds_iff.mpr (.inl (BufferCache.mem_buffers_of_lookup found)))
    · intro more producing running apart later sameId
      have still := lookup_steps more kept producing running apart
      rw [← sameId] at still
      exact ⟨⟨_, fetchBuffer_of_cached still⟩, kept_of_cached still⟩
  · intro serial cached other sameId some
    have alike := presentExport_of_cached content cached
    rw [← sameId] at cached alike ⊢
    have otherwise := presentExport_of_cached some cached
    refine ⟨otherwise.trans alike.symm, kept_of_cached cached, ?_⟩
    rw [otherwise]
    unfold showFrame
    rcases showBuffer _ serial with ⟨shown, failure | _⟩ <;> simp

/-- A frame whose present was refused is found by an export that has lost its handles. -/
theorem dropped_frame_costs_nothing_refused_present :
    let frame : Export := ⟨1, [some ⟨1, []⟩, some ⟨9, [7]⟩]⟩
    let compositor := { Compositor.new (.ofMode .default) with refused := [.present] }
    let daemon : Daemon Panel := .new (.new 64) compositor none (.scanout 1920 1080) .default
    let after := (daemon.presentExport frame).1
    (daemon.presentExport frame).2.1 = .dropped 1 ∧ after.stats.dropped = 1 ∧
      ∃ found, (after.steps [.refuseRequest .present false]).fetchBuffer ⟨1, [none, none]⟩ =
        .ok (found, 1, true) := by
  intro frame compositor daemon after
  obtain ⟨fetched, success, refused⟩ : ∃ fetched,
      daemon.fetchBuffer frame = .ok (fetched, 1, false) ∧
        (fetched.showBuffer 1).2 = .error ⟨"error presenting", ["present refused"]⟩ :=
    ⟨_, rfl, rfl⟩
  obtain ⟨-, dropped, -⟩ := dropped_frame_costs_nothing daemon frame rfl
  obtain ⟨-, outcome, counted, -, -, -, -, later⟩ := dropped fetched 1 false _ success refused
  obtain ⟨found, -⟩ := later [.refuseRequest .present false] (by simp) (by simp) nofun
    ⟨1, [none, none]⟩ rfl
  exact ⟨congrArg Prod.fst outcome, counted, found⟩

end Daemon

end PresentRelay
