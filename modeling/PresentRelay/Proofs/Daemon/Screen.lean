import Mathlib.Data.List.Forall2
import PresentRelay.Proofs.Daemon.Custody

/-!
# What a daemon knows of its screen

`Screen` says what a daemon knows of its compositor and of its imports: the buffer bound
last is the one bound now, the buffer cached for an id was imported for that id, and the
buffer on screen is the one presented last.  Every step keeps it, as long as exports with
one id carry one framebuffer.

An export carries files, apart from handles that could not be minted.  One that can be
taken apart is complete, so that what is imported from it is made of these files.
-/

set_option autoImplicit false

namespace PresentRelay

/-! ## What an import is made of -/

/-- Where an export has a handle, it is of these files. -/
def Export.Carries (exported : Export) (files : List File) : Prop :=
  List.Forall₂ (fun handle file => ∀ given, handle = some given → given = file)
    exported.handles files

theorem Export.files_of_carries {exported : Export} {files : List File}
    (carries : exported.Carries files) (complete : exported.handles.findIdx? Option.isNone = none) :
    exported.files = files := by
  obtain ⟨id, handles⟩ := exported
  simp only [Export.Carries, Export.files] at carries complete ⊢
  rw [List.findIdx?_eq_none_iff] at complete
  induction carries with
  | nil => rfl
  | @cons handle file handles files same _ ih =>
    cases handle with
    | none => simp at complete
    | some given =>
      obtain rfl := same given rfl
      have rest := ih fun other member => complete other (List.mem_cons_of_mem _ member)
      rw [List.filterMap_cons, rest]

/-- An import that was made of files: the last has the metadata, the others are the planes. -/
def Allocator.ImportedFrom (start now : Allocator) (files : List File) (serial : Serial) : Prop :=
  ∃ made ∈ start.importedSince now, ∃ last, made.serial = serial ∧ files.getLast? = some last ∧
    made.planes = files.dropLast ∧ made.metadata = last.contents ∧ made.metadata ≠ []

theorem Allocator.ImportedFrom.mono {start now after : Allocator} {files : List File}
    {serial : Serial} (imported : start.ImportedFrom now files serial)
    (subset : start.importedSince now ⊆ start.importedSince after) :
    start.ImportedFrom after files serial := by
  obtain ⟨made, member, rest⟩ := imported
  exact ⟨made, subset member, rest⟩

theorem Export.takeApart_of_carries {exported : Export} {unreadable : File → Option ReadFault}
    {files planes : List File} {metadata : Bytes} (carries : exported.Carries files)
    (apart : exported.takeApart unreadable = .ok (planes, metadata)) :
    planes = files.dropLast ∧
      ∃ last, files.getLast? = some last ∧ metadata = last.contents ∧ metadata ≠ [] := by
  unfold Export.takeApart at apart
  split at apart
  · cases apart
  · split at apart
    · cases apart
    · next complete =>
      rw [Export.files_of_carries carries complete] at apart
      split at apart
      · cases apart
      · dsimp only at apart
        split at apart
        · cases apart
        · next some =>
          obtain ⟨rfl, rfl⟩ := Prod.mk.inj (Except.ok.inj apart)
          refine ⟨rfl, ?_⟩
          cases last : files.getLast? with
          | none => simp [last] at some
          | some file => exact ⟨file, rfl, rfl, by simpa [last] using some⟩

namespace Daemon

variable {β : Type} {start : Allocator} {capacity : Nat} {daemon : Daemon β}

/-- What a step imports, and the id of the export it is imported for. -/
def importOf (daemon : Daemon β) : Step β → List (UInt32 × Serial)
  | .frame exported =>
    if exported.isEmpty then []
    else
      match daemon.fetchBuffer exported with
      | .ok (_, serial, false) => [(exported.id, serial)]
      | _ => []
  | _ => []

def importsOf [Backlight β] : Daemon β → List (Step β) → List (UInt32 × Serial)
  | _, [] => []
  | daemon, step :: run => daemon.importOf step ++ importsOf (daemon.step step).daemon run

/-! ## What the daemon knows -/

/-- What a daemon knows of the compositor, and of the buffers in its cache. -/
structure Screen (start : Allocator) (frames : UInt32 → List File)
    (imports : List (UInt32 × Serial)) (daemon : Daemon β) : Prop where
  bound : ∀ serial, daemon.lastBound = some serial → daemon.Bound serial
  shown : ∀ serial, daemon.lastPresented = some serial →
    daemon.compositor.presents.getLast? = some serial
  cached : ∀ id serial, some (id, serial) ∈ daemon.cache.slots →
    (id, serial) ∈ imports ∧ start.ImportedFrom daemon.allocator (frames id) serial

variable {frames : UInt32 → List File} {imports : List (UInt32 × Serial)}

theorem Screen.keep (screen : Screen start frames imports daemon) {after : Daemon β}
    {more : List (UInt32 × Serial)} (same : SameScreen daemon after)
    (shown : ∀ serial, after.lastPresented = some serial → daemon.lastPresented = some serial)
    (cached : ∀ id serial, some (id, serial) ∈ after.cache.slots →
      (id, serial) ∈ more ∧ start.ImportedFrom after.allocator (frames id) serial) :
    Screen start frames more after where
  bound serial last := (screen.bound serial (same.lastBound ▸ last)).same same
  shown serial last := by
    rw [same.presents]
    exact screen.shown serial (shown serial last)
  cached := cached

theorem Screen.same (screen : Screen start frames imports daemon) {after : Daemon β}
    (quiet : Quiet daemon after) : Screen start frames imports after := by
  apply screen.keep quiet.toSameScreen
  · intro serial last
    exact quiet.lastPresented ▸ last
  · intro id serial held
    rw [quiet.allocator]
    exact screen.cached id serial (quiet.cache ▸ held)

theorem Screen.mono (screen : Screen start frames imports daemon)
    {more : List (UInt32 × Serial)} (subset : imports ⊆ more) :
    Screen start frames more daemon := by
  refine screen.keep ⟨rfl, rfl, rfl, rfl⟩ ?_ ?_
  · intro serial last
    exact last
  · intro id serial held
    obtain ⟨known, made⟩ := screen.cached id serial held
    exact ⟨subset known, made⟩

theorem importedSince_release (start : Allocator) (daemon : Daemon β) (serial : Serial) :
    start.importedSince (daemon.release serial).allocator =
      start.importedSince daemon.allocator := by
  rw [Allocator.importedSince, imports_release]
  rfl

theorem Screen.release (screen : Screen start frames imports daemon) (serial : Serial) :
    Screen start frames imports (daemon.release serial) := by
  apply screen.keep (daemon.sameScreen_release serial)
  · intro other last
    rwa [lastPresented_release] at last
  · intro id other held
    rw [cache_release] at held
    obtain ⟨known, made⟩ := screen.cached id other held
    refine ⟨known, made.mono ?_⟩
    rw [importedSince_release]
    exact List.Subset.refl _

theorem Screen.prepareLayer (screen : Screen start frames imports daemon) (serial : Serial) :
    Screen start frames imports (daemon.prepareLayer serial).1 ∧
      ((daemon.prepareLayer serial).2 = .ok () → (daemon.prepareLayer serial).1.Bound serial) := by
  unfold Daemon.prepareLayer
  obtain ⟨failure, done⟩ | ⟨already, done⟩ | ⟨after, done, buffers, bound, last, presents⟩ :=
    daemon.bindLayer_cases serial
  · rw [done]
    exact ⟨screen, nofun⟩
  · rw [done]
    have quiet := quiet_validateLayer daemon
    exact ⟨screen.same quiet, fun _ => (screen.bound serial already).same quiet.toSameScreen⟩
  · rw [done]
    have quiet := quiet_validateLayer after
    have rebound : Screen start frames imports after := by
      refine ⟨?_, ?_, ?_⟩
      · intro other known
        obtain rfl := Option.some.inj (last.symm.trans known)
        exact bound
      · intro other known
        rw [presents]
        exact screen.shown other (buffers.lastPresented ▸ known)
      · intro id other held
        rw [buffers.allocator]
        exact screen.cached id other (buffers.cache ▸ held)
    exact ⟨rebound.same quiet, fun _ => bound.same quiet.toSameScreen⟩

/-! ## Frames and their imports -/

theorem mem_slots_insert {cache : BufferCache Serial} {frame id : UInt32} {serial held : Serial}
    (member : some (id, held) ∈ (cache.insert frame serial).1.slots) :
    (id = frame ∧ held = serial) ∨ some (id, held) ∈ cache.slots := by
  rcases List.mem_or_eq_of_mem_set member with old | new
  · exact .inr old
  · obtain ⟨rfl, rfl⟩ := Prod.mk.inj (Option.some.inj new)
    exact .inl ⟨rfl, rfl⟩

theorem Screen.fetchBuffer (screen : Screen start frames imports daemon)
    (since : start.Since daemon.allocator) {exported : Export} (some : exported.isEmpty = false)
    (carries : exported.Carries (frames exported.id)) {fetched : Daemon β} {serial : Serial}
    {hit : Bool} (success : daemon.fetchBuffer exported = .ok (fetched, serial, hit)) :
    Screen start frames (imports ++ daemon.importOf (.frame exported)) fetched ∧
      (exported.id, serial) ∈ imports ++ daemon.importOf (.frame exported) ∧
      start.ImportedFrom fetched.allocator (frames exported.id) serial := by
  have noted : daemon.importOf (.frame exported) =
      if hit then [] else [(exported.id, serial)] := by
    simp only [importOf, some, success, Bool.false_eq_true, if_false]
    cases hit <;> rfl
  obtain ⟨rfl, found, quiet⟩ | ⟨rfl, -, imported⟩ := fetchBuffer_eq_ok success
  · obtain ⟨known, made⟩ := screen.cached _ _ (BufferCache.mem_slots_of_lookup found)
    rw [noted, if_pos rfl, List.append_nil, quiet.allocator]
    exact ⟨screen.same quiet, known, made⟩
  · rw [noted, if_neg Bool.false_ne_true]
    have new : (exported.id, serial) ∈ imports ++ [(exported.id, serial)] :=
      List.mem_append_right _ (List.mem_singleton_self _)
    obtain ⟨planes, metadata, allocator, apart, given, rfl⟩ := importFrame_eq_ok imported
    obtain ⟨rfl, last, least, rfl, content⟩ := Export.takeApart_of_carries carries apart
    obtain ⟨-, -, -, recorded, -⟩ := since.importBuffer given
    have made : start.ImportedFrom allocator (frames exported.id) serial := by
      refine ⟨⟨serial, (frames exported.id).dropLast, last.contents, daemon.desc⟩, ?_, last, rfl,
        least, rfl, rfl, content⟩
      rw [recorded]
      exact List.mem_append_right _ (List.mem_singleton_self _)
    have older : start.importedSince daemon.allocator ⊆ start.importedSince allocator := by
      rw [recorded]
      exact List.subset_append_left _ _
    have cached : Screen start frames (imports ++ [(exported.id, serial)])
        (daemon.withImport allocator exported.id serial) := by
      refine screen.keep ⟨rfl, rfl, rfl, rfl⟩ ?_ ?_
      · intro other last
        exact last
      · intro id other held
        rcases mem_slots_insert held with ⟨rfl, rfl⟩ | old
        · exact ⟨new, made⟩
        · obtain ⟨known, before⟩ := screen.cached id other old
          exact ⟨List.mem_append_left _ known, before.mono older⟩
    cases (daemon.cache.insert exported.id serial).2 with
    | none => exact ⟨cached, new, made⟩
    | some evicted =>
      refine ⟨cached.release evicted, new, made.mono ?_⟩
      rw [Option.elim_some, importedSince_release]
      exact List.Subset.refl _

theorem Screen.showFrame (screen : Screen start frames imports daemon) (id : UInt32)
    (serial : Serial) (hit : Bool) :
    Screen start frames imports (daemon.showFrame id serial hit).1 := by
  obtain ⟨ready, bound⟩ := screen.prepareLayer serial
  obtain dropped | ⟨prepared, after, done, shown⟩ := daemon.showFrame_cases id serial hit
  · rw [dropped]
    exact (ready.same (quiet_countDropped _)).release serial
  · obtain ⟨failure, refused⟩ | ⟨presented, same, buffers, now, layer, last, still, binds,
        presents⟩ := (daemon.prepareLayer serial).1.presentLayer_cases
    · rw [refused] at done
      cases done
    · obtain rfl := (Prod.mk.inj (done.symm.trans same)).1
      obtain rfl : serial = now := Option.some.inj ((bound prepared).now.symm.trans layer)
      have onScreen : Screen start frames imports (after.withShown serial) := by
        refine ⟨?_, ?_, ?_⟩
        · intro other known
          have before := ready.bound other (last ▸ known)
          exact ⟨still.trans (layer.symm.trans before.now), binds ▸ before.last⟩
        · intro other known
          obtain rfl := Option.some.inj known
          rw [withShown, presents]
          exact List.getLast?_concat
        · intro id other held
          rw [withShown, buffers.allocator]
          exact ready.cached id other (buffers.cache ▸ held)
      rw [shown]
      cases after.lastPresented with
      | none => exact onScreen
      | some previous => exact onScreen.release previous

theorem Screen.presentExport (screen : Screen start frames imports daemon)
    (since : start.Since daemon.allocator) (exported : Export)
    (carries : exported.isEmpty = false → exported.Carries (frames exported.id)) :
    Screen start frames (imports ++ daemon.importOf (.frame exported))
      (daemon.presentExport exported).1 := by
  have later : imports ⊆ imports ++ daemon.importOf (.frame exported) :=
    List.subset_append_left _ _
  unfold Daemon.presentExport
  split
  · exact screen.mono later
  · next some =>
    have content : exported.isEmpty = false := Bool.eq_false_iff.mpr some
    split
    · exact (screen.mono later).same (quiet_countDropped daemon)
    · next fetched serial hit success =>
      exact (screen.fetchBuffer since content (carries content) success).1.showFrame _ _ _

/-! ## Runs -/

theorem Screen.emptyCache (screen : Screen start frames imports daemon) :
    Screen start frames imports daemon.emptyCache := by
  refine emptyCache_induction ⟨nofun, screen.shown, ?_⟩
    fun other serial kept => kept.release serial
  intro id serial held
  have none : some (id, serial) ∈ daemon.cache.clear.1.slots := held
  simp [BufferCache.clear] at none

theorem Screen.shutdown (screen : Screen start frames imports daemon) :
    Screen start frames imports daemon.shutdown := by
  have emptied := screen.emptyCache
  obtain ⟨-, same⟩ | ⟨serial, -, released⟩ := daemon.shutdown_cases
  · rw [same]
    exact emptied
  · have gone : Screen start frames imports { daemon.emptyCache with lastPresented := none } :=
      emptied.keep ⟨rfl, rfl, rfl, rfl⟩ nofun emptied.cached
    rw [released]
    exact gone.release serial

theorem Screen.handlePower [Backlight β] (screen : Screen start frames imports daemon)
    (power : Power) : Screen start frames imports (daemon.handlePower power).1 := by
  obtain ⟨noted, quiet, same | emptied⟩ := daemon.handlePower_cases power
  · rw [same]
    exact screen.same quiet
  · rw [emptied]
    exact (screen.same quiet).emptyCache

/-- Exports with one id carry one framebuffer. -/
def Step.Consistent (frames : UInt32 → List File) : Step β → Prop
  | .frame exported => exported.isEmpty = false → exported.Carries (frames exported.id)
  | _ => True

theorem Screen.step [Backlight β] (screen : Screen start frames imports daemon)
    (since : start.Since daemon.allocator) (step : Step β) (consistent : step.Consistent frames) :
    Screen start frames (imports ++ daemon.importOf step) (daemon.step step).daemon := by
  cases step with
  | frame exported => exact screen.presentExport since exported consistent
  | power notice =>
    rw [importOf, List.append_nil]
    · exact screen.handlePower notice
    · nofun
  | shutdown =>
    rw [importOf, List.append_nil]
    · exact screen.shutdown
    · nofun
  | expectValidation | loseFiles | refuseRequest | backlight =>
    rw [importOf, List.append_nil]
    · exact screen.same ⟨⟨rfl, rfl, rfl⟩, rfl, rfl, rfl, rfl⟩
    · nofun
  | refuseImports refused =>
    rw [importOf, List.append_nil]
    · exact screen.keep ⟨rfl, rfl, rfl, rfl⟩ (fun _ last => last) screen.cached
    · nofun

theorem Screen.steps [Backlight β] (custody : Custody start capacity daemon [])
    (screen : Screen start frames imports daemon) (run : List (Step β))
    (consistent : ∀ step ∈ run, step.Consistent frames) :
    Screen start frames (imports ++ daemon.importsOf run) (daemon.steps run) := by
  induction run generalizing daemon imports with
  | nil =>
    rw [importsOf, List.append_nil]
    exact screen
  | cons step run ih =>
    have first := screen.step custody.since step (consistent step (List.mem_cons_self ..))
    have rest := ih (custody.step step) first fun other member =>
      consistent other (List.mem_cons_of_mem _ member)
    rwa [List.append_assoc] at rest

theorem importsOf_concat [Backlight β] (daemon : Daemon β) (run : List (Step β))
    (step : Step β) :
    daemon.importsOf (run ++ [step]) =
      daemon.importsOf run ++ (daemon.steps run).importOf step := by
  induction run generalizing daemon with
  | nil => exact List.append_nil _
  | cons first run ih =>
    rw [List.cons_append, importsOf, importsOf, ih, List.append_assoc]
    rfl

end Daemon

end PresentRelay
