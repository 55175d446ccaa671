import Mathlib.Data.List.Induction
import PresentRelay.Proofs.Daemon.Returns
import PresentRelay.Proofs.Daemon.Screen

/-!
# The right frame on screen

Whenever a daemon asks for a present, what it knows of its screen says that the buffer of
the frame at hand is bound; and what is on screen stays with the daemon until something
else is, or it shuts down.
-/

set_option autoImplicit false

namespace PresentRelay

namespace Daemon

variable {β : Type} {start : Allocator} {capacity : Nat} {daemon : Daemon β}
  {frames : UInt32 → List File} {imports : List (UInt32 × Serial)}

/-- The daemon as it asks for a present, if an export gets it there, and the buffer that it
means to show. -/
def presentCall? (daemon : Daemon β) (exported : Export) : Option (Daemon β × Serial) :=
  if exported.isEmpty then none
  else
    match daemon.fetchBuffer exported with
    | .error _ => none
    | .ok (fetched, serial, _) =>
      match fetched.prepareLayer serial with
      | (_, .error _) => none
      | (caller, .ok ()) => some (caller, serial)

theorem presentCall?_eq_some {exported : Export} {caller : Daemon β} {serial : Serial}
    (call : daemon.presentCall? exported = some (caller, serial)) :
    exported.isEmpty = false ∧ ∃ fetched hit,
      daemon.fetchBuffer exported = .ok (fetched, serial, hit) ∧
        fetched.prepareLayer serial = (caller, .ok ()) := by
  unfold presentCall? at call
  split at call
  · cases call
  · next some =>
    split at call
    · cases call
    · next fetched found hit success =>
      split at call
      · cases call
      · next ready prepared =>
        obtain ⟨rfl, rfl⟩ := Prod.mk.inj (Option.some.inj call)
        exact ⟨Bool.eq_false_iff.mpr some, fetched, hit, success, prepared⟩

/-- A present is asked for with the right buffer bound, which the allocator did not get
back; nor did it get back the one on screen. -/
theorem Screen.presentCall (custody : Custody start capacity daemon [])
    (screen : Screen start frames imports daemon) {exported : Export}
    (carries : exported.isEmpty = false → exported.Carries (frames exported.id))
    {caller : Daemon β} {serial : Serial}
    (call : daemon.presentCall? exported = some (caller, serial)) :
    caller.Bound serial ∧ (exported.id, serial) ∈ imports ++ daemon.importOf (.frame exported) ∧
      start.ImportedFrom caller.allocator (frames exported.id) serial ∧
      serial ∉ start.returnedSince caller.allocator ∧
      ∀ shown, daemon.lastPresented = some shown →
        shown ∉ start.returnedSince caller.allocator := by
  obtain ⟨content, fetched, hit, success, prepared⟩ := presentCall?_eq_some call
  obtain ⟨kept, cached⟩ := custody.fetchBuffer success
  obtain ⟨known, noted, made⟩ := screen.fetchBuffer custody.since content (carries content) success
  have onScreen := (screen_fetchBuffer success).2
  have same := (fetched.same_prepareLayer serial).1
  have bound := (known.prepareLayer serial).2
  rw [prepared] at same bound
  rw [same.allocator]
  refine ⟨bound rfl, noted, made, kept.not_returned (holds_iff.mpr (.inl cached)),
    fun shown last => kept.not_returned (holds_iff.mpr (.inr (onScreen.trans last)))⟩

theorem presentExport_cases (daemon : Daemon β) (exported : Export) :
    ((daemon.presentExport exported).1.compositor.presents = daemon.compositor.presents ∧
        (daemon.presentExport exported).1.lastPresented = daemon.lastPresented) ∨
      ∃ shown, (daemon.presentExport exported).1.lastPresented = some shown := by
  unfold presentExport
  split
  · exact .inl ⟨rfl, rfl⟩
  · split
    · exact .inl ⟨rfl, rfl⟩
    · next fetched serial hit success =>
      obtain ⟨same, onScreen⟩ := screen_fetchBuffer success
      obtain ⟨buffers, presents⟩ := fetched.same_prepareLayer serial
      obtain dropped | ⟨-, after, -, shown⟩ := fetched.showFrame_cases exported.id serial hit
      · left
        rw [dropped, (sameScreen_release _ serial).presents, lastPresented_release]
        exact ⟨presents.trans same.presents, buffers.lastPresented.trans onScreen⟩
      · right
        refine ⟨serial, ?_⟩
        rw [shown]
        cases after.lastPresented with
        | none => rfl
        | some previous => exact lastPresented_release _ previous

theorem handlePower_screen [Backlight β] (daemon : Daemon β) (power : Power) :
    (daemon.handlePower power).1.compositor.presents = daemon.compositor.presents ∧
      (daemon.handlePower power).1.lastPresented = daemon.lastPresented := by
  obtain ⟨noted, quiet, same | emptied⟩ := daemon.handlePower_cases power
  · rw [same]
    exact ⟨quiet.presents, quiet.lastPresented⟩
  · obtain ⟨-, onScreen, -, presents⟩ := noted.after_emptyCache
    rw [emptied]
    exact ⟨presents.trans quiet.presents, onScreen.trans quiet.lastPresented⟩

theorem step_cases [Backlight β] (daemon : Daemon β) {step : Step β} (running : step ≠ .shutdown) :
    ((daemon.step step).daemon.compositor.presents = daemon.compositor.presents ∧
        (daemon.step step).daemon.lastPresented = daemon.lastPresented) ∨
      ∃ shown, (daemon.step step).daemon.lastPresented = some shown := by
  cases step with
  | frame exported => exact daemon.presentExport_cases exported
  | power notice => exact .inl (daemon.handlePower_screen notice)
  | expectValidation | refuseImports | loseFiles | refuseRequest | backlight =>
    exact .inl ⟨rfl, rfl⟩
  | shutdown => exact absurd rfl running

theorem steps_append [Backlight β] (daemon : Daemon β) (before after : List (Step β)) :
    daemon.steps (before ++ after) = (daemon.steps before).steps after :=
  List.foldl_append

theorem onScreen_steps [Backlight β] (daemon : Daemon β) (run : List (Step β))
    (running : .shutdown ∉ run)
    (presented : daemon.compositor.presents ≠ (daemon.steps run).compositor.presents) :
    ∃ shown, (daemon.steps run).lastPresented = some shown := by
  induction run using List.reverseRecOn with
  | nil => exact absurd rfl presented
  | append_singleton run step ih =>
    rw [List.mem_append, not_or] at running
    have going : step ≠ .shutdown := fun same => running.2 (same ▸ List.mem_singleton_self _)
    rw [steps_append] at presented ⊢
    obtain ⟨presents, last⟩ | shown := (daemon.steps run).step_cases going
    · obtain ⟨shown, before⟩ := ih running.1 fun same => presented (same.trans presents.symm)
      exact ⟨shown, last.trans before⟩
    · exact shown

theorem presents_presentExport (daemon : Daemon β) (exported : Export) :
    (daemon.presentExport exported).1.compositor.presents =
      match daemon.presentCall? exported with
      | none => daemon.compositor.presents
      | some (caller, _) => caller.presentLayer.1.compositor.presents := by
  unfold presentExport presentCall?
  split
  · rfl
  · cases success : daemon.fetchBuffer exported with
    | error failure => rfl
    | ok found =>
      obtain ⟨fetched, serial, hit⟩ := found
      have before := (screen_fetchBuffer success).1.presents
      have presents := (fetched.same_prepareLayer serial).2
      dsimp only
      unfold showFrame showBuffer
      rcases prepared : fetched.prepareLayer serial with ⟨caller, failure | _⟩
      · rw [prepared] at presents
        exact (sameScreen_release _ serial).presents.trans (presents.trans before)
      · dsimp only
        rcases done : caller.presentLayer with ⟨after, failure | _⟩
        · exact (sameScreen_release _ serial).presents
        · dsimp only
          cases after.lastPresented with
          | none => rfl
          | some previous => exact (sameScreen_release _ previous).presents

end Daemon

namespace Station

variable {β : Type}

theorem screen_start [Backlight β] {feed : Feed} {start : Allocator} {compositor : Compositor}
    {backlight : Option β} {config : DaemonConfig} {station : Station β}
    (started : (Station.start feed start compositor backlight config).1 = .running station)
    (frames : UInt32 → List File) : Daemon.Screen start frames [] station.daemon := by
  have cases := start_cases feed start compositor backlight config
  rw [started] at cases
  obtain ⟨lit, desc, new⟩ := cases
  rw [new]
  refine ⟨nofun, nofun, ?_⟩
  intro id serial held
  simp [Daemon.new, BufferCache.new] at held

/-- The right frame is on screen, in every run of a daemon in which exports with one id carry
one framebuffer.  When a present is asked for while an export is handled, the buffer bound
last is the one imported for the id of that export, from all files but the last and with the
contents of the last, which are not empty, and the allocator did not get it back; and presents
come about in no other way.  The buffer presented last does not go back before the next present
that succeeds, or a shutdown. -/
theorem right_frame_on_screen [Backlight β] {feed : Feed} {start : Allocator}
    {compositor : Compositor} {backlight : Option β} {config : DaemonConfig} {station : Station β}
    (started : (Station.start feed start compositor backlight config).1 = .running station)
    (frames : UInt32 → List File) (run : List (Daemon.Step β)) (exported : Export)
    (consistent : ∀ step ∈ run ++ [.frame exported], step.Consistent frames) :
    let daemon := station.daemon.steps run
    (∀ caller serial, daemon.presentCall? exported = some (caller, serial) →
      caller.compositor.bound = some serial ∧ caller.compositor.binds.getLast? = some serial ∧
        (exported.id, serial) ∈ station.daemon.importsOf (run ++ [.frame exported]) ∧
        start.ImportedFrom caller.allocator (frames exported.id) serial ∧
        serial ∉ start.returnedSince caller.allocator) ∧
    ((daemon.step (.frame exported)).daemon.compositor.presents =
      match daemon.presentCall? exported with
      | none => daemon.compositor.presents
      | some (caller, _) => caller.presentLayer.1.compositor.presents) ∧
    (∀ before after, run = before ++ after → .shutdown ∉ after →
      (station.daemon.steps before).compositor.presents ≠ daemon.compositor.presents →
      ∃ shown, daemon.compositor.presents.getLast? = some shown ∧
        shown ∉ start.returnedSince daemon.allocator ∧
        ∀ caller serial, daemon.presentCall? exported = some (caller, serial) →
          shown ∉ start.returnedSince caller.allocator) := by
  intro daemon
  have fresh : Daemon.Custody start (max config.cacheSlots.toNat 1) station.daemon [] :=
    custody_steps started []
  have custody : Daemon.Custody start (max config.cacheSlots.toNat 1) daemon [] :=
    custody_steps started run
  have screen : Daemon.Screen start frames (station.daemon.importsOf run) daemon :=
    (screen_start started frames).steps fresh run fun step member =>
      consistent step (List.mem_append_left _ member)
  have carries : exported.isEmpty = false → exported.Carries (frames exported.id) :=
    consistent (.frame exported) (List.mem_append_right _ (List.mem_singleton_self _))
  refine ⟨?_, daemon.presents_presentExport exported, ?_⟩
  · intro caller serial call
    obtain ⟨bound, noted, made, out, -⟩ := screen.presentCall custody carries call
    rw [Daemon.importsOf_concat]
    exact ⟨bound.now, bound.last, noted, made, out⟩
  · intro before after split going presented
    have continued : daemon = (station.daemon.steps before).steps after := by
      rw [← Daemon.steps_append, ← split]
    obtain ⟨shown, last⟩ := (station.daemon.steps before).onScreen_steps after going
      (continued ▸ presented)
    rw [← continued] at last
    refine ⟨shown, screen.shown shown last,
      custody.not_returned (Daemon.holds_iff.mpr (.inr last)), ?_⟩
    intro caller serial call
    exact (screen.presentCall custody carries call).2.2.2.2 shown last

/-- Two framebuffers share the one slot of a cache.  When the first is shown again, it is
imported anew, and the second, which the cache let go of, stays until then. -/
theorem right_frame_on_screen_one_slot :
    let start := Allocator.new 1920
    let frames : UInt32 → List File := fun id => [⟨id.toNat, []⟩, ⟨9, [7]⟩]
    let first : Export := ⟨1, (frames 1).map some⟩
    let second : Export := ⟨2, (frames 2).map some⟩
    let run : List (Daemon.Step Panel) := [.frame first, .frame second]
    ∃ station : Station Panel,
      (Station.start ⟨.new .default, .link 0 []⟩ start (.new (.ofMode .default)) none
        { DaemonConfig.default with cacheSlots := 1 }).1 = .running station ∧
      (∀ step ∈ run ++ [.frame first], step.Consistent frames) ∧
      (∃ caller, (station.daemon.steps run).presentCall? first = some (caller, 4) ∧
        caller.compositor.bound = some 4 ∧ 4 ∉ start.returnedSince caller.allocator) ∧
      ∃ shown, (station.daemon.steps run).compositor.presents.getLast? = some shown ∧
        shown ∉ start.returnedSince (station.daemon.steps run).allocator := by
  intro start frames first second run
  let station : Station Panel := idle none { DaemonConfig.default with cacheSlots := 1 }
  have started : (Station.start ⟨.new .default, .link 0 []⟩ start (.new (.ofMode .default)) none
      { DaemonConfig.default with cacheSlots := 1 }).1 = .running station := start_idle none _
  have carries : ∀ id : UInt32, Export.Carries ⟨id, (frames id).map some⟩ (frames id) := by
    intro id
    exact .cons (fun _ same => (Option.some.inj same).symm)
      (.cons (fun _ same => (Option.some.inj same).symm) .nil)
  have consistent : ∀ step ∈ run ++ [.frame first], step.Consistent frames := by
    intro step member
    simp only [run, List.cons_append, List.nil_append, List.mem_cons, List.not_mem_nil,
      or_false] at member
    rcases member with rfl | rfl | rfl
    · exact fun _ => carries 1
    · exact fun _ => carries 2
    · exact fun _ => carries 1
  have shows : ((station.daemon.steps run).presentCall? first).map Prod.snd = some 4 := by decide
  obtain ⟨⟨caller, serial⟩, call, same⟩ := Option.map_eq_some_iff.mp shows
  obtain rfl : serial = 4 := same
  obtain ⟨presents, -, kept⟩ := right_frame_on_screen started frames run first consistent
  obtain ⟨bound, -, -, -, out⟩ := presents caller 4 call
  obtain ⟨shown, last, stays, -⟩ := kept [] run rfl (by simp [run]) (by decide)
  exact ⟨station, started, consistent, ⟨caller, call, bound, out⟩, shown, last, stays⟩

end Station

end PresentRelay
