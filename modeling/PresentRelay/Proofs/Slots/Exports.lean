import PresentRelay.Proofs.Events.Registration
import PresentRelay.Proofs.Slots.Commits

/-!
# Exports through links that ended

A link that was torn down delivers nothing any more, but it still exports: an export takes
what is active, whichever link asks.  `ended_links_harmless_iff` says when that does no harm,
and what is lost to the consumer when it does.
-/

set_option autoImplicit false

namespace PresentRelay

namespace Scene

/-- What was exported stays exported, in its place. -/
theorem exports_prefix (scene : Scene) (steps later : List Step) :
    (scene.commitLog steps).exports <+: (scene.commitLog (steps ++ later)).exports := by
  induction later using List.reverseRecOn with
  | nil => simp only [List.append_nil, List.prefix_rfl]
  | append_singleton later step ih =>
    rw [← List.append_assoc, commitLog_concat]
    cases (scene.run (steps ++ later)).move? step with
    | none => exact ih
    | some move =>
      rw [Option.elim_some, CommitLog.exports_note]
      exact ih.trans (List.prefix_append _ _)

/-- An export takes the commit that is active for good: no later one gets it. -/
theorem exported_once (mode : Mode) (steps later : List Step) (link number : Nat)
    (active : ((Scene.new mode).commitLog steps).active = some number) :
    ∃ rest,
      ((Scene.new mode).commitLog (steps ++ .exportActive link :: later)).exported =
        ((Scene.new mode).commitLog steps).exported ++ number :: rest ∧
      number ∉ rest := by
  have taken : ((Scene.new mode).commitLog (steps ++ [.exportActive link])).exports =
      ((Scene.new mode).commitLog steps).exports ++ [some number] := by
    have move : ((Scene.new mode).run steps).move? (.exportActive link) = some .take := rfl
    rw [commitLog_concat, move, Option.elim_some, CommitLog.exports_note, if_pos rfl, active]
  obtain ⟨rest, grown⟩ := exports_prefix (Scene.new mode) (steps ++ [.exportActive link]) later
  rw [taken, List.append_assoc, List.append_assoc] at grown
  have exported :
      ((Scene.new mode).commitLog (steps ++ .exportActive link :: later)).exported =
        ((Scene.new mode).commitLog steps).exported ++ number :: rest.filterMap id := by
    rw [CommitLog.exported, ← List.singleton_append, ← grown]
    simp [CommitLog.exported]
  refine ⟨rest.filterMap id, exported, fun again => ?_⟩
  have sound : ((Scene.new mode).commitLog (steps ++ .exportActive link :: later)).Sound :=
    CommitLog.sound_ofMoves _
  have ordered := (List.pairwise_append.mp (List.pairwise_append.mp sound.ordered).1).1
  rw [exported] at ordered
  have after := (List.pairwise_append.mp ordered).2.1
  exact Nat.lt_irrefl number ((List.pairwise_cons.mp after).1 number again)

/-- Exports through links that ended come back empty and leave the active slot alone exactly
if nothing is active or no link ended.  Otherwise such a link gets the active commit like any
other, and no link gets it again. -/
theorem ended_links_harmless_iff (mode : Mode) (steps : List Step) :
    let scene := (Scene.new mode).run steps
    let log := (Scene.new mode).commitLog steps
    let ended := fun link =>
      ∃ channel, scene.relay.links[link]? = some channel ∧ channel.tornDown = true
    ((∀ link, ended link →
        (scene.step (.exportActive link)).2 = .exported .empty ∧
          (scene.step (.exportActive link)).1.relay.slots.active = scene.relay.slots.active) ↔
      log.active = none ∨ ∀ link, ¬ ended link) ∧
    ∀ link number, log.active = some number →
      ∃ record, log.record? number = some record ∧ scene.relay.slots.active = some record ∧
        (scene.step (.exportActive link)).2 = .exported (.ofRecord record) ∧
        ∀ later, ∃ rest,
          ((Scene.new mode).commitLog (steps ++ .exportActive link :: later)).exported =
            log.exported ++ number :: rest ∧
          number ∉ rest := by
  intro scene log ended
  have sound : log.Sound := CommitLog.sound_ofMoves _
  have active : scene.relay.slots.active = log.active.bind log.record? :=
    (holds_commitLog mode steps).active
  have answered (link : Nat) : (scene.step (.exportActive link)).2 =
      .exported (.ofRecord? scene.relay.slots.active) := rfl
  have left (link : Nat) : (scene.step (.exportActive link)).1.relay.slots.active = none := rfl
  have held (number : Nat) (shown : log.active = some number) :
      ∃ record, log.record? number = some record ∧ scene.relay.slots.active = some record := by
    have bound : number < log.commits.length := sound.active_lt shown
    refine ⟨log.commits[number], List.getElem?_eq_getElem bound, ?_⟩
    rw [active, shown]
    exact List.getElem?_eq_getElem bound
  refine ⟨⟨fun harmless => ?_, ?_⟩, ?_⟩
  · cases shown : log.active with
    | none => exact .inl rfl
    | some number =>
      refine .inr fun link ended => ?_
      obtain ⟨record, -, occupied⟩ := held number shown
      have kept := (harmless link ended).2
      rw [left, occupied] at kept
      cases kept
  · rintro (nothing | none) link ended
    · have vacant : scene.relay.slots.active = none := by rw [active, nothing]; rfl
      rw [answered, left, vacant]
      exact ⟨rfl, rfl⟩
    · exact absurd ended (none link)
  · intro link number shown
    obtain ⟨record, found, occupied⟩ := held number shown
    refine ⟨record, found, occupied, ?_, fun later => ?_⟩
    · rw [answered, occupied]
      rfl
    · exact exported_once mode steps later link number shown

/-- The first consumer is gone and the second was told of a frame; an export through the first
link takes it, and the second finds nothing. -/
theorem ended_link_takes_frame :
    let scene := (Scene.new ⟨1920, 1080, 60⟩).run
      [.makeBuffer [] true, .openClient, .register 0 0, .createFramebuffer 0 [1], .attach,
        .teardown 0, .attach, .commit 0, .tick]
    let taken := scene.step (.exportActive 0)
    (scene.relay.link 0).tornDown = true ∧
    scene.relay.registered = some 1 ∧
    (scene.relay.link 1).raised.presentReady = true ∧
    taken.2 = .exported ⟨1, [some ⟨0, []⟩]⟩ ∧
    taken.1.relay.slots.active = none ∧
    (taken.1.step (.exportActive 1)).2 = .exported .empty :=
  ⟨rfl, rfl, rfl, rfl, rfl, rfl⟩

end Scene

end PresentRelay
