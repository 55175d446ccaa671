import Mathlib.Data.Nat.ModEq
import PresentRelay.Proofs.Daemon.Presents
import PresentRelay.Proofs.Framebuffer.Lineage

/-!
# Numbers of framebuffers

One 32-bit counter numbers the framebuffers of all clients.  Every attempt at a creation uses up
a number, and nothing looks whether a number is still in use, so that numbers go round.
`framebuffers_told_apart_iff` says when that gives two live framebuffers one number, when it
replaces a client's framebuffer, and when a daemon, which caches buffers by number, shows the
right ones; `numbers_go_round` is a run in which all of it goes wrong.
-/

set_option autoImplicit false

namespace PresentRelay

open Scene (Step Answer)

namespace Scene

/-! ## Attempts -/

/-- Whether a step asks for a new framebuffer; that uses up a number, granted or not. -/
def Step.creates : Step → Bool
  | .createFramebuffer _ _ | .addFramebuffer _ _ => true
  | _ => false

def attempts (steps : List Step) : Nat := steps.countP Step.creates

theorem attempts_concat (steps : List Step) (step : Step) :
    attempts (steps ++ [step]) = attempts steps + if step.creates then 1 else 0 := by
  rw [attempts, List.countP_append, List.countP_singleton]
  rfl

theorem numbered_note (holdings : Holdings) (step : Step) (answer : Answer) :
    (holdings.note step answer).numbered =
      holdings.numbered + if step.creates then 1 else 0 := by
  cases step with
  | register | registerCopy | release | removeFramebuffer => cases answer <;> rfl
  | addFramebuffer client handles => cases answer <;> rfl
  | _ => rfl

theorem numbered_run (mode : Mode) (steps : List Step) :
    (holdings mode steps).numbered = attempts steps := by
  induction steps using List.reverseRecOn with
  | nil => rfl
  | append_singleton steps step ih => rw [holdings_concat, numbered_note, ih, attempts_concat]

theorem next_run (mode : Mode) (steps : List Step) :
    ((new mode).run steps).relay.nextFramebuffer = .ofNat (attempts steps + 1) := by
  rw [← numbered_run mode steps]
  exact (numbers_run mode steps).next

end Scene

/-! ## Creations by order -/

namespace Creation

/-- The place of a creation among all attempts, from one on. -/
def ordinal (creation : Creation) : Nat := Scene.attempts creation.before + 1

theorem ordinal_pos (creation : Creation) : 0 < creation.ordinal := Nat.succ_pos _

variable {creation other : Creation} {mode : Mode} {steps : List Step}

theorem IsBy.next {scene : Scene} {step : Step} (isBy : creation.IsBy step (scene.step step).2) :
    step.creates = true ∧ creation.id = scene.relay.nextFramebuffer := by
  cases step with
  | createFramebuffer client handles | addFramebuffer client handles =>
    simp only [Scene.step, Scene.createFramebuffer, Relay.addFramebuffer,
      Relay.createFramebuffer] at isBy
    cases success : Framebuffer.create scene.relay.nextFramebuffer
        (scene.relay.client client).registry handles with
    | error fault =>
      rw [success] at isBy
      exact isBy.elim
    | ok framebuffer =>
      rw [success] at isBy
      exact ⟨rfl, isBy.2.2.symm.trans (Framebuffer.resolves_of_create success).1⟩
  | _ => exact isBy.elim

theorem IsBy.unique {step : Step} {answer : Answer} (first : creation.IsBy step answer)
    (second : other.IsBy step answer) (same : creation.before = other.before) :
    creation = other := by
  obtain ⟨before, client, handles, id⟩ := creation
  obtain ⟨before', client', handles', id'⟩ := other
  unfold IsBy at first second
  split at first
  · obtain ⟨rfl, rfl, rfl⟩ := first
    obtain ⟨rfl, rfl, rfl⟩ := second
    rw [show before = before' from same]
  · obtain ⟨rfl, rfl, rfl⟩ := first
    obtain ⟨rfl, rfl, rfl⟩ := second
    rw [show before = before' from same]
  · exact first.elim

theorem Within.id_eq (within : creation.Within mode steps) :
    creation.id = .ofNat creation.ordinal := by
  obtain ⟨step, -, isBy⟩ := within
  rw [isBy.next.2]
  exact Scene.next_run mode creation.before

theorem ordinal_le_of_prefix {step : Step} (creates : step.creates = true)
    (early : creation.before ++ [step] <+: steps) : creation.ordinal ≤ Scene.attempts steps := by
  have counted := Scene.attempts_concat creation.before step
  rw [if_pos creates] at counted
  rw [ordinal, ← counted]
  exact early.countP_le

theorem Within.ordinal_le (within : creation.Within mode steps) :
    creation.ordinal ≤ Scene.attempts steps := by
  obtain ⟨step, early, isBy⟩ := within
  exact ordinal_le_of_prefix isBy.next.1 early

theorem Within.before_ne (within : creation.Within mode steps) : creation.before ≠ steps := by
  obtain ⟨step, early, -⟩ := within
  intro same
  have length := early.length_le
  rw [same, List.length_append, List.length_singleton] at length
  omega

theorem Within.length_before_le (within : creation.Within mode steps)
    (within' : other.Within mode steps) (same : creation.ordinal = other.ordinal) :
    other.before.length ≤ creation.before.length := by
  obtain ⟨step, early, isBy⟩ := within
  obtain ⟨step', early', -⟩ := within'
  apply Nat.le_of_not_lt
  intro before
  have earlier : creation.before ++ [step] <+: other.before := by
    refine List.prefix_of_prefix_length_le early ((List.prefix_append _ _).trans early') ?_
    rw [List.length_append, List.length_singleton]
    omega
  have fewer := ordinal_le_of_prefix isBy.next.1 earlier
  rw [same, ordinal] at fewer
  omega

theorem Within.eq_of_ordinal (within : creation.Within mode steps)
    (within' : other.Within mode steps) (same : creation.ordinal = other.ordinal) :
    creation = other := by
  have length : creation.before.length = other.before.length :=
    Nat.le_antisymm (within'.length_before_le within same.symm)
      (within.length_before_le within' same)
  obtain ⟨step, early, isBy⟩ := within
  obtain ⟨step', early', isBy'⟩ := within'
  have prefixes : creation.before ++ [step] = other.before ++ [step'] := by
    refine (List.prefix_of_prefix_length_le early early' ?_).eq_of_length ?_
    · simp [length]
    · simp [length]
  obtain ⟨before, last⟩ := List.append_inj prefixes length
  obtain rfl := List.singleton_inj.mp last
  rw [before] at isBy
  exact isBy.unique isBy' before

/-- Numbers only tell creations apart that are not a multiple of 2^32 attempts from each other. -/
theorem Within.id_eq_iff (within : creation.Within mode steps)
    (within' : other.Within mode steps) :
    creation.id = other.id ↔ creation.ordinal ≡ other.ordinal [MOD UInt32.size] := by
  rw [within.id_eq, within'.id_eq, UInt32.ofNat_eq_iff_mod_eq_toNat, UInt32.toNat_ofNat']
  rfl

theorem Within.id_eq_zero_iff (within : creation.Within mode steps) :
    creation.id = 0 ↔ UInt32.size ∣ creation.ordinal := by
  rw [within.id_eq, UInt32.ofNat_eq_iff_mod_eq_toNat]
  exact (Nat.dvd_iff_mod_eq_zero ..).symm

end Creation

/-! ## Names and creations -/

namespace Lineage

/-- Names stand for different creations, and a client's name is the number of the creation. -/
structure Names (named : Title → Option Creation) : Prop where
  single : ∀ first second creation,
    named first = some creation → named second = some creation → first = second
  owned : ∀ client id creation, named (.owned client id) = some creation → creation.id = id

theorem names_empty : Names empty.named := ⟨nofun, nofun⟩

theorem Names.fewer {named fewer : Title → Option Creation} (distinct : Names named)
    (kept : ∀ title creation, fewer title = some creation → named title = some creation) :
    Names fewer where
  single first second creation one two :=
    distinct.single first second creation (kept _ _ one) (kept _ _ two)
  owned client id creation own := distinct.owned client id creation (kept _ _ own)

theorem Names.forget {named : Title → Option Creation} (distinct : Names named) (name : Title) :
    Names (Function.update named name none) := by
  refine distinct.fewer fun title creation held => ?_
  rw [Function.update_apply] at held
  split at held
  · cases held
  · exact held

theorem Names.learn {named : Title → Option Creation} (distinct : Names named) {name : Title}
    {made : Creation} (fresh : ∀ title, named title ≠ some made)
    (numbered : ∀ client id, name = .owned client id → made.id = id) :
    Names (Function.update named name (some made)) where
  single := by
    intro first second creation one two
    rw [Function.update_apply] at one two
    split at one
    · next same =>
      obtain rfl := Option.some.inj one
      split at two
      · next also => rw [same, also]
      · exact absurd two (fresh second)
    · split at two
      · obtain rfl := Option.some.inj two
        exact absurd one (fresh first)
      · exact distinct.single first second creation one two
  owned := by
    intro client id creation own
    rw [Function.update_apply] at own
    split at own
    · next same =>
      obtain rfl := Option.some.inj own
      exact numbered client id same.symm
    · exact distinct.owned client id creation own

variable {lineage : Lineage} {mode : Mode} {steps : List Step}

theorem Names.rename (distinct : Names lineage.named)
    (older : ∀ title creation, lineage.named title = some creation →
      creation.before ≠ lineage.past) (step : Step) (answer : Answer) :
    Names (lineage.rename step answer) := by
  have fresh (client : Nat) (handles : List UInt32) (id : UInt32) (title : Title) :
      lineage.named title ≠ some ⟨lineage.past, client, handles, id⟩ :=
    fun held => older title _ held rfl
  unfold Lineage.rename
  split
  · exact distinct.learn (fresh _ _ _) fun _ _ other => by cases other
  · exact distinct.learn (fresh _ _ _) fun _ _ same => by cases same; rfl
  · exact distinct.forget _
  · exact distinct.forget _
  · refine distinct.fewer fun title creation held => ?_
    split at held
    · cases held
    · exact held
  · exact distinct

theorem Traces.made_of_named (traces : lineage.Traces mode steps) {title : Title}
    {creation : Creation} (named : lineage.named title = some creation) :
    ∃ framebuffer, ((Scene.new mode).run steps).estate.framebuffer? title = some framebuffer ∧
      creation.Made mode steps framebuffer := by
  have related := traces.named title
  rw [named] at related
  obtain ⟨framebuffer, live, made⟩ := exists_of_rel_left related
  exact ⟨framebuffer, live, made⟩

theorem Traces.named_of_live (traces : lineage.Traces mode steps) {title : Title}
    {framebuffer : Framebuffer}
    (live : ((Scene.new mode).run steps).estate.framebuffer? title = some framebuffer) :
    ∃ creation, lineage.named title = some creation ∧ creation.Made mode steps framebuffer := by
  have related := traces.named title
  rw [live] at related
  obtain ⟨creation, named, made⟩ := exists_of_rel_right related
  exact ⟨creation, named, made⟩

theorem Traces.made_of_committed (traces : lineage.Traces mode steps) {creation : Creation}
    (committed : creation ∈ lineage.committed) :
    ∃ framebuffer, creation.Made mode steps framebuffer := by
  obtain ⟨number, found⟩ := List.mem_iff_getElem?.mp committed
  obtain ⟨record, -, framebuffer, made, -⟩ := exists_of_forall₂ traces.committed.flip found
  exact ⟨framebuffer, made⟩

end Lineage

namespace Scene

theorem names_run (mode : Mode) (steps : List Step) : Lineage.Names (lineage mode steps).named := by
  induction steps using List.reverseRecOn with
  | nil => exact Lineage.names_empty
  | append_singleton steps step ih =>
    have traces := traces_run mode steps
    rw [lineage_concat]
    refine ih.rename ?_ step _
    intro title creation named
    obtain ⟨framebuffer, -, made⟩ := traces.made_of_named named
    rw [traces.past]
    exact made.within.before_ne

/-! ## Live framebuffers -/

/-- Every live framebuffer has a number, and no two have the same. -/
structure ToldApart (scene : Scene) : Prop where
  numbered : ∀ title framebuffer, scene.estate.framebuffer? title = some framebuffer →
    framebuffer.id ≠ 0
  single : ∀ first second framebuffer other,
    scene.estate.framebuffer? first = some framebuffer →
      scene.estate.framebuffer? second = some other → framebuffer.id = other.id → first = second

theorem toldApart_iff (mode : Mode) (steps : List Step) :
    ((new mode).run steps).ToldApart ↔
      (∀ title creation, (lineage mode steps).named title = some creation →
        ¬ UInt32.size ∣ creation.ordinal) ∧
      ∀ first second creation other, (lineage mode steps).named first = some creation →
        (lineage mode steps).named second = some other →
          creation.ordinal ≡ other.ordinal [MOD UInt32.size] → first = second := by
  have traces := traces_run mode steps
  constructor
  · intro apart
    constructor
    · intro title creation named
      obtain ⟨framebuffer, live, made⟩ := traces.made_of_named named
      rw [← made.within.id_eq_zero_iff, ← made.id]
      exact apart.numbered title framebuffer live
    · intro first second creation other named named' congruent
      obtain ⟨framebuffer, live, made⟩ := traces.made_of_named named
      obtain ⟨framebuffer', live', made'⟩ := traces.made_of_named named'
      rw [← made.within.id_eq_iff made'.within, ← made.id, ← made'.id] at congruent
      exact apart.single first second framebuffer framebuffer' live live' congruent
  · rintro ⟨numbered, single⟩
    constructor
    · intro title framebuffer live
      obtain ⟨creation, named, made⟩ := traces.named_of_live live
      rw [made.id, Ne, made.within.id_eq_zero_iff]
      exact numbered title creation named
    · intro first second framebuffer framebuffer' live live' same
      obtain ⟨creation, named, made⟩ := traces.named_of_live live
      obtain ⟨other, named', made'⟩ := traces.named_of_live live'
      rw [made.id, made'.id, made.within.id_eq_iff made'.within] at same
      exact single first second creation other named named' same

/-- A new framebuffer replaces one of the client exactly if that was created a multiple of 2^32
attempts before. -/
theorem added_over_nothing_iff (mode : Mode) (steps : List Step) {client : Nat}
    {handles : List UInt32} {id : UInt32}
    (added : (((new mode).run steps).step (.addFramebuffer client handles)).2 = .handle id) :
    ((new mode).run steps).estate.framebuffer? (.owned client id) = none ↔
      ∀ held creation, (lineage mode steps).named (.owned client held) = some creation →
        ¬ creation.ordinal ≡ attempts steps + 1 [MOD UInt32.size] := by
  have traces := traces_run mode steps
  have distinct := names_run mode steps
  let made : Creation := ⟨steps, client, handles, id⟩
  have within : made.Within mode (steps ++ [.addFramebuffer client handles]) :=
    ⟨_, List.prefix_rfl, by rw [added]; exact ⟨rfl, rfl, rfl⟩⟩
  have collides {creation : Creation} {framebuffer : Framebuffer}
      (live : creation.Made mode steps framebuffer) :
      creation.id = id ↔ creation.ordinal ≡ attempts steps + 1 [MOD UInt32.size] :=
    (live.concat (.addFramebuffer client handles)).within.id_eq_iff within
  constructor
  · intro absent held creation named congruent
    obtain ⟨framebuffer, live, created⟩ := traces.made_of_named named
    have same := (collides created).mpr congruent
    rw [distinct.owned client held creation named] at same
    rw [same, absent] at live
    cases live
  · intro none
    cases live : ((new mode).run steps).estate.framebuffer? (.owned client id) with
    | none => rfl
    | some framebuffer =>
      obtain ⟨creation, named, created⟩ := traces.named_of_live live
      have congruent := (collides created).mp (distinct.owned client id creation named)
      exact absurd congruent (none id creation named)

end Scene

/-! ## Framebuffers on screen -/

/-- The files behind the handles that a creation asked for, as they were then. -/
def Creation.files (creation : Creation) (mode : Mode) : List File :=
  creation.handles.filterMap fun handle =>
    ((creation.registry mode).table.get? handle).map Buffer.file

theorem Export.carries_ofRecord (record : Record) :
    (Export.ofRecord record).Carries (record.buffers.map Buffer.file) := by
  simp only [Export.Carries, Export.ofRecord, List.forall₂_map_left_iff,
    List.forall₂_map_right_iff, List.forall₂_same]
  intro buffer _ given minted
  unfold Buffer.mint at minted
  split at minted
  · exact (Option.some.inj minted).symm
  · cases minted

namespace Scene

theorem carries_of_exported (mode : Mode) (steps : List Step) {exported : Export}
    (member : exported ∈ (new mode).exports steps) (content : exported.isEmpty = false) :
    ∃ creation ∈ (lineage mode steps).committed, exported.id = creation.id ∧
      exported.Carries (creation.files mode) := by
  rw [exports_eq, CommitLog.answers] at member
  obtain ⟨place, -, rfl⟩ := List.mem_map.mp member
  cases shown : place.bind ((new mode).commitLog steps).record? with
  | none =>
    rw [shown] at content
    cases content
  | some record =>
    obtain ⟨number, -, found⟩ := Option.bind_eq_some_iff.mp shown
    obtain ⟨creation, committed, framebuffer, made, rfl⟩ :=
      exists_of_forall₂ (traces_run mode steps).committed found
    refine ⟨creation, List.mem_of_getElem? committed, made.id, ?_⟩
    have files : framebuffer.buffers.map Buffer.file = creation.files mode :=
      made.resolves.map_file
    rw [← files]
    exact Export.carries_ofRecord _

end Scene

/-- The files that frames of a number show, by the first commit under it. -/
def Lineage.files (lineage : Lineage) (mode : Mode) (id : UInt32) : List File :=
  (lineage.committed.find? fun creation => creation.id == id).elim [] fun creation =>
    creation.files mode

namespace Scene

/-- Whether no two framebuffers that a run committed lie a multiple of 2^32 attempts apart. -/
def CommitsApart (mode : Mode) (steps : List Step) : Prop :=
  ∀ first ∈ (lineage mode steps).committed, ∀ second ∈ (lineage mode steps).committed,
    first.ordinal ≡ second.ordinal [MOD UInt32.size] → first = second

theorem CommitsApart.files_eq {mode : Mode} {steps : List Step} (apart : CommitsApart mode steps)
    {creation : Creation} (committed : creation ∈ (lineage mode steps).committed) :
    (lineage mode steps).files mode creation.id = creation.files mode := by
  have traces := traces_run mode steps
  unfold Lineage.files
  cases found : (lineage mode steps).committed.find? fun other => other.id == creation.id with
  | none =>
    have missed := List.find?_eq_none.mp found creation committed
    exact absurd (beq_self_eq_true creation.id) missed
  | some other =>
    have member : other ∈ (lineage mode steps).committed := List.mem_of_find?_eq_some found
    have same : other.id = creation.id := by simpa using List.find?_some found
    obtain ⟨framebuffer, made⟩ := traces.made_of_committed committed
    obtain ⟨framebuffer', made'⟩ := traces.made_of_committed member
    rw [made'.within.id_eq_iff made.within] at same
    rw [apart other member creation committed same]
    rfl

theorem CommitsApart.cached {mode : Mode} {steps : List Step} (apart : CommitsApart mode steps)
    {β : Type} [Backlight β] {feed : Feed} {start : Allocator} {compositor : Compositor}
    {backlight : Option β} {config : DaemonConfig} {station : Station β}
    (started : (Station.start feed start compositor backlight config).1 = .running station)
    (run : List (Daemon.Step β))
    (exports : ∀ exported, .frame exported ∈ run → exported ∈ (new mode).exports steps)
    {creation : Creation} (committed : creation ∈ (lineage mode steps).committed)
    {serial : Serial}
    (hit : (station.daemon.steps run).cache.lookup creation.id = some serial) :
    (creation.id, serial) ∈ station.daemon.importsOf run ∧
      start.ImportedFrom (station.daemon.steps run).allocator (creation.files mode) serial := by
  have consistent : ∀ step ∈ run, step.Consistent ((lineage mode steps).files mode) := by
    intro step member
    cases step with
    | frame exported =>
      intro content
      obtain ⟨shown, known, same, carries⟩ :=
        carries_of_exported mode steps (exports exported member) content
      rw [same, apart.files_eq known]
      exact carries
    | _ => trivial
  have screen := (Station.screen_start started ((lineage mode steps).files mode)).steps
    (Station.custody_steps started []) run consistent
  have cached := screen.cached _ _ (BufferCache.mem_slots_of_lookup hit)
  rw [apart.files_eq committed, List.nil_append] at cached
  exact cached

theorem eq_of_congruent {mode : Mode} {steps : List Step} (few : attempts steps < UInt32.size)
    {creation other : Creation} (within : creation.Within mode steps)
    (within' : other.Within mode steps)
    (congruent : creation.ordinal ≡ other.ordinal [MOD UInt32.size]) : creation = other := by
  have bound := within.ordinal_le
  have bound' := within'.ordinal_le
  exact within.eq_of_ordinal within'
    (congruent.eq_of_lt_of_lt (by omega) (by omega))

theorem not_congruent_next {mode : Mode} {steps : List Step} (few : attempts steps < UInt32.size)
    {creation : Creation} (within : creation.Within mode steps) :
    ¬ creation.ordinal ≡ attempts steps + 1 [MOD UInt32.size] := by
  intro congruent
  have bound := within.ordinal_le
  have positive := creation.ordinal_pos
  have divides : UInt32.size ∣ attempts steps + 1 - creation.ordinal :=
    (Nat.modEq_iff_dvd' (by omega)).mp congruent
  have large := Nat.le_of_dvd (by omega) divides
  omega

/-- Numbers tell live framebuffers apart, of all clients and callers, and none is zero, exactly
as long as no creation of a live one is a multiple of 2^32 among all attempts, failed ones
included, and no two lie a multiple of 2^32 apart.  Adding a framebuffer then replaces one of the
client exactly if their creations lie a multiple of 2^32 apart.  While that is so of no two
framebuffers that were committed, what a daemon cached under the number of one was imported
from that one.  With fewer than 2^32 attempts, nothing of this goes wrong. -/
theorem framebuffers_told_apart_iff (mode : Mode) (steps : List Step) :
    let scene := (new mode).run steps
    let names := lineage mode steps
    (scene.ToldApart ↔
      (∀ title creation, names.named title = some creation →
        ¬ UInt32.size ∣ creation.ordinal) ∧
      ∀ first second creation other,
        names.named first = some creation → names.named second = some other →
          creation.ordinal ≡ other.ordinal [MOD UInt32.size] → first = second) ∧
    (∀ client handles id, (scene.step (.addFramebuffer client handles)).2 = .handle id →
      (scene.estate.framebuffer? (.owned client id) = none ↔
        ∀ held creation, names.named (.owned client held) = some creation →
          ¬ creation.ordinal ≡ attempts steps + 1 [MOD UInt32.size])) ∧
    (CommitsApart mode steps →
      ∀ (β : Type) [Backlight β] (feed : Feed) (start : Allocator) (compositor : Compositor)
        (backlight : Option β) (config : DaemonConfig) (station : Station β),
      (Station.start feed start compositor backlight config).1 = .running station →
      ∀ run : List (Daemon.Step β),
      (∀ exported, .frame exported ∈ run → exported ∈ (new mode).exports steps) →
      ∀ creation ∈ names.committed, ∀ serial,
        (station.daemon.steps run).cache.lookup creation.id = some serial →
          (creation.id, serial) ∈ station.daemon.importsOf run ∧
            start.ImportedFrom (station.daemon.steps run).allocator (creation.files mode)
              serial) ∧
    (attempts steps < UInt32.size →
      scene.ToldApart ∧ CommitsApart mode steps ∧
        ∀ client handles id, (scene.step (.addFramebuffer client handles)).2 = .handle id →
          scene.estate.framebuffer? (.owned client id) = none) := by
  intro scene names
  have traces : names.Traces mode steps := traces_run mode steps
  refine ⟨toldApart_iff mode steps, fun client handles id => added_over_nothing_iff mode steps,
    ?_, ?_⟩
  · intro apart β _ feed start compositor backlight config station started run exports creation
      committed serial hit
    exact apart.cached started run exports committed hit
  · intro few
    refine ⟨(toldApart_iff mode steps).mpr ⟨?_, ?_⟩, ?_, ?_⟩
    · intro title creation named divides
      obtain ⟨framebuffer, -, made⟩ := traces.made_of_named named
      have bound := made.within.ordinal_le
      have large := Nat.le_of_dvd creation.ordinal_pos divides
      omega
    · intro first second creation other named named' congruent
      obtain ⟨framebuffer, -, made⟩ := traces.made_of_named named
      obtain ⟨framebuffer', -, made'⟩ := traces.made_of_named named'
      obtain rfl := eq_of_congruent few made.within made'.within congruent
      exact (names_run mode steps).single first second creation named named'
    · intro first known second known' congruent
      obtain ⟨framebuffer, made⟩ := traces.made_of_committed known
      obtain ⟨framebuffer', made'⟩ := traces.made_of_committed known'
      exact eq_of_congruent few made.within made'.within congruent
    · intro client handles id added
      refine (added_over_nothing_iff mode steps added).mpr fun held creation named => ?_
      obtain ⟨framebuffer, -, made⟩ := traces.made_of_named named
      exact not_congruent_next few made.within

/-- Three attempts of two clients, of which one failed.  The framebuffer that was shown is gone
again; what the daemon cached under its number has its files. -/
theorem framebuffers_told_apart_iff_removed :
    let steps : List Step :=
      [.makeBuffer [] true, .makeBuffer [7] true, .openClient, .openClient, .register 0 0,
        .register 0 1, .addFramebuffer 0 [1, 2], .addFramebuffer 1 [], .createFramebuffer 0 [2, 1],
        .pageFlip 0 1, .tick, .exportActive 0, .removeFramebuffer 0 1]
    let start := Allocator.new 1920
    let exported : Export := ⟨1, [some ⟨0, []⟩, some ⟨1, [7]⟩]⟩
    attempts steps = 3 ∧ ((new .default).run steps).ToldApart ∧
      ∃ station : Station Panel,
        (Station.start ⟨.new .default, .link 0 []⟩ start (.new (.ofMode .default)) none
          .default).1 = .running station ∧
        exported ∈ (new .default).exports steps ∧
        (station.daemon.steps [.frame exported]).cache.lookup 1 = some 2 ∧
        start.ImportedFrom (station.daemon.steps [.frame exported]).allocator
          [⟨0, []⟩, ⟨1, [7]⟩] 2 := by
  intro steps start exported
  let shown : Creation := ⟨steps.take 6, 0, [1, 2], 1⟩
  have counted : attempts steps = 3 := by decide
  have few : attempts steps < UInt32.size := by rw [counted]; decide
  have committed : (lineage .default steps).committed = [shown] := by decide
  have answered : (new .default).exports steps = [exported] := by decide
  let station : Station Panel := .idle none .default
  have started : (Station.start ⟨.new .default, .link 0 []⟩ start (.new (.ofMode .default)) none
      .default).1 = .running station := Station.start_idle none .default
  have hit : (station.daemon.steps [.frame exported]).cache.lookup 1 = some 2 := by decide
  have frames : ∀ other, .frame other ∈ [Daemon.Step.frame (β := Panel) exported] →
      other ∈ (new .default).exports steps := by
    intro other member
    rw [answered]
    simpa using member
  obtain ⟨-, -, cached, early⟩ := framebuffers_told_apart_iff .default steps
  obtain ⟨apart, commits, -⟩ := early few
  have known : shown ∈ (lineage .default steps).committed := by
    rw [committed]
    exact List.mem_singleton_self _
  have served := cached commits Panel _ _ _ _ _ station started _ frames shown known 2 hit
  exact ⟨counted, apart, station, started, frames _ (List.mem_singleton_self _), hit, served.2⟩

/-! ## Numbers that went round -/

/-- A scene in which so many numbers more were used up. -/
def skip (scene : Scene) (count : Nat) : Scene :=
  { scene with relay.nextFramebuffer := scene.relay.nextFramebuffer + .ofNat count }

theorem run_refused (scene : Scene) (client count : Nat) :
    scene.run (List.replicate count (.createFramebuffer client [])) = scene.skip count := by
  induction count generalizing scene with
  | zero => simp [skip]
  | succ count ih =>
    have first : (scene.step (.createFramebuffer client [])).1 = scene.skip 1 := rfl
    rw [List.replicate_succ, run_cons, ih, first, Nat.add_comm count 1]
    simp only [skip, UInt32.ofNat_add, UInt32.add_assoc]

/-- After 2^32 attempts, nearly all of them refused, a framebuffer has the number zero, and the
next one that of the first, which is live as well.  The one after that replaces the second, under
the same name.  A daemon that was handed the first shows it again when it is handed the one of
the same number. -/
theorem numbers_go_round :
    let early : List Step :=
      [.makeBuffer [] true, .makeBuffer [7] true, .makeBuffer [] true, .openClient, .register 0 0,
        .register 0 1, .register 0 2, .createFramebuffer 0 [1, 2], .addFramebuffer 0 [1, 2],
        .commit 0, .tick]
    let refused : List Step := List.replicate (UInt32.size - 3) (.createFramebuffer 0 [])
    let late : List Step :=
      [.createFramebuffer 0 [1, 2], .createFramebuffer 0 [3, 2], .commit 2, .tick]
    let before := (new .default).run early
    let after := (before.step (.exportActive 0)).1.run (refused ++ late)
    let added := after.step (.addFramebuffer 0 [3, 2])
    let id (title : Title) := (after.estate.framebuffer? title).map Framebuffer.id
    let files (scene : Scene) (title : Title) := (scene.estate.framebuffer? title).map
      fun framebuffer => framebuffer.buffers.map fun buffer => buffer.file.number
    let first : Export := ⟨1, [some ⟨0, []⟩, some ⟨1, [7]⟩]⟩
    let again : Export := ⟨1, [some ⟨2, []⟩, some ⟨1, [7]⟩]⟩
    ¬ after.ToldApart ∧
    id (.kept 1) = some 0 ∧ id (.kept 0) = some 1 ∧ id (.kept 2) = some 1 ∧
    added.2 = .handle 2 ∧ files after (.owned 0 2) = some [0, 1] ∧
    files added.1 (.owned 0 2) = some [2, 1] ∧
    (before.step (.exportActive 0)).2 = .exported first ∧
    (after.step (.exportActive 0)).2 = .exported again ∧
    ∃ station : Station Panel,
      (Station.start ⟨.new .default, .link 0 []⟩ (.new 1920) (.new (.ofMode .default)) none
        .default).1 = .running station ∧
      station.daemon.importsOf [.frame first, .frame again] = [(1, 2)] ∧
      (station.daemon.steps [.frame first, .frame again]).compositor.presents = [2, 2] := by
  intro early refused late before after added id files first again
  let exported := (before.step (.exportActive 0)).1
  have counter : exported.relay.nextFramebuffer + .ofNat (UInt32.size - 3) = 0 := by decide
  have round : after = Scene.run { exported with relay.nextFramebuffer := 0 } late :=
    calc after
      _ = (exported.run refused).run late := run_append exported refused late
      _ = (exported.skip (UInt32.size - 3)).run late := by rw [run_refused]
      _ = Scene.run { exported with relay.nextFramebuffer := 0 } late := by rw [skip, counter]
  let station : Station Panel := .idle none .default
  have zero : id (.kept 1) = some 0 := by
    simp only [id, round]
    decide
  have collides : ¬ after.ToldApart := by
    intro apart
    obtain ⟨framebuffer, live, number⟩ := Option.map_eq_some_iff.mp zero
    exact apart.numbered _ framebuffer live number
  refine ⟨collides, zero, ?_, ?_, ?_, ?_, ?_, rfl, ?_, station, rfl, by decide, by decide⟩
  all_goals simp only [id, files, added, round]
  case refine_3 | refine_6 => rfl
  all_goals decide

end Scene

end PresentRelay
