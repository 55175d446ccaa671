import Mathlib.Data.List.Forall2
import Mathlib.Logic.Function.Basic
import PresentRelay.Proofs.References.Tallies
import PresentRelay.Proofs.Slots.Commits

/-!
# Where exported frames come from

A framebuffer is exported long after it was created, and much may have happened to its handles,
its client and itself in between.  A lineage follows the framebuffers of a run by what users
asked for and were answered: which creation each name stands for, and which creation each commit
was of.  By `Lineage.Traces` the framebuffers and the records of the relay are what those
creations made, and so `exports_as_created` tells what an export hands out.
-/

set_option autoImplicit false

namespace PresentRelay

open Scene (Step Answer)

/-- How users name a framebuffer. -/
inductive Title where
  /-- One that a caller owns, by the order of creation. -/
  | kept (number : Nat)
  /-- One that a client owns. -/
  | owned (client : Nat) (id : UInt32)
  deriving DecidableEq, Repr

namespace Title

def owner? : Title → Option Nat
  | .kept _ => none
  | .owned client _ => some client

def ofStep? : Step → Option Title
  | .commit number | .setCrtc (some number) => some (.kept number)
  | .pageFlip client id | .setCrtcById client (some id) => some (.owned client id)
  | _ => none

end Title

def Estate.framebuffer? (estate : Estate) : Title → Option Framebuffer
  | .kept number => estate.framebuffers[number]?.join
  | .owned client id => (estate.client client).framebuffers.get? id

namespace Estate

variable (estate : Estate) {client : Nat} {held : Client}

theorem framebuffer?_change_of_eq
    (same : held.framebuffers = (estate.client client).framebuffers) :
    (estate.change client held).framebuffer? = estate.framebuffer? := by
  funext title
  cases title with
  | kept number => rfl
  | owned asked id =>
    simp only [framebuffer?, client_change]
    split
    · next own => rw [own, same]
    · rfl

theorem framebuffer?_insert (id : UInt32) (framebuffer : Framebuffer)
    (inserted : held.framebuffers = (estate.client client).framebuffers.insert id framebuffer) :
    (estate.change client held).framebuffer? =
      Function.update estate.framebuffer? (.owned client id) (some framebuffer) := by
  funext title
  rw [Function.update_apply]
  cases title with
  | kept number => rfl
  | owned asked number =>
    simp only [framebuffer?, client_change, Title.owned.injEq]
    by_cases own : asked = client
    · simp only [own, if_true, inserted, Table.get?_insert, true_and]
    · simp only [own, if_false, false_and]

theorem framebuffer?_erase (id : UInt32)
    (erased : held.framebuffers = (estate.client client).framebuffers.erase id) :
    (estate.change client held).framebuffer? =
      Function.update estate.framebuffer? (.owned client id) none := by
  funext title
  rw [Function.update_apply]
  cases title with
  | kept number => rfl
  | owned asked number =>
    simp only [framebuffer?, client_change, Title.owned.injEq]
    by_cases own : asked = client
    · simp only [own, if_true, erased, Table.get?_erase, true_and]
    · simp only [own, if_false, false_and]

theorem framebuffer?_closed (client : Nat) :
    (estate.change client .closed).framebuffer? = fun title =>
      if title.owner? = some client then none else estate.framebuffer? title := by
  funext title
  cases title with
  | kept number => rfl
  | owned asked id =>
    simp only [framebuffer?, client_change, Title.owner?, Option.some.injEq]
    split <;> rfl

theorem framebuffer?_append (framebuffer : Framebuffer) :
    { estate with framebuffers := estate.framebuffers ++ [some framebuffer] }.framebuffer? =
      Function.update estate.framebuffer? (.kept estate.framebuffers.length)
        (some framebuffer) := by
  funext title
  rw [Function.update_apply]
  cases title with
  | owned asked id => rfl
  | kept number =>
    simp only [framebuffer?, Title.kept.injEq, List.getElem?_append]
    by_cases old : number < estate.framebuffers.length
    · simp [old, Nat.ne_of_lt old]
    · by_cases last : number = estate.framebuffers.length
      · simp [last]
      · have past : 1 ≤ number - estate.framebuffers.length := by omega
        simp [old, last, List.getElem?_eq_none, past]

theorem framebuffer?_set (number : Nat) :
    { estate with framebuffers := estate.framebuffers.set number none }.framebuffer? =
      Function.update estate.framebuffer? (.kept number) none := by
  funext title
  rw [Function.update_apply]
  cases title with
  | owned asked id => rfl
  | kept asked =>
    simp only [framebuffer?, Title.kept.injEq, List.getElem?_set]
    by_cases own : number = asked
    · subst own
      simp only [if_true]
      split <;> rfl
    · rw [if_neg own, if_neg (Ne.symm own)]

end Estate

/-- One creation of a framebuffer: when it was, what was asked for, and the number told. -/
structure Creation where
  before : List Step
  client : Nat
  handles : List UInt32
  id : UInt32
  deriving DecidableEq, Repr

namespace Scene

theorem record?_move? (scene : Scene) (step : Step) :
    (scene.move? step).bind Move.record? =
      (Title.ofStep? step).bind fun title =>
        (scene.estate.framebuffer? title).map .ofFramebuffer := by
  have commits (framebuffer : Option Framebuffer) :
      (commitOf framebuffer).bind Move.record? = framebuffer.map .ofFramebuffer := by
    cases framebuffer <;> rfl
  cases step with
  | commit number => exact commits _
  | pageFlip client id => exact commits _
  | setCrtc number =>
    cases number with
    | none => rfl
    | some number => exact commits _
  | setCrtcById client id =>
    cases id with
    | none => rfl
    | some id => exact commits _
  | power target => cases target <;> rfl
  | teardown link =>
    simp only [move?]
    split <;> rfl
  | _ => rfl

theorem commits_concat (scene : Scene) (steps : List Step) (step : Step) :
    (scene.commitLog (steps ++ [step])).commits =
      (scene.commitLog steps).commits ++
        ((Title.ofStep? step).bind fun title =>
          ((scene.run steps).estate.framebuffer? title).map Record.ofFramebuffer).toList := by
  rw [commitLog_concat, ← record?_move?]
  cases (scene.run steps).move? step with
  | none => simp
  | some move => exact CommitLog.commits_note _ move

end Scene

namespace Creation

def IsBy (creation : Creation) : Step → Answer → Prop
  | .createFramebuffer client handles, .framebuffer _ framebuffer =>
    client = creation.client ∧ handles = creation.handles ∧ framebuffer.id = creation.id
  | .addFramebuffer client handles, .handle id =>
    client = creation.client ∧ handles = creation.handles ∧ id = creation.id
  | _, _ => False

/-- Whether a run of a new relay makes this creation. -/
def Within (creation : Creation) (mode : Mode) (steps : List Step) : Prop :=
  ∃ step, creation.before ++ [step] <+: steps ∧
    creation.IsBy step (((Scene.new mode).run creation.before).step step).2

/-- The registry that the handles were looked up in, as it was at the creation. -/
def registry (creation : Creation) (mode : Mode) : Registry :=
  (((Scene.new mode).run creation.before).relay.client creation.client).registry

/-- A framebuffer is what a creation of a run made. -/
structure Made (creation : Creation) (mode : Mode) (steps : List Step)
    (framebuffer : Framebuffer) : Prop where
  within : creation.Within mode steps
  id : framebuffer.id = creation.id
  resolves : framebuffer.Resolves (creation.registry mode) creation.handles

theorem Made.concat {creation : Creation} {mode : Mode} {steps : List Step}
    {framebuffer : Framebuffer} (made : creation.Made mode steps framebuffer) (step : Step) :
    creation.Made mode (steps ++ [step]) framebuffer := by
  obtain ⟨own, early, is_by⟩ := made.within
  exact ⟨⟨own, early.trans (List.prefix_append _ _), is_by⟩, made.id, made.resolves⟩

end Creation

/-- What users know of the framebuffers of a run. -/
structure Lineage where
  past : List Step
  /-- The creation that a name stands for. -/
  named : Title → Option Creation
  /-- The creations that the commits were of, by the number of the commit. -/
  committed : List Creation

namespace Lineage

def empty : Lineage := ⟨[], fun _ => none, []⟩

def rename (lineage : Lineage) : Step → Answer → Title → Option Creation
  | .createFramebuffer client handles, .framebuffer number framebuffer =>
    Function.update lineage.named (.kept number)
      (some ⟨lineage.past, client, handles, framebuffer.id⟩)
  | .addFramebuffer client handles, .handle id =>
    Function.update lineage.named (.owned client id) (some ⟨lineage.past, client, handles, id⟩)
  | .dropFramebuffer number, _ => Function.update lineage.named (.kept number) none
  | .removeFramebuffer client id, .done => Function.update lineage.named (.owned client id) none
  | .closeClient client, _ => fun title =>
    if title.owner? = some client then none else lineage.named title
  | _, _ => lineage.named

def note (lineage : Lineage) (step : Step) (answer : Answer) : Lineage where
  past := lineage.past ++ [step]
  named := lineage.rename step answer
  committed := lineage.committed ++ ((Title.ofStep? step).bind lineage.named).toList

def ofRun (steps : List Step) (answers : List Answer) : Lineage :=
  (steps.zip answers).foldl (fun lineage (step, answer) => lineage.note step answer) empty

/-- A step that is nothing to the framebuffers that users hold leaves every name. -/
theorem rename_of_unnoted (lineage : Lineage) {step : Step} {answer : Answer}
    (kept : ∀ holdings : Holdings, (holdings.note step answer).kept = holdings.kept)
    (added : ∀ holdings : Holdings, (holdings.note step answer).added = holdings.added) :
    lineage.rename step answer = lineage.named := by
  unfold rename
  split
  · have counted := kept .empty
    simp [Holdings.note, Holdings.empty] at counted
  · have listed := added .empty
    simp [Holdings.note, Holdings.empty] at listed
  · next number =>
    have dropped := kept ⟨[], [], [], List.replicate (number + 1) (some []), 0⟩
    have there := congrArg (fun planes => planes[number]?) dropped
    simp [Holdings.note] at there
  · next client id =>
    have gone := added ⟨[], [((client, id), [])], [], [], 0⟩
    simp [Holdings.note] at gone
  · next client =>
    have gone := added ⟨[], [((client, 0), [])], [], [], 0⟩
    simp [Holdings.note] at gone
  · rfl

/-- Every name stands for the framebuffer that its creation made, and every commit was of what a
creation made. -/
structure Traces (lineage : Lineage) (mode : Mode) (steps : List Step) : Prop where
  past : lineage.past = steps
  named : ∀ title, Option.Rel (fun creation => creation.Made mode steps) (lineage.named title)
    (((Scene.new mode).run steps).estate.framebuffer? title)
  committed : List.Forall₂
    (fun creation record => ∃ framebuffer, creation.Made mode steps framebuffer ∧
      record = .ofFramebuffer framebuffer)
    lineage.committed ((Scene.new mode).commitLog steps).commits

theorem traces_empty (mode : Mode) : empty.Traces mode [] where
  past := rfl
  named title := by cases title <;> exact .none
  committed := .nil

end Lineage

theorem Scene.number_createFramebuffer (scene : Scene) {client number : Nat}
    {handles : List UInt32} {framebuffer : Framebuffer}
    (answered : (scene.step (.createFramebuffer client handles)).2 =
      .framebuffer number framebuffer) : scene.framebuffers.length = number := by
  simp only [step, createFramebuffer] at answered
  split at answered <;> cases answered
  rfl

theorem rel_imp {α β : Type} {relation weaker : α → β → Prop}
    (imp : ∀ {a b}, relation a b → weaker a b) {left : Option α} {right : Option β}
    (related : Option.Rel relation left right) : Option.Rel weaker left right := by
  cases related with
  | none => exact .none
  | some values => exact .some (imp values)

theorem exists_of_rel_left {α β : Type} {relation : α → β → Prop} {first : α} {right : Option β}
    (related : Option.Rel relation (some first) right) :
    ∃ second, right = some second ∧ relation first second := by
  cases related with
  | some values => exact ⟨_, rfl, values⟩

theorem exists_of_rel_right {α β : Type} {relation : α → β → Prop} {left : Option α} {second : β}
    (related : Option.Rel relation left (some second)) :
    ∃ first, left = some first ∧ relation first second := by
  cases related with
  | some values => exact ⟨_, rfl, values⟩

theorem forall₂_toList {α β γ : Type} {relation : α → β → Prop} {mapped : α → γ → Prop}
    {change : β → γ} (imp : ∀ {a b}, relation a b → mapped a (change b)) {left : Option α}
    {right : Option β} (related : Option.Rel relation left right) :
    List.Forall₂ mapped left.toList (right.map change).toList := by
  cases related with
  | none => exact .nil
  | some values => exact .cons (imp values) .nil

theorem exists_of_forall₂ {α β : Type} {relation : α → β → Prop} {firsts : List α}
    {seconds : List β} (related : List.Forall₂ relation firsts seconds) {place : Nat} {second : β}
    (found : seconds[place]? = some second) :
    ∃ first, firsts[place]? = some first ∧ relation first second := by
  induction related generalizing place with
  | nil => cases found
  | cons values _ ih =>
    cases place with
    | zero =>
      cases found
      exact ⟨_, rfl, values⟩
    | succ place => exact ih found

theorem rel_update {α β : Type} {relation : α → β → Prop} {first : Title → Option α}
    {second : Title → Option β}
    (related : ∀ title, Option.Rel relation (first title) (second title)) (name : Title)
    {left : Option α} {right : Option β} (values : Option.Rel relation left right) (title : Title) :
    Option.Rel relation (Function.update first name left title)
      (Function.update second name right title) := by
  rw [Function.update_apply, Function.update_apply]
  split
  · exact values
  · exact related title

namespace Lineage

variable {lineage : Lineage} {mode : Mode} {steps : List Step}

/-- Names go on to stand for what they are made of, whatever becomes of the estate. -/
theorem Traces.named_becomes (traces : lineage.Traces mode steps) {step : Step} {answer : Answer}
    {after : Estate} (answered : (((Scene.new mode).run steps).step step).2 = answer)
    (becomes : ((Scene.new mode).run steps).estate.Becomes step answer after) (title : Title) :
    Option.Rel (fun creation => creation.Made mode (steps ++ [step]))
      (lineage.rename step answer title) (after.framebuffer? title) := by
  have named (title : Title) : Option.Rel (fun creation => creation.Made mode (steps ++ [step]))
      (lineage.named title) (((Scene.new mode).run steps).estate.framebuffer? title) :=
    rel_imp (fun made => made.concat step) (traces.named title)
  have kept (same : lineage.rename step answer = lineage.named)
      (held : after.framebuffer? = ((Scene.new mode).run steps).estate.framebuffer?) :
      Option.Rel (fun creation => creation.Made mode (steps ++ [step]))
        (lineage.rename step answer title) (after.framebuffer? title) := by
    rw [same, held]
    exact named title
  -- handles are resolved against the registry as it is before the step
  have made {client : Nat} {handles : List UInt32} {framebuffer : Framebuffer}
      (success : Framebuffer.create ((Scene.new mode).run steps).estate.next
        (((Scene.new mode).run steps).estate.client client).registry handles = .ok framebuffer)
      (isBy : (⟨lineage.past, client, handles, framebuffer.id⟩ : Creation).IsBy step answer) :
      (⟨lineage.past, client, handles, framebuffer.id⟩ : Creation).Made mode (steps ++ [step])
        framebuffer := by
    rw [traces.past] at isBy ⊢
    exact ⟨⟨step, List.prefix_rfl, answered ▸ isBy⟩, rfl,
      (Framebuffer.resolves_of_create success).2.2.2⟩
  cases becomes with
  | same unnoted grown =>
    refine kept (lineage.rename_of_unnoted (fun holdings => ?_) fun holdings => ?_) ?_
    · rw [unnoted]
    · rw [unnoted]
    · funext title
      cases title <;> rfl
  | made contents mintable =>
    refine kept rfl ?_
    funext title
    cases title <;> rfl
  | opened _ fresh => exact kept rfl (Estate.framebuffer?_change_of_eq _ (by rw [fresh]; rfl))
  | closed client =>
    rw [Estate.framebuffer?_closed]
    simp only [rename]
    split
    · exact .none
    · exact named title
  | registered | released => exact kept rfl (Estate.framebuffer?_change_of_eq _ rfl)
  | copied => exact kept rfl (Estate.framebuffer?_change_of_eq _ rfl)
  | refused noted =>
    refine kept (lineage.rename_of_unnoted (fun holdings => ?_) fun holdings => ?_) ?_
    · rw [noted]
    · rw [noted]
    · funext title
      cases title <;> rfl
  | @created client number handles framebuffer success =>
    obtain rfl := Scene.number_createFramebuffer _ answered
    have after := Estate.framebuffer?_append { ((Scene.new mode).run steps).estate with
      next := ((Scene.new mode).run steps).estate.next + 1 } framebuffer
    rw [after]
    exact rel_update named _ (.some (made success ⟨rfl, rfl, rfl⟩)) title
  | dropped number =>
    rw [Estate.framebuffer?_set]
    exact rel_update named _ .none title
  | @added client handles framebuffer success isOpen =>
    have number := (Framebuffer.resolves_of_create success).1
    rw [Estate.framebuffer?_insert _ _ framebuffer rfl]
    have made := made success ⟨rfl, rfl, number.symm⟩
    rw [number] at made
    exact rel_update named _ (.some made) title
  | removed isOpen =>
    rw [Estate.framebuffer?_erase _ _ rfl]
    exact rel_update named _ .none title

theorem Traces.note (traces : lineage.Traces mode steps) (step : Step) :
    (lineage.note step (((Scene.new mode).run steps).step step).2).Traces mode
      (steps ++ [step]) where
  past := by rw [Lineage.note, traces.past]
  named title := by
    rw [Scene.run_concat]
    exact traces.named_becomes rfl (Scene.becomes_step _ (Scene.sound_run mode steps) step) title
  committed := by
    have before := traces.committed.imp fun creation record made =>
      made.imp fun framebuffer made => made.imp_left fun made => made.concat step
    rw [Scene.commits_concat]
    refine List.rel_append before ?_
    -- what the step shows, it shows as it was before
    cases Title.ofStep? step with
    | none => exact .nil
    | some title =>
      exact forall₂_toList (fun made => ⟨_, made.concat step, rfl⟩) (traces.named title)

end Lineage

namespace Scene

def lineage (mode : Mode) (steps : List Step) : Lineage := .ofRun steps ((new mode).answers steps)

theorem lineage_concat (mode : Mode) (steps : List Step) (step : Step) :
    lineage mode (steps ++ [step]) =
      (lineage mode steps).note step (((new mode).run steps).step step).2 := by
  rw [lineage, Lineage.ofRun, answers_concat, List.zip_append (length_answers _ _).symm,
    List.foldl_append]
  rfl

theorem traces_run (mode : Mode) (steps : List Step) :
    (lineage mode steps).Traces mode steps := by
  induction steps using List.reverseRecOn with
  | nil => exact Lineage.traces_empty mode
  | append_singleton steps step ih =>
    rw [lineage_concat]
    exact ih.note step

theorem handles_ofRecord {framebuffer : Framebuffer} {position : Nat} {plane : UInt32 × Buffer}
    (found : framebuffer.planes[position]? = some plane) :
    (Export.ofRecord (.ofFramebuffer framebuffer)).handles[position]? =
      some plane.2.mint.toOption := by
  simp [Export.ofRecord, Record.ofFramebuffer, Framebuffer.buffers, found]

/-- An export that takes a commit hands out the framebuffer of that commit as it was created:
its number, and for every plane, in order, a handle minted from the buffer that the handle of the
plane stood for then; none exactly where that buffer cannot be minted.  Nothing that was done
between the creation and the export matters. -/
theorem exports_as_created (mode : Mode) (steps : List Step) {place number : Nat}
    (taken : ((new mode).commitLog steps).exports[place]? = some (some number)) :
    ∃ creation exported,
      (lineage mode steps).committed[number]? = some creation ∧ creation.Within mode steps ∧
      ((new mode).exports steps)[place]? = some exported ∧ exported.id = creation.id ∧
      exported.handles.length = creation.handles.length ∧
      ∀ (position : Nat) (handle : UInt32), creation.handles[position]? = some handle →
        ∃ buffer, (creation.registry mode).resolve handle = .ok buffer ∧
          (∀ file, exported.handles[position]? = some (some file) ↔ buffer.mint = .ok file) ∧
          (exported.handles[position]? = some none ↔ ∃ fault, buffer.mint = .error fault) := by
  have traces := traces_run mode steps
  have sound : ((new mode).commitLog steps).Sound := CommitLog.sound_ofMoves _
  have bound : number < ((new mode).commitLog steps).commits.length :=
    sound.exported_lt (List.mem_filterMap.mpr ⟨_, List.mem_of_getElem? taken, rfl⟩)
  obtain ⟨creation, committed, framebuffer, made, record⟩ :=
    exists_of_forall₂ traces.committed (List.getElem?_eq_getElem bound)
  have answered : ((new mode).exports steps)[place]? =
      some (.ofRecord (.ofFramebuffer framebuffer)) := by
    rw [exports_eq, CommitLog.answers, List.getElem?_map, taken, Option.map_some,
      Option.bind_some, CommitLog.record?, List.getElem?_eq_getElem bound, record]
    rfl
  refine ⟨creation, _, committed, made.within, answered, made.id, ?_, ?_⟩
  · exact (Export.count_ofRecord _).trans made.resolves.length_buffers
  · intro position handle asked
    obtain ⟨plane, found, -, held⟩ :=
      exists_of_forall₂ (List.Forall₂.flip made.resolves) asked
    refine ⟨plane.2, by rw [Registry.resolve, held], fun file => ?_, ?_⟩
    · rw [handles_ofRecord found]
      cases plane.2.mint <;> simp [Except.toOption]
    · rw [handles_ofRecord found]
      cases plane.2.mint <;> simp [Except.toOption]

/-- A framebuffer with a plane that cannot be minted is exported after its handles were released
and given out again, and after it was removed and its client closed. -/
theorem exports_as_created_closed_client :
    let mode : Mode := ⟨1920, 1080, 60⟩
    let steps : List Step :=
      [.makeBuffer [] true, .makeBuffer [] false, .makeBuffer [] true, .openClient,
        .register 0 0, .register 0 1, .addFramebuffer 0 [1, 2], .release 0 1, .release 0 2,
        .register 0 2, .addFramebuffer 0 [9], .pageFlip 0 1, .removeFramebuffer 0 1,
        .closeClient 0, .pageFlip 0 1, .attach, .tick, .exportActive 0]
    ((new mode).commitLog steps).exports[0]? = some (some 0) ∧
      ∃ exported, ((new mode).exports steps)[0]? = some exported ∧ exported.id = 1 ∧
        exported.handles[0]? = some (some ⟨0, []⟩) ∧ exported.handles[1]? = some none := by
  intro mode steps
  have taken : ((new mode).commitLog steps).exports[0]? = some (some 0) := by decide
  have committed : (lineage mode steps).committed = [⟨steps.take 6, 0, [1, 2], 1⟩] := by decide
  obtain ⟨creation, exported, named, -, answered, id, -, planes⟩ :=
    exports_as_created mode steps taken
  obtain rfl : ⟨steps.take 6, 0, [1, 2], 1⟩ = creation := by
    rw [committed] at named
    exact Option.some.inj named
  obtain ⟨first, resolved, minted, -⟩ := planes 0 1 rfl
  obtain rfl : ⟨0, ⟨0, []⟩, true⟩ = first := Except.ok.inj resolved
  obtain ⟨second, resolved, -, unminted⟩ := planes 1 2 rfl
  obtain rfl : ⟨1, ⟨1, []⟩, false⟩ = second := Except.ok.inj resolved
  exact ⟨taken, exported, answered, id, (minted _).mpr rfl, unminted.mpr ⟨_, rfl⟩⟩

end Scene

end PresentRelay
