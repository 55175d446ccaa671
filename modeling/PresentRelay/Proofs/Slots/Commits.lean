import Mathlib.Data.List.Induction
import Mathlib.Data.List.Perm.Basic
import PresentRelay.Proofs.Slots.Moves

/-!
# The fate of every commit

Commits are numbered in the order in which they are made.  A log follows the moves of a
run and writes down, for every commit, where it is or what became of it.  By
`holds_note` the slots hold what the log says, so that its entries are facts about the
relay; by `sound_note` every number has one entry, and the numbers that exports took
only go up.  `one_fate_per_commit` puts the two together for whole runs.
-/

set_option autoImplicit false

namespace PresentRelay

/-- Where the commits of a run are and what became of them, by number. -/
structure CommitLog where
  /-- Every commit; its place is its number. -/
  commits : List Record
  pending : Option Nat
  active : Option Nat
  /-- What each export took, if there was something. -/
  exports : List (Option Nat)
  /-- Commits that lost the pending slot, each with the commit that took it. -/
  superseded : List (Nat × Nat)
  /-- Commits that lost the active slot, each with the commit that a vertical blank
  moved there. -/
  displaced : List (Nat × Nat)
  /-- Commits that power off or the end of the registration found in a slot. -/
  cleared : List Nat
  deriving DecidableEq, Repr

namespace CommitLog

def empty : CommitLog := ⟨[], none, none, [], [], [], []⟩

def note (log : CommitLog) : Move → CommitLog
  | .commit record =>
    { log with
      commits := log.commits ++ [record]
      pending := some log.commits.length
      superseded := log.superseded ++
        log.pending.toList.map fun number => (number, log.commits.length) }
  | .blank =>
    match log.pending with
    | none => log
    | some next =>
      { log with
        pending := none
        active := some next
        displaced := log.displaced ++ log.active.toList.map fun number => (number, next) }
  | .take => { log with active := none, exports := log.exports ++ [log.active] }
  | .clear =>
    { log with
      pending := none
      active := none
      cleared := log.cleared ++ log.pending.toList ++ log.active.toList }

def ofMoves (moves : List Move) : CommitLog := moves.foldl note empty

def record? (log : CommitLog) (number : Nat) : Option Record := log.commits[number]?

def exported (log : CommitLog) : List Nat := log.exports.filterMap id

def answers (log : CommitLog) : List Export :=
  log.exports.map fun place => .ofRecord? (place.bind log.record?)

/-- Every entry: the slots, and all that left them. -/
def fates (log : CommitLog) : List Nat :=
  log.pending.toList ++ log.active.toList ++ log.exported ++ log.superseded.map Prod.fst ++
    log.displaced.map Prod.fst ++ log.cleared

structure Sound (log : CommitLog) : Prop where
  /-- Every commit has one entry, and nothing else has. -/
  oneFate : log.fates.Perm (List.range log.commits.length)
  /-- What was exported is older than what is active, and that older than what is pending. -/
  ordered : (log.exported ++ log.active.toList ++ log.pending.toList).Pairwise (· < ·)
  /-- Only a later commit takes the place of another. -/
  later : ∀ entry ∈ log.superseded ++ log.displaced,
    entry.1 < entry.2 ∧ entry.2 < log.commits.length

/-- The slots hold the commits that a log says. -/
structure Holds (log : CommitLog) (slots : Slots) : Prop where
  pending : slots.pending = log.pending.bind log.record?
  active : slots.active = log.active.bind log.record?

/-! ## What one move keeps -/

theorem Sound.lt_of_mem {log : CommitLog} (sound : log.Sound) {number : Nat}
    (member : number ∈ log.fates) : number < log.commits.length :=
  List.mem_range.mp (sound.oneFate.subset member)

theorem Sound.pending_lt {log : CommitLog} (sound : log.Sound) {number : Nat}
    (pending : log.pending = some number) : number < log.commits.length :=
  sound.lt_of_mem (by simp [fates, pending])

theorem Sound.active_lt {log : CommitLog} (sound : log.Sound) {number : Nat}
    (active : log.active = some number) : number < log.commits.length :=
  sound.lt_of_mem (by simp [fates, active])

theorem Sound.exported_lt {log : CommitLog} (sound : log.Sound) {number : Nat}
    (exported : number ∈ log.exported) : number < log.commits.length :=
  sound.lt_of_mem (by simp [fates, exported])

theorem Sound.active_lt_pending {log : CommitLog} (sound : log.Sound) {shown next : Nat}
    (active : log.active = some shown) (pending : log.pending = some next) : shown < next := by
  have ordered := sound.ordered
  rw [active, pending] at ordered
  exact (List.pairwise_append.mp ordered).2.2 shown (by simp) next (by simp)

theorem sound_empty : empty.Sound where
  oneFate := .refl _
  ordered := .nil
  later := by simp [empty]

theorem Sound.note_commit {log : CommitLog} (sound : log.Sound) (record : Record) :
    (log.note (.commit record)).Sound where
  oneFate := by
    rw [List.perm_iff_count]
    intro number
    have one := sound.oneFate.count_eq number
    simp [fates, note, exported, List.range_succ, List.count_cons, Function.comp_def] at one ⊢
    omega
  ordered := by
    have before := (List.pairwise_append.mp sound.ordered).1
    refine List.pairwise_append.mpr ⟨before, by simp [note], ?_⟩
    intro older member newest newestMember
    obtain rfl : newest = log.commits.length := by simpa [note] using newestMember
    rcases List.mem_append.mp member with taken | shown
    · exact sound.exported_lt taken
    · exact sound.active_lt (by simpa [note] using shown)
  later := by
    intro entry member
    have grown : log.commits.length < (log.note (.commit record)).commits.length := by
      simp [note]
    simp only [note, List.mem_append, List.mem_map, Option.mem_toList] at member
    rcases member with (old | ⟨number, pending, rfl⟩) | old
    · have := sound.later entry (List.mem_append_left _ old)
      omega
    · exact ⟨sound.pending_lt pending, grown⟩
    · have := sound.later entry (List.mem_append_right _ old)
      omega

theorem Sound.note_blank {log : CommitLog} (sound : log.Sound) : (log.note .blank).Sound := by
  cases pending : log.pending with
  | none => simpa [note, pending] using sound
  | some next =>
    have ordered := sound.ordered
    rw [pending] at ordered
    refine ⟨?_, ?_, ?_⟩
    · rw [List.perm_iff_count]
      intro number
      have one := sound.oneFate.count_eq number
      simp [fates, note, exported, pending, List.count_cons, Function.comp_def] at one ⊢
      omega
    · -- the active commit drops out, and the pending one takes its place in the order
      have shorter : (log.exported ++ [next]).Sublist
          (log.exported ++ log.active.toList ++ [next]) :=
        List.Sublist.append_right (List.sublist_append_left _ _) _
      simpa [note, pending, exported] using ordered.sublist shorter
    · intro entry member
      simp only [note, pending, List.mem_append, List.mem_map, Option.mem_toList] at member ⊢
      rcases member with old | old | ⟨number, active, rfl⟩
      · exact sound.later entry (List.mem_append_left _ old)
      · exact sound.later entry (List.mem_append_right _ old)
      · exact ⟨sound.active_lt_pending active pending, sound.pending_lt pending⟩

theorem Sound.note_take {log : CommitLog} (sound : log.Sound) : (log.note .take).Sound where
  oneFate := by
    rw [List.perm_iff_count]
    intro number
    have one := sound.oneFate.count_eq number
    cases active : log.active <;>
      simp [fates, note, exported, active, List.count_cons] at one ⊢ <;> omega
  ordered := by
    have ordered := sound.ordered
    cases active : log.active <;> simpa [note, exported, active] using ordered
  later := sound.later

theorem Sound.note_clear {log : CommitLog} (sound : log.Sound) : (log.note .clear).Sound where
  oneFate := by
    rw [List.perm_iff_count]
    intro number
    have one := sound.oneFate.count_eq number
    simp [fates, note, exported] at one ⊢
    omega
  ordered := by
    have ordered := sound.ordered
    rw [List.append_assoc] at ordered
    simpa [note, exported] using (List.pairwise_append.mp ordered).1
  later := sound.later

theorem sound_note {log : CommitLog} (sound : log.Sound) : ∀ move, (log.note move).Sound
  | .commit record => sound.note_commit record
  | .blank => sound.note_blank
  | .take => sound.note_take
  | .clear => sound.note_clear

/-! ## What the slots hold -/

theorem record?_note (log : CommitLog) (move : Move) {number : Nat}
    (old : number < log.commits.length) : (log.note move).record? number = log.record? number := by
  cases move with
  | commit record => exact List.getElem?_append_left old
  | blank => simp only [note]; split <;> rfl
  | take | clear => rfl

theorem bind_record?_note (log : CommitLog) (move : Move) (place : Option Nat)
    (old : ∀ number, place = some number → number < log.commits.length) :
    place.bind (log.note move).record? = place.bind log.record? := by
  cases place with
  | none => rfl
  | some number => exact record?_note log move (old number rfl)

theorem holds_empty : empty.Holds .empty := ⟨rfl, rfl⟩

theorem holds_note {log : CommitLog} {slots : Slots} (sound : log.Sound) (holds : log.Holds slots)
    (move : Move) : (log.note move).Holds (slots.move move) := by
  have pendingKept := bind_record?_note log move log.pending fun _ => sound.pending_lt
  have activeKept := bind_record?_note log move log.active fun _ => sound.active_lt
  cases move with
  | commit record =>
    refine ⟨?_, holds.active.trans activeKept.symm⟩
    simp [Slots.move, Slots.commit, note, record?]
  | blank =>
    cases pending : log.pending with
    | none =>
      have nothing : slots.pending = none := by rw [holds.pending, pending]; rfl
      simpa [Slots.move, Slots.retire, note, pending, nothing] using holds
    | some next =>
      obtain ⟨record, waiting⟩ : ∃ record, log.record? next = some record :=
        ⟨_, List.getElem?_eq_getElem (sound.pending_lt pending)⟩
      have held : slots.pending = some record := by rw [holds.pending, pending]; exact waiting
      rw [pending] at pendingKept
      refine ⟨by simp [Slots.move, Slots.retire, held, note, pending], ?_⟩
      simpa [Slots.move, Slots.retire, held, note, pending, waiting] using pendingKept.symm
  | take => exact ⟨holds.pending.trans pendingKept.symm, rfl⟩
  | clear => exact ⟨rfl, rfl⟩

/-! ## What exports take, and what waits -/

theorem exports_note (log : CommitLog) (move : Move) :
    (log.note move).exports = log.exports ++ if move = .take then [log.active] else [] := by
  cases move with
  | take => rfl
  | blank => simp only [note]; split <;> simp
  | commit record | clear => simp [note]

theorem answers_note {log : CommitLog} (sound : log.Sound) (move : Move) :
    (log.note move).answers =
      log.answers ++ if move = .take then [.ofRecord? (log.active.bind log.record?)] else [] := by
  have exportedKept : (log.exports.map fun place =>
      Export.ofRecord? (place.bind (log.note move).record?)) = log.answers := by
    apply List.map_congr_left
    intro place member
    rw [bind_record?_note log move place]
    rintro number rfl
    exact sound.exported_lt (List.mem_filterMap.mpr ⟨some number, member, rfl⟩)
  have activeKept := bind_record?_note log move log.active fun _ => sound.active_lt
  rw [answers, exports_note, List.map_append, exportedKept]
  split
  · rw [List.map_singleton, activeKept]
  · rfl

theorem commits_note (log : CommitLog) (move : Move) :
    (log.note move).commits = log.commits ++ move.record?.toList := by
  cases move with
  | commit record => rfl
  | blank => simp only [note]; split <;> simp [Move.record?]
  | take | clear => simp [note, Move.record?]

theorem ofMoves_concat (moves : List Move) (move : Move) :
    ofMoves (moves ++ [move]) = (ofMoves moves).note move := by
  simp [ofMoves]

theorem sound_ofMoves (moves : List Move) : (ofMoves moves).Sound := by
  induction moves using List.reverseRecOn with
  | nil => exact sound_empty
  | append_singleton moves move ih =>
    rw [ofMoves_concat]
    exact sound_note ih move

theorem holds_ofMoves (moves : List Move) :
    (ofMoves moves).Holds (moves.foldl Slots.move .empty) := by
  induction moves using List.reverseRecOn with
  | nil => exact holds_empty
  | append_singleton moves move ih =>
    rw [ofMoves_concat, List.foldl_append]
    exact holds_note (sound_ofMoves moves) ih move

theorem commits_ofMoves (moves : List Move) :
    (ofMoves moves).commits = moves.filterMap Move.record? := by
  induction moves using List.reverseRecOn with
  | nil => rfl
  | append_singleton moves move ih =>
    rw [ofMoves_concat, commits_note, ih, List.filterMap_append]
    cases move <;> rfl

end CommitLog

/-- Whether a commit was made since the last vertical blank, power off, or end of the
registration. -/
def Move.commitWaits (moves : List Move) : Bool :=
  (moves.reverse.takeWhile fun move => !move.settles).any fun move => move.record?.isSome

/-- What waits is the last commit of all, if it came after the last move that settles. -/
theorem CommitLog.pending_ofMoves (moves : List Move) :
    (ofMoves moves).pending =
      if Move.commitWaits moves then some ((ofMoves moves).commits.length - 1) else none := by
  induction moves using List.reverseRecOn with
  | nil => rfl
  | append_singleton moves move ih =>
    rw [ofMoves_concat, commits_note]
    cases move with
    | commit record => simp [note, Move.commitWaits, Move.settles, Move.record?]
    | blank =>
      have settled : Move.commitWaits (moves ++ [.blank]) = false := by
        simp [Move.commitWaits, Move.settles]
      rw [settled]
      simp only [note]
      split
      · next none => exact none
      · rfl
    | take =>
      have same : Move.commitWaits (moves ++ [.take]) = Move.commitWaits moves := by
        simp [Move.commitWaits, Move.settles, Move.record?]
      rw [same]
      simpa [note, Move.record?] using ih
    | clear => simp [note, Move.commitWaits, Move.settles]

namespace Scene

def Answer.export? : Answer → Option Export
  | .exported frame => some frame
  | _ => none

def exports (scene : Scene) (steps : List Step) : List Export :=
  (scene.answers steps).filterMap Answer.export?

def commitLog (scene : Scene) (steps : List Step) : CommitLog := .ofMoves (scene.moves steps)

theorem export?_outcome (scene : Scene) (result : Relay × Except RelayError Unit) :
    (scene.outcome result).2.export? = none := by
  obtain ⟨relay, outcome⟩ := result
  cases outcome <;> rfl

theorem export?_registerWith (scene : Scene) (client : Nat) (buffer : Buffer) :
    (scene.registerWith client buffer).2.export? = none := by
  unfold registerWith
  split
  · rfl
  · split <;> rfl

theorem export?_step (scene : Scene) (step : Step) :
    (scene.step step).2.export? =
      match scene.move? step with
      | some .take => some (.ofRecord? scene.relay.slots.active)
      | _ => none := by
  cases step with
  | commit number =>
    simp only [step, move?]
    cases scene.framebuffer? number <;> rfl
  | setCrtc number =>
    cases number with
    | none => rfl
    | some number =>
      simp only [step, move?]
      cases scene.framebuffer? number <;> rfl
  | pageFlip client id =>
    rw [step, export?_outcome, move?]
    cases (scene.relay.client client).framebuffers.get? id <;> rfl
  | setCrtcById client id =>
    rw [step, export?_outcome]
    cases id with
    | none => rfl
    | some id =>
      rw [move?]
      cases (scene.relay.client client).framebuffers.get? id <;> rfl
  | power target => cases target <;> rfl
  | teardown link =>
    rw [move?]
    by_cases registered : scene.relay.registered = some link
    · rw [if_pos registered]; rfl
    · rw [if_neg registered]; rfl
  | register client number | registerCopy client number =>
    simp only [step, move?]
    cases scene.made[number]? with
    | none => rfl
    | some buffer => exact export?_registerWith _ _ _
  | release client handle | removeFramebuffer client id => exact export?_outcome _ _
  | createFramebuffer client handles =>
    simp only [step, createFramebuffer]
    split <;> rfl
  | addFramebuffer client handles | attach | poll link | wait link =>
    simp only [step]
    split <;> rfl
  | resolve client handle =>
    simp only [step]
    split
    · rfl
    · split <;> rfl
  | _ => rfl

theorem commitLog_concat (scene : Scene) (steps : List Step) (step : Step) :
    scene.commitLog (steps ++ [step]) =
      ((scene.run steps).move? step).elim (scene.commitLog steps) (scene.commitLog steps).note := by
  unfold commitLog
  rw [moves_concat]
  cases (scene.run steps).move? step with
  | none => simp
  | some move => exact CommitLog.ofMoves_concat _ move

theorem holds_commitLog (mode : Mode) (steps : List Step) :
    ((Scene.new mode).commitLog steps).Holds ((Scene.new mode).run steps).relay.slots := by
  rw [slots_run]
  exact CommitLog.holds_ofMoves _

theorem exports_eq (mode : Mode) (steps : List Step) :
    (Scene.new mode).exports steps = ((Scene.new mode).commitLog steps).answers := by
  induction steps using List.reverseRecOn with
  | nil => rfl
  | append_singleton steps step ih =>
    have sound : ((Scene.new mode).commitLog steps).Sound := CommitLog.sound_ofMoves _
    have active := (holds_commitLog mode steps).active
    rw [exports, answers_concat, List.filterMap_append, ← exports, ih, commitLog_concat]
    simp only [List.filterMap_cons, List.filterMap_nil, export?_step]
    cases ((Scene.new mode).run steps).move? step with
    | none => simp
    | some move =>
      rw [Option.elim_some, CommitLog.answers_note sound]
      cases move with
      | take => rw [active]; rfl
      | _ => rfl

theorem step_tick (scene : Scene) :
    (scene.step .tick).2 = .ticked
        ⟨scene.relay.slots.pending.map fun record => (record.id, record.count),
          scene.relay.pacer.sequence + 1, false⟩ ∧
      (scene.step .tick).1.relay.slots =
        ⟨none, scene.relay.slots.pending.or scene.relay.slots.active⟩ := by
  have slots := scene.slots_step .tick
  simp only [move?, Option.elim_some, Slots.move] at slots
  rw [slots]
  refine ⟨?_, scene.relay.slots.retire_fst⟩
  simp only [step, Relay.tick, Pacer.tick_eq]

/-- Whatever is done to a relay, every commit has one fate: it is pending, or active, or one
export took it, or a later commit superseded it, or a vertical blank displaced it for a later
commit, or it was cleared.  Exports take commits in the order in which they were made, and a
vertical blank retires the last commit since the slots were last settled, if there is one. -/
theorem one_fate_per_commit (mode : Mode) (steps : List Step) :
    let scene := (Scene.new mode).run steps
    let moves := (Scene.new mode).moves steps
    let log := (Scene.new mode).commitLog steps
    -- the log speaks of the commits, the slots and the exports of this very run
    log.commits = moves.filterMap Move.record? ∧
    scene.relay.slots.pending = log.pending.bind log.record? ∧
    scene.relay.slots.active = log.active.bind log.record? ∧
    (Scene.new mode).exports steps = log.answers ∧
    -- one fate each
    log.fates.Perm (List.range log.commits.length) ∧
    (∀ entry ∈ log.superseded ++ log.displaced,
      entry.1 < entry.2 ∧ entry.2 < log.commits.length) ∧
    log.exported.Pairwise (· < ·) ∧
    -- the next vertical blank
    log.pending = (if Move.commitWaits moves then some (log.commits.length - 1) else none) ∧
    (scene.step .tick).2 = .ticked
      ⟨(log.pending.bind log.record?).map fun record => (record.id, record.count),
        scene.relay.pacer.sequence + 1, false⟩ ∧
    (scene.step .tick).1.relay.slots =
      ⟨none, (log.pending.bind log.record?).or scene.relay.slots.active⟩ := by
  intro scene moves log
  have sound : log.Sound := CommitLog.sound_ofMoves moves
  have holds : log.Holds scene.relay.slots := holds_commitLog mode steps
  have tick := step_tick scene
  rw [holds.pending] at tick
  have taken : log.exported.Pairwise (· < ·) := by
    have ordered := sound.ordered
    rw [List.append_assoc] at ordered
    exact (List.pairwise_append.mp ordered).1
  exact ⟨CommitLog.commits_ofMoves moves, holds.pending, holds.active, exports_eq mode steps,
    sound.oneFate, sound.later, taken, CommitLog.pending_ofMoves moves, tick.1, tick.2⟩

end Scene

end PresentRelay
