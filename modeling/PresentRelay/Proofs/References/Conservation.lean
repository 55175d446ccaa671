import PresentRelay.Proofs.References.Tallies
import PresentRelay.Proofs.Slots.Moves

/-!
# References are conserved

Every reference to a made buffer is the maker's, or one that the account of the users
names, or of a record in one of the two slots.  No operation, whether it succeeds or
fails, leaves another one behind.
-/

set_option autoImplicit false

namespace PresentRelay

open Scene (Step Answer)

/-! ## References on the account -/

namespace Holdings

/-- How many registrations a made buffer has. -/
def registered (holdings : Holdings) (number : Nat) : Nat :=
  (holdings.registrations.map Prod.snd).count (some number)

/-- How many planes of live framebuffers a made buffer is in. -/
def shown (holdings : Holdings) (number : Nat) : Nat :=
  (holdings.added.flatMap Prod.snd).count (some number) +
    (holdings.kept.flatMap fun planes => planes.getD []).count (some number)

end Holdings

theorem Owned.count_ofClient {α : Type} (places : α → Planes) (place : Option Nat) (count : Nat)
    (entries : List (Owned α)) (bound : ∀ entry ∈ entries, entry.1.1 < count) :
    ∑ client ∈ Finset.range count,
        ((ofClient client entries).flatMap fun entry => places entry.2).count place =
      (entries.flatMap fun entry => places entry.2).count place := by
  simp only [List.count_flatMap]
  exact sum_ofClient (fun value => (places value).count place) count entries bound

namespace Estate

variable {estate : Estate} {holdings : Holdings}

/-- References to a made buffer are the places that have its number. -/
theorem Sound.countP_eq_count (sound : estate.Sound) {number : Nat} {buffer : Buffer}
    (found : estate.made[number]? = some buffer) (buffers : List Buffer) :
    (buffers.countP fun other => other.object = buffer.object) =
      (buffers.map estate.number).count (some number) := by
  rw [List.count_eq_countP, List.countP_map]
  apply List.countP_congr
  intro other _
  simp only [Function.comp_apply, decide_eq_true_eq, beq_iff_eq]
  exact (sound.number_eq_some found other).symm

theorem map_number_buffers (estate : Estate) (held : Client) :
    held.buffers.map estate.number =
      (estate.registrations held).flatMap (fun entry => [entry.2]) ++
        (estate.added held).flatMap fun entry => entry.2 := by
  simp only [Client.buffers, Table.values, registrations, added, planes, List.map_append,
    List.map_map, List.map_flatMap, List.flatMap_map, ← List.map_eq_flatMap]
  rfl

theorem Tallies.lt_of_registered (tallies : estate.Tallies holdings) {count : Nat}
    (past : ∀ client, count ≤ client → estate.client client = .closed) :
    ∀ entry ∈ holdings.registrations, entry.1.1 < count := by
  rintro ⟨⟨client, handle⟩, place⟩ member
  apply Nat.lt_of_not_le
  intro beyond
  have shown := Owned.mem_ofClient.mpr member
  rw [tallies.registrations, past client beyond] at shown
  cases shown

theorem Tallies.lt_of_added (tallies : estate.Tallies holdings) {count : Nat}
    (past : ∀ client, count ≤ client → estate.client client = .closed) :
    ∀ entry ∈ holdings.added, entry.1.1 < count := by
  rintro ⟨⟨client, id⟩, planes⟩ member
  apply Nat.lt_of_not_le
  intro beyond
  have shown := Owned.mem_ofClient.mpr member
  rw [tallies.added, past client beyond] at shown
  cases shown

theorem Tallies.count_clients (tallies : estate.Tallies holdings) (place : Option Nat)
    {count : Nat} (past : ∀ client, count ≤ client → estate.client client = .closed) :
    ∑ client ∈ Finset.range count,
        ((estate.client client).buffers.map estate.number).count place =
      (holdings.registrations.map Prod.snd).count place +
        (holdings.added.flatMap Prod.snd).count place := by
  have registered := Owned.count_ofClient (fun number => [number]) place count
    holdings.registrations (tallies.lt_of_registered past)
  have added := Owned.count_ofClient (fun planes => planes) place count
    holdings.added (tallies.lt_of_added past)
  simp only [tallies.registrations, tallies.added] at registered added
  simp only [map_number_buffers, List.count_append, Finset.sum_add_distrib]
  rw [registered, added, List.map_eq_flatMap]

theorem Tallies.map_kept (tallies : estate.Tallies holdings) :
    ((estate.framebuffers.filterMap fun held => held).flatMap Framebuffer.buffers).map
        estate.number =
      holdings.kept.flatMap fun planes => planes.getD [] := by
  rw [tallies.kept]
  induction estate.framebuffers with
  | nil => rfl
  | cons held rest ih =>
    cases held with
    | none => simpa using ih
    | some framebuffer => simpa [planes] using ih

end Estate

/-! ## References in the slots -/

def Record.multiplicity (record : Record) (buffer : Buffer) : Nat :=
  record.buffers.countP fun other => other.object = buffer.object

theorem Slots.countP_buffers (slots : Slots) (buffer : Buffer) :
    (slots.buffers.countP fun other => other.object = buffer.object) =
      (slots.pending.elim 0 fun record => record.multiplicity buffer) +
        slots.active.elim 0 fun record => record.multiplicity buffer := by
  obtain ⟨pending, active⟩ := slots
  cases pending <;> cases active <;> simp [Slots.buffers, Slots.records, Record.multiplicity]

theorem Slots.mem_records_move {slots : Slots} {move : Move} {record : Record}
    (member : record ∈ (slots.move move).records) :
    record ∈ slots.records ∨ move = .commit record := by
  cases move with
  | commit committed =>
    rcases List.mem_cons.mp member with rfl | active
    · exact .inr rfl
    · exact .inl (List.mem_append_right _ active)
  | blank =>
    left
    rw [Slots.move, Slots.records_retire] at member
    obtain ⟨pending, active⟩ := slots
    cases pending with
    | none => exact member
    | some waiting => exact List.mem_append_left _ member
  | take =>
    left
    simp only [Slots.move, Slots.takeActive, Slots.records, Option.toList_none,
      List.append_nil] at member
    exact List.mem_append_left _ member
  | clear => cases member

theorem Slots.length_buffers_le {slots : Slots}
    (few : ∀ record ∈ slots.records, record.buffers.length ≤ maxPlanes) :
    slots.buffers.length ≤ 2 * maxPlanes := by
  obtain ⟨pending, active⟩ := slots
  have waiting : ∀ record, pending = some record → record.buffers.length ≤ maxPlanes :=
    fun record held => few record (by simp [Slots.records, held])
  have shown : ∀ record, active = some record → record.buffers.length ≤ maxPlanes :=
    fun record held => few record (by simp [Slots.records, held])
  cases pending <;> cases active <;>
    simp_all [Slots.buffers, Slots.records] <;> omega

namespace Scene

theorem few_of_commit {scene : Scene} (sound : scene.estate.Sound) {step : Step} {record : Record}
    (commit : scene.move? step = some (.commit record)) : record.buffers.length ≤ maxPlanes := by
  have ofKept : ∀ number, commitOf (scene.framebuffer? number) = some (.commit record) →
      record.buffers.length ≤ maxPlanes := by
    intro number committed
    obtain ⟨framebuffer, held, same⟩ := Option.map_eq_some_iff.mp committed
    cases same
    have member := List.mem_of_getElem? (Option.join_eq_some_iff.mp held)
    exact (sound.kept framebuffer member).few
  have ofClient : ∀ client id,
      commitOf ((scene.relay.client client).framebuffers.get? id) = some (.commit record) →
        record.buffers.length ≤ maxPlanes := by
    intro client id committed
    obtain ⟨framebuffer, held, same⟩ := Option.map_eq_some_iff.mp committed
    cases same
    exact ((sound.clients client).framebuffers _ (Table.mem_of_get? held)).few
  cases step with
  | commit number => exact ofKept number commit
  | pageFlip client id => exact ofClient client id commit
  | setCrtc number =>
    cases number with
    | none => cases commit
    | some number => exact ofKept number commit
  | setCrtcById client id =>
    cases id with
    | none => cases commit
    | some id => exact ofClient client id commit
  | power target => cases target <;> cases commit
  | teardown link =>
    rw [move?] at commit
    split at commit <;> cases commit
  | _ => cases commit

theorem few_run (mode : Mode) (steps : List Step) :
    ∀ record ∈ ((new mode).run steps).relay.slots.records, record.buffers.length ≤ maxPlanes := by
  induction steps using List.reverseRecOn with
  | nil => exact nofun
  | append_singleton steps step ih =>
    intro record member
    rw [run_concat, slots_step] at member
    cases move : ((new mode).run steps).move? step with
    | none =>
      rw [move] at member
      exact ih record member
    | some made =>
      rw [move] at member
      rcases Slots.mem_records_move member with old | rfl
      · exact ih record old
      · exact few_of_commit (sound_run mode steps) move

/-! ## All references -/

theorem countP_clients (relay : Relay) (counts : Buffer → Bool) :
    (relay.clients.flatMap Client.buffers).countP counts =
      ∑ client ∈ Finset.range relay.clients.length,
        (relay.client client).buffers.countP counts := by
  simp only [Relay.client]
  induction relay.clients using List.reverseRecOn with
  | nil => rfl
  | append_singleton clients last ih =>
    have earlier : ∀ client ∈ Finset.range clients.length,
        ((clients ++ [last])[client]?.getD .closed).buffers.countP counts =
          (clients[client]?.getD .closed).buffers.countP counts := by
      intro client member
      rw [List.getElem?_append_left (Finset.mem_range.mp member)]
    rw [List.flatMap_append, List.countP_append, ih, List.length_append, List.length_singleton,
      Finset.sum_range_succ, Finset.sum_congr rfl earlier]
    simp

theorem held_of_gone (scene : Scene) (sound : scene.estate.Sound)
    (clients : ∀ client, scene.relay.isOpen client = false)
    (framebuffers : ∀ held ∈ scene.framebuffers, held = none) :
    scene.held = scene.relay.slots.buffers := by
  have ofClients : scene.relay.clients.flatMap Client.buffers = [] := by
    apply List.flatMap_eq_nil_iff.mpr
    intro held member
    obtain ⟨client, found⟩ := List.mem_iff_getElem?.mp member
    have closed : scene.relay.client client = .closed :=
      (sound.clients client).closed (clients client)
    rw [Relay.client, found, Option.getD_some] at closed
    rw [closed]
    rfl
  have ofCallers : (scene.framebuffers.filterMap fun held => held) = [] :=
    List.filterMap_eq_nil_iff.mpr framebuffers
  rw [held, Relay.buffers, ofClients, ofCallers]
  simp

/-- At every point of every run, the references to a made buffer are its maker's, one for
each registration whose handle was not released, one for each plane of a live framebuffer,
and as many as the records in the two slots have.  A framebuffer that is added under a number
which its client still has replaces the old one, which is live no more (`replaced`); with
fewer than 2^32 attempts to make one that never happens.  Without clients and framebuffers,
only the slots hold buffers, and never more than eight. -/
theorem references_conserved (mode : Mode) (steps : List Step) {number : Nat} {buffer : Buffer}
    (found : ((new mode).run steps).made[number]? = some buffer) :
    let scene := (new mode).run steps
    let account := holdings mode steps
    scene.references buffer =
        1 + account.registered number + account.shown number +
          (scene.relay.slots.pending.elim 0 fun record => record.multiplicity buffer) +
          (scene.relay.slots.active.elim 0 fun record => record.multiplicity buffer) ∧
      (account.numbered < UInt32.size → account.replaced = []) ∧
      ((∀ client, scene.relay.isOpen client = false) →
        (∀ held ∈ scene.framebuffers, held = none) → scene.held = scene.relay.slots.buffers) ∧
      scene.relay.slots.buffers.length ≤ 2 * maxPlanes := by
  intro scene account
  have sound : scene.estate.Sound := sound_run mode steps
  have tallies : scene.estate.Tallies account := tallies_run mode steps
  have few := few_run mode steps
  have past : ∀ client, scene.relay.clients.length ≤ client →
      scene.estate.client client = .closed := by
    intro client beyond
    simp [estate, Relay.client, List.getElem?_eq_none beyond]
  refine ⟨?_, fun bound => ((numbers_run mode steps).fresh bound).1, held_of_gone scene sound,
    Slots.length_buffers_le few⟩
  have counted := sound.countP_eq_count found
  have each : ∑ client ∈ Finset.range scene.relay.clients.length,
        ((scene.relay.client client).buffers.countP fun other => other.object = buffer.object) =
      ∑ client ∈ Finset.range scene.relay.clients.length,
        ((scene.estate.client client).buffers.map scene.estate.number).count (some number) :=
    Finset.sum_congr rfl fun client _ => counted _
  have ofCallers := counted
    ((scene.estate.framebuffers.filterMap fun held => held).flatMap Framebuffer.buffers)
  rw [tallies.map_kept] at ofCallers
  have held : (scene.held.countP fun other => other.object = buffer.object) =
      account.registered number + account.shown number +
        (scene.relay.slots.buffers.countP fun other => other.object = buffer.object) := by
    rw [Scene.held, Relay.buffers, List.countP_append, List.countP_append, countP_clients, each,
      tallies.count_clients (some number) past]
    simp only [Holdings.registered, Holdings.shown]
    simp only [estate] at ofCallers
    omega
  rw [references, held, Slots.countP_buffers]
  omega

/-- A buffer in two planes of one framebuffer, which was shown twice and whose handle was
released: two references of the framebuffer and two of each record. -/
theorem references_conserved_shown_twice :
    let mode : Mode := ⟨1920, 1080, 60⟩
    let buffer : Buffer := ⟨0, ⟨0, []⟩, true⟩
    let steps : List Step :=
      [.makeBuffer [] true, .openClient, .register 0 0, .addFramebuffer 0 [1, 1],
        .addFramebuffer 0 [1, 7], .release 0 1, .pageFlip 0 1, .tick, .pageFlip 0 1]
    ((new mode).run steps).made[0]? = some buffer ∧
      ((new mode).run steps).references buffer = 1 + 0 + 2 + 2 + 2 := by
  intro mode buffer steps
  have found : ((new mode).run steps).made[0]? = some buffer := by decide
  have account : holdings mode steps =
      ⟨[], [((0, 1), [some 0, some 0])], [], [], 2⟩ := by decide
  have slots : ((new mode).run steps).relay.slots =
      ⟨some ⟨1, [buffer, buffer]⟩, some ⟨1, [buffer, buffer]⟩⟩ := by decide
  have conserved := (references_conserved mode steps found).1
  rw [account, slots] at conserved
  exact ⟨found, conserved⟩

end Scene

end PresentRelay
