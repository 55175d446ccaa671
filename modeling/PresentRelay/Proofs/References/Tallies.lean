import PresentRelay.Proofs.References.Estate

/-!
# The account tallies with the estate

The account that users keep of a run, by what they asked for and were answered, is an
account of the estate that the run leaves.  `Tallies.becomes` is the step, `tallies_run`
the run.
-/

set_option autoImplicit false

namespace PresentRelay

open Scene (Step Answer)

namespace Estate

/-! ## Buffers by number -/

/-- The number of the made buffer that an object is. -/
def number (estate : Estate) (buffer : Buffer) : Option Nat :=
  estate.made.findIdx? fun made => made.object = buffer.object

def planes (estate : Estate) (framebuffer : Framebuffer) : Planes :=
  framebuffer.buffers.map estate.number

theorem Sound.number_eq_some {estate : Estate} (sound : estate.Sound) {number : Nat}
    {buffer : Buffer} (found : estate.made[number]? = some buffer) (other : Buffer) :
    estate.number other = some number ↔ other.object = buffer.object := by
  obtain ⟨bound, rfl⟩ := List.getElem?_eq_some_iff.mp found
  rw [Estate.number, List.findIdx?_eq_some_iff_getElem]
  constructor
  · rintro ⟨_, hit, -⟩
    simpa using (of_decide_eq_true hit).symm
  · intro same
    refine ⟨bound, by simp [same], ?_⟩
    intro earlier before
    have distinct := List.pairwise_iff_getElem.mp sound.made_nodup earlier number
      (by simp only [List.length_map]; omega) (by simpa using bound) before
    simp only [List.getElem_map] at distinct
    simpa [same] using distinct

theorem Sound.number_eq_none {estate : Estate} (sound : estate.Sound) {buffer : Buffer}
    (fresh : estate.objects ≤ buffer.object) : estate.number buffer = none := by
  apply List.findIdx?_eq_none_iff.mpr
  intro made member
  have bound := sound.made_lt made member
  simp
  omega

theorem number_make (estate : Estate) {buffer made : Buffer} (other : made.object ≠ buffer.object) :
    { estate with made := estate.made ++ [made] }.number buffer = estate.number buffer := by
  simp [number, List.findIdx?_append, other]

def registrations (estate : Estate) (held : Client) : List (UInt32 × Option Nat) :=
  held.registry.table.entries.map fun entry => (entry.1, estate.number entry.2)

def added (estate : Estate) (held : Client) : List (UInt32 × Planes) :=
  held.framebuffers.entries.map fun entry => (entry.1, estate.planes entry.2)

theorem registrations_register (estate : Estate) {held : Client} (buffer : Buffer)
    (room : held.registry.isFull = false) :
    estate.registrations { held with registry := (held.registry.register buffer).1 } =
      (held.registry.nextHandle, estate.number buffer) :: estate.registrations held := by
  rw [registrations, Registry.entries_register _ _ room]
  rfl

theorem registrations_release (estate : Estate) (held : Client) (handle : UInt32) :
    estate.registrations { held with registry.table := held.registry.table.erase handle } =
      (estate.registrations held).filter fun entry => entry.1 != handle := by
  simp only [registrations, Table.erase, List.filter_map]
  rfl

theorem added_remove (estate : Estate) (held : Client) (id : UInt32) :
    estate.added { held with framebuffers := held.framebuffers.erase id } =
      (estate.added held).filter fun entry => entry.1 != id := by
  simp only [added, Table.erase, List.filter_map]
  rfl

theorem added_add (estate : Estate) (held : Client) (id : UInt32) (framebuffer : Framebuffer) :
    estate.added { held with framebuffers := held.framebuffers.insert id framebuffer } =
      (id, estate.planes framebuffer) ::
        (estate.added held).filter fun entry => entry.1 != id := by
  rw [← added_remove]
  rfl

/-! ## What the account says -/

/-- The account names all that is in the estate, and nothing else. -/
structure Tallies (estate : Estate) (holdings : Holdings) : Prop where
  registrations : ∀ client,
    Owned.ofClient client holdings.registrations = estate.registrations (estate.client client)
  added : ∀ client, Owned.ofClient client holdings.added = estate.added (estate.client client)
  kept : holdings.kept = estate.framebuffers.map fun held => held.map estate.planes

/-- Framebuffer numbers go up from one.  Before they go round, none is given twice. -/
structure Numbers (estate : Estate) (holdings : Holdings) : Prop where
  next : estate.next = UInt32.ofNat (holdings.numbered + 1)
  fresh : holdings.numbered < UInt32.size →
    holdings.replaced = [] ∧ ∀ entry ∈ holdings.added, entry.1.2.toNat ≤ holdings.numbered

theorem tallies_new : new.Tallies .empty := ⟨fun _ => rfl, fun _ => rfl, rfl⟩

theorem numbers_new : new.Numbers .empty := ⟨rfl, fun _ => ⟨rfl, nofun⟩⟩

variable {estate : Estate} {holdings : Holdings}

theorem Tallies.planes_eq (tallies : estate.Tallies holdings) {client : Nat}
    {handles : List UInt32} {framebuffer : Framebuffer}
    (resolves : framebuffer.Resolves (estate.client client).registry handles) :
    holdings.planes client handles = estate.planes framebuffer := by
  have lookup : ∀ handle buffer,
      (estate.client client).registry.table.get? handle = some buffer →
        (holdings.registrations.lookup (client, handle)).join = estate.number buffer := by
    intro handle buffer held
    have entry : (estate.client client).registry.table.entries.lookup handle = some buffer := held
    rw [Owned.lookup_ofClient, tallies.registrations, Estate.registrations, Table.lookup_map,
      entry]
    rfl
  obtain ⟨id, planes⟩ := framebuffer
  simp only [Framebuffer.Resolves] at resolves
  simp only [Holdings.planes, Estate.planes, Framebuffer.buffers]
  induction resolves with
  | nil => rfl
  | cons found _ ih =>
    obtain ⟨-, held⟩ := found
    simp only [List.map_cons, ih, lookup _ _ held]

theorem Tallies.change (tallies : estate.Tallies holdings) {client : Nat} {held : Client}
    {account : Holdings}
    (registrations : ∀ asked, Owned.ofClient asked account.registrations =
      if asked = client then estate.registrations held
      else Owned.ofClient asked holdings.registrations)
    (added : ∀ asked, Owned.ofClient asked account.added =
      if asked = client then estate.added held else Owned.ofClient asked holdings.added)
    (kept : account.kept = holdings.kept) : (estate.change client held).Tallies account where
  registrations asked := by
    rw [registrations, client_change]
    split
    · rfl
    · exact tallies.registrations asked
  added asked := by
    rw [added, client_change]
    split
    · rfl
    · exact tallies.added asked
  kept := kept.trans tallies.kept

theorem Tallies.sameRegistrations (tallies : estate.Tallies holdings) (client asked : Nat) :
    Owned.ofClient asked holdings.registrations =
      if asked = client then estate.registrations (estate.client client)
      else Owned.ofClient asked holdings.registrations := by
  split
  · next same => rw [same, tallies.registrations]
  · rfl

theorem Tallies.sameAdded (tallies : estate.Tallies holdings) (client asked : Nat) :
    Owned.ofClient asked holdings.added =
      if asked = client then estate.added (estate.client client)
      else Owned.ofClient asked holdings.added := by
  split
  · next same => rw [same, tallies.added]
  · rfl

theorem Tallies.grow (tallies : estate.Tallies holdings) (objects : Nat) :
    { estate with objects }.Tallies holdings :=
  ⟨tallies.registrations, tallies.added, tallies.kept⟩

theorem Tallies.register (tallies : estate.Tallies holdings) {client : Nat} (buffer : Buffer)
    (room : (estate.client client).registry.isFull = false) :
    (estate.register client buffer).Tallies
      { holdings with
        registrations :=
          ((client, (estate.client client).registry.nextHandle), estate.number buffer) ::
            holdings.registrations } := by
  refine tallies.change ?_ (tallies.sameAdded client) rfl
  intro asked
  rw [Owned.ofClient_cons, registrations_register _ _ room]
  split
  · next same => rw [same, tallies.registrations]
  · rfl

theorem Tallies.make (sound : estate.Sound) (tallies : estate.Tallies holdings) {made : Buffer}
    (fresh : made.object = estate.objects) :
    { estate with made := estate.made ++ [made], objects := estate.objects + 1 }.Tallies
      holdings := by
  have number : ∀ buffer : Buffer, buffer.object < estate.objects →
      { estate with made := estate.made ++ [made] }.number buffer = estate.number buffer :=
    fun buffer known => estate.number_make (by omega)
  have planes : ∀ framebuffer : Framebuffer, framebuffer.Fits estate.objects →
      { estate with made := estate.made ++ [made] }.planes framebuffer =
        estate.planes framebuffer :=
    fun framebuffer fits => List.map_congr_left fun buffer member =>
      number buffer (fits.known buffer member)
  refine ⟨?_, ?_, ?_⟩
  · intro client
    rw [tallies.registrations]
    apply List.map_congr_left
    intro entry member
    rw [← number _ ((sound.clients client).registered entry member)]
    rfl
  · intro client
    rw [tallies.added]
    apply List.map_congr_left
    intro entry member
    rw [← planes _ ((sound.clients client).framebuffers entry member)]
    rfl
  · rw [tallies.kept]
    apply List.map_congr_left
    intro held member
    cases held with
    | none => rfl
    | some framebuffer =>
      rw [Option.map_some, ← planes _ (sound.kept framebuffer member)]
      rfl

/-- What a step makes of the estate, its answer makes of the account. -/
theorem Tallies.becomes {after : Estate} {step : Step} {answer : Answer} (sound : estate.Sound)
    (tallies : estate.Tallies holdings) (becomes : estate.Becomes step answer after) :
    after.Tallies (holdings.note step answer) := by
  cases becomes with
  | @same _ _ objects unnoted grown =>
    rw [unnoted]
    exact tallies.grow objects
  | made contents mintable => exact tallies.make sound rfl
  | @opened client _ fresh =>
    have registrations := tallies.sameRegistrations client
    have added := tallies.sameAdded client
    rw [fresh] at registrations added
    exact tallies.change registrations added rfl
  | closed client =>
    exact tallies.change (fun asked => Owned.ofClient_filter_client asked client _)
      (fun asked => Owned.ofClient_filter_client asked client _) rfl
  | @registered client number buffer found isOpen room =>
    have registered := tallies.register buffer room
    rwa [(sound.number_eq_some found buffer).mpr rfl] at registered
  | @copied client number file isOpen room =>
    have grown := tallies.grow (estate.objects + 1)
    have registered := grown.register (.ofDescriptor estate.objects file) room
    have copy : { estate with objects := estate.objects + 1 }.number
        (.ofDescriptor estate.objects file) = none := sound.number_eq_none (Nat.le_refl _)
    rwa [copy] at registered
  | @released client handle isOpen =>
    refine tallies.change ?_ (tallies.sameAdded client) rfl
    intro asked
    rw [registrations_release, Holdings.note, Owned.ofClient_filter_ne]
    split
    · next same => rw [same, tallies.registrations]
    · rfl
  | refused noted =>
    rw [noted]
    exact ⟨tallies.registrations, tallies.added, tallies.kept⟩
  | @created client number handles framebuffer success =>
    obtain ⟨-, -, -, resolves⟩ := Framebuffer.resolves_of_create success
    refine ⟨tallies.registrations, tallies.added, ?_⟩
    rw [Holdings.note, tallies.planes_eq resolves, tallies.kept, List.map_append]
    rfl
  | dropped number =>
    refine ⟨tallies.registrations, tallies.added, ?_⟩
    rw [Holdings.note, tallies.kept, List.map_set]
    rfl
  | @added client handles framebuffer success isOpen =>
    obtain ⟨-, -, -, resolves⟩ := Framebuffer.resolves_of_create success
    have numbered : { estate with next := estate.next + 1 }.Tallies holdings :=
      ⟨tallies.registrations, tallies.added, tallies.kept⟩
    refine numbered.change (numbered.sameRegistrations client) ?_ rfl
    intro asked
    rw [added_add, Holdings.note, tallies.planes_eq resolves, Owned.ofClient_cons,
      Owned.ofClient_filter_ne]
    split
    · next same =>
      rw [same, tallies.added]
      rfl
    · rfl
  | @removed client id isOpen =>
    refine tallies.change (tallies.sameRegistrations client) ?_ rfl
    intro asked
    rw [added_remove, Holdings.note, Owned.ofClient_filter_ne]
    split
    · next same => rw [same, tallies.added]
    · rfl

/-! ## Framebuffer numbers -/

theorem Numbers.keep (numbers : estate.Numbers holdings) {after : Estate} {account : Holdings}
    (next : after.next = estate.next) (numbered : account.numbered = holdings.numbered)
    (replaced : account.replaced = holdings.replaced) (added : account.added ⊆ holdings.added) :
    after.Numbers account where
  next := by rw [next, numbered, numbers.next]
  fresh := by
    rw [numbered, replaced]
    intro bound
    obtain ⟨none, older⟩ := numbers.fresh bound
    exact ⟨none, fun entry member => older entry (added member)⟩

theorem Numbers.skip (numbers : estate.Numbers holdings) {after : Estate} {account : Holdings}
    (next : after.next = estate.next + 1) (numbered : account.numbered = holdings.numbered + 1)
    (replaced : account.replaced = holdings.replaced) (added : account.added = holdings.added) :
    after.Numbers account where
  next := by
    rw [next, numbered, numbers.next, UInt32.ofNat_add (holdings.numbered + 1) 1]
    rfl
  fresh := by
    rw [numbered, replaced, added]
    intro bound
    obtain ⟨none, older⟩ := numbers.fresh (by omega)
    exact ⟨none, fun entry member => Nat.le_succ_of_le (older entry member)⟩

/-- A client's framebuffer has the next number, and replaces none until numbers go round. -/
theorem Numbers.add (numbers : estate.Numbers holdings) (client : Nat) (planes : Planes)
    {after : Estate} (next : after.next = estate.next + 1) :
    after.Numbers
      { holdings with
        numbered := holdings.numbered + 1
        added := ((client, estate.next), planes) ::
          holdings.added.filter fun entry => entry.1 != (client, estate.next)
        replaced := holdings.replaced ++
          holdings.added.filter fun entry => entry.1 == (client, estate.next) } where
  next := by
    rw [next, numbers.next]
    exact (UInt32.ofNat_add (holdings.numbered + 1) 1).symm
  fresh := by
    intro bound
    have size : holdings.numbered + 1 < UInt32.size := bound
    obtain ⟨none, older⟩ := numbers.fresh (by omega)
    have number : estate.next.toNat = holdings.numbered + 1 := by
      rw [numbers.next, UInt32.toNat_ofNat_of_lt' size]
    refine ⟨?_, ?_⟩
    · simp only [none, List.nil_append, List.filter_eq_nil_iff, beq_iff_eq]
      rintro ⟨⟨owner, id⟩, planes⟩ member same
      have bounded : id.toNat ≤ holdings.numbered := older _ member
      rw [(Prod.mk.inj same).2] at bounded
      omega
    · intro entry member
      rcases List.mem_cons.mp member with rfl | old
      · exact Nat.le_of_eq number
      · exact Nat.le_succ_of_le (older entry (List.mem_of_mem_filter old))

theorem Numbers.becomes {after : Estate} {step : Step} {answer : Answer}
    (numbers : estate.Numbers holdings) (becomes : estate.Becomes step answer after) :
    after.Numbers (holdings.note step answer) := by
  cases becomes with
  | same unnoted =>
    rw [unnoted]
    exact numbers.keep rfl rfl rfl (List.Subset.refl _)
  | made | opened | registered | copied | released | dropped =>
    exact numbers.keep rfl rfl rfl (List.Subset.refl _)
  | closed | removed => exact numbers.keep rfl rfl rfl (List.filter_subset_self _)
  | refused noted =>
    rw [noted]
    exact numbers.skip rfl rfl rfl rfl
  | created => exact numbers.skip rfl rfl rfl rfl
  | added => exact numbers.add _ _ rfl

end Estate

/-! ## The account of a run -/

namespace Holdings

theorem ofRun_concat (steps : List Step) (answers : List Answer) (step : Step) (answer : Answer)
    (length : steps.length = answers.length) :
    ofRun (steps ++ [step]) (answers ++ [answer]) = (ofRun steps answers).note step answer := by
  rw [ofRun, List.zip_append length, List.foldl_append]
  rfl

end Holdings

namespace Scene

theorem length_answers (scene : Scene) (steps : List Step) :
    (scene.answers steps).length = steps.length := by
  induction steps generalizing scene with
  | nil => rfl
  | cons step steps ih => rw [answers, List.length_cons, List.length_cons, ih]

def holdings (mode : Mode) (steps : List Step) : Holdings :=
  .ofRun steps ((new mode).answers steps)

theorem holdings_concat (mode : Mode) (steps : List Step) (step : Step) :
    holdings mode (steps ++ [step]) =
      (holdings mode steps).note step (((new mode).run steps).step step).2 := by
  rw [holdings, answers_concat, Holdings.ofRun_concat _ _ _ _ (length_answers _ _).symm]
  rfl

theorem tallies_run (mode : Mode) (steps : List Step) :
    ((new mode).run steps).estate.Tallies (holdings mode steps) := by
  induction steps using List.reverseRecOn with
  | nil => exact Estate.tallies_new
  | append_singleton steps step ih =>
    have sound := sound_run mode steps
    rw [run_concat, holdings_concat]
    exact ih.becomes sound (becomes_step _ sound step)

theorem numbers_run (mode : Mode) (steps : List Step) :
    ((new mode).run steps).estate.Numbers (holdings mode steps) := by
  induction steps using List.reverseRecOn with
  | nil => exact Estate.numbers_new
  | append_singleton steps step ih =>
    rw [run_concat, holdings_concat]
    exact ih.becomes (becomes_step _ (sound_run mode steps) step)

end Scene

end PresentRelay
