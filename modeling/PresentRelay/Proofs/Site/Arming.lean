import PresentRelay.Proofs.Site.Runs

/-!
# The pacer is armed exactly for pending work

Commits, vertical blanks, power off and the end of the registration change the pending slot and
the pacer one after the other.  `Relay.Paced` says that they agree whenever an operation is over;
every deed keeps it, so that no frame is ever left waiting with nothing to retire it.
-/

set_option autoImplicit false

namespace PresentRelay

namespace Relay

/-- The pacer runs, and it is armed exactly if something is pending. -/
structure Paced (relay : Relay) : Prop where
  running : relay.pacer.stopped = false
  armed : relay.pacer.armed.isSome = relay.slots.pending.isSome

theorem paced_new (mode : Mode) : (new mode).Paced := ⟨rfl, rfl⟩

variable {before after : Relay}

theorem Paced.tellConsumer (paced : before.Paced) (change : EventChannel → EventChannel) :
    (before.tellConsumer change).Paced := by
  obtain ⟨links, told⟩ := before.exists_tellConsumer change
  rw [told]
  exact ⟨paced.running, paced.armed⟩

/-- With both slots empty the pacer has to be idle. -/
theorem paced_of_idle (running : after.pacer.stopped = false) (idle : after.pacer.armed = none)
    (nothing : after.slots.pending = none) : after.Paced where
  running := running
  armed := by rw [idle, nothing]; rfl

theorem Paced.setPower (paced : before.Paced) (target : Power) :
    (before.setPower target).Paced := by
  have entered : ({ before with
      power := target
      slots := (before.power.enter target before.slots before.pacer).2.1
      pacer := (before.power.enter target before.slots before.pacer).2.2 } : Relay).Paced := by
    cases target with
    | off => exact paced_of_idle paced.running rfl rfl
    | on | noConsumer => exact ⟨paced.running, paced.armed⟩
  exact entered.tellConsumer _

theorem Paced.commit (paced : before.Paced) (framebuffer : Framebuffer) :
    (before.commit framebuffer).Paced := by
  obtain ⟨running, -⟩ := paced
  cases armed : before.pacer.armed <;>
    exact ⟨by simp [Relay.commit, Pacer.flush, Pacer.arms, Slots.commit, armed, running],
      by simp [Relay.commit, Pacer.flush, Pacer.arms, Slots.commit, armed, running]⟩

theorem tick_eq (relay : Relay) :
    relay.tick.1.pacer =
        { relay.pacer with armed := none, sequence := relay.pacer.sequence + 1 } ∧
      relay.tick.1.slots.pending = none := by
  refine ⟨?_, ?_⟩
  · unfold tick
    dsimp only [Pacer.tick]
    split
    · obtain ⟨links, told⟩ := exists_tellConsumer
        { relay with
          pacer := { relay.pacer with armed := none, sequence := relay.pacer.sequence + 1 }
          slots := relay.slots.retire.1 } EventChannel.notifyPresent
      rw [told]
    · rfl
  · rw [slots_tick, Slots.retire_fst]

theorem Paced.tick (paced : before.Paced) : before.tick.1.Paced := by
  obtain ⟨pacer, nothing⟩ := before.tick_eq
  exact paced_of_idle (by rw [pacer]; exact paced.running) (by rw [pacer]) nothing

theorem Paced.tick_of_nothing (paced : before.Paced) (nothing : before.slots.pending = none) :
    before.tick.1 =
      { before with pacer := { before.pacer with sequence := before.pacer.sequence + 1 } } := by
  -- with nothing pending the pacer was idle, so that disarming it is no change either
  have idle : before.pacer.armed = none := by
    have armed := paced.armed
    rw [nothing] at armed
    exact Option.isNone_iff_eq_none.mp (by simpa using armed)
  simp [Relay.tick, Pacer.tick, Slots.retire, nothing, idle]

theorem Deed.paced {kept : Framebuffer → Prop} (deed : Deed kept before after)
    (paced : before.Paced) : after.Paced := by
  cases deed with
  | commits => exact paced.commit _
  | powers target => exact paced.setPower target
  | ticks => exact paced.tick
  | closes client =>
    obtain ⟨clients, links, power, closed⟩ := before.exists_closeClient client
    rw [closed]
    exact ⟨paced.running, paced.armed⟩
  | tearsDown link =>
    unfold teardown
    by_cases holds : before.registered = some link
    · simp only [if_pos holds]
      exact paced_of_idle paced.running rfl rfl
    · simp only [if_neg holds]
      exact ⟨paced.running, paced.armed⟩
  | configures mode =>
    unfold configure
    split
    · exact paced
    · exact ⟨paced.running, paced.armed⟩
  | exports => exact ⟨paced.running, paced.armed⟩
  | releases client handle =>
    unfold release
    split
    · exact ⟨paced.running, paced.armed⟩
    · exact paced
  | adds client handles =>
    unfold addFramebuffer createFramebuffer
    cases Framebuffer.create before.nextFramebuffer (before.client client).registry handles <;>
      exact ⟨paced.running, paced.armed⟩
  | removes client id =>
    unfold removeFramebuffer
    split
    · exact ⟨paced.running, paced.armed⟩
    · exact paced
  | attaches =>
    unfold attach
    split
    · exact paced
    · exact ⟨paced.running, paced.armed⟩
  | opens | registers | creates | polls | observes => exact ⟨paced.running, paced.armed⟩

end Relay

namespace Site

/-- At every moment of every mixture of users and sessions, the pacer is armed exactly if
something is pending.  A vertical blank leaves the pacer idle with nothing pending and counts up
by one; if nothing was pending, that is all it does. -/
theorem armed_iff_pending (mode : Mode) (acts : List Act) :
    let relay := ((new mode).run acts).scene.relay
    let ticked := relay.tick.1
    (relay.pacer.armed.isSome ↔ relay.slots.pending.isSome) ∧
    ticked.pacer.armed = none ∧ ticked.slots.pending = none ∧
    ticked.pacer.sequence.toNat = (relay.pacer.sequence.toNat + 1) % UInt64.size ∧
    (relay.slots.pending = none →
      ticked =
        { relay with pacer := { relay.pacer with sequence := relay.pacer.sequence + 1 } }) := by
  intro relay ticked
  have paced : relay.Paced := holds_run mode (Relay.paced_new mode) Relay.Deed.paced acts
  obtain ⟨pacer, nothing⟩ := relay.tick_eq
  refine ⟨by rw [paced.armed], by rw [pacer], nothing, ?_, paced.tick_of_nothing⟩
  rw [pacer, UInt64.toNat_add]
  rfl

/-- A user commits and a session sets no framebuffer, so that power off clears what waits; the
vertical blank after the next commit retires it, and the one after that finds nothing. -/
theorem armed_iff_pending_after_power_off :
    let flip : List Act := [.inside (.commit 0)]
    let off : List Act :=
      [.outside .connect, .outside (.send 0 ⟨Frame.encode (Request.setCrtc none).encode, []⟩),
        .outside (.advance 0), .outside (.advance 0)]
    let acts : List Act :=
      [.inside (.makeBuffer [] true), .inside .openClient, .inside (.register 0 0),
        .inside (.createFramebuffer 0 [1])] ++ flip ++ off
    let cleared := ((new ⟨640, 480, 60⟩).run acts).scene.relay
    let again := ((new ⟨640, 480, 60⟩).run (acts ++ flip)).scene.relay
    cleared.slots.pending = none ∧ cleared.pacer.armed = none ∧ cleared.power = .off ∧
    again.slots.pending.isSome ∧ again.pacer.armed.isSome ∧
    again.tick.1.tick.1 = { again.tick.1 with
      pacer := { again.tick.1.pacer with sequence := again.tick.1.pacer.sequence + 1 } } := by
  intro flip off acts cleared again
  have empty : cleared.slots.pending = none := by decide +kernel
  have off : cleared.power = .off := by decide +kernel
  have waits : again.slots.pending.isSome = true := by decide +kernel
  obtain ⟨clearedArmed, -⟩ := armed_iff_pending ⟨640, 480, 60⟩ acts
  obtain ⟨againArmed, -⟩ := armed_iff_pending ⟨640, 480, 60⟩ (acts ++ flip)
  have idle : cleared.pacer.armed = none := Option.not_isSome_iff_eq_none.mp fun armed =>
    Option.not_isSome_iff_eq_none.mpr empty (clearedArmed.mp armed)
  obtain ⟨-, -, -, -, nothing⟩ :=
    armed_iff_pending ⟨640, 480, 60⟩ (acts ++ flip ++ [.outside .tick])
  have tick : ((new ⟨640, 480, 60⟩).run (acts ++ flip ++ [.outside .tick])).scene.relay =
      again.tick.1 := by
    rw [run_concat]
    rfl
  rw [tick] at nothing
  exact ⟨empty, idle, off, waits, againArmed.mpr waits, nothing again.tick_eq.2⟩

end Site

end PresentRelay
