import PresentRelay.Proofs.Site.Parity

/-!
# Modes asked for on both sides of the wire

A consumer asks for a mode in the process or over a connection.  Over a connection the numbers of
the mode travel as signed numbers; a size that is not positive then is refused, and a rate that is
not is replaced.  In the process every mode is taken as it is.  `wire_configure_agrees_iff` says for
which modes the two do the same.
-/

set_option autoImplicit false

namespace PresentRelay

/-! ## Modes as signed numbers -/

def IsPositive (n : UInt32) : Prop := 0 < n ∧ n < 0x80000000

instance (n : UInt32) : Decidable (IsPositive n) := inferInstanceAs (Decidable (_ ∧ _))

theorem toInt32_pos_iff (n : UInt32) : 0 < n.toInt32 ↔ IsPositive n := by
  have signed : n.toInt32.toInt = if 2 * n.toNat < 2 ^ 32 then (n.toNat : Int)
      else n.toNat - (2 ^ 32 : Nat) := BitVec.toInt_eq_toNat_cond n.toBitVec
  have zero : (0 : Int32).toInt = 0 := rfl
  have small : n.toNat < 2 ^ 32 := n.toNat_lt
  rw [Int32.lt_iff_toInt_lt, zero, signed, IsPositive, UInt32.lt_iff_toNat_lt,
    UInt32.lt_iff_toNat_lt, UInt32.toNat_zero, UInt32.toNat_ofNat_of_lt (by decide)]
  split <;> omega

namespace Mode

/-- Whether all numbers of a mode are positive as signed numbers, so that it arrives as it is. -/
structure Travels (mode : Mode) : Prop where
  width : IsPositive mode.width
  height : IsPositive mode.height
  refresh : IsPositive mode.refresh

/-- The mode that a relay is asked for when a mode is asked for over the wire. -/
def sent (mode : Mode) : Except RelayError Mode :=
  Mode.ofRequest mode.width.toInt32 mode.height.toInt32 mode.refresh.toInt32

/-- The mode with the default rate for one that is not positive as a signed number. -/
def replaced (mode : Mode) : Mode :=
  { mode with refresh := if IsPositive mode.refresh then mode.refresh else defaultRefresh }

theorem sent_eq (mode : Mode) :
    mode.sent = if IsPositive mode.width ∧ IsPositive mode.height then .ok mode.replaced
      else .error (.invalidArgument .positiveSize) := by
  have refused : mode.width.toInt32 ≤ 0 ∨ mode.height.toInt32 ≤ 0 ↔
      ¬ (IsPositive mode.width ∧ IsPositive mode.height) := by
    rw [← toInt32_pos_iff, ← toInt32_pos_iff, not_and_or, Int32.not_lt, Int32.not_lt]
  simp only [sent, ofRequest, refused, ite_not, replaced, toInt32_pos_iff,
    UInt32.toUInt32_toInt32]

theorem replaced_eq_self_iff (mode : Mode) : mode.replaced = mode ↔ IsPositive mode.refresh := by
  unfold replaced
  split
  · next positive => exact iff_of_true rfl positive
  · next wrong =>
    refine iff_of_false (fun same => wrong ?_) wrong
    rw [← congrArg Mode.refresh same]
    exact (by decide : IsPositive defaultRefresh)

end Mode

namespace Relay

variable {relay : Relay}

theorem mode_configure (relay : Relay) (mode : Mode) : (relay.configure mode).1.mode = mode := by
  unfold configure
  split
  · next same => exact same
  · rfl

/-- What becomes of the mode depends on nothing but the mode and the pacer. -/
theorem configure_congr {other : Relay} (modes : other.mode = relay.mode)
    (pacers : other.pacer = relay.pacer) (mode : Mode) :
    (other.configure mode).2 = (relay.configure mode).2 ∧
      (other.configure mode).1.pacer = (relay.configure mode).1.pacer := by
  unfold configure
  rw [modes]
  split
  · exact ⟨rfl, pacers⟩
  · exact ⟨rfl, by rw [pacers]⟩

theorem sequence_configure (relay : Relay) (mode : Mode) :
    (relay.configure mode).1.pacer.sequence = relay.pacer.sequence := by
  unfold configure
  split <;> rfl

end Relay

namespace Session

variable {session : Session} {relay : Relay}

/-- A session that may consume has a link or gets one, and that concerns no mode. -/
theorem withLink_of_may (may : relay.registered = session.link) :
    ∃ opened middle link, session.withLink relay = (opened, middle, .ok link) ∧
      opened.awaited = session.awaited ∧ middle.mode = relay.mode ∧
      middle.pacer = relay.pacer := by
  cases held : session.link with
  | some link => exact ⟨session, relay, link, withLink_of_link held, rfl, rfl, rfl⟩
  | none =>
    rw [held] at may
    exact ⟨{ session with link := some relay.links.length },
      { relay with
        links := relay.links ++ [.new relay.power]
        registered := some relay.links.length }, relay.links.length,
      by simp only [withLink, held, Relay.attach, may], rfl, rfl, rfl⟩

theorem handle_configure_refused (session : Session) (relay : Relay) {mode : Mode}
    {error : RelayError} (refused : mode.sent = .error error) :
    session.handle relay (Call.configure mode).request [] = (session, relay, .failed error) := by
  rw [Mode.sent] at refused
  simp only [Call.request, handle, refused]

theorem handle_configure {mode sent : Mode} (asked : mode.sent = .ok sent) {opened : Session}
    {middle : Relay} {link : Nat} (given : session.withLink relay = (opened, middle, .ok link)) :
    session.handle relay (Call.configure mode).request [] =
      (opened, (middle.configure sent).1,
        .reply (.ack (some (middle.configure sent).2)) []) := by
  rw [Mode.sent] at asked
  simp only [Call.request, handle, asked, given]

theorem warnings_configure_refused {mode : Mode} {error : RelayError}
    (refused : mode.sent = .error error) :
    session.warnings relay (Call.configure mode).request = [] := by
  rw [Mode.sent] at refused
  unfold Call.request warnings
  simp only [refused]

theorem warnings_configure {mode sent : Mode} (asked : mode.sent = .ok sent) {opened : Session}
    {middle : Relay} {link : Nat} (given : session.withLink relay = (opened, middle, .ok link)) :
    session.warnings relay (Call.configure mode).request = relay.configureWarnings sent := by
  rw [Mode.sent] at asked
  unfold Call.request warnings
  simp only [asked, given]

end Session

namespace Hub

variable {hub : Hub} {number : Nat} {session : Session} {mode : Mode}

theorem callAlone_configure_refused (possessed : hub.Possessed)
    (found : hub.connections[number]? = some (.quiet session)) (serves : session.awaited = none)
    (may : hub.relay.registered = session.link)
    (wrong : ¬ (IsPositive mode.width ∧ IsPositive mode.height)) :
    hub.callAlone number (.configure mode) =
        (hub.afterCall number session hub.relay [],
          some (.error (.invalidArgument .acceptedByRelay))) ∧
      (hub.Settled → hub.call number (.configure mode) =
        hub.callAlone number (.configure mode)) := by
  have refused : mode.sent = .error (.invalidArgument .positiveSize) := by
    rw [mode.sent_eq, if_neg wrong]
  have served := Session.handle_configure_refused session hub.relay refused
  have fits : (Call.configure mode).request.encode.length ≤ Frame.maxPayload :=
    Request.fits_configure _ _ _
  have answers : (Handled.failed (.invalidArgument .positiveSize)).Fits := by
    intro response files given
    cases given
    exact ⟨by decide +kernel, Nat.zero_le _⟩
  refine ⟨?_, fun settled => ?_⟩
  · rw [callAlone_eq found serves fits rfl served answers,
      Session.warnings_configure_refused refused]
    rfl
  · exact call_eq_callAlone settled possessed found may serves fits rfl served answers rfl
      fun awaited waits => by cases serves.symm.trans waits

/-- A mode with a positive size is configured, with the default rate for one that is not. -/
theorem callAlone_configure (possessed : hub.Possessed)
    (found : hub.connections[number]? = some (.quiet session)) (serves : session.awaited = none)
    (may : hub.relay.registered = session.link)
    (size : IsPositive mode.width ∧ IsPositive mode.height) :
    (∃ opened middle link, session.withLink hub.relay = (opened, middle, .ok link) ∧
      hub.callAlone number (.configure mode) =
        (hub.afterCall number opened (middle.configure mode.replaced).1
            (hub.relay.configureWarnings mode.replaced),
          some (.ok (.changed (hub.relay.configure mode.replaced).2))) ∧
      (middle.configure mode.replaced).1.pacer = (hub.relay.configure mode.replaced).1.pacer) ∧
      (hub.Settled → hub.call number (.configure mode) =
        hub.callAlone number (.configure mode)) := by
  have asked : mode.sent = .ok mode.replaced := by rw [mode.sent_eq, if_pos size]
  obtain ⟨opened, middle, link, given, awaited, modes, pacers⟩ := Session.withLink_of_may may
  obtain ⟨changed, pacer⟩ := Relay.configure_congr modes pacers mode.replaced
  have served := Session.handle_configure asked given
  have fits : (Call.configure mode).request.encode.length ≤ Frame.maxPayload :=
    Request.fits_configure _ _ _
  have answers :
      (Handled.reply (.ack (some (middle.configure mode.replaced).2)) []).Fits := by
    intro response files same
    cases same
    exact ⟨Response.fits_ack _, Nat.zero_le _⟩
  refine ⟨⟨opened, middle, link, given, ?_, pacer⟩, fun settled => ?_⟩
  · rw [callAlone_eq found serves fits rfl served answers, Session.warnings_configure asked given,
      ← changed]
    rfl
  · have sequence : (middle.configure mode.replaced).1.pacer.sequence =
        hub.relay.pacer.sequence := by rw [Relay.sequence_configure, pacers]
    exact call_eq_callAlone settled possessed found may serves fits rfl served answers sequence
      fun waited waits => by cases (awaited.trans serves).symm.trans waits

end Hub

/-- What a consumer sees of the mode of a relay: the mode itself and the interval. -/
def Relay.shown (relay : Relay) : Mode × Nat := (relay.mode, relay.pacer.interval)

namespace Site

/-- At every moment of every mixture of users and sessions, a peer on a quiet connection asks for
a mode while its session has the registration or nobody has.  What it is answered and what the
relay shows then is what a link in the process gets for that mode exactly if all three numbers of
the mode are positive as signed numbers.  A size that is not is refused and changes nothing; a rate
that is not is replaced by the default rate. -/
theorem wire_configure_agrees_iff (start : Mode) (acts : List Act) {number : Nat}
    {session : Session}
    (found : ((new start).run acts).hub.connections[number]? = some (.quiet session))
    (serves : session.awaited = none)
    (may : ((new start).run acts).hub.relay.registered = session.link) (mode : Mode) :
    let hub := ((new start).run acts).hub
    let asked := hub.callAlone number (.configure mode)
    let inside := hub.relay.configure mode
    (hub.Settled → hub.call number (.configure mode) = asked) ∧
    (asked.2 = some (.ok (.changed inside.2)) ∧ asked.1.relay.shown = inside.1.shown ↔
      mode.Travels) ∧
    (¬ (IsPositive mode.width ∧ IsPositive mode.height) →
      asked.2 = some (.error (.invalidArgument .acceptedByRelay)) ∧
        asked.1.relay = hub.relay) ∧
    (IsPositive mode.width ∧ IsPositive mode.height →
      asked.2 = some (.ok (.changed (hub.relay.configure mode.replaced).2)) ∧
        asked.1.relay.shown = (hub.relay.configure mode.replaced).1.shown) := by
  intro hub asked inside
  have possessed : hub.Possessed := possessed_run start acts
  by_cases size : IsPositive mode.width ∧ IsPositive mode.height
  · obtain ⟨⟨opened, middle, link, -, called, pacer⟩, settles⟩ :=
      Hub.callAlone_configure possessed found serves may size
    have answer : asked.2 = some (.ok (.changed (hub.relay.configure mode.replaced).2)) :=
      congrArg Prod.snd called
    have shown : asked.1.relay.shown = (hub.relay.configure mode.replaced).1.shown := by
      have relay : asked.1.relay = (middle.configure mode.replaced).1 :=
        congrArg (fun made => made.1.relay) called
      rw [relay, Relay.shown, Relay.shown, Relay.mode_configure, Relay.mode_configure, pacer]
    refine ⟨settles, ⟨?_, fun travels => ?_⟩, fun wrong => absurd size wrong,
      fun _ => ⟨answer, shown⟩⟩
    · -- a rate that was replaced shows in the mode
      rintro ⟨-, same⟩
      rw [shown, Relay.shown, Relay.shown, Relay.mode_configure, Relay.mode_configure] at same
      have kept : mode.replaced = mode := congrArg Prod.fst same
      exact ⟨size.1, size.2, mode.replaced_eq_self_iff.mp kept⟩
    · rw [answer, shown, mode.replaced_eq_self_iff.mpr travels.refresh]
      exact ⟨rfl, rfl⟩
  · obtain ⟨called, settles⟩ := Hub.callAlone_configure_refused possessed found serves may size
    have answer : asked.2 = some (.error (.invalidArgument .acceptedByRelay)) :=
      congrArg Prod.snd called
    refine ⟨settles, ⟨?_, fun travels => absurd ⟨travels.width, travels.height⟩ size⟩,
      fun _ => ⟨answer, congrArg (fun made => made.1.relay) called⟩, fun right => absurd right size⟩
    rintro ⟨same, -⟩
    rw [answer] at same
    cases same

/-- A mode that travels, on a relay that somebody else shows a frame on. -/
theorem wire_configure_agrees_iff_ordinary_mode :
    let hub := ((new .default).run
      [.inside (.makeBuffer [] true), .inside .openClient, .inside (.register 0 0),
        .inside (.createFramebuffer 0 [1]), .inside (.commit 0), .inside .tick,
        .outside .connect]).hub
    let mode : Mode := ⟨640, 480, 75⟩
    let asked := hub.callAlone 0 (.configure mode)
    asked.2 = some (.ok (.changed true)) ∧ asked.1.relay.mode = mode ∧
      asked.1.relay.pacer.interval = 13333333 := by
  intro hub mode asked
  have found : hub.connections[0]? = some (.quiet .new) := by decide +kernel
  have free : hub.relay.registered = none := by decide +kernel
  obtain ⟨-, agrees, -⟩ := wire_configure_agrees_iff .default _ found rfl free mode
  obtain ⟨answer, shown⟩ := agrees.mpr ⟨by decide, by decide, by decide⟩
  have inside : (hub.relay.configure mode).2 = true ∧
      (hub.relay.configure mode).1.shown = (mode, 13333333) := by decide +kernel
  rw [inside.1] at answer
  rw [inside.2] at shown
  exact ⟨answer, congrArg Prod.fst shown, congrArg Prod.snd shown⟩

/-- A mode without a rate, and one whose width is past the signed numbers: a peer is told that
nothing changed and that its mode is refused, and a link in the process sets both as they are. -/
theorem wire_configure_disagrees :
    let hub := ((new .default).run [.outside .connect]).hub
    let rateless : Mode := ⟨1920, 1080, 0⟩
    let wide : Mode := ⟨0x80000000, 1080, 60⟩
    hub.connections[0]? = some (.quiet .new) ∧ hub.relay.registered = none ∧
    (hub.call 0 (.configure rateless)).2 = some (.ok (.changed false)) ∧
    (hub.call 0 (.configure rateless)).1.relay.mode = ⟨1920, 1080, 60⟩ ∧
    (hub.relay.configure rateless).2 = true ∧
    (hub.relay.configure rateless).1.mode = rateless ∧
    (hub.call 0 (.configure wide)).2 = some (.error (.invalidArgument .acceptedByRelay)) ∧
    (hub.relay.configure wide).2 = true := by
  decide +kernel

end Site

end PresentRelay
