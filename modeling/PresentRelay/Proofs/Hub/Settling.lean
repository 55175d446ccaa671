import PresentRelay.Proofs.Hub.Steps
import PresentRelay.Proofs.Wire.Receiving

/-!
# Sessions settle

Every step of a session uses up some of what a hub has for sessions to do, which `Hub.work`
counts.  So `settle` gets to a hub in which no session can go on.
-/

set_option autoImplicit false

namespace PresentRelay

/-! ## Work -/

/-- What the session of a connection has to do.  Three for each byte pay for taking the start of
a request with it, for handling that request, and for answering after a wait. -/
def Connection.work (connection : Connection) : Nat :=
  connection.session.elim 0 fun session =>
    1 + (session.awaited.elim 0 fun _ => 1) + (connection.opening.elim 0 fun _ => 2) +
      3 * connection.requests.bytes.length

namespace Hub

variable {hub next : Hub} {number : Nat} {connection left : Connection} {session last : Session}

def work (hub : Hub) : Nat :=
  hub.connections.foldr (fun connection others => connection.work + others) 0

def Settled (hub : Hub) : Prop := ∀ number, hub.advance number = none

theorem work_le_rounds (hub : Hub) : hub.work ≤ hub.rounds := by
  unfold work rounds
  induction hub.connections with
  | nil => exact Nat.le_refl 0
  | cons connection connections ih =>
    have most : connection.work ≤ 3 * connection.requests.bytes.length + 4 := by
      unfold Connection.work
      cases connection.session with
      | none => exact Nat.zero_le _
      | some session =>
        have waits : (session.awaited.elim 0 fun _ => 1) ≤ 1 := by
          cases session.awaited <;> simp
        have started : (connection.opening.elim 0 fun _ => 2) ≤ 2 := by
          cases connection.opening <;> simp
        rw [Option.elim_some]
        omega
    simp only [List.foldr_cons]
    omega

theorem work_set (connections : List Connection)
    (found : connections[number]? = some connection) (left : Connection) :
    (connections.set number left).foldr (fun connection others => connection.work + others) 0 +
        connection.work =
      connections.foldr (fun connection others => connection.work + others) 0 + left.work := by
  induction connections generalizing number with
  | nil => simp at found
  | cons first connections ih =>
    cases number with
    | zero =>
      obtain rfl : first = connection := by simpa using found
      simp only [List.set_cons_zero, List.foldr_cons]
      omega
    | succ number =>
      have rest := ih (by simpa using found)
      simp only [List.set_cons_succ, List.foldr_cons]
      omega

theorem connections_conclude (hub : Hub) (number : Nat) (connection : Connection) (last : Session)
    (handled : Handled) :
    ∃ session replies, (hub.conclude number connection last handled).connections =
        hub.connections.set number { connection with session, replies } ∧
      (session = none ∨ session = some last) := by
  have responds (response : Response) (files : List File) :
      ∃ session replies, (hub.respond number connection last response files).connections =
          hub.connections.set number { connection with session, replies } ∧
        (session = none ∨ session = some last) := by
    unfold respond
    split
    · exact ⟨_, _, rfl, .inl rfl⟩
    · split
      · exact ⟨_, _, rfl, .inl rfl⟩
      · exact ⟨_, _, rfl, .inr rfl⟩
  cases handled with
  | reply response files => exact responds response files
  | waits awaited => exact ⟨_, connection.replies, rfl, .inr rfl⟩
  | failed error =>
    rw [conclude]
    split
    · exact ⟨_, _, rfl, .inl rfl⟩
    · exact responds _ []

theorem work_le {session' : Option Session} {replies : Stream}
    (either : session' = none ∨ session' = some last) :
    { connection with session := session', replies }.work ≤
      { connection with session := some last }.work := by
  rcases either with rfl | rfl
  · exact Nat.zero_le _
  · exact Nat.le_refl _

theorem Does.exists_set (does : Does hub number connection session next)
    (present : connection.session = some session) :
    ∃ left, next.connections = hub.connections.set number left ∧ left.work < connection.work := by
  cases does with
  | opens serves between requests opening taken =>
    refine ⟨_, rfl, ?_⟩
    have some_ := (Frame.length_takeOpening taken).1
    have bytes := congrArg List.length (Frame.bytes_takeOpening taken)
    rw [List.length_append] at bytes
    simp only [Connection.work, present, serves, between, Option.elim]
    omega
  | serves serves opening started requests request files received ends last after handled served =>
    obtain ⟨session', replies, connections, either⟩ :=
      connections_conclude _ number { connection with requests, opening := none } last handled
    refine ⟨_, connections, Nat.lt_of_le_of_lt (work_le either) ?_⟩
    obtain ⟨taken, whole⟩ := Frame.bytes_complete received
    have bytes := congrArg List.length whole
    rw [List.length_append] at bytes
    simp only [Connection.work, present, serves, started, Option.elim]
    cases last.awaited <;> simp only <;> omega
  | answers awaited waits after handled answered =>
    obtain ⟨session', replies, connections, either⟩ :=
      connections_conclude _ number connection { session with awaited := none } handled
    refine ⟨_, connections, Nat.lt_of_le_of_lt (work_le either) ?_⟩
    simp only [Connection.work, present, waits, Option.elim]
    omega
  | leaves | breaks =>
    refine ⟨_, rfl, ?_⟩
    simp only [Connection.work, present, Option.elim]
    omega

theorem work_advance (advanced : hub.advance number = some next) : next.work < hub.work := by
  obtain ⟨connection, session, found, present, does⟩ := advance_does advanced
  obtain ⟨left, connections, less⟩ := does.exists_set present
  have total := work_set hub.connections found left
  rw [work, work, connections]
  omega

theorem advance_eq_none_of_missing (missing : hub.connections.length ≤ number) :
    hub.advance number = none := by
  simp [advance, List.getElem?_eq_none missing]

/-- Sessions that may take as many steps as there is work get to where none can go on. -/
theorem settled_settleWithin (rounds : Nat) (hub : Hub) (enough : hub.work ≤ rounds) :
    (settleWithin rounds hub).Settled := by
  induction rounds generalizing hub with
  | zero =>
    intro number
    cases advanced : hub.advance number with
    | none => exact advanced
    | some next => exact absurd (work_advance advanced) (by omega)
  | succ rounds ih =>
    unfold settleWithin
    split
    · next still =>
      intro number
      by_cases there : number < hub.connections.length
      · exact List.findSome?_eq_none_iff.mp still number (List.mem_range.mpr there)
      · exact advance_eq_none_of_missing (Nat.not_lt.mp there)
    · next next found =>
      obtain ⟨number, -, advanced⟩ := List.exists_of_findSome?_eq_some found
      apply ih
      have less := work_advance advanced
      omega

theorem settled_settle (hub : Hub) : hub.settle.Settled :=
  settled_settleWithin hub.rounds hub hub.work_le_rounds

end Hub

end PresentRelay
