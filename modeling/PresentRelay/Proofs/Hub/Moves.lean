import PresentRelay.Hub

/-!
# What can happen to a hub

An operation of a hub lets the sessions go on as far as they can before it comes back.  A move
is less: one thing that a peer or the relay does, or one step of one session.  Every operation
is a run of moves, so what holds of the runs holds at every moment of every operation.
-/

set_option autoImplicit false

namespace PresentRelay

namespace Hub

/-- One thing that happens to a hub.  Connections are named by number. -/
inductive Move where
  | connect
  /-- Descriptors are made that a peer is going to send. -/
  | describe (count : Nat)
  | send (number : Nat) (chunk : Chunk)
  /-- A peer ends what it sends, and still takes replies. -/
  | finish (number : Nat)
  /-- A peer closes its connection altogether. -/
  | hangUp (number : Nat)
  | take (number : Nat)
  | tick
  | power (target : Power)
  | drain
  | advance (number : Nat)

def onPeer (hub : Hub) (number : Nat) (change : Connection → Connection) : Hub :=
  { hub with connections := hub.connections.modify number fun connection =>
      if connection.isOpen then change connection else connection }

def move (hub : Hub) : Move → Hub
  | .connect => hub.connect.1
  | .describe count => { hub with sent := hub.sent + count }
  | .send number chunk => hub.onPeer number fun connection =>
      { connection with requests := connection.requests.send chunk }
  | .finish number => hub.onPeer number fun connection =>
      { connection with requests := connection.requests.close .closed }
  | .hangUp number => hub.onPeer number fun connection =>
      { connection with
        requests := connection.requests.close
          (if connection.replies.chunks.isEmpty then .closed else .reset)
        gone := true
        isOpen := false }
  | .take number => (hub.take number).1
  | .tick => { hub with relay := hub.relay.tick.1 }
  | .power target => { hub with relay := hub.relay.setPower target }
  | .drain => hub.drain.1
  | .advance number => (hub.advance number).getD hub

def run (hub : Hub) (moves : List Move) : Hub := moves.foldl move hub

theorem run_cons (hub : Hub) (move : Move) (moves : List Move) :
    hub.run (move :: moves) = (hub.move move).run moves := rfl

theorem run_append (hub : Hub) (moves later : List Move) :
    hub.run (moves ++ later) = (hub.run moves).run later := List.foldl_append

theorem run_concat (hub : Hub) (moves : List Move) (move : Move) :
    hub.run (moves ++ [move]) = (hub.run moves).move move := hub.run_append moves [move]

theorem exists_run_settleWithin (rounds : Nat) (hub : Hub) :
    ∃ steps : List Nat, settleWithin rounds hub = hub.run (steps.map .advance) := by
  induction rounds generalizing hub with
  | zero => exact ⟨[], rfl⟩
  | succ rounds ih =>
    unfold settleWithin
    split
    · exact ⟨[], rfl⟩
    · next next found =>
      obtain ⟨number, -, advanced⟩ := List.exists_of_findSome?_eq_some found
      obtain ⟨steps, settled⟩ := ih next
      refine ⟨number :: steps, ?_⟩
      rw [List.map_cons, run_cons, settled, move, advanced, Option.getD_some]

theorem exists_run_settle (hub : Hub) (first : Move) :
    ∃ moves, (hub.move first).settle = hub.run moves := by
  obtain ⟨steps, settled⟩ := exists_run_settleWithin (hub.move first).rounds (hub.move first)
  exact ⟨first :: steps.map .advance, settled⟩

theorem exists_run_closes (numbers : List Nat) (hub : Hub) :
    ∃ moves, numbers.foldl close hub = hub.run moves := by
  induction numbers generalizing hub with
  | nil => exact ⟨[], rfl⟩
  | cons number numbers ih =>
    obtain ⟨first, closed⟩ := hub.exists_run_settle (.hangUp number)
    obtain ⟨others, all⟩ := ih (hub.close number)
    refine ⟨first ++ others, ?_⟩
    have closed : hub.close number = hub.run first := closed
    rw [List.foldl_cons, all, closed, run_append]

/-- Every operation of a hub is a run of moves. -/
theorem operations_are_runs (hub : Hub) :
    (∃ moves, hub.connect.1 = hub.run moves) ∧
    (∀ number bytes, ∃ moves, hub.sendBytes number bytes = hub.run moves) ∧
    (∀ number payload descriptors, ∃ moves,
      hub.sendFrame number payload descriptors = hub.run moves) ∧
    (∀ number, ∃ moves, hub.finish number = hub.run moves) ∧
    (∀ number, ∃ moves, hub.close number = hub.run moves) ∧
    (∃ moves, hub.closeAll = hub.run moves) ∧
    (∀ number, ∃ moves, (hub.take number).1 = hub.run moves) ∧
    (∃ moves, hub.tick.1 = hub.run moves) ∧
    (∀ target, ∃ moves, hub.setPower target = hub.run moves) ∧
    (∃ moves, hub.drain.1 = hub.run moves) := by
  refine ⟨⟨[.connect], rfl⟩, fun number bytes => hub.exists_run_settle (.send number ⟨bytes, []⟩),
    fun number payload descriptors => ?_, fun number => hub.exists_run_settle (.finish number),
    fun number => hub.exists_run_settle (.hangUp number), hub.exists_run_closes _,
    fun number => ⟨[.take number], rfl⟩,
    hub.exists_run_settle .tick, fun target => hub.exists_run_settle (.power target),
    ⟨[.drain], rfl⟩⟩
  let files := (List.range descriptors).map fun n => (⟨hub.sent + n, []⟩ : File)
  obtain ⟨moves, settled⟩ :=
    (hub.move (.describe descriptors)).exists_run_settle
      (.send number ⟨Frame.encode payload, files⟩)
  exact ⟨.describe descriptors :: moves, settled⟩

end Hub

end PresentRelay
