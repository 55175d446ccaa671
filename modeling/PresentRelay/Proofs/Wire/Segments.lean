import PresentRelay.Proofs.Wire.Frames
import PresentRelay.Proofs.Wire.Receiving

/-!
# Frames of a byte string

`Divides` reads a whole byte string as frames, with no mention of a receiver or of how the string
was sent.  Every string divides in one way.  A receiver that gets the string in pieces, in
whatever turns, goes along that division: what it has and what the bytes ahead divide into are
always all there is.
-/

set_option autoImplicit false

namespace PresentRelay

namespace Frame

variable {μ : Type} {decode : Bytes → Except Json.Fault μ}

/-- How a byte string divides into frames, and what a receiver finds after the last of them. -/
inductive Divides (decode : Bytes → Except Json.Fault μ) : Bytes → List μ → Reception μ → Prop
  /-- The string is exhausted between frames. -/
  | boundary : Divides decode [] [] .finished
  | cutPrefix {bytes : Bytes} (nonempty : bytes ≠ []) (short : bytes.length < prefixLength) :
      Divides decode bytes [] (.failed (.protocol .closedMidFrame))
  | cutPayload {length : Nat} {bytes : Bytes} (fits : length ≤ maxPayload)
      (short : bytes.length < length) :
      Divides decode (encodeLength length ++ bytes) [] (.failed (.protocol .closedMidFrame))
  /-- The prefix is enough to see that. -/
  | tooLong {length : Nat} (long : maxPayload < length) (small : length < UInt32.size)
      (rest : Bytes) :
      Divides decode (encodeLength length ++ rest) []
        (.failed (.protocol (.frameTooLong length)))
  | undecodable {payload : Bytes} {fault : Json.Fault} (fits : payload.length ≤ maxPayload)
      (faulty : decode payload = .error fault) (rest : Bytes) :
      Divides decode (encode payload ++ rest) [] (.failed (.protocol (.undecodable fault)))
  | frame {payload rest : Bytes} {message : μ} {messages : List μ} {last : Reception μ}
      (fits : payload.length ≤ maxPayload) (read : decode payload = .ok message)
      (others : Divides decode rest messages last) :
      Divides decode (encode payload ++ rest) (message :: messages) last

theorem encodeLength_decodeLength {header : Bytes} (whole : header.length = prefixLength) :
    encodeLength (decodeLength header) = header := by
  match header, whole with
  | [a, b, c, d], _ =>
    have first := a.toNat_lt
    have second := b.toNat_lt
    have third := c.toNat_lt
    have fourth := d.toNat_lt
    simp only [decodeLength, encodeLength, List.foldr_cons, List.foldr_nil, List.cons.injEq,
      and_true, ← UInt8.toNat_inj, UInt8.toNat_ofNat']
    omega

theorem decodeLength_lt {header : Bytes} (whole : header.length = prefixLength) :
    decodeLength header < UInt32.size := by
  match header, whole with
  | [a, b, c, d], _ =>
    have first := a.toNat_lt
    have second := b.toNat_lt
    have third := c.toNat_lt
    have fourth := d.toNat_lt
    have size : UInt32.size = 4294967296 := rfl
    simp only [decodeLength, List.foldr_cons, List.foldr_nil]
    omega

theorem exists_divides (decode : Bytes → Except Json.Fault μ) (bytes : Bytes) :
    ∃ messages last, Divides decode bytes messages last := by
  induction length : bytes.length using Nat.strong_induction_on generalizing bytes with
  | _ n ih =>
  subst length
  by_cases none : bytes = []
  · subst none
    exact ⟨[], _, .boundary⟩
  · by_cases short : bytes.length < prefixLength
    · exact ⟨[], _, .cutPrefix none short⟩
    · have whole : (bytes.take prefixLength).length = prefixLength :=
        List.length_take_of_le (Nat.not_lt.mp short)
      have small := decodeLength_lt whole
      have split : bytes =
          encodeLength (decodeLength (bytes.take prefixLength)) ++ bytes.drop prefixLength := by
        rw [encodeLength_decodeLength whole, List.take_append_drop]
      generalize decodeLength (bytes.take prefixLength) = length at split small
      generalize bytes.drop prefixLength = after at split
      subst split
      by_cases long : maxPayload < length
      · exact ⟨[], _, .tooLong long small after⟩
      · have fits := Nat.not_lt.mp long
        by_cases cut : after.length < length
        · exact ⟨[], _, .cutPayload fits cut⟩
        · have all : (after.take length).length = length :=
            List.length_take_of_le (Nat.not_lt.mp cut)
          have framed : encodeLength length ++ after =
              encode (after.take length) ++ after.drop length := by
            rw [encode, all, List.append_assoc, List.take_append_drop]
          rw [framed]
          rw [← all] at fits
          cases read : decode (after.take length) with
          | error fault => exact ⟨[], _, .undecodable fits read _⟩
          | ok message =>
            have fewer : (after.drop length).length < (encodeLength length ++ after).length := by
              rw [List.length_append, length_encodeLength, List.length_drop, prefixLength]
              omega
            obtain ⟨messages, last, others⟩ := ih _ fewer _ rfl
            exact ⟨_, last, .frame fits read others⟩

theorem Divides.of_short {bytes : Bytes} {messages : List μ} {last : Reception μ}
    (divides : Divides decode bytes messages last) (nonempty : bytes ≠ [])
    (short : bytes.length < prefixLength) :
    messages = [] ∧ last = .failed (.protocol .closedMidFrame) := by
  have long (length : Nat) (rest : Bytes) :
      ¬ (encodeLength length ++ rest).length < prefixLength := by
    rw [List.length_append, length_encodeLength]
    omega
  cases divides with
  | boundary => exact absurd rfl nonempty
  | cutPrefix => exact ⟨rfl, rfl⟩
  | cutPayload => exact absurd short (long _ _)
  | tooLong => exact absurd short (long _ _)
  | undecodable =>
    rw [encode, List.append_assoc] at short
    exact absurd short (long _ _)
  | frame =>
    rw [encode, List.append_assoc] at short
    exact absurd short (long _ _)

theorem Divides.of_prefix {header rest : Bytes} {messages : List μ} {last : Reception μ}
    (divides : Divides decode (header ++ rest) messages last)
    (whole : header.length = prefixLength) :
    (maxPayload < decodeLength header ∧ messages = [] ∧
      last = .failed (.protocol (.frameTooLong (decodeLength header)))) ∨
    (decodeLength header ≤ maxPayload ∧ rest.length < decodeLength header ∧ messages = [] ∧
      last = .failed (.protocol .closedMidFrame)) ∨
    (decodeLength header ≤ maxPayload ∧ ∃ payload after, rest = payload ++ after ∧
      payload.length = decodeLength header ∧
      ((∃ fault, decode payload = .error fault ∧ messages = [] ∧
          last = .failed (.protocol (.undecodable fault))) ∨
        ∃ message others, decode payload = .ok message ∧ messages = message :: others ∧
          Divides decode after others last)) := by
  have parts {length : Nat} {after : Bytes} (all : header ++ rest = encodeLength length ++ after)
      (small : length < UInt32.size) : decodeLength header = length ∧ rest = after := by
    obtain ⟨same, after⟩ := List.append_inj all (whole.trans (length_encodeLength length).symm)
    rw [same]
    exact ⟨decodeLength_encodeLength small, after⟩
  have small {length : Nat} (fits : length ≤ maxPayload) : length < UInt32.size :=
    Nat.lt_of_le_of_lt fits (by decide)
  generalize all : header ++ rest = bytes at divides
  cases divides with
  | boundary =>
    rw [(List.append_eq_nil_iff.mp all).1] at whole
    cases whole
  | cutPrefix nonempty short =>
    rw [← all, List.length_append, whole] at short
    omega
  | cutPayload fits short =>
    obtain ⟨rfl, rfl⟩ := parts all (small fits)
    exact .inr (.inl ⟨fits, short, rfl, rfl⟩)
  | tooLong long small =>
    obtain ⟨rfl, rfl⟩ := parts all small
    exact .inl ⟨long, rfl, rfl⟩
  | undecodable fits faulty =>
    rw [encode, List.append_assoc] at all
    obtain ⟨length, rfl⟩ := parts all (small fits)
    exact .inr (.inr ⟨length ▸ fits, _, _, rfl, length.symm, .inl ⟨_, faulty, rfl, rfl⟩⟩)
  | frame fits read others =>
    rw [encode, List.append_assoc] at all
    obtain ⟨length, rfl⟩ := parts all (small fits)
    exact .inr (.inr ⟨length ▸ fits, _, _, rfl, length.symm, .inr ⟨_, _, read, rfl, others⟩⟩)

/-- What completing a frame comes to, as the bytes from its start on divide into frames. -/
inductive Completes (decode : Bytes → Except Json.Fault μ) (arrived coming : List Chunk)
    (ending : StreamEnd) (messages : List μ) (last : Reception μ) : Stream × Reception μ → Prop
  | waits (flowing : ending = .flowing) :
      Completes decode arrived coming ending messages last (⟨arrived, ending⟩, .waiting)
  | fails {left : Stream} {error : RelayError} (none : messages = [])
      (failed : last = .failed error) :
      Completes decode arrived coming ending messages last (left, .failed error)
  | receives {left : List Chunk} {message : μ} {others : List μ}
      (first : messages = message :: others) (bare : Bare arrived → Bare left)
      (rest : Divides decode (left.flatMap Chunk.bytes ++ coming.flatMap Chunk.bytes) others last) :
      Completes decode arrived coming ending messages last
        (⟨left, ending⟩, .message message [])

/-- A receiver that has the start of a frame completes the frame, or fails, as the bytes from
that start on divide into frames; or it waits, if there may be more to come. -/
theorem completes_of_divides {start : Bytes} {arrived coming : List Chunk} {ending : StreamEnd}
    {messages : List μ} {last : Reception μ} (nonempty : start ≠ [])
    (short : start.length ≤ prefixLength)
    (ends : ending = .flowing ∨ ending = .closed ∧ coming = [])
    (divides : Divides decode
      (start ++ (arrived.flatMap Chunk.bytes ++ coming.flatMap Chunk.bytes)) messages last) :
    Completes decode arrived coming ending messages last
      (complete decode ⟨start, []⟩ ⟨arrived, ending⟩) := by
  have cut (closedMidFrame : coming = [] →
      messages = [] ∧ last = .failed (.protocol .closedMidFrame)) :
      Completes decode arrived coming ending messages last (cutShort ⟨arrived, ending⟩) := by
    obtain rfl | ⟨rfl, rfl⟩ := ends
    · exact .waits rfl
    · obtain ⟨none, failed⟩ := closedMidFrame rfl
      exact .fails none failed
  obtain ⟨more, chunks, opened, whole, most, exhausted, bare⟩ :=
    receiveBytes_split (prefixLength - start.length) arrived
  rw [whole, List.append_assoc, ← List.append_assoc] at divides
  rw [complete]
  simp only [opened]
  split
  · next cutHeader =>
    refine cut ?_
    rintro rfl
    rw [List.length_append] at cutHeader
    rw [exhausted (by omega), List.flatMap_nil, List.append_nil, List.append_nil] at divides
    exact divides.of_short (by simp [nonempty]) (by rwa [List.length_append])
  · next enough =>
    have prefixed : (start ++ more).length = prefixLength := by
      rw [List.length_append] at enough ⊢
      omega
    generalize start ++ more = header at divides prefixed
    obtain ⟨payload, left, read, body, most, exhausted, bareRest⟩ :=
      receiveBytes_split (decodeLength header) chunks
    simp only [read]
    obtain ⟨long, none, failed⟩ | ⟨fits, cutPayload, none, failed⟩ |
      ⟨fits, framed, rest, split, length, judged⟩ := divides.of_prefix prefixed
    · rw [if_pos long]
      exact .fails none failed
    · rw [if_neg (Nat.not_lt.mpr fits), if_pos]
      · exact cut fun _ => ⟨none, failed⟩
      · rw [List.length_append, body, List.length_append] at cutPayload
        omega
    · rw [if_neg (Nat.not_lt.mpr fits)]
      rw [body, List.append_assoc] at split
      split_ifs with cutPayload
      · refine cut ?_
        rintro rfl
        rw [exhausted cutPayload, List.flatMap_nil, List.append_nil, List.append_nil] at split
        rw [split, List.length_append] at cutPayload
        omega
      · obtain ⟨rfl, rfl⟩ := List.append_inj split (by omega)
        obtain ⟨fault, faulty, none, failed⟩ | ⟨message, others, good, first, divides⟩ := judged
        · simp only [faulty]
          exact .fails none failed
        · simp only [good]
          exact .receives first (bareRest ∘ bare) divides

theorem completes_of_closed {start : Bytes} {arrived : List Chunk} {messages : List μ}
    {last : Reception μ} (nonempty : start ≠ []) (short : start.length ≤ prefixLength)
    (divides : Divides decode (start ++ arrived.flatMap Chunk.bytes) messages last) :
    Completes decode arrived [] .closed messages last
      (complete decode ⟨start, []⟩ ⟨arrived, .closed⟩) := by
  refine completes_of_divides nonempty short (.inr ⟨rfl, rfl⟩) ?_
  rwa [List.flatMap_nil, List.append_nil]

theorem Divides.length_le {bytes : Bytes} {messages : List μ} {last : Reception μ}
    (divides : Divides decode bytes messages last) : messages.length ≤ bytes.length := by
  induction divides with
  | frame _ _ _ ih =>
    rw [List.length_append, length_encode, List.length_cons, prefixLength]
    omega
  | _ => exact Nat.zero_le _

/-! ## Everything there -/

theorem Divides.of_nil {messages : List μ} {last : Reception μ}
    (divides : Divides decode [] messages last) : messages = [] ∧ last = .finished := by
  generalize empty : ([] : Bytes) = bytes at divides
  cases divides with
  | boundary => exact ⟨rfl, rfl⟩
  | cutPrefix nonempty => exact absurd empty.symm nonempty
  | cutPayload | tooLong | undecodable | frame => cases empty

theorem receive_divides {chunks : List Chunk} {messages : List μ} {last : Reception μ}
    (bare : Bare chunks) (divides : Divides decode (chunks.flatMap Chunk.bytes) messages last) :
    (receive decode ⟨chunks, .closed⟩ = (⟨chunks, .closed⟩, .finished) ∧ messages = [] ∧
        last = .finished) ∨
      ∃ arrived, Bare arrived ∧
        Completes decode arrived [] .closed messages last (receive decode ⟨chunks, .closed⟩) := by
  rw [receive, takeOpening_of_bare bare]
  by_cases nothing : chunks.flatMap Chunk.bytes = []
  · rw [nothing] at divides
    obtain ⟨none, finished⟩ := divides.of_nil
    rw [if_pos nothing]
    exact .inl ⟨rfl, none, finished⟩
  · obtain ⟨start, left, taken, whole, most, -, keeps⟩ := receiveBytes_split prefixLength chunks
    have opened : (chunks.flatMap Chunk.bytes).take prefixLength = start := by
      rw [← receiveBytes_fst, taken]
    have nonempty : start ≠ [] := by
      rw [← opened]
      simp [nothing, prefixLength]
    rw [whole] at divides
    have completes := completes_of_closed nonempty most divides
    rw [if_neg nothing, opened, taken]
    refine .inr ⟨left, keeps bare, ?_⟩
    dsimp only
    generalize complete decode ⟨start, []⟩ ⟨left, .closed⟩ = completed at completes
    cases completes with
    | waits flowing => cases flowing
    | fails none failed => exact .fails none failed
    | receives first bare rest => exact .receives first bare rest

theorem receiveAll_divides {chunks : List Chunk} {messages : List μ} {last : Reception μ}
    (bare : Bare chunks) (divides : Divides decode (chunks.flatMap Chunk.bytes) messages last)
    {bound : Nat} (enough : messages.length < bound) :
    receiveAll decode bound ⟨chunks, .closed⟩ = (messages.map (·, []), last) := by
  induction bound generalizing chunks messages with
  | zero => cases enough
  | succ bound ih =>
    rw [receiveAll]
    obtain ⟨finished, rfl, rfl⟩ | ⟨arrived, plain, completes⟩ := receive_divides bare divides
    · rw [finished]
      rfl
    · generalize receive decode ⟨chunks, .closed⟩ = received at completes
      cases completes with
      | waits flowing => cases flowing
      | fails none failed =>
        subst none failed
        rfl
      | receives first keeps rest =>
        subst first
        rw [List.flatMap_nil, List.append_nil] at rest
        dsimp only
        rw [ih (keeps plain) rest (Nat.lt_of_succ_lt_succ enough)]
        rfl

/-- A prefix that announces too much is refused whatever comes after it, and if nothing has. -/
theorem receive_tooLong {stream : Stream} (bare : Bare stream.chunks) {length : Nat}
    {rest : Bytes}
    (announced : stream.chunks.flatMap Chunk.bytes = encodeLength length ++ rest)
    (long : maxPayload < length) (small : length < UInt32.size) :
    (receive decode stream).2 = .failed (.protocol (.frameTooLong length)) := by
  obtain ⟨chunks, ending⟩ := stream
  dsimp only at bare announced
  have prefixed : (encodeLength length).length = prefixLength := length_encodeLength length
  have opened : (chunks.flatMap Chunk.bytes).take prefixLength = encodeLength length := by
    rw [announced, ← prefixed, List.take_left]
  have something : chunks.flatMap Chunk.bytes ≠ [] := by
    intro nothing
    rw [nothing, List.take_nil] at opened
    rw [← opened] at prefixed
    cases prefixed
  rw [receive, takeOpening_of_bare bare, if_neg something, opened]
  dsimp only
  have complete_prefix : (receiveBytes 0 (receiveBytes prefixLength chunks).2).1 = [] := by
    rw [receiveBytes_fst, List.take_zero]
  rw [complete]
  simp only [prefixed, Nat.sub_self, complete_prefix, List.append_nil, lt_self_iff_false,
    if_false, decodeLength_encodeLength small, if_pos long]

/-! ## Arriving bit by bit -/

namespace Line

/-- A connection over which byte strings are sent, without descriptors. -/
def ofSends (sends : List Bytes) : Line μ := ⟨sends.map (⟨·, []⟩), .empty, none, []⟩

theorem coming_ofSends (sends : List Bytes) :
    (ofSends sends : Line μ).coming = sends.map (⟨·, []⟩) := rfl

/-- The bytes that were sent and that the receiver has not received as part of a message. -/
def ahead (line : Line μ) : Bytes :=
  line.opening.elim [] Opening.bytes ++
    (line.stream.chunks.flatMap Chunk.bytes ++ line.coming.flatMap Chunk.bytes)

/-- What the receiver has and what the bytes ahead divide into are all messages there are. -/
structure Awaits (decode : Bytes → Except Json.Fault μ) (messages : List μ) (last : Reception μ)
    (line : Line μ) : Prop where
  flowing : line.stream.ending = .flowing
  arrived : Bare line.stream.chunks
  coming : Bare line.coming
  opening : ∀ opening ∈ line.opening,
    opening.files = [] ∧ opening.bytes ≠ [] ∧ opening.bytes.length ≤ prefixLength
  divides : ∃ others, messages.map (·, []) = line.received ++ others.map (·, []) ∧
    Divides decode line.ahead others last

theorem send_bare {chunks : List Chunk} (bare : Bare chunks) {chunk : Chunk}
    (plain : chunk.files = []) :
    ∃ after, (⟨chunks, .flowing⟩ : Stream).send chunk = ⟨after, .flowing⟩ ∧ Bare after ∧
      after.flatMap Chunk.bytes = chunks.flatMap Chunk.bytes ++ chunk.bytes := by
  have flowing : (⟨chunks, .flowing⟩ : Stream).ending = .flowing := rfl
  have bytes := Stream.bytes_send flowing chunk
  by_cases nothing : chunk.bytes = []
  · refine ⟨chunks, by simp [Stream.send, nothing], bare, by simp [nothing]⟩
  · refine ⟨chunks ++ [chunk], by simp [Stream.send, nothing], ?_, by simp⟩
    exact List.forall_mem_append.mpr ⟨bare, List.forall_mem_singleton.mpr plain⟩

theorem foldl_send_bare {chunks coming : List Chunk} (bare : Bare chunks) (plain : Bare coming) :
    ∃ after, coming.foldl Stream.send ⟨chunks, .flowing⟩ = ⟨after, .flowing⟩ ∧ Bare after ∧
      after.flatMap Chunk.bytes =
        chunks.flatMap Chunk.bytes ++ coming.flatMap Chunk.bytes := by
  induction coming generalizing chunks with
  | nil => exact ⟨chunks, rfl, bare, by simp⟩
  | cons chunk coming ih =>
    obtain ⟨first, others⟩ := List.forall_mem_cons.mp plain
    obtain ⟨between, sent, bare, bytes⟩ := send_bare bare first
    obtain ⟨after, folded, bare, all⟩ := ih bare others
    refine ⟨after, ?_, bare, ?_⟩
    · rw [List.foldl_cons, sent, folded]
    · rw [all, bytes, List.flatMap_cons, List.append_assoc]

variable {messages : List μ} {last : Reception μ} {line : Line μ}

theorem awaits_turn (awaits : line.Awaits decode messages last) (turn : Turn) :
    (∃ next, line.turn decode turn = .ok next ∧ next.Awaits decode messages last) ∨
      ∃ error, line.turn decode turn = .error error ∧ line.received = messages.map (·, []) ∧
        last = .failed error := by
  obtain ⟨coming, ⟨chunks, ending⟩, opening, received⟩ := line
  obtain ⟨rfl, arrived, plain, started, others, known, divides⟩ := awaits
  dsimp only at arrived plain started known
  have same : (⟨coming, ⟨chunks, .flowing⟩, opening, received⟩ : Line μ).Awaits decode messages
      last := ⟨rfl, arrived, plain, started, others, known, divides⟩
  cases turn with
  | arrival =>
    left
    cases coming with
    | nil => exact ⟨_, rfl, same⟩
    | cons chunk coming =>
      obtain ⟨first, rest⟩ := List.forall_mem_cons.mp plain
      obtain ⟨after, sent, bare, bytes⟩ := send_bare arrived first
      refine ⟨_, rfl, ?_, ?_, rest, started, others, known, ?_⟩
      · rw [sent]
      · rw [sent]
        exact bare
      · rw [ahead, sent]
        dsimp only
        rw [bytes, List.append_assoc, ← List.flatMap_cons]
        exact divides
  | reception =>
    cases opening with
    | none =>
      left
      rw [turn, takeOpening_of_bare arrived]
      by_cases nothing : chunks.flatMap Chunk.bytes = []
      · rw [if_pos nothing]
        exact ⟨_, rfl, same⟩
      · obtain ⟨start, rest, taken, whole, most, -, keeps⟩ :=
          receiveBytes_split prefixLength chunks
        have opened : (chunks.flatMap Chunk.bytes).take prefixLength = start := by
          rw [← receiveBytes_fst, taken]
        have nonempty : start ≠ [] := by
          rw [← opened]
          simp [nothing, prefixLength]
        rw [if_neg nothing, opened, taken]
        refine ⟨_, rfl, rfl, keeps arrived, plain, ?_, others, known, ?_⟩
        · rintro _ ⟨⟩
          exact ⟨rfl, nonempty, most⟩
        · rw [ahead, Option.elim_none, List.nil_append, whole, List.append_assoc] at divides
          exact divides
    | some opening =>
      obtain ⟨start, files⟩ := opening
      obtain ⟨rfl, nonempty, short⟩ := started _ rfl
      have ahead : Divides decode
          (start ++ (chunks.flatMap Chunk.bytes ++ coming.flatMap Chunk.bytes)) others last :=
        divides
      have completes := completes_of_divides nonempty short (.inl rfl) ahead
      rw [turn]
      dsimp only at completes ⊢
      generalize complete decode ⟨start, []⟩ ⟨chunks, .flowing⟩ = completed at completes
      cases completes with
      | waits => exact .inl ⟨_, rfl, same⟩
      | @fails left error none failed =>
        refine .inr ⟨error, rfl, ?_, failed⟩
        subst none
        rw [known]
        exact (List.append_nil _).symm
      | @receives left message rest first bare remaining =>
        subst first
        refine .inl ⟨_, rfl, rfl, bare arrived, plain, by simp, rest, ?_, remaining⟩
        rw [known, List.append_assoc]
        rfl

theorem awaits_turns (awaits : line.Awaits decode messages last) (turns : List Turn) :
    (∃ after, turns.foldlM (Line.turn decode) line = .ok after ∧
        after.Awaits decode messages last) ∨
      ∃ error earlier after, turns.foldlM (Line.turn decode) line = .error error ∧
        earlier <+: turns ∧ earlier.foldlM (Line.turn decode) line = .ok after ∧
        after.received = messages.map (·, []) ∧ last = .failed error := by
  induction turns generalizing line with
  | nil => exact .inl ⟨line, rfl, awaits⟩
  | cons turn turns ih =>
    simp only [List.foldlM_cons]
    obtain ⟨next, turned, awaits⟩ | ⟨error, failed, received, last⟩ := awaits_turn awaits turn
    · rw [turned]
      obtain ran | ⟨error, earlier, after, failed, early, ran, received, last⟩ := ih awaits
      · exact .inl ran
      · refine .inr ⟨error, turn :: earlier, after, failed, ?_, ?_, received, last⟩
        · exact (List.prefix_cons_inj turn).mpr early
        · rw [List.foldlM_cons, turned]
          exact ran
    · rw [failed]
      exact .inr ⟨error, [], line, rfl, List.nil_prefix, rfl, received, last⟩

theorem drain_of_awaits (awaits : line.Awaits decode messages last) {bound : Nat}
    (enough : messages.length < bound) :
    line.drain decode bound = (messages.map (·, []), last) := by
  obtain ⟨coming, ⟨chunks, ending⟩, opening, received⟩ := line
  obtain ⟨rfl, arrived, plain, started, others, known, divides⟩ := awaits
  dsimp only at arrived plain started known
  obtain ⟨after, folded, bare, bytes⟩ := foldl_send_bare arrived plain
  have fewer : others.length < bound := by
    have counted := congrArg List.length known
    rw [List.length_map, List.length_append, List.length_map] at counted
    omega
  have closed : (coming.foldl Stream.send ⟨chunks, .flowing⟩).close .closed =
      ⟨after, .closed⟩ := by
    rw [folded]
    rfl
  rw [drain]
  dsimp only
  rw [closed, known]
  cases opening with
  | none =>
    rw [ahead, Option.elim_none, List.nil_append] at divides
    rw [← bytes] at divides
    simp only [receiveAll_divides bare divides fewer]
  | some opening =>
    obtain ⟨start, files⟩ := opening
    obtain ⟨rfl, nonempty, short⟩ := started _ rfl
    rw [ahead, Option.elim_some] at divides
    dsimp only at divides
    rw [← bytes] at divides
    have completes := completes_of_closed nonempty short divides
    dsimp only at completes ⊢
    generalize complete decode ⟨start, []⟩ ⟨after, .closed⟩ = completed at completes
    cases completes with
    | waits flowing => cases flowing
    | fails none failed =>
      subst none failed
      rfl
    | @receives left message rest first keeps remaining =>
      subst first
      rw [List.flatMap_nil, List.append_nil] at remaining
      simp only [receiveAll_divides (keeps bare) remaining (Nat.lt_of_succ_lt fewer)]
      rfl

end Line

/-- However a byte string is cut into sends, and however a receiver's turns fall between their
arrivals, what is received is what the whole string divides into: the same messages in the same
order, none with descriptors, and the same end or failure after them.  A prefix that announces too
much fails as soon as it has arrived. -/
theorem receives_as_divided (decode : Bytes → Except Json.Fault μ) (sends : List Bytes)
    (extra : Nat) :
    let bytes := sends.flatten
    let line : Line μ := .ofSends sends
    let bound := bytes.length + 1 + extra
    (∃ messages last,
      (∀ others ending, Divides decode bytes others ending ↔
        others = messages ∧ ending = last) ∧
      receiveAll decode bound ((line.coming.foldl Stream.send .empty).close .closed) =
        (messages.map (·, []), last) ∧
      ∀ turns : List Turn,
        (∃ after, turns.foldlM (Line.turn decode) line = .ok after ∧
          after.drain decode bound = (messages.map (·, []), last)) ∨
        ∃ error earlier after, turns.foldlM (Line.turn decode) line = .error error ∧
          earlier <+: turns ∧ earlier.foldlM (Line.turn decode) line = .ok after ∧
          after.received = messages.map (·, []) ∧ last = .failed error) ∧
    ∀ (length : Nat) (rest : Bytes) (stream : Stream), Bare stream.chunks →
      stream.chunks.flatMap Chunk.bytes = encodeLength length ++ rest → maxPayload < length →
      length < UInt32.size →
        (receive decode stream).2 = .failed (.protocol (.frameTooLong length)) := by
  intro bytes line bound
  have plain : Bare line.coming := by
    intro chunk member
    obtain ⟨send, -, rfl⟩ := List.mem_map.mp member
    rfl
  have sent : line.coming.flatMap Chunk.bytes = bytes := by
    rw [Line.coming_ofSends, List.flatMap_map, List.flatMap_def, List.map_id']
  have awaits {messages : List μ} {last : Reception μ}
      (divides : Divides decode bytes messages last) :
      line.Awaits decode messages last := by
    refine ⟨rfl, nofun, plain, nofun, messages, rfl, ?_⟩
    rw [Line.ahead, sent]
    exact divides
  have drained {messages : List μ} {last : Reception μ}
      (divides : Divides decode bytes messages last) :
      receiveAll decode bound ((line.coming.foldl Stream.send .empty).close .closed) =
        (messages.map (·, []), last) :=
    Line.drain_of_awaits (awaits divides) (by have := divides.length_le; omega)
  refine ⟨?_, ?_⟩
  · obtain ⟨messages, last, divides⟩ := exists_divides decode bytes
    have enough : messages.length < bound := by
      have := divides.length_le
      omega
    refine ⟨messages, last, fun others ending => ⟨fun other => ?_, ?_⟩, drained divides,
      fun turns => ?_⟩
    · have same := (drained other).symm.trans (drained divides)
      rw [Prod.mk.injEq] at same
      refine ⟨?_, same.2⟩
      refine List.map_injective_iff.mpr ?_ same.1
      exact fun _ _ pairs => (Prod.mk.inj pairs).1
    · rintro ⟨rfl, rfl⟩
      exact divides
    · obtain ⟨after, ran, awaits⟩ | failed := Line.awaits_turns (awaits divides) turns
      · exact .inl ⟨after, ran, Line.drain_of_awaits awaits enough⟩
      · exact .inr failed
  · intro length rest stream bare announced long small
    exact receive_tooLong bare announced long small

end Frame

end PresentRelay
