import PresentRelay.Proofs.Wire.Messages
import PresentRelay.Wire.Frame

/-!
# Frames received in order

A sender puts frames on a stream, each in one write or in several, with the descriptors on the
first of them; the writes arrive one by one while the receiver takes what is there.  `Expects`
says what is still to be received at any time.  Every arrival and every turn of the receiver
keeps it, and so everything that was accepted for sending is received once, in order.
-/

set_option autoImplicit false

namespace PresentRelay

/-! ## Chunks -/

/-- A chunk as a kernel with little room takes it: in writes of given sizes, as long as they
leave something over, and the rest at once.  The descriptors go with the first write. -/
def Chunk.split : List Nat → Chunk → List Chunk
  | [], chunk => [chunk]
  | size :: sizes, chunk =>
    if 0 < size ∧ size < chunk.bytes.length then
      ⟨chunk.bytes.take size, chunk.files⟩ :: split sizes ⟨chunk.bytes.drop size, []⟩
    else [chunk]

inductive Plain : Bytes → List Chunk → Prop
  | nil : Plain [] []
  | cons {bytes rest : Bytes} {others : List Chunk} (nonempty : bytes ≠ [])
      (plain : Plain rest others) : Plain (bytes ++ rest) (⟨bytes, []⟩ :: others)

inductive Carried : Bytes → List File → List Chunk → Prop
  | intro {first rest : Bytes} {others : List Chunk} (nonempty : first ≠ []) (files : List File)
      (plain : Plain rest others) : Carried (first ++ rest) files (⟨first, files⟩ :: others)

theorem Plain.ne_nil {bytes : Bytes} {chunks : List Chunk} (plain : Plain bytes chunks) :
    ∀ chunk ∈ chunks, chunk.bytes ≠ [] := by
  induction plain with
  | nil => nofun
  | cons nonempty _ ih => exact List.forall_mem_cons.mpr ⟨nonempty, ih⟩

theorem Plain.eq_nil {bytes : Bytes} {chunks : List Chunk} (plain : Plain bytes chunks)
    (none : bytes = []) : chunks = [] := by
  cases plain with
  | nil => rfl
  | cons nonempty _ => exact absurd (List.append_eq_nil_iff.mp none).1 nonempty

theorem Carried.plain {bytes : Bytes} {chunks : List Chunk} (carried : Carried bytes [] chunks) :
    Plain bytes chunks := by
  cases carried with
  | intro nonempty _ plain => exact .cons nonempty plain

theorem Carried.ne_nil {bytes : Bytes} {files : List File} {chunks : List Chunk}
    (carried : Carried bytes files chunks) : ∀ chunk ∈ chunks, chunk.bytes ≠ [] := by
  cases carried with
  | intro nonempty _ plain => exact List.forall_mem_cons.mpr ⟨nonempty, plain.ne_nil⟩

theorem Carried.chunks_ne_nil {bytes : Bytes} {files : List File} {chunks : List Chunk}
    (carried : Carried bytes files chunks) : chunks ≠ [] := by
  cases carried with
  | intro _ _ _ => exact List.cons_ne_nil _ _

/-- However the kernel splits a chunk, its parts carry the bytes and the descriptors of it. -/
theorem Chunk.carried_split (sizes : List Nat) (chunk : Chunk) (nonempty : chunk.bytes ≠ []) :
    Carried chunk.bytes chunk.files (chunk.split sizes) := by
  have whole (chunk : Chunk) (nonempty : chunk.bytes ≠ []) :
      Carried chunk.bytes chunk.files [chunk] := by
    simpa using Carried.intro nonempty chunk.files .nil
  induction sizes generalizing chunk with
  | nil => exact whole chunk nonempty
  | cons size sizes ih =>
    rw [split]
    split
    · next within =>
      have first : chunk.bytes.take size ≠ [] := by simp [nonempty, Nat.ne_of_gt within.1]
      have rest : chunk.bytes.drop size ≠ [] := by simp [within.2]
      simpa using Carried.intro first chunk.files (ih ⟨chunk.bytes.drop size, []⟩ rest).plain
    · exact whole chunk nonempty

theorem receive_plain {bytes : Bytes} {pieces others coming : List Chunk}
    (plain : Plain bytes pieces) {count : Nat} {arrived : List Chunk}
    (fits : count ≤ bytes.length) (queue : arrived ++ coming = pieces ++ others) :
    ∃ (taken rest : Bytes) (left pieces' : List Chunk),
      receive count arrived = (taken, [], left) ∧ receiveBytes count arrived = (taken, left) ∧
      bytes = taken ++ rest ∧ Plain rest pieces' ∧ left ++ coming = pieces' ++ others ∧
      taken.length ≤ count ∧ (taken.length < count → left = []) := by
  induction plain generalizing count arrived with
  | nil =>
    obtain rfl : count = 0 := Nat.le_zero.mp fits
    refine ⟨[], [], arrived, [], ?_, ?_, rfl, .nil, queue, Nat.le_refl 0, by simp⟩
    · cases arrived <;> simp [receive]
    · cases arrived <;> simp [receiveBytes]
  | @cons bytes rest pieces nonempty plain ih =>
    cases arrived with
    | nil =>
      exact ⟨[], bytes ++ rest, [], _, rfl, rfl, rfl, .cons nonempty plain, queue, Nat.zero_le _,
        fun _ => rfl⟩
    | cons chunk arrived =>
      rw [List.cons_append, List.cons_append, List.cons.injEq] at queue
      obtain ⟨rfl, queue⟩ := queue
      by_cases none : count = 0
      · subst none
        refine ⟨[], bytes ++ rest, ⟨bytes, []⟩ :: arrived, _, ?_, ?_, rfl, .cons nonempty plain, ?_,
          Nat.le_refl 0, by simp⟩
        · rw [receive, if_pos rfl]
        · rw [receiveBytes, if_pos rfl]
        · rw [List.cons_append, List.cons_append, queue]
      · by_cases inside : count < bytes.length
        · have left : bytes.drop count ≠ [] := by simp [inside]
          refine ⟨bytes.take count, bytes.drop count ++ rest, ⟨bytes.drop count, []⟩ :: arrived, _,
            ?_, ?_, ?_, .cons left plain, ?_, ?_, ?_⟩
          · rw [receive, if_neg none, if_pos inside]
          · rw [receiveBytes, if_neg none, if_pos inside]
          · rw [← List.append_assoc, List.take_append_drop]
          · rw [List.cons_append, List.cons_append, queue]
          · exact List.length_take_le count bytes
          · rw [List.length_take]
            omega
        · have fewer : count - bytes.length ≤ rest.length := by
            rw [List.length_append] at fits
            omega
          obtain ⟨taken, more, left, pieces', received, receivedBytes, split, plain', queue',
            short, all⟩ := ih fewer queue
          refine ⟨bytes ++ taken, more, left, pieces', ?_, ?_, ?_, plain', queue', ?_, ?_⟩
          · rw [receive, if_neg none, if_neg inside, received]
            rfl
          · rw [receiveBytes, if_neg none, if_neg inside, receivedBytes]
          · rw [split, List.append_assoc]
          · rw [List.length_append]
            omega
          · rw [List.length_append]
            intro fewer
            exact all (by omega)

theorem receiveBytes_plain {bytes : Bytes} {pieces others coming : List Chunk}
    (plain : Plain bytes pieces) {count : Nat} {arrived : List Chunk}
    (fits : count ≤ bytes.length) (queue : arrived ++ coming = pieces ++ others) :
    (∃ left pieces', receiveBytes count arrived = (bytes.take count, left) ∧
        Plain (bytes.drop count) pieces' ∧ left ++ coming = pieces' ++ others) ∨
      ∃ taken left, receiveBytes count arrived = (taken, left) ∧ taken.length < count ∧
        coming ≠ [] := by
  obtain ⟨taken, rest, left, pieces', -, received, rfl, plain', queue', short, all⟩ :=
    receive_plain plain fits queue
  rw [List.length_append] at fits
  by_cases cut : taken.length < count
  · right
    refine ⟨taken, left, received, cut, ?_⟩
    rintro rfl
    obtain rfl := all cut
    cases plain' with
    | nil => exact absurd fits (by simpa using cut)
    | cons => exact absurd queue' (by simp)
  · left
    obtain rfl : taken.length = count := Nat.le_antisymm short (Nat.not_lt.mp cut)
    exact ⟨left, pieces', by rwa [List.take_left], by rwa [List.drop_left], queue'⟩

/-! ## Sender and receiver -/

namespace Frame

variable {μ : Type}

/-- A form of messages in bytes that gives every message back. -/
structure Codec (μ : Type) where
  encode : μ → Bytes
  decode : Bytes → Except Json.Fault μ
  decode_encode : ∀ message, decode (encode message) = .ok message

def requestCodec : Codec Request := ⟨Request.encode, Request.decode, Request.decode_encode⟩

def responseCodec : Codec Response := ⟨Response.encode, Response.decode, Response.decode_encode⟩

/-- A message to send, with its descriptors and the sizes of the writes that its frame
is sent in. -/
structure Sending (μ : Type) where
  message : μ
  files : List File
  sizes : List Nat

namespace Sending

variable (codec : Codec μ) (sending : Sending μ)

def Fits : Prop :=
  (codec.encode sending.message).length ≤ maxPayload ∧ sending.files.length ≤ maxFiles

instance : Decidable (sending.Fits codec) := inferInstanceAs (Decidable (_ ∧ _))

/-- What a send writes; nothing if it is refused. -/
def writes : List Chunk :=
  match send (codec.encode sending.message) sending.files with
  | .error _ => []
  | .ok chunk => chunk.split sending.sizes

end Sending

/-- A connection in one direction: what was written and has not arrived, what has arrived,
the start of a frame that the receiver took, and what it received. -/
structure Line (μ : Type) where
  coming : List Chunk
  stream : Stream
  opening : Option Opening
  received : List (μ × List File)

inductive Turn where
  | arrival
  /-- The receiver takes the start of a frame, or the rest of one that it has the start of. -/
  | reception

namespace Line

def start (codec : Codec μ) (sendings : List (Sending μ)) : Line μ :=
  ⟨sendings.flatMap (Sending.writes codec), .empty, none, []⟩

def turn (decode : Bytes → Except Json.Fault μ) (line : Line μ) :
    Turn → Except RelayError (Line μ)
  | .arrival =>
    match line.coming with
    | [] => .ok line
    | chunk :: coming => .ok { line with coming, stream := line.stream.send chunk }
  | .reception =>
    match line.opening with
    | none =>
      match takeOpening line.stream with
      | (_, none) => .ok line
      | (_, some (.error error)) => .error error
      | (stream, some (.ok opening)) => .ok { line with stream, opening := some opening }
    | some opening =>
      match complete decode opening line.stream with
      | (_, .failed error) => .error error
      | (stream, .message message files) =>
        .ok { line with stream, opening := none, received := line.received ++ [(message, files)] }
      | (_, .waiting) => .ok line
      | (_, .finished) => .ok line

/-- What the receiver gets when the sender has closed its end and all of it has arrived. -/
def drain (decode : Bytes → Except Json.Fault μ) (bound : Nat) (line : Line μ) :
    List (μ × List File) × Reception μ :=
  let stream := (line.coming.foldl Stream.send line.stream).close .closed
  let (others, last) :=
    match line.opening with
    | none => receiveAll decode bound stream
    | some opening =>
      match complete decode opening stream with
      | (stream, .message message files) =>
        let (others, last) := receiveAll decode bound stream
        ((message, files) :: others, last)
      | (_, last) => ([], last)
  (line.received ++ others, last)

end Line

/-! ## One frame -/

/-- The receiver takes some of the prefix of a frame as soon as any of it has arrived, and
with it all descriptors of the frame. -/
theorem takeOpening_carried {frame : Bytes} {files : List File}
    {pieces others arrived coming : List Chunk} (carried : Carried frame files pieces)
    (long : prefixLength ≤ frame.length) (few : files.length ≤ maxFiles)
    (queue : arrived ++ coming = pieces ++ others) (nonempty : arrived ≠ []) (ending : StreamEnd) :
    ∃ (start rest : Bytes) (left pieces' : List Chunk),
      takeOpening ⟨arrived, ending⟩ = (⟨left, ending⟩, some (.ok ⟨start, files⟩)) ∧
      frame = start ++ rest ∧ start.length ≤ prefixLength ∧ Plain rest pieces' ∧
      left ++ coming = pieces' ++ others := by
  cases carried with
  | @intro first rest pieces filled _ plain =>
    obtain ⟨chunk, arrived, rfl⟩ := List.exists_cons_of_ne_nil nonempty
    rw [List.cons_append, List.cons_append, List.cons.injEq] at queue
    obtain ⟨rfl, queue⟩ := queue
    have enough : ¬ maxFiles < files.length := Nat.not_lt.mpr few
    have opened {start : Bytes} {left : List Chunk} (nonempty : start ≠ [])
        (received : PresentRelay.receive prefixLength (⟨first, files⟩ :: arrived) =
          (start, files, left)) :
        takeOpening ⟨⟨first, files⟩ :: arrived, ending⟩ =
          (⟨left, ending⟩, .some (.ok ⟨start, files⟩)) := by
      simp [takeOpening, received, nonempty, enough]
    by_cases inside : prefixLength < first.length
    · have taken : first.take prefixLength ≠ [] := by simp [filled, prefixLength]
      have left : first.drop prefixLength ≠ [] := by simp [inside]
      refine ⟨first.take prefixLength, first.drop prefixLength ++ rest,
        ⟨first.drop prefixLength, []⟩ :: arrived, _, opened taken ?_, ?_,
        List.length_take_le _ _, .cons left plain, ?_⟩
      · rw [PresentRelay.receive, if_neg (by decide), if_pos inside]
      · rw [← List.append_assoc, List.take_append_drop]
      · rw [List.cons_append, List.cons_append, queue]
    · by_cases bare : files = []
      · -- the start may go on into the chunks after the first, which belong to the same frame
        have fewer : prefixLength - first.length ≤ rest.length := by
          rw [List.length_append] at long
          omega
        obtain ⟨taken, more, left, pieces', received, -, split, plain', queue', short, -⟩ :=
          receive_plain plain fewer queue
        refine ⟨first ++ taken, more, left, pieces', opened (by simp [filled]) ?_, ?_, ?_, plain',
          queue'⟩
        · rw [PresentRelay.receive, if_neg (by decide), if_neg inside, received, bare]
          rfl
        · rw [split, List.append_assoc]
        · rw [List.length_append]
          omega
      · refine ⟨first, rest, arrived, pieces, opened filled ?_, rfl, by omega, plain, queue⟩
        rw [PresentRelay.receive, if_neg (by decide), if_neg inside, if_neg (by simp [bare])]

theorem complete_plain (codec : Codec μ) {message : μ} {start rest : Bytes} (files : List File)
    {pieces others arrived coming : List Chunk} {ending : StreamEnd}
    (fits : (codec.encode message).length ≤ maxPayload)
    (frame : encode (codec.encode message) = start ++ rest) (short : start.length ≤ prefixLength)
    (plain : Plain rest pieces) (queue : arrived ++ coming = pieces ++ others)
    (flowing : coming ≠ [] → ending = .flowing) :
    (∃ left, complete codec.decode ⟨start, files⟩ ⟨arrived, ending⟩ =
        (⟨left, ending⟩, .message message files) ∧ left ++ coming = others) ∨
      (complete codec.decode ⟨start, files⟩ ⟨arrived, ending⟩ = (⟨arrived, ending⟩, .waiting) ∧
        coming ≠ []) := by
  have length : prefixLength + (codec.encode message).length = start.length + rest.length := by
    rw [← length_encode, frame, List.length_append]
  have waits (more : coming ≠ []) :
      (cutShort ⟨arrived, ending⟩ : Stream × Reception μ) = (⟨arrived, ending⟩, .waiting) := by
    rw [cutShort, flowing more]
  have header_fits : prefixLength - start.length ≤ rest.length := by omega
  rw [complete]
  obtain ⟨left, bodyPieces, headTaken, bodyPlain, bodyQueue⟩ | ⟨head, left, headTaken, cut, more⟩ :=
    receiveBytes_plain plain header_fits queue
  · have header : start ++ rest.take (prefixLength - start.length) ++
        rest.drop (prefixLength - start.length) = encode (codec.encode message) := by
      rw [frame, List.append_assoc, List.take_append_drop]
    have whole : (start ++ rest.take (prefixLength - start.length)).length = prefixLength := by
      rw [List.length_append, List.length_take]
      omega
    obtain ⟨headerEq, body⟩ := List.append_inj header (whole.trans (length_encodeLength _).symm)
    rw [body] at bodyPlain
    simp only [headTaken, headerEq, length_encodeLength, Nat.lt_irrefl, if_false]
    rw [decodeLength_encodeLength (Nat.lt_of_le_of_lt fits (by decide)),
      if_neg (Nat.not_lt.mpr fits)]
    obtain ⟨left, afterPieces, taken, afterPlain, afterQueue⟩ | ⟨payload, left, taken, cut, more⟩ :=
      receiveBytes_plain bodyPlain (Nat.le_refl _) bodyQueue
    · left
      rw [List.drop_length] at afterPlain
      obtain rfl := afterPlain.eq_nil rfl
      refine ⟨_, ?_, afterQueue⟩
      simp only [taken, List.take_length, Nat.lt_irrefl, if_false, codec.decode_encode]
    · right
      simp only [taken]
      exact ⟨by rw [if_pos cut, waits more], more⟩
  · right
    have headerCut : (start ++ head).length < prefixLength := by
      rw [List.length_append]
      omega
    simp only [headTaken]
    exact ⟨by rw [if_pos headerCut, waits more], more⟩

/-! ## All frames -/

inductive Queued (codec : Codec μ) : List (μ × List File) → List Chunk → Prop
  | nil : Queued codec [] []
  | cons {message : μ} {files : List File} {others : List (μ × List File)}
      {pieces chunks : List Chunk} (fits : (codec.encode message).length ≤ maxPayload)
      (few : files.length ≤ maxFiles)
      (carried : Carried (encode (codec.encode message)) files pieces)
      (queued : Queued codec others chunks) :
      Queued codec ((message, files) :: others) (pieces ++ chunks)

/-- What a receiver that may have the start of a frame is still to receive from chunks. -/
inductive Expects (codec : Codec μ) : Option Opening → List Chunk → List (μ × List File) → Prop
  | between {chunks : List Chunk} {pending : List (μ × List File)}
      (queued : Queued codec pending chunks) : Expects codec none chunks pending
  | within {message : μ} {files : List File} {others : List (μ × List File)} {start rest : Bytes}
      {pieces chunks : List Chunk} (fits : (codec.encode message).length ≤ maxPayload)
      (frame : encode (codec.encode message) = start ++ rest)
      (short : start.length ≤ prefixLength) (plain : Plain rest pieces)
      (queued : Queued codec others chunks) :
      Expects codec (some ⟨start, files⟩) (pieces ++ chunks) ((message, files) :: others)

theorem Queued.ne_nil {codec : Codec μ} {pending : List (μ × List File)} {chunks : List Chunk}
    (queued : Queued codec pending chunks) : ∀ chunk ∈ chunks, chunk.bytes ≠ [] := by
  induction queued with
  | nil => nofun
  | cons _ _ carried _ ih => exact List.forall_mem_append.mpr ⟨carried.ne_nil, ih⟩

theorem Expects.ne_nil {codec : Codec μ} {opening : Option Opening} {chunks : List Chunk}
    {pending : List (μ × List File)} (expects : Expects codec opening chunks pending) :
    ∀ chunk ∈ chunks, chunk.bytes ≠ [] := by
  cases expects with
  | between queued => exact queued.ne_nil
  | within _ _ _ plain queued => exact List.forall_mem_append.mpr ⟨plain.ne_nil, queued.ne_nil⟩

theorem takeOpening_queued {codec : Codec μ} {pending : List (μ × List File)}
    {arrived coming : List Chunk} (queued : Queued codec pending (arrived ++ coming))
    (nonempty : arrived ≠ []) (ending : StreamEnd) :
    ∃ (opening : Opening) (left : List Chunk),
      takeOpening ⟨arrived, ending⟩ = (⟨left, ending⟩, some (.ok opening)) ∧
      Expects codec (some opening) (left ++ coming) pending := by
  generalize all : arrived ++ coming = chunks at queued
  cases queued with
  | nil => exact absurd (List.append_eq_nil_iff.mp all).1 nonempty
  | @cons message files others pieces chunks fits few carried queued =>
    have long : prefixLength ≤ (encode (codec.encode message)).length := by
      rw [length_encode]
      omega
    obtain ⟨start, rest, left, pieces', taken, frame, short, plain, queue⟩ :=
      takeOpening_carried carried long few all nonempty ending
    exact ⟨⟨start, files⟩, left, taken, queue ▸ .within fits frame short plain queued⟩

theorem complete_expected {codec : Codec μ} {opening : Opening} {pending : List (μ × List File)}
    {arrived coming : List Chunk} (ending : StreamEnd)
    (expects : Expects codec (some opening) (arrived ++ coming) pending)
    (flowing : coming ≠ [] → ending = .flowing) :
    (∃ (message : μ) (files : List File) (others : List (μ × List File)) (left : List Chunk),
        pending = (message, files) :: others ∧
        complete codec.decode opening ⟨arrived, ending⟩ =
          (⟨left, ending⟩, .message message files) ∧ Queued codec others (left ++ coming)) ∨
      (complete codec.decode opening ⟨arrived, ending⟩ = (⟨arrived, ending⟩, .waiting) ∧
        coming ≠ []) := by
  generalize all : arrived ++ coming = chunks at expects
  cases expects with
  | @within message files others start rest pieces chunks fits frame short plain queued =>
    obtain ⟨left, completed, queue⟩ | waits :=
      complete_plain codec files fits frame short plain all flowing
    · exact .inl ⟨message, files, others, left, rfl, completed, queue ▸ queued⟩
    · exact .inr waits

theorem receive_queued {codec : Codec μ} {message : μ} {files : List File}
    {others : List (μ × List File)} {chunks : List Chunk}
    (queued : Queued codec ((message, files) :: others) chunks) (ending : StreamEnd) :
    ∃ left, receive codec.decode ⟨chunks, ending⟩ = (⟨left, ending⟩, .message message files) ∧
      Queued codec others left := by
  have nonempty : chunks ≠ [] := by
    cases queued with
    | cons _ _ carried _ => exact List.append_ne_nil_of_left_ne_nil carried.chunks_ne_nil _
  rw [← List.append_nil chunks] at queued
  obtain ⟨opening, left, taken, expects⟩ := takeOpening_queued queued nonempty ending
  obtain ⟨_, _, _, left', same, completed, queued'⟩ | ⟨-, more⟩ :=
    complete_expected ending expects (by simp)
  · cases same
    rw [List.append_nil] at queued'
    exact ⟨left', by simp [receive, taken, completed], queued'⟩
  · exact absurd rfl more

theorem receiveAll_queued {codec : Codec μ} {pending : List (μ × List File)} {chunks : List Chunk}
    (queued : Queued codec pending chunks) {bound : Nat} (enough : pending.length < bound) :
    receiveAll codec.decode bound ⟨chunks, .closed⟩ = (pending, .finished) := by
  induction pending generalizing chunks bound with
  | nil =>
    obtain ⟨bound, rfl⟩ := Nat.exists_eq_succ_of_ne_zero (Nat.ne_of_gt enough)
    cases queued
    rfl
  | cons parcel others ih =>
    obtain ⟨bound, rfl⟩ := Nat.exists_eq_succ_of_ne_zero (Nat.ne_of_gt (Nat.zero_lt_of_lt enough))
    obtain ⟨left, received, queued⟩ := receive_queued queued .closed
    rw [receiveAll, received]
    simp only [ih queued (Nat.lt_of_succ_lt_succ enough)]

/-! ## A connection -/

def accepted (codec : Codec μ) (sendings : List (Sending μ)) : List (μ × List File) :=
  (sendings.filter (fun sending => sending.Fits codec)).map
    fun sending => (sending.message, sending.files)

theorem Sending.writes_of_fits {codec : Codec μ} {sending : Sending μ}
    (fits : sending.Fits codec) :
    Carried (encode (codec.encode sending.message)) sending.files (sending.writes codec) := by
  have sent : send (codec.encode sending.message) sending.files =
      .ok ⟨encode (codec.encode sending.message), sending.files⟩ :=
    send_eq_ok.mpr ⟨fits.1, fits.2, rfl⟩
  have nonempty : encode (codec.encode sending.message) ≠ [] := List.cons_ne_nil _ _
  rw [writes, sent]
  exact Chunk.carried_split sending.sizes ⟨_, sending.files⟩ nonempty

theorem Sending.refused_of_not_fits {codec : Codec μ} {sending : Sending μ}
    (large : ¬ sending.Fits codec) :
    (∃ error, send (codec.encode sending.message) sending.files = .error error) ∧
      sending.writes codec = [] := by
  cases sent : send (codec.encode sending.message) sending.files with
  | error error => exact ⟨⟨error, rfl⟩, by rw [writes, sent]⟩
  | ok chunk =>
    obtain ⟨short, few, -⟩ := send_eq_ok.mp sent
    exact absurd ⟨short, few⟩ large

theorem queued_writes (codec : Codec μ) (sendings : List (Sending μ)) :
    Queued codec (accepted codec sendings) (sendings.flatMap (Sending.writes codec)) := by
  induction sendings with
  | nil => exact .nil
  | cons sending others ih =>
    rw [List.flatMap_cons, accepted]
    by_cases fits : sending.Fits codec
    · rw [List.filter_cons_of_pos (by simpa using fits), List.map_cons]
      exact .cons fits.1 fits.2 (Sending.writes_of_fits fits) ih
    · rw [List.filter_cons_of_neg (by simpa using fits), (Sending.refused_of_not_fits fits).2]
      exact ih

namespace Line

/-- What the receiver has and what it still expects are all that was accepted. -/
structure Keeps (codec : Codec μ) (all : List (μ × List File)) (line : Line μ) : Prop where
  flowing : line.stream.ending = .flowing
  expected : ∃ pending, all = line.received ++ pending ∧
    Expects codec line.opening (line.stream.chunks ++ line.coming) pending

theorem keeps_start (codec : Codec μ) (sendings : List (Sending μ)) :
    (start codec sendings).Keeps codec (accepted codec sendings) where
  flowing := rfl
  expected := ⟨_, rfl, .between (queued_writes codec sendings)⟩

theorem chunks_send {stream : Stream} (flowing : stream.ending = .flowing) {chunk : Chunk}
    (nonempty : chunk.bytes ≠ []) :
    stream.send chunk = ⟨stream.chunks ++ [chunk], .flowing⟩ := by
  simp [Stream.send, nonempty, flowing]

theorem foldl_send {stream : Stream} (flowing : stream.ending = .flowing) {coming : List Chunk}
    (nonempty : ∀ chunk ∈ coming, chunk.bytes ≠ []) :
    coming.foldl Stream.send stream = ⟨stream.chunks ++ coming, .flowing⟩ := by
  induction coming generalizing stream with
  | nil => rw [List.foldl_nil, List.append_nil, ← flowing]
  | cons chunk coming ih =>
    obtain ⟨first, others⟩ := List.forall_mem_cons.mp nonempty
    rw [List.foldl_cons, chunks_send flowing first, ih rfl others, List.append_assoc]
    rfl

/-- No turn fails, and each keeps what is still to be received. -/
theorem keeps_turn {codec : Codec μ} {all : List (μ × List File)} {line : Line μ}
    (keeps : line.Keeps codec all) (turn : Turn) :
    ∃ next, line.turn codec.decode turn = .ok next ∧ next.Keeps codec all := by
  obtain ⟨coming, ⟨chunks, ending⟩, opening, received⟩ := line
  obtain ⟨rfl, pending, rfl, expects⟩ := keeps
  dsimp only at expects
  have same : (⟨coming, ⟨chunks, .flowing⟩, opening, received⟩ : Line μ).Keeps codec
      (received ++ pending) := ⟨rfl, pending, rfl, expects⟩
  cases turn with
  | arrival =>
    cases coming with
    | nil => exact ⟨_, rfl, same⟩
    | cons chunk coming =>
      have nonempty := expects.ne_nil chunk (by simp)
      refine ⟨_, rfl, ?_, pending, rfl, ?_⟩
      · rw [chunks_send rfl nonempty]
      · rw [chunks_send rfl nonempty, List.append_assoc]
        exact expects
  | reception =>
    cases opening with
    | none =>
      cases expects with
      | between queued =>
        by_cases nothing : chunks = []
        · subst nothing
          exact ⟨_, rfl, same⟩
        · obtain ⟨opening, left, taken, expects⟩ := takeOpening_queued queued nothing .flowing
          refine ⟨⟨coming, ⟨left, .flowing⟩, opening, received⟩, ?_, rfl, pending, rfl, expects⟩
          simp only [turn, taken]
    | some opening =>
      obtain ⟨message, files, others, left, rfl, completed, queued⟩ | ⟨waits, -⟩ :=
        complete_expected .flowing expects (fun _ => rfl)
      · refine ⟨⟨coming, ⟨left, .flowing⟩, none, received ++ [(message, files)]⟩, ?_, rfl, others,
          ?_, .between queued⟩
        · simp only [turn, completed]
        · rw [List.append_assoc]
          rfl
      · exact ⟨_, by simp only [turn, waits], same⟩

theorem keeps_turns {codec : Codec μ} {all : List (μ × List File)} {line : Line μ}
    (keeps : line.Keeps codec all) (turns : List Turn) :
    ∃ last, turns.foldlM (Line.turn codec.decode) line = .ok last ∧ last.Keeps codec all := by
  induction turns generalizing line with
  | nil => exact ⟨line, rfl, keeps⟩
  | cons turn turns ih =>
    obtain ⟨next, turned, keeps⟩ := keeps_turn keeps turn
    obtain ⟨last, ran, keeps⟩ := ih keeps
    exact ⟨last, by rw [List.foldlM_cons, turned]; exact ran, keeps⟩

theorem drain_of_keeps {codec : Codec μ} {all : List (μ × List File)} {line : Line μ}
    (keeps : line.Keeps codec all) {bound : Nat} (enough : all.length < bound) :
    line.drain codec.decode bound = (all, .finished) := by
  obtain ⟨coming, stream, opening, received⟩ := line
  obtain ⟨flowing, pending, rfl, expects⟩ := keeps
  dsimp only at flowing expects
  have nonempty : ∀ chunk ∈ coming, chunk.bytes ≠ [] := fun chunk member =>
    expects.ne_nil chunk (List.mem_append_right _ member)
  have fewer : pending.length < bound := by
    rw [List.length_append] at enough
    omega
  have closed : (coming.foldl Stream.send stream).close .closed =
      ⟨stream.chunks ++ coming, .closed⟩ := by
    rw [foldl_send flowing nonempty]
    rfl
  rw [drain]
  dsimp only
  rw [closed]
  cases opening with
  | none =>
    cases expects with
    | between queued => simp only [receiveAll_queued queued fewer]
  | some opening =>
    rw [← List.append_nil (stream.chunks ++ coming)] at expects
    obtain ⟨message, files, others, left, rfl, completed, queued⟩ | ⟨-, more⟩ :=
      complete_expected .closed expects (by simp)
    · rw [List.append_nil] at queued
      simp only [completed, receiveAll_queued queued (Nat.lt_of_succ_lt fewer)]
    · exact absurd rfl more

end Line

theorem length_accepted_le (codec : Codec μ) (sendings : List (Sending μ)) :
    (accepted codec sendings).length ≤ sendings.length := by
  rw [accepted, List.length_map]
  exact List.length_filter_le _ _

/-- Whatever is sent, in whatever writes, and however the receiver's turns fall between their
arrivals: no turn fails, and when the sender has closed its end the receiver has the accepted
messages in order, each with its own descriptors, and sees the end.  A refused send writes
nothing. -/
theorem frames_received_in_order (codec : Codec μ) (sendings : List (Sending μ))
    (turns : List Turn) (extra : Nat) :
    (∃ line, turns.foldlM (Line.turn codec.decode) (.start codec sendings) = .ok line ∧
      line.drain codec.decode (sendings.length + 1 + extra) =
        (accepted codec sendings, .finished)) ∧
    receiveAll codec.decode (sendings.length + 1 + extra)
        (((sendings.flatMap (Sending.writes codec)).foldl Stream.send .empty).close .closed) =
      (accepted codec sendings, .finished) ∧
    ∀ sending : Sending μ, ¬ sending.Fits codec →
      (∃ error, send (codec.encode sending.message) sending.files = .error error) ∧
        sending.writes codec = [] := by
  have enough : (accepted codec sendings).length < sendings.length + 1 + extra := by
    have few := length_accepted_le codec sendings
    omega
  have keeps := Line.keeps_start codec sendings
  refine ⟨?_, ?_, fun _ => Sending.refused_of_not_fits⟩
  · obtain ⟨line, ran, keeps⟩ := Line.keeps_turns keeps turns
    exact ⟨line, ran, Line.drain_of_keeps keeps enough⟩
  · exact Line.drain_of_keeps keeps enough

/-- Of three sends, one in three writes and one with too many descriptors, two are received. -/
example :
    let sendings : List (Sending Request) :=
      [⟨.wait, [⟨7, []⟩], [3, 5]⟩, ⟨.exportFrame, List.replicate 9 ⟨8, []⟩, []⟩,
        ⟨.exportFrame, [], []⟩]
    let writes := sendings.flatMap (Sending.writes requestCodec)
    receiveAll requestCodec.decode 4 ((writes.foldl Stream.send .empty).close .closed) =
      ([(.wait, [⟨7, []⟩]), (.exportFrame, [])], .finished) := by
  cbv

end Frame

end PresentRelay
