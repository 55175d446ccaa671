import PresentRelay.Wire.Frame

/-!
# What receiving takes

Receiving takes bytes off the front of a stream, as many as it asks for if they are there.  Where
no descriptors are, the sends that the bytes came in make no difference.
-/

set_option autoImplicit false

namespace PresentRelay

theorem bytes_receive (count : Nat) (chunks : List Chunk) :
    chunks.flatMap Chunk.bytes =
      (receive count chunks).1 ++ (receive count chunks).2.2.flatMap Chunk.bytes := by
  induction chunks generalizing count with
  | nil => rfl
  | cons chunk rest ih =>
    unfold receive
    split
    · rfl
    · split
      · simp [← List.append_assoc, List.take_append_drop]
      · split
        · simp [ih (count - chunk.bytes.length)]
        · rfl

theorem bytes_receiveBytes (count : Nat) (chunks : List Chunk) :
    chunks.flatMap Chunk.bytes =
      (receiveBytes count chunks).1 ++ (receiveBytes count chunks).2.flatMap Chunk.bytes := by
  induction chunks generalizing count with
  | nil => rfl
  | cons chunk rest ih =>
    unfold receiveBytes
    split
    · rfl
    · split
      · simp [← List.append_assoc, List.take_append_drop]
      · simp [ih (count - chunk.bytes.length)]

theorem receiveBytes_fst (count : Nat) (chunks : List Chunk) :
    (receiveBytes count chunks).1 = (chunks.flatMap Chunk.bytes).take count := by
  induction chunks generalizing count with
  | nil => simp [receiveBytes]
  | cons chunk rest ih =>
    unfold receiveBytes
    split
    · next none => simp [none]
    · split
      · next inside =>
        rw [List.flatMap_cons, List.take_append_of_le_length (Nat.le_of_lt inside)]
      · next outside =>
        have all : chunk.bytes.take count = chunk.bytes :=
          List.take_of_length_le (Nat.not_lt.mp outside)
        rw [List.flatMap_cons, List.take_append, all]
        dsimp only
        rw [ih]

def Bare (chunks : List Chunk) : Prop := ∀ chunk ∈ chunks, chunk.files = []

theorem Bare.receiveBytes {chunks : List Chunk} (bare : Bare chunks) (count : Nat) :
    Bare (receiveBytes count chunks).2 := by
  induction chunks generalizing count with
  | nil => exact bare
  | cons chunk rest ih =>
    obtain ⟨first, others⟩ := List.forall_mem_cons.mp bare
    unfold PresentRelay.receiveBytes
    split
    · exact bare
    · split
      · exact List.forall_mem_cons.mpr ⟨rfl, others⟩
      · exact ih others _

/-- Reading takes bytes off the front, and fewer than it asked for only if there are no more. -/
theorem receiveBytes_split (count : Nat) (chunks : List Chunk) :
    ∃ taken left, receiveBytes count chunks = (taken, left) ∧
      chunks.flatMap Chunk.bytes = taken ++ left.flatMap Chunk.bytes ∧
      taken.length ≤ count ∧ (taken.length < count → left.flatMap Chunk.bytes = []) ∧
      (Bare chunks → Bare left) := by
  have whole := bytes_receiveBytes count chunks
  have first := receiveBytes_fst count chunks
  refine ⟨_, _, rfl, whole, ?_, ?_, fun bare => bare.receiveBytes count⟩
  · rw [first]
    exact List.length_take_le _ _
  · intro short
    rw [first] at short whole
    rw [List.length_take] at short
    rw [List.take_of_length_le (by omega)] at whole
    exact List.append_right_eq_self.mp whole.symm

/-- Where there are no descriptors a receive is no different from plain reading. -/
theorem receive_of_bare {chunks : List Chunk} (bare : Bare chunks) (count : Nat) :
    receive count chunks =
      ((receiveBytes count chunks).1, [], (receiveBytes count chunks).2) := by
  induction chunks generalizing count with
  | nil => rfl
  | cons chunk rest ih =>
    obtain ⟨first, others⟩ := List.forall_mem_cons.mp bare
    unfold receive PresentRelay.receiveBytes
    split
    · rfl
    · split
      · rw [first]
      · rw [ih others, first]
        rfl

namespace Frame

theorem bytes_takeOpening {stream rest : Stream} {opening : Opening}
    (taken : takeOpening stream = (rest, some (.ok opening))) :
    stream.bytes = opening.bytes ++ rest.bytes := by
  have whole := bytes_receive prefixLength stream.chunks
  unfold takeOpening at taken
  split at taken
  next bytes files chunks received =>
  rw [received] at whole
  split at taken
  · simp at taken
  · split at taken
    · simp at taken
    · simp only [Prod.mk.injEq, Option.some.injEq, Except.ok.injEq] at taken
      obtain ⟨rfl, rfl⟩ := taken
      exact whole

theorem cutShort_ne_message {μ : Type} (stream : Stream) (message : μ) (files : List File) :
    (cutShort stream).2 ≠ .message message files := by
  unfold cutShort
  split <;> exact nofun

theorem bytes_complete {μ : Type} {decode : Bytes → Except Json.Fault μ} {opening : Opening}
    {stream rest : Stream} {message : μ} {files : List File}
    (received : complete decode opening stream = (rest, .message message files)) :
    ∃ taken, stream.bytes = taken ++ rest.bytes := by
  have uncut := cutShort_ne_message stream message files
  unfold complete at received
  rcases header : receiveBytes (prefixLength - opening.bytes.length) stream.chunks with
    ⟨more, chunks⟩
  have first := bytes_receiveBytes (prefixLength - opening.bytes.length) stream.chunks
  rw [header] at received first
  dsimp only at received first
  split at received
  · exact absurd (congrArg Prod.snd received) uncut
  · split at received
    · cases received
    · rcases body : receiveBytes (decodeLength (opening.bytes ++ more)) chunks with
        ⟨payload, chunks'⟩
      have second := bytes_receiveBytes (decodeLength (opening.bytes ++ more)) chunks
      rw [body] at received second
      dsimp only at received second
      split at received
      · exact absurd (congrArg Prod.snd received) uncut
      · split at received
        · cases received
          refine ⟨more ++ payload, ?_⟩
          rw [Stream.bytes, first, second, ← List.append_assoc]
          rfl
        · cases received

theorem takeOpening_of_bare {chunks : List Chunk} (bare : Bare chunks) (ending : StreamEnd) :
    takeOpening ⟨chunks, ending⟩ =
      if chunks.flatMap Chunk.bytes = [] then (⟨chunks, ending⟩, none)
      else (⟨(receiveBytes prefixLength chunks).2, ending⟩,
        some (.ok ⟨(chunks.flatMap Chunk.bytes).take prefixLength, []⟩)) := by
  rw [takeOpening, receive_of_bare bare, receiveBytes_fst]
  by_cases none : chunks.flatMap Chunk.bytes = []
  · simp [none]
  · simp [none, prefixLength]

end Frame

end PresentRelay
