import PresentRelay.Error
import PresentRelay.Wire.Stream

/-!
# Frames

A frame is the length of a payload, in four bytes with the least significant
first, and the payload, which is the text of one message.  The descriptors of a
message ride on the first byte of its frame.
-/

set_option autoImplicit false

namespace PresentRelay.Frame

def maxPayload : Nat := 1048576

def maxFiles : Nat := 8

def prefixLength : Nat := 4

/-- A length as four bytes, the least significant first. -/
def encodeLength (length : Nat) : Bytes :=
  [UInt8.ofNat length, UInt8.ofNat (length / 256), UInt8.ofNat (length / 65536),
    UInt8.ofNat (length / 16777216)]

def decodeLength (bytes : Bytes) : Nat := bytes.foldr (fun b n => b.toNat + 256 * n) 0

def encode (payload : Bytes) : Bytes := encodeLength payload.length ++ payload

def send (payload : Bytes) (files : List File) : Except RelayError Chunk :=
  if maxPayload < payload.length then .error (.protocol (.frameTooLong payload.length))
  else if maxFiles < files.length then .error (.protocol (.tooManyDescriptors files.length))
  else .ok ⟨encode payload, files⟩

theorem length_encodeLength (length : Nat) : (encodeLength length).length = prefixLength := rfl

theorem length_encode (payload : Bytes) :
    (encode payload).length = prefixLength + payload.length := by
  rw [encode, List.length_append, length_encodeLength]

theorem decodeLength_encodeLength {length : Nat} (fits : length < UInt32.size) :
    decodeLength (encodeLength length) = length := by
  have bound : length < 4294967296 := fits
  simp only [decodeLength, encodeLength, List.foldr_cons, List.foldr_nil, UInt8.toNat_ofNat']
  omega

theorem send_eq_ok {payload : Bytes} {files : List File} {chunk : Chunk} :
    send payload files = .ok chunk ↔
      payload.length ≤ maxPayload ∧ files.length ≤ maxFiles ∧ chunk = ⟨encode payload, files⟩ := by
  unfold send
  split
  · next long => simp only [reduceCtorEq, false_iff]; omega
  · next short =>
    split
    · next many => simp only [reduceCtorEq, false_iff]; omega
    · next few =>
      simp only [Except.ok.injEq]
      constructor
      · rintro rfl
        exact ⟨by omega, by omega, rfl⟩
      · rintro ⟨_, _, rfl⟩
        rfl

inductive Reception (μ : Type) where
  | message (message : μ) (files : List File)
  /-- The stream ended between frames. -/
  | finished
  | failed (error : RelayError)
  | waiting

/-- The start of a frame, as the first receive took it: some of the prefix, and the
descriptors that came with it. -/
structure Opening where
  bytes : Bytes
  files : List File
  deriving DecidableEq, Repr

def takeOpening (stream : Stream) : Stream × Option (Except RelayError Opening) :=
  let (bytes, files, chunks) := PresentRelay.receive prefixLength stream.chunks
  if bytes.isEmpty then (stream, none)
  else if maxFiles < files.length then ({ stream with chunks }, some (.error (.io .noBufferSpace)))
  else ({ stream with chunks }, some (.ok ⟨bytes, files⟩))

/-- A start that was taken holds some of the prefix, and nothing after it. -/
theorem length_takeOpening {stream rest : Stream} {opening : Opening}
    (taken : takeOpening stream = (rest, some (.ok opening))) :
    0 < opening.bytes.length ∧ opening.bytes.length ≤ prefixLength := by
  have short := length_receive_le prefixLength stream.chunks
  unfold takeOpening at taken
  split at taken
  next bytes files chunks received =>
  rw [received] at short
  split at taken
  · simp at taken
  · next some_bytes =>
    split at taken
    · simp at taken
    · simp only [Prod.mk.injEq, Option.some.injEq, Except.ok.injEq] at taken
      obtain ⟨_, rfl⟩ := taken
      refine ⟨?_, short⟩
      simpa [List.length_pos_iff] using some_bytes

/-- What a frame that the stream does not complete comes to.  The bytes of one
that can go on stay where they are. -/
def cutShort {μ : Type} (stream : Stream) : Stream × Reception μ :=
  match stream.ending with
  | .flowing => (stream, .waiting)
  | .closed => ({ stream with chunks := [] }, .failed (.protocol .closedMidFrame))
  | .reset => ({ stream with chunks := [] }, .failed (.io .connectionReset))

/-- Takes the rest of a frame and decodes its payload.  Its descriptors are those of
its start; any that come with the rest are let go. -/
def complete {μ : Type} (decode : Bytes → Except Json.Fault μ) (opening : Opening)
    (stream : Stream) : Stream × Reception μ :=
  let (more, chunks) := receiveBytes (prefixLength - opening.bytes.length) stream.chunks
  let header := opening.bytes ++ more
  if header.length < prefixLength then cutShort stream
  else
    let length := decodeLength header
    if maxPayload < length then
      ({ stream with chunks }, .failed (.protocol (.frameTooLong length)))
    else
      let (payload, chunks) := receiveBytes length chunks
      if payload.length < length then cutShort stream
      else
        match decode payload with
        | .ok message => ({ stream with chunks }, .message message opening.files)
        | .error fault => ({ stream with chunks }, .failed (.protocol (.undecodable fault)))

def receive {μ : Type} (decode : Bytes → Except Json.Fault μ) (stream : Stream) :
    Stream × Reception μ :=
  match takeOpening stream with
  | (_, none) => (stream, if stream.ending = .flowing then .waiting else .finished)
  | (taken, some (.error error)) => (taken, .failed error)
  | (taken, some (.ok opening)) =>
    match complete decode opening taken with
    | (_, .waiting) => (stream, .waiting)
    | done => done

def receiveAll {μ : Type} (decode : Bytes → Except Json.Fault μ) :
    (bound : Nat) → Stream → List (μ × List File) × Reception μ
  | 0, _ => ([], .waiting)
  | bound + 1, stream =>
    match receive decode stream with
    | (stream, .message message files) =>
      let (others, last) := receiveAll decode bound stream
      ((message, files) :: others, last)
    | (_, last) => ([], last)

end PresentRelay.Frame
