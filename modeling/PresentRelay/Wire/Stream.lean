import PresentRelay.Bytes

/-!
# One direction of a connection

A sender puts bytes on a stream in chunks; the descriptors of a chunk ride on its
first byte.  A receiver takes bytes without seeing where chunks end, except that
a receive which took descriptors goes no further than their chunk.
-/

set_option autoImplicit false

namespace PresentRelay

structure Chunk where
  bytes : Bytes
  files : List File
  deriving DecidableEq, Repr

inductive StreamEnd where
  | flowing
  | closed
  /-- The sender went away and left bytes of the other direction unread. -/
  | reset
  deriving DecidableEq, Repr

structure Stream where
  chunks : List Chunk
  ending : StreamEnd
  deriving DecidableEq, Repr

namespace Stream

def empty : Stream := ⟨[], .flowing⟩

/-- Puts a chunk on the stream.  One without bytes carries nothing, and nothing
can be sent after the end. -/
def send (stream : Stream) (chunk : Chunk) : Stream :=
  if chunk.bytes.isEmpty || stream.ending != .flowing then stream
  else { stream with chunks := stream.chunks ++ [chunk] }

def close (stream : Stream) (ending : StreamEnd) : Stream :=
  if stream.ending = .flowing then { stream with ending } else stream

def bytes (stream : Stream) : Bytes := stream.chunks.flatMap Chunk.bytes

/-- Whether a receiver that looks ahead sees the end and nothing before it. -/
def isFinished (stream : Stream) : Bool := stream.chunks.isEmpty && stream.ending != .flowing

theorem bytes_send {stream : Stream} (flowing : stream.ending = .flowing) (chunk : Chunk) :
    (stream.send chunk).bytes = stream.bytes ++ chunk.bytes := by
  unfold send bytes
  by_cases nothing : chunk.bytes = []
  · simp [nothing]
  · simp [nothing, flowing]

theorem bytes_close (stream : Stream) (ending : StreamEnd) :
    (stream.close ending).bytes = stream.bytes := by
  unfold close bytes
  split <;> rfl

end Stream

/-- Takes at most `count` bytes, with the descriptors of the chunk they end in. -/
def receive (count : Nat) : List Chunk → Bytes × List File × List Chunk
  | [] => ([], [], [])
  | chunk :: rest =>
    if count = 0 then ([], [], chunk :: rest)
    else if count < chunk.bytes.length then
      (chunk.bytes.take count, chunk.files, ⟨chunk.bytes.drop count, []⟩ :: rest)
    else if chunk.files.isEmpty then
      let (more, files, rest) := receive (count - chunk.bytes.length) rest
      (chunk.bytes ++ more, files, rest)
    else (chunk.bytes, chunk.files, rest)

theorem length_receive_le (count : Nat) (chunks : List Chunk) :
    (receive count chunks).1.length ≤ count := by
  induction chunks generalizing count with
  | nil => exact Nat.zero_le count
  | cons chunk rest rest_le =>
    unfold receive
    split
    · exact Nat.zero_le count
    · split
      · simp only [List.length_take]
        omega
      · split
        · have := rest_le (count - chunk.bytes.length)
          simp only [List.length_append]
          omega
        · simp only
          omega

def receiveBytes (count : Nat) : List Chunk → Bytes × List Chunk
  | [] => ([], [])
  | chunk :: rest =>
    if count = 0 then ([], chunk :: rest)
    else if count < chunk.bytes.length then
      (chunk.bytes.take count, ⟨chunk.bytes.drop count, []⟩ :: rest)
    else
      let (more, rest) := receiveBytes (count - chunk.bytes.length) rest
      (chunk.bytes ++ more, rest)

end PresentRelay
