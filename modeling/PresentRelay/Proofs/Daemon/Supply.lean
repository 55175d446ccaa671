import Mathlib.Data.List.Nodup
import PresentRelay.Daemon.Allocator
import PresentRelay.Daemon.Cache

/-!
# Where buffers of a daemon come from and stay

What an allocator gave out and got back since an earlier state of it, and which buffers a
cache has.
-/

set_option autoImplicit false

namespace PresentRelay

/-! ## What an allocator gave and got back -/

namespace Allocator

def givenSince (start now : Allocator) : List Serial :=
  List.range' start.next (now.next - start.next)

def importedSince (start now : Allocator) : List Import := now.imports.drop start.imports.length

def returnedSince (start now : Allocator) : List Serial := now.releases.drop start.releases.length

/-- Since an earlier state, one buffer was allocated for a probe, and all others imported. -/
structure Since (start now : Allocator) : Prop where
  imports : start.imports.length ≤ now.imports.length
  releases : start.releases.length ≤ now.releases.length
  next : start.next < now.next
  given : start.givenSince now = start.next :: (start.importedSince now).map Import.serial

theorem mem_givenSince {start now : Allocator} (since : start.Since now) {serial : Serial} :
    serial ∈ start.givenSince now ↔ start.next ≤ serial ∧ serial < now.next := by
  have next := since.next
  rw [givenSince, List.mem_range'_1, Nat.add_sub_cancel' (Nat.le_of_lt next)]

theorem Since.release {start now : Allocator} (since : start.Since now) (serial : Serial) :
    start.Since (now.release serial) ∧
      start.returnedSince (now.release serial) = start.returnedSince now ++ [serial] := by
  have releases := since.releases
  refine ⟨⟨since.imports, ?_, since.next, since.given⟩, ?_⟩
  · rw [Allocator.release, List.length_append]
    omega
  · exact List.drop_append_of_le_length releases

theorem Since.importBuffer {start now after : Allocator} (since : start.Since now)
    {planes : List File} {metadata : Bytes} {desc : BufferDesc} {serial : Serial}
    (success : now.importBuffer planes metadata desc = .ok (after, serial)) :
    serial = now.next ∧ start.Since after ∧
      start.givenSince after = start.givenSince now ++ [serial] ∧
      start.importedSince after =
        start.importedSince now ++ [⟨serial, planes, metadata, desc⟩] ∧
      start.returnedSince after = start.returnedSince now := by
  have next := since.next
  unfold Allocator.importBuffer at success
  split at success
  · cases success
  · obtain ⟨rfl, rfl⟩ := Prod.mk.inj (Except.ok.inj success)
    have imported : start.importedSince { now with
          next := now.next + 1
          imports := now.imports ++ [⟨now.next, planes, metadata, desc⟩] } =
        start.importedSince now ++ [⟨now.next, planes, metadata, desc⟩] :=
      List.drop_append_of_le_length since.imports
    have given : start.givenSince { now with
          next := now.next + 1
          imports := now.imports ++ [⟨now.next, planes, metadata, desc⟩] } =
        start.givenSince now ++ [now.next] := by
      have count : now.next + 1 - start.next = now.next - start.next + 1 :=
        Nat.succ_sub (Nat.le_of_lt next)
      rw [givenSince, count, List.range'_1_concat, Nat.add_sub_cancel' (Nat.le_of_lt next)]
      rfl
    refine ⟨rfl, ⟨?_, since.releases, ?_, ?_⟩, given, imported, rfl⟩
    · have imports := since.imports
      rw [List.length_append]
      omega
    · exact Nat.lt_succ_of_lt next
    · rw [given, since.given, imported, List.map_append]
      rfl

end Allocator

/-! ## What a cache has -/

namespace BufferCache

variable {β : Type}

theorem buffers_insert (cache : BufferCache β) (frame : UInt32) (buffer : β) :
    ∃ others, cache.buffers.Perm ((cache.insert frame buffer).2.toList ++ others) ∧
      (cache.insert frame buffer).1.buffers.Perm (buffer :: others) := by
  have bound := cache.slot_lt frame
  have occupied : cache.occupant frame = cache.slots[cache.slot frame] := by
    rw [occupant, List.getElem?_eq_getElem bound, Option.join_some]
  have split : cache.slots = cache.slots.take (cache.slot frame) ++
      cache.slots[cache.slot frame] :: cache.slots.drop (cache.slot frame + 1) := by
    rw [List.getElem_cons_drop, List.take_append_drop]
  refine ⟨((cache.slots.take (cache.slot frame)).filterMap id ++
    (cache.slots.drop (cache.slot frame + 1)).filterMap id).map Prod.snd, ?_, ?_⟩
  · have evicted : (cache.insert frame buffer).2 = cache.slots[cache.slot frame].map Prod.snd :=
      congrArg (Option.map Prod.snd) occupied
    have buffers : cache.buffers = _ :=
      congrArg (fun slots => (slots.filterMap id).map Prod.snd) split
    rw [evicted, buffers, List.filterMap_append, List.filterMap_cons]
    cases cache.slots[cache.slot frame] <;> simp
  · simp only [buffers, insert, List.set_eq_take_append_cons_drop, if_pos bound,
      List.filterMap_append, List.filterMap_cons, id_eq, List.map_append, List.map_cons]
    exact List.perm_middle

theorem buffers_clear (cache : BufferCache β) : cache.clear.1.buffers = [] := by
  simp [buffers, clear]

theorem length_buffers_le (cache : BufferCache β) : cache.buffers.length ≤ cache.capacity := by
  rw [buffers, List.length_map]
  exact List.length_filterMap_le _ _

theorem mem_buffers {cache : BufferCache β} {buffer : β} :
    buffer ∈ cache.buffers ↔ ∃ frame, some (frame, buffer) ∈ cache.slots := by
  simp [buffers]

theorem mem_slots_of_lookup {cache : BufferCache β} {id : UInt32} {buffer : β}
    (hit : cache.lookup id = some buffer) : some (id, buffer) ∈ cache.slots := by
  unfold lookup at hit
  split at hit
  · next held other occupied =>
    split at hit
    · next same =>
      obtain rfl : other = buffer := Option.some.inj hit
      obtain rfl : held = id := same
      exact List.mem_of_getElem? (Option.join_eq_some_iff.mp occupied)
    · cases hit
  · cases hit

theorem mem_buffers_of_lookup {cache : BufferCache β} {id : UInt32} {buffer : β}
    (hit : cache.lookup id = some buffer) : buffer ∈ cache.buffers :=
  mem_buffers.mpr ⟨id, mem_slots_of_lookup hit⟩

end BufferCache

end PresentRelay
