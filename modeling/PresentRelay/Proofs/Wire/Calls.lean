import PresentRelay.Wire.Call

/-!
# Calls on the wire

A call whose request fits a frame sends it, and an export crosses the wire as the list of its
valid positions and the descriptors of those, from which `assignFiles` rebuilds it.
-/

set_option autoImplicit false

namespace PresentRelay

/-! ## Exports -/

theorem assignFiles_of_countP {valid : List Bool} {files : List File}
    (enough : valid.countP (fun v => v) = files.length) :
    (assignFiles valid files).map Option.isSome = valid ∧
      (assignFiles valid files).filterMap (fun handle => handle) = files := by
  induction valid generalizing files with
  | nil => exact ⟨rfl, (List.length_eq_zero_iff.mp enough.symm).symm⟩
  | cons present valid ih =>
    cases present with
    | false =>
      rw [List.countP_cons_of_neg (by decide)] at enough
      obtain ⟨positions, rest⟩ := ih enough
      exact ⟨by simp [assignFiles, positions], by simp [assignFiles, rest]⟩
    | true =>
      rw [List.countP_cons_of_pos (by decide)] at enough
      cases files with
      | nil => cases enough
      | cons file files =>
        obtain ⟨positions, rest⟩ := ih (Nat.succ.inj enough)
        exact ⟨by simp [assignFiles, positions], by simp [assignFiles, rest]⟩

namespace Export

theorem countP_valid (exported : Export) :
    exported.valid.countP (fun v => v) = exported.files.length := by
  rw [valid, files, List.countP_map, List.length_filterMap_eq_countP]
  rfl

/-- What crosses the wire is enough to have the export again. -/
theorem assignFiles_valid (exported : Export) :
    assignFiles exported.valid exported.files = exported.handles := by
  rw [valid, files]
  induction exported.handles with
  | nil => rfl
  | cons handle handles ih => cases handle <;> simp [assignFiles, ih]

theorem length_valid (exported : Export) : exported.valid.length = exported.count :=
  List.length_map _

theorem length_files_le (exported : Export) : exported.files.length ≤ exported.count :=
  List.length_filterMap_le _ _

end Export

namespace Call

theorem length_files_le (call : Call) : call.files.length ≤ Frame.maxFiles := by
  cases call <;> simp [files, Frame.maxFiles]

theorem send_eq {call : Call} (fits : call.request.encode.length ≤ Frame.maxPayload) :
    call.send false = .ok ⟨Frame.encode call.request.encode, call.files⟩ := by
  rw [Call.send, Frame.send_eq_ok.mpr ⟨fits, call.length_files_le, rfl⟩]
  rfl

/-- A reply to an export is taken exactly if its numbers agree, and then gives the descriptors in
order to the valid positions. -/
theorem interpret_exported (id : UInt32) (count : UInt64) (valid : List Bool) (files : List File) :
    let outcome := exportFrame.interpret files (.exported id count valid)
    ((∃ result, outcome = .ok result) ↔
      valid.length = count.toNat ∧ valid.countP (fun v => v) = files.length) ∧
    ∀ result, outcome = .ok result → ∃ handles, result = .exported ⟨id, handles⟩ ∧
      handles.map Option.isSome = valid ∧ handles.filterMap (fun handle => handle) = files := by
  intro outcome
  have read : outcome = readExport id count valid files := rfl
  rw [read, readExport]
  split
  · next mismatch =>
    refine ⟨⟨nofun, fun agree => ?_⟩, nofun⟩
    exact absurd mismatch (by simp [agree])
  · next agree =>
    rw [not_or, Classical.not_not, Classical.not_not] at agree
    refine ⟨⟨fun _ => agree, fun _ => ⟨_, rfl⟩⟩, fun result same => ?_⟩
    cases same
    exact ⟨_, rfl, assignFiles_of_countP agree.2⟩

end Call

end PresentRelay
