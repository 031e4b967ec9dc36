import Conform.Predicate.Catalogue
import Conform.Proofs.Leaves

/-
  Validators with leaves that have to be waited for, against the same validators with leaves that
  answer at once (`synchronous`).
  `validateAsync_eq_validate_synchronous`: a run that is waited for is the synchronous run of the
  validator whose leaves answer at once, with everything that can be observed on the way, as
  whoever waits sees it: no run that is waited for ends with the signal that ends an iteration.
  `validate_refuses_at_first_waiting_leaf`: the synchronous entry point refuses exactly the runs
  that reach a leaf that has to be waited for, and refuses them there.
  To speak of the leaves that a run reaches, `traced` makes every leaf note that its function is
  carried out. A leaf that has to be waited for notes it when it is first waited for, so the note
  is missing from a run that is refused before.
-/

namespace Conform

namespace Run

variable {α β : Type}

/-- The run without notes of leaves. -/
def withoutEntries : Run α → Run α
  | .done a => .done a
  | .raised fault => .raised fault
  | .note (.entered _) rest => rest.withoutEntries
  | .note (.called name x) rest => .note (.called name x) rest.withoutEntries
  | .note (.logged entry) rest => .note (.logged entry) rest.withoutEntries
  | .await rest => .await rest.withoutEntries

/-- The run with an event noted when it has been waited for the first time. -/
def noteAwaited (event : Event) : Run α → Run α
  | .done a => .done a
  | .raised fault => .raised fault
  | .note earlier rest => .note earlier (rest.noteAwaited event)
  | .await rest => .await (.note event rest)

/-- The run of a leaf with its only note of a leaf where the function is carried out. -/
def entering (leaf : String) (x : Value) (run : Run α) : Run α :=
  if run.reachesAwait then run.withoutEntries.noteAwaited (.entered ⟨leaf, x, true⟩)
  else .note (.entered ⟨leaf, x, false⟩) run.withoutEntries

/-- Leaves that have to be waited for are noted right after the first point of waiting, and none
before it. -/
def EntersInTime : Run α → Prop
  | .done _ => True
  | .raised _ => True
  | .note event rest => (∀ call, event = .entered call → call.waits = false) ∧ rest.EntersInTime
  | .await rest => ∃ call following, call.waits = true ∧ rest = .note (.entered call) following

/-! ## Runs without notes of leaves -/

theorem withoutEntries_bind (run : Run α) (next : α → Run β) :
    (run.bind next).withoutEntries =
      run.withoutEntries.bind fun a => (next a).withoutEntries := by
  induction run with
  | done => rfl
  | raised => rfl
  | note event rest ih => cases event <;> simp [withoutEntries, ih]
  | await rest ih => simp [withoutEntries, ih]

theorem withoutEntries_withoutEntries (run : Run α) :
    run.withoutEntries.withoutEntries = run.withoutEntries := by
  induction run with
  | done => rfl
  | raised => rfl
  | note event rest ih => cases event <;> simp [withoutEntries, ih]
  | await rest ih => simp [withoutEntries, ih]

theorem withoutEntries_atOnce (run : Run α) :
    run.atOnce.withoutEntries = run.withoutEntries.atOnce := by
  induction run with
  | done => rfl
  | raised => rfl
  | note event rest ih => cases event <;> simp [withoutEntries, atOnce, ih]
  | await rest ih => simp [withoutEntries, atOnce, ih]

theorem withoutEntries_awaited (run : Run α) :
    run.awaited.withoutEntries = run.withoutEntries.awaited := by
  induction run with
  | done => rfl
  | raised => rfl
  | note event rest ih => cases event <;> simp [withoutEntries, awaited, ih]
  | await rest ih => simp [withoutEntries, awaited, ih]

theorem withoutEntries_refusingAwait (run refusal : Run α) :
    (run.refusingAwait refusal).withoutEntries =
      run.withoutEntries.refusingAwait refusal.withoutEntries := by
  induction run with
  | done => rfl
  | raised => rfl
  | note event rest ih => cases event <;> simp [withoutEntries, refusingAwait, ih]
  | await => rfl

theorem reachesAwait_withoutEntries (run : Run α) :
    run.withoutEntries.reachesAwait = run.reachesAwait := by
  induction run with
  | done => rfl
  | raised => rfl
  | note event rest ih => cases event <;> simp [withoutEntries, reachesAwait, ih]
  | await => rfl

theorem outcome?_withoutEntries (run : Run α) : run.withoutEntries.outcome? = run.outcome? := by
  induction run with
  | done => rfl
  | raised => rfl
  | note event rest ih => cases event <;> exact ih
  | await => rfl

theorem withoutEntries_noteAwaited (call : LeafCall) (run : Run α) :
    (run.noteAwaited (.entered call)).withoutEntries = run.withoutEntries := by
  induction run with
  | done => rfl
  | raised => rfl
  | note event rest ih => cases event <;> simp [withoutEntries, noteAwaited, ih]
  | await => rfl

/-- A note of a leaf is all that `entering` adds. -/
theorem withoutEntries_entering (leaf : String) (x : Value) (run : Run α) :
    (run.entering leaf x).withoutEntries = run.withoutEntries := by
  unfold entering
  split
  · rw [withoutEntries_noteAwaited, withoutEntries_withoutEntries]
  · exact withoutEntries_withoutEntries run

/-! ## Notes in time -/

theorem EntersInTime.bind {run : Run α} {next : α → Run β} (h : run.EntersInTime)
    (hnext : ∀ a, (next a).EntersInTime) : (run.bind next).EntersInTime := by
  induction run with
  | done a => exact hnext a
  | raised => trivial
  | note event rest ih => exact ⟨h.1, ih h.2⟩
  | await rest =>
    obtain ⟨call, following, hwaits, rfl⟩ := h
    exact ⟨call, following.bind next, hwaits, rfl⟩

theorem entersInTime_noteAwaited {call : LeafCall} (hwaits : call.waits = true) (run : Run α) :
    (run.withoutEntries.noteAwaited (.entered call)).EntersInTime := by
  induction run with
  | done => trivial
  | raised => trivial
  | note event rest ih =>
    cases event with
    | entered => exact ih
    | called => exact ⟨nofun, ih⟩
    | logged => exact ⟨nofun, ih⟩
  | await rest => exact ⟨call, rest.withoutEntries, hwaits, rfl⟩

theorem entersInTime_withoutEntries {run : Run α} (h : run.reachesAwait = false) :
    run.withoutEntries.EntersInTime := by
  induction run with
  | done => trivial
  | raised => trivial
  | note event rest ih =>
    cases event with
    | entered => exact ih h
    | called => exact ⟨nofun, ih h⟩
    | logged => exact ⟨nofun, ih h⟩
  | await => simp [reachesAwait] at h

theorem entersInTime_entering (leaf : String) (x : Value) (run : Run α) :
    (run.entering leaf x).EntersInTime := by
  unfold entering
  split
  · exact entersInTime_noteAwaited rfl run
  · next h =>
    refine ⟨fun call hcall => ?_, entersInTime_withoutEntries (by simpa using h)⟩
    cases hcall
    rfl

@[simp] theorem entries_done (a : α) : (Run.done a).entries = [] := rfl

@[simp] theorem entries_raised (fault : Fault) : (Run.raised fault : Run α).entries = [] := rfl

@[simp] theorem entries_note_entered (call : LeafCall) (rest : Run α) :
    (Run.note (.entered call) rest).entries = call :: rest.entries := rfl

@[simp] theorem entries_note_called (name : String) (x : Value) (rest : Run α) :
    (Run.note (.called name x) rest).entries = rest.entries := rfl

@[simp] theorem entries_note_logged (entry : LogRecord) (rest : Run α) :
    (Run.note (.logged entry) rest).entries = rest.entries := rfl

/-- A run has to be waited for exactly if it enters a leaf that has to be. -/
theorem reachesAwait_eq_any_waits {run : Run α} (h : run.EntersInTime) :
    run.reachesAwait = run.atOnce.entries.any (·.waits) := by
  induction run with
  | done => rfl
  | raised => rfl
  | note event rest ih =>
    cases event with
    | entered call => simp [reachesAwait, atOnce, ih h.2, h.1 call rfl]
    | called => simpa [reachesAwait, atOnce] using ih h.2
    | logged => simpa [reachesAwait, atOnce] using ih h.2
  | await rest =>
    obtain ⟨call, following, hwaits, rfl⟩ := h
    simp [reachesAwait, atOnce, hwaits]

/-- A run that is refused where it would have to be waited for has entered the leaves before the
first one that has to be waited for. -/
theorem entries_refusingAwait {run : Run α} (h : run.EntersInTime) {refusal : Run α}
    (hrefusal : refusal.entries = []) :
    (run.refusingAwait refusal).entries =
      run.atOnce.entries.takeWhile fun call => !call.waits := by
  induction run with
  | done => rfl
  | raised => rfl
  | note event rest ih =>
    cases event with
    | entered call => simp [refusingAwait, atOnce, ih h.2, h.1 call rfl]
    | called => simpa [refusingAwait, atOnce] using ih h.2
    | logged => simpa [refusingAwait, atOnce] using ih h.2
  | await rest =>
    obtain ⟨call, following, hwaits, rfl⟩ := h
    simp [refusingAwait, atOnce, hwaits, hrefusal]

theorem atOnce_of_not_reachesAwait {run : Run α} (h : run.reachesAwait = false) :
    run.atOnce = run := by
  induction run with
  | done => rfl
  | raised => rfl
  | note event rest ih => simp [atOnce, ih h]
  | await => simp [reachesAwait] at h

/-- Waiting makes no difference to a run that answers at once, but for its ending with the signal
that ends an iteration. -/
theorem awaited_of_not_reachesAwait {run : Run α} (h : run.reachesAwait = false)
    (hends : ∀ message, run.outcome? ≠ some (.error (.endOfIteration message))) :
    run.awaited = run := by
  induction run with
  | done => rfl
  | raised fault =>
    have hfault : fault.awaited = fault := Fault.awaited_of_ne fun message hfault =>
      hends message (congrArg (fun fault => some (Except.error fault)) hfault)
    exact congrArg Run.raised hfault
  | note event rest ih => exact congrArg (Run.note event) (ih h hends)
  | await => simp [reachesAwait] at h

theorem outcome?_refusingAwait {run : Run α} (h : run.reachesAwait = true) (refusal : Run α) :
    (run.refusingAwait refusal).outcome? = refusal.outcome? := by
  induction run with
  | done => simp [reachesAwait] at h
  | raised => simp [reachesAwait] at h
  | note event rest ih => exact ih h
  | await => rfl

end Run

/-! ## Relations that validators keep -/

namespace RunRelation

/-- The second run is the first one with every point of waiting passed. -/
def answeringAtOnce : RunRelation where
  Holds r s := s = r.atOnce
  done _ := rfl
  raised _ := rfl
  logged _ _ _ h := by rw [h]; rfl
  bind h hnext := by rw [h, Run.atOnce_bind, funext hnext]

/-- The two runs differ in notes of leaves only. -/
def exceptEntries : RunRelation where
  Holds r s := s.withoutEntries = r.withoutEntries
  done _ := rfl
  raised _ := rfl
  logged _ _ _ h := by simp [Run.withoutEntries, h]
  bind h hnext := by rw [Run.withoutEntries_bind, Run.withoutEntries_bind, h, funext hnext]

/-- The second run notes its leaves in time. -/
def entersInTime : RunRelation where
  Holds _ s := s.EntersInTime
  done _ := trivial
  raised _ := trivial
  logged _ _ _ h := ⟨nofun, h⟩
  bind h hnext := h.bind hnext

end RunRelation

namespace Validator

/-- The validator with leaves that answer at once what they would answer after waiting. -/
def synchronous (v : Validator) : Validator := v.mapLeaves fun _ run x => (run x).atOnce

/-- The validator with leaves that note when their functions are carried out. -/
def traced (v : Validator) : Validator := v.mapLeaves fun leaf run x => (run x).entering leaf x

theorem evaluate_synchronous (v : Validator) (site : Site) (x : Value) :
    v.synchronous.evaluate site x = (v.evaluate site x).atOnce :=
  evaluate_mapLeaves (R := .answeringAtOnce) (fun _ _ _ => rfl) v site x

theorem withoutEntries_evaluate_traced (v : Validator) (site : Site) (x : Value) :
    (v.traced.evaluate site x).withoutEntries = (v.evaluate site x).withoutEntries :=
  evaluate_mapLeaves (R := .exceptEntries)
    (fun leaf run y => Run.withoutEntries_entering leaf y (run y)) v site x

theorem entersInTime_evaluate_traced (v : Validator) (site : Site) (x : Value) :
    (v.traced.evaluate site x).EntersInTime :=
  evaluate_mapLeaves (R := .entersInTime)
    (fun leaf run y => Run.entersInTime_entering leaf y (run y)) v site x

theorem reachesAwait_evaluate_traced (v : Validator) (site : Site) (x : Value) :
    (v.traced.evaluate site x).reachesAwait = (v.evaluate site x).reachesAwait := by
  rw [← Run.reachesAwait_withoutEntries, withoutEntries_evaluate_traced,
    Run.reachesAwait_withoutEntries]

theorem label_traced (v : Validator) : v.traced.label = v.label := label_mapLeaves v

/-- A validator whose leaves answer at once is never refused. -/
theorem validate_synchronous (v : Validator) (x : Value) (present : Bool) :
    v.synchronous.validate x present = v.synchronous.evaluate ⟨present, none⟩ x := by
  refine Run.refusingAwait_of_not_reachesAwait ?_ _
  rw [evaluate_synchronous]
  exact Run.reachesAwait_atOnce _

theorem withoutEntries_refusal_traced (v : Validator) :
    v.traced.refusal.withoutEntries = v.refusal := by
  simp only [refusal, label_traced, Run.withoutEntries]

theorem withoutEntries_validate_traced (v : Validator) (x : Value) (present : Bool) :
    (v.traced.validate x present).withoutEntries = (v.validate x present).withoutEntries := by
  simp only [validate, Run.withoutEntries_refusingAwait, withoutEntries_evaluate_traced,
    withoutEntries_refusal_traced]
  rfl

theorem validateAsync_eq_awaited (v : Validator) (x : Value) (present : Bool) :
    v.validateAsync x present = (v.synchronous.validate x present).awaited := by
  rw [validate_synchronous, evaluate_synchronous, Run.awaited_atOnce]
  rfl

/-- The run of all leaves made to answer at once decides what the synchronous entry point does. If
no leaf that has to be waited for is entered in it, it is the synchronous run. If one is, the
synchronous run is refused, and the leaves entered until then are those before the first one that
has to be waited for. -/
theorem validate_refuses_at_first_waiting_leaf (v : Validator) (x : Value) (present : Bool) :
    let run := v.traced.synchronous.evaluate ⟨present, none⟩ x
    run.withoutEntries = (v.synchronous.evaluate ⟨present, none⟩ x).withoutEntries ∧
      (v.traced.validate x present).withoutEntries = (v.validate x present).withoutEntries ∧
      ((∀ call ∈ run.entries, call.waits = false) →
        v.validate x present = v.synchronous.evaluate ⟨present, none⟩ x ∧
          v.traced.validate x present = run) ∧
      ((∃ call ∈ run.entries, call.waits = true) →
        (v.validate x present).outcome? = some (.error (.asyncReached (some v.label))) ∧
          (v.traced.validate x present).entries =
            run.entries.takeWhile fun call => !call.waits) := by
  intro run
  have hrun : run = (v.traced.evaluate ⟨present, none⟩ x).atOnce :=
    evaluate_synchronous v.traced _ x
  have htimely := entersInTime_evaluate_traced v ⟨present, none⟩ x
  have hreaches : (v.evaluate ⟨present, none⟩ x).reachesAwait = run.entries.any (·.waits) := by
    rw [← reachesAwait_evaluate_traced, hrun, Run.reachesAwait_eq_any_waits htimely]
  refine ⟨?_, withoutEntries_validate_traced v x present, fun hnone => ?_, fun hsome => ?_⟩
  · rw [hrun, evaluate_synchronous, Run.withoutEntries_atOnce, Run.withoutEntries_atOnce,
      withoutEntries_evaluate_traced]
  · have hnot : (v.evaluate ⟨present, none⟩ x).reachesAwait = false := by
      rw [hreaches]
      simpa using hnone
    have hnot' := (reachesAwait_evaluate_traced v ⟨present, none⟩ x).trans hnot
    constructor
    · rw [evaluate_synchronous, Run.atOnce_of_not_reachesAwait hnot]
      exact Run.refusingAwait_of_not_reachesAwait hnot _
    · rw [hrun, Run.atOnce_of_not_reachesAwait hnot']
      exact Run.refusingAwait_of_not_reachesAwait hnot' _
  · have hreach : (v.evaluate ⟨present, none⟩ x).reachesAwait = true := by
      rw [hreaches]
      simpa using hsome
    constructor
    · exact Run.outcome?_refusingAwait hreach v.refusal
    · rw [hrun]
      exact Run.entries_refusingAwait htimely rfl

/-- A leaf that accepts every value after waiting. -/
def validLater : Validator :=
  asyncLeaf "valid later" (fun _ => .ok true) fun x => .ok (Check.passed x)

/-- A leaf that answers at once is entered before the run is refused, and one that would come
after the first waiting leaf is not. -/
theorem validate_refuses_between_leaves :
    (∃ call ∈ ((allOf [valid, validLater, valid] none false).traced.synchronous.evaluate
      .plain .null).entries, call.waits = true) ∧
      ((allOf [valid, validLater, valid] none false).validate .null true).outcome? =
        some (.error (.asyncReached
          (some (allOf [valid, validLater, valid] none false).label))) ∧
      ((allOf [valid, validLater, valid] none false).traced.validate .null true).entries =
        [⟨"valid", .null, false⟩] := by
  have hwaits : ∃ call ∈ ((allOf [valid, validLater, valid] none false).traced.synchronous.evaluate
      .plain .null).entries, call.waits = true :=
    ⟨⟨"valid later", .null, true⟩, List.Mem.tail _ (List.Mem.head _), rfl⟩
  have h := (validate_refuses_at_first_waiting_leaf
    (allOf [valid, validLater, valid] none false) .null true).2.2.2 hwaits
  exact ⟨hwaits, h.1, h.2⟩

end Validator
end Conform
