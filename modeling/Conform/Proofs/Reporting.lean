import Conform.Proofs.Awaiting
import Conform.Proofs.Composition

/-
  Runs that account for their faults. `Reports` relates the runs in which calls are noted to the
  run in which they are not: they are the same apart from the notes, and a fault comes only right
  after the note of the call that raised it. What nodes do with the runs of their children keeps
  the relation: one run after another (`Accounted.bind`) and walks (`accounted_start`).
  `Reports.exists_isJournal` reads off the calls of a run, the last one being the only one that may
  have failed.
-/

namespace Conform

namespace Run

variable {α β : Type}

/-- A run for every way to write calls down, against the run without calls. All of them end with
the same answer, which has the property, or with the fault of the last call. -/
inductive Reports (Q : α → Prop) : ((UserCall → LeafCall) → Run α) → Run α → Prop
  | done {a : α} (h : Q a) : Reports Q (fun _ => .done a) (.done a)
  | called (name : String) (x : Value) {noted : (UserCall → LeafCall) → Run α} {plain : Run α}
      (h : Reports Q noted plain) :
      Reports Q (fun write => .note (.called name x) (noted write)) (.note (.called name x) plain)
  | logged (entry : LogRecord) {noted : (UserCall → LeafCall) → Run α} {plain : Run α}
      (h : Reports Q noted plain) :
      Reports Q (fun write => .note (.logged entry) (noted write)) (.note (.logged entry) plain)
  | entered (call : LeafCall) {noted : (UserCall → LeafCall) → Run α} {plain : Run α}
      (h : Reports Q noted plain) : Reports Q noted (.note (.entered call) plain)
  | await {noted : (UserCall → LeafCall) → Run α} {plain : Run α} (h : Reports Q noted plain) :
      Reports Q (fun write => .await (noted write)) (.await plain)
  | answered {callee : Callee} (x : Value) (hcallee : callee ≠ .keyTexts)
      {noted : (UserCall → LeafCall) → Run α} {plain : Run α} (h : Reports Q noted plain) :
      Reports Q (fun write => .note (.entered (write ⟨callee, x, none⟩)) (noted write)) plain
  | failed {callee : Callee} {x : Value} {fault : Fault}
      (hcall : UserCall.IsWarranted ⟨callee, x, some fault⟩) :
      Reports Q (fun write => .note (.entered (write ⟨callee, x, some fault⟩)) (.raised fault))
        (.raised fault)

/-- A run for every observer that accounts for its faults. -/
def Accounted (Q : α → Prop) (run : Observer → Run α) : Prop :=
  Reports Q (fun write => run (some write)) (run none)

/-! ## Journals -/

/-- The calls of a run in order: those that are noted, whatever way they are written down. -/
structure IsJournal (Q : α → Prop) (run : Observer → Run α) (calls : List UserCall) : Prop where
  /-- With all waiting done, exactly the calls are noted. -/
  entries : ∀ write, (run (some write)).atOnce.entries = calls.map write
  /-- Noting calls changes nothing else. -/
  withoutEntries : ∀ write, (run (some write)).withoutEntries = (run none).withoutEntries
  warranted : ∀ call ∈ calls, call.IsWarranted
  /-- If every call answers, then so does the run. -/
  answers : (∀ call ∈ calls, call.fault = none) →
    ∃ a, (run none).atOnce.outcome? = some (.ok a) ∧ Q a
  /-- If a call fails, then its fault is that of the run, and no other call comes after it. -/
  fails : ∀ call ∈ calls, ∀ fault, call.fault = some fault →
    (run none).atOnce.outcome? = some (.error fault) ∧
      ∃ earlier, calls = earlier ++ [call] ∧ ∀ other ∈ earlier, other.fault = none

theorem Reports.exists_calls {Q : α → Prop} {noted : (UserCall → LeafCall) → Run α}
    {plain : Run α} (h : Reports Q noted plain) :
    ∃ calls : List UserCall, (∀ write, (noted write).atOnce.entries = calls.map write) ∧
      (∀ write, (noted write).withoutEntries = plain.withoutEntries) ∧
      (∀ call ∈ calls, call.IsWarranted) ∧
      ((∀ call ∈ calls, call.fault = none) →
        ∃ a, plain.atOnce.outcome? = some (.ok a) ∧ Q a) ∧
      ∀ call ∈ calls, ∀ fault, call.fault = some fault →
        plain.atOnce.outcome? = some (.error fault) ∧
          ∃ earlier, calls = earlier ++ [call] ∧ ∀ other ∈ earlier, other.fault = none := by
  induction h with
  | @done a h => exact ⟨[], fun _ => rfl, fun _ => rfl, nofun, fun _ => ⟨a, rfl, h⟩, nofun⟩
  | called name x _ ih =>
    obtain ⟨calls, hentries, hplain, houtcome⟩ := ih
    exact ⟨calls, hentries, fun write => congrArg (note (.called name x)) (hplain write), houtcome⟩
  | logged entry _ ih =>
    obtain ⟨calls, hentries, hplain, houtcome⟩ := ih
    exact ⟨calls, hentries, fun write => congrArg (note (.logged entry)) (hplain write), houtcome⟩
  | entered call _ ih => exact ih
  | await _ ih =>
    obtain ⟨calls, hentries, hplain, houtcome⟩ := ih
    exact ⟨calls, hentries, fun write => congrArg Run.await (hplain write), houtcome⟩
  | @answered callee x hcallee _ _ _ ih =>
    obtain ⟨calls, hentries, hplain, hwarranted, hanswers, hfails⟩ := ih
    refine ⟨⟨callee, x, none⟩ :: calls, fun write => ?_, hplain,
      List.forall_mem_cons.mpr ⟨fun h => absurd h hcallee, hwarranted⟩, fun hall => ?_,
      fun call hcall fault hfault => ?_⟩
    · exact congrArg _ (hentries write)
    · exact hanswers fun call hcall => hall call (List.mem_cons_of_mem _ hcall)
    · cases hcall with
      | head => cases hfault
      | tail _ hcall =>
        obtain ⟨houtcome, earlier, rfl, hearlier⟩ := hfails call hcall fault hfault
        exact ⟨houtcome, ⟨callee, x, none⟩ :: earlier, rfl,
          List.forall_mem_cons.mpr ⟨rfl, hearlier⟩⟩
  | @failed callee x fault hcall =>
    refine ⟨[⟨callee, x, some fault⟩], fun _ => rfl, fun _ => rfl,
      List.forall_mem_singleton.mpr hcall, fun hall => ?_, fun call hcall other hfault => ?_⟩
    · cases hall _ List.mem_cons_self
    · obtain rfl := List.mem_singleton.mp hcall
      obtain rfl := Option.some.inj hfault
      exact ⟨rfl, [], rfl, nofun⟩

/-- A run that accounts for its faults has a journal. -/
theorem Accounted.exists_isJournal {Q : α → Prop} {run : Observer → Run α}
    (h : Accounted Q run) : ∃ calls, IsJournal Q run calls := by
  obtain ⟨calls, hentries, hplain, hwarranted, hanswers, hfails⟩ := h.exists_calls
  exact ⟨calls, hentries, hplain, hwarranted, hanswers, hfails⟩

/-! ## Closure -/

theorem accounted_done {Q : α → Prop} {a : α} (h : Q a) : Accounted Q fun _ => .done a := .done h

theorem Reports.bind {Q : α → Prop} {Q' : β → Prop} {noted : (UserCall → LeafCall) → Run α}
    {plain : Run α} (h : Reports Q noted plain) {next : (UserCall → LeafCall) → α → Run β}
    {next' : α → Run β} (hnext : ∀ a, Q a → Reports Q' (fun write => next write a) (next' a)) :
    Reports Q' (fun write => (noted write).bind (next write)) (plain.bind next') := by
  induction h with
  | done h => exact hnext _ h
  | called name x _ ih => exact .called name x ih
  | logged entry _ ih => exact .logged entry ih
  | entered call _ ih => exact .entered call ih
  | await _ ih => exact .await ih
  | answered x hcallee _ ih => exact .answered x hcallee ih
  | failed hcall => exact .failed hcall

theorem Accounted.bind {Q : α → Prop} {Q' : β → Prop} {run : Observer → Run α}
    (h : Accounted Q run) {next : Observer → α → Run β}
    (hnext : ∀ a, Q a → Accounted Q' fun o => next o a) :
    Accounted Q' fun o => (run o).bind (next o) :=
  Reports.bind h hnext

theorem Accounted.mono {Q Q' : α → Prop} {run : Observer → Run α} (h : Accounted Q run)
    (himplies : ∀ a, Q a → Q' a) : Accounted Q' run := by
  have hbind : Accounted Q' fun o => (run o).bind .done :=
    h.bind fun a ha => accounted_done (himplies a ha)
  simpa using hbind

/-- A call of a function accounts for the fault of the function. -/
theorem accounted_observed {Q : α → Prop} (callee : Callee) (hcallee : callee ≠ .keyTexts)
    (x : Value) {run : Run α} (h : ∀ a, run.atOnce.outcome? = some (.ok a) → Q a) :
    Accounted Q fun o => run.observed o callee x := by
  change Reports Q (fun write => run.concluding fun fault => write ⟨callee, x, fault⟩) run
  induction run with
  | done a => exact .answered x hcallee (.done (h a rfl))
  | raised fault => exact .failed fun hkeys => absurd hkeys hcallee
  | note event rest ih =>
    cases event with
    | called name y => exact .called name y (ih h)
    | entered call => exact .entered call (ih h)
    | logged entry => exact .logged entry (ih h)
  | await rest ih => exact .await (ih h)

/-- A walk accounts for its faults if what it does with each member does. -/
theorem accounted_start {ι σ γ : Type} (w : Walk ι σ) (member : Observer → γ → ι)
    {Q : Result → Prop} {members : List γ}
    (hstep : ∀ m ∈ members, ∀ s, Accounted (Sum.elim Q fun _ => True) fun o =>
      (w.visit (member o m) s).bind fun r => ofExcept (w.step (member o m) r s))
    (hfinish : ∀ s, Q (w.finish s)) (s : σ) :
    Accounted Q fun o => w.start (members.map (member o)) s := by
  induction members generalizing s with
  | nil => exact accounted_done (hfinish s)
  | cons m rest ih =>
    have hstart : (fun o => w.start ((m :: rest).map (member o)) s) = fun o =>
        ((w.visit (member o m) s).bind fun r => ofExcept (w.step (member o m) r s)).bind
          (Sum.elim .done (w.start (rest.map (member o)))) := by
      funext o
      rw [List.map_cons, Walk.start_cons, bind_assoc]
      rfl
    rw [hstart]
    refine (hstep m List.mem_cons_self s).bind fun next hnext => ?_
    cases next with
    | inl out => exact accounted_done hnext
    | inr s => exact ih (fun m hm => hstep m (List.mem_cons_of_mem _ hm)) s

end Run
end Conform
