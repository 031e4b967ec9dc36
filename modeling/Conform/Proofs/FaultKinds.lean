import Conform.Fault
import Conform.Run

/-
  How runs that do not wait end: what all their answers have in common (`Run.AllAnswers`), and what
  kinds of faults they end in (`Run.FailsBy`). A run that fails by kinds gives an answer if there is
  none of them, and otherwise ends in a fault of one of them; which of several it is, is left open.
-/

namespace Conform

namespace Run

variable {α β : Type}

/-- Every answer that the run can give without waiting has the property. -/
def AllAnswers (run : Run α) (P : α → Prop) : Prop := ∀ a, run.outcome? = some (.ok a) → P a

theorem allAnswers_done {P : α → Prop} {a : α} (h : P a) : (Run.done a).AllAnswers P := by
  intro b hb
  cases hb
  exact h

theorem allAnswers_raised {P : α → Prop} (fault : Fault) :
    (Run.raised fault : Run α).AllAnswers P := nofun

theorem allAnswers_bind {P : β → Prop} {run : Run α} {next : α → Run β}
    (h : ∀ a, (next a).AllAnswers P) : (run.bind next).AllAnswers P := by
  intro b hb
  obtain ⟨a, -, hnext⟩ := outcome?_bind_eq_ok.mp hb
  exact h a b hnext

theorem AllAnswers.bind {P : α → Prop} {Q : β → Prop} {run : Run α} {next : α → Run β}
    (h : run.AllAnswers P) (hnext : ∀ a, P a → (next a).AllAnswers Q) :
    (run.bind next).AllAnswers Q := by
  intro b hb
  obtain ⟨a, ha, hnextb⟩ := outcome?_bind_eq_ok.mp hb
  exact hnext a (h a ha) b hnextb

theorem allAnswers_ofExcept {P : α → Prop} {made : Except Fault α}
    (h : ∀ a, made = .ok a → P a) : (ofExcept made).AllAnswers P := by
  intro a ha
  rw [outcome?_ofExcept] at ha
  exact h a (Option.some.inj ha)

/-- The run gives an answer if nothing is wrong, and otherwise ends in a fault of a kind that is
wrong. -/
def FailsBy (run : Run α) (wrong : FaultKind → Prop) : Prop :=
  ((∃ a, run.outcome? = some (.ok a)) ∧ ∀ kind, ¬ wrong kind) ∨
    ∃ fault, run.outcome? = some (.error fault) ∧ wrong fault.kind

def answer? (run : Run α) : Option α :=
  match run.outcome? with
  | some (.ok a) => some a
  | _ => none

theorem exists_of_isSome_answer? {run : Run α} (h : run.answer?.isSome = true) :
    ∃ a, run.outcome? = some (.ok a) := by
  unfold answer? at h
  split at h
  · next a ha => exact ⟨a, ha⟩
  · cases h

def faultKind? (run : Run α) : Option FaultKind :=
  match run.outcome? with
  | some (.error fault) => some fault.kind
  | _ => none

variable {wrong wrong' : FaultKind → Prop}

theorem failsBy_done (a : α) (h : ∀ kind, ¬ wrong kind) : (Run.done a).FailsBy wrong :=
  .inl ⟨⟨a, rfl⟩, h⟩

theorem failsBy_raised {fault : Fault} (h : wrong fault.kind) :
    (Run.raised fault : Run α).FailsBy wrong :=
  .inr ⟨fault, rfl, h⟩

theorem FailsBy.of_iff {run : Run α} (h : run.FailsBy wrong)
    (hiff : ∀ kind, wrong kind ↔ wrong' kind) : run.FailsBy wrong' := by
  have hsame : wrong = wrong' := funext fun kind => propext (hiff kind)
  rwa [← hsame]

/-- What is wrong with one run after another is wrong with one of the two. -/
theorem FailsBy.bind {run : Run α} {next : α → Run β} (h : run.FailsBy wrong)
    (hnext : ∀ a, run.outcome? = some (.ok a) → (next a).FailsBy wrong') :
    (run.bind next).FailsBy fun kind => wrong kind ∨ wrong' kind := by
  obtain ⟨⟨a, ha⟩, hnone⟩ | ⟨fault, hfault, hwrong⟩ := h
  · rw [FailsBy, outcome?_bind_of_ok next ha]
    obtain ⟨hok, hnone'⟩ | ⟨fault, hfault, hwrong⟩ := hnext a ha
    · exact .inl ⟨hok, fun kind h => h.elim (hnone kind) (hnone' kind)⟩
    · exact .inr ⟨fault, hfault, .inr hwrong⟩
  · exact .inr ⟨fault, outcome?_bind_of_error next hfault, .inl hwrong⟩

/-- A run that only makes something else of the answer goes wrong as before. -/
theorem FailsBy.bind_done {run : Run α} (h : run.FailsBy wrong) (f : α → β) :
    (run.bind fun a => .done (f a)).FailsBy wrong :=
  (h.bind fun a _ => failsBy_done (f a) fun _ => not_false).of_iff fun _ => or_false _ ▸ Iff.rfl

/-- What is only noted on the way is not wrong. -/
theorem failsBy_note (event : Event) {rest : Run α} (h : rest.FailsBy wrong) :
    (Run.note event rest).FailsBy wrong := h

end Run

end Conform
