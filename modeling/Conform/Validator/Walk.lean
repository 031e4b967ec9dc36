import Conform.Run

/-
  Walks: how a combination goes through its members. A walk starts at once. If a member has to be
  waited for, the rest of the walk is taken over where it stands, with what has been gathered so
  far, and from there on every member is waited for. `start_eq_onward`: it makes no difference
  where a walk is taken over, or whether it is.
-/

namespace Conform

/-- What a combination does with its members, in order. -/
structure Walk (ι σ : Type) where
  /-- The run of a member, given what has been gathered before it. -/
  visit : ι → σ → Run Result
  /-- The result that ends the walk, or what has been gathered with the member. -/
  step : ι → Result → σ → Except Fault (Result ⊕ σ)
  /-- The result when every member has been visited. -/
  finish : σ → Result

namespace Walk

variable {ι σ : Type} (w : Walk ι σ)

/-- What a step leads to: the result that ends the walk, or the rest of the walk. -/
def afterStep (member : ι) (r : Result) (gathered : σ) (rest : σ → Run Result) : Run Result :=
  (Run.ofExcept (w.step member r gathered)).bind (Sum.elim .done rest)

/-- The rest of a walk that has been taken over: every member is waited for. -/
def onward : List ι → σ → Run Result
  | [], gathered => .done (w.finish gathered)
  | member :: rest, gathered =>
    (w.visit member gathered).bind fun r => w.afterStep member r gathered (onward rest)

/-- A walk that is taken over at a member, whose run is already under way. -/
def resume (member : ι) (pending : Run Result) (rest : List ι) (gathered : σ) : Run Result :=
  pending.bind fun r => w.afterStep member r gathered (w.onward rest)

/-- A walk up to the first point of waiting, where it is taken over. -/
def start : List ι → σ → Run Result
  | [], gathered => .done (w.finish gathered)
  | member :: rest, gathered =>
    (w.visit member gathered).takenOver
      (fun r => w.afterStep member r gathered (start rest))
      (fun pending => w.resume member pending rest gathered)

theorem start_eq_onward (members : List ι) (gathered : σ) :
    w.start members gathered = w.onward members gathered := by
  induction members generalizing gathered with
  | nil => rfl
  | cons member rest ih =>
    have hrest : w.start rest = w.onward rest := funext ih
    rw [start, onward, hrest]
    exact Run.takenOver_bind _ _

@[simp] theorem start_nil (gathered : σ) : w.start [] gathered = .done (w.finish gathered) := rfl

theorem start_cons (member : ι) (rest : List ι) (gathered : σ) :
    w.start (member :: rest) gathered =
      (w.visit member gathered).bind fun r => w.afterStep member r gathered (w.start rest) := by
  rw [start_eq_onward, onward, show w.onward rest = w.start rest from
    funext fun _ => (w.start_eq_onward rest _).symm]

end Walk
end Conform
