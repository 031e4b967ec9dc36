import Conform.Proofs.Alike
import Conform.Proofs.ChainWrappers

/-
  The operations on a chain, as data. A sequence of operations is carried out on a chain one after
  the other. An operation that fails leaves the chain as it was, and the next one goes on from
  there; `faults` says which of them failed, and why. A relation between two chains that every
  operation keeps is kept by a whole sequence, and the same operations fail on both chains
  (`carryOut_agrees`). A step of a builder does at most one operation (`Step.operation?`), so what
  the operations keep is kept by steps, also if they only keep it under conditions that the steps
  meet (`following_keeps_of_operations`).
-/

namespace Conform

namespace Chain

inductive Operation where
  | add (v : Validator)
  | wrap (w : Wrapper)
  | coerce (kind : CoercionKind) (w : Wrapper) (keepsPre : Bool)
  | collect (collecting : Bool)
  | pluck (key : Value)

namespace Operation

/-- The chain that an operation makes of a chain, or why it cannot. -/
def apply : Operation → Chain → Except Fault Chain
  | .add v, c => .ok (c.add v)
  | .wrap w, c => c.wrap w
  | .coerce kind w keepsPre, c => .ok (c.coerce kind w keepsPre).1
  | .collect collecting, c => .ok { c with collecting := collecting }
  | .pluck key, c => c.pluck key

/-- The chain after an operation, which may have failed. -/
def after (op : Operation) (c : Chain) : Chain :=
  match op.apply c with
  | .ok changed => changed
  | .error _ => c

/-- Why an operation fails, if it does. -/
def fault? (op : Operation) (c : Chain) : Option Fault :=
  match op.apply c with
  | .ok _ => none
  | .error fault => some fault

end Operation

def carryOut (ops : List Operation) (c : Chain) : Chain := ops.foldl (fun c op => op.after c) c

/-- For each operation in turn, why it fails if it does. -/
def faults : List Operation → Chain → List (Option Fault)
  | [], _ => []
  | op :: ops, c => op.fault? c :: faults ops (op.after c)

theorem carryOut_cons (op : Operation) (ops : List Operation) (c : Chain) :
    carryOut (op :: ops) c = carryOut ops (op.after c) := rfl

/-- What holds between two chains, and is kept by every operation carried out on both, is kept by
any sequence of them, which then also fails in the same way on both. -/
theorem carryOut_agrees {R : Chain → Chain → Prop}
    (hkeeps : ∀ (op : Operation) (c d : Chain), R c d → Agree R (op.apply c) (op.apply d))
    (ops : List Operation) {c d : Chain} (h : R c d) :
    R (carryOut ops c) (carryOut ops d) ∧ faults ops c = faults ops d := by
  induction ops generalizing c d with
  | nil => exact ⟨h, rfl⟩
  | cons op ops ih =>
    have hagree := hkeeps op c d h
    have hboth : R (op.after c) (op.after d) ∧ op.fault? c = op.fault? d := by
      unfold Operation.after Operation.fault?
      cases hc : op.apply c <;> cases hd : op.apply d <;> rw [hc, hd] at hagree
      · exact ⟨h, congrArg some hagree⟩
      · exact hagree.elim
      · exact hagree.elim
      · exact ⟨hagree, rfl⟩
    obtain ⟨hrest, hfaults⟩ := ih hboth.1
    rw [carryOut_cons, carryOut_cons, faults, faults, hboth.2, hfaults]
    exact ⟨hrest, rfl⟩

end Chain

namespace Builder

/-! ## Steps of a builder -/

/-- The operation that a step does on the chain, if it does one. -/
def Step.operation? (s : Step) (view : View) (c : Chain) : Option Chain.Operation :=
  match s.wrapping? with
  | some (w, message) => some (.wrap fun v => (w v).map (decorate view.negated message))
  | none =>
    match s with
    | .constrain constraint message =>
      match constraint.validator? with
      | .ok v => some (.add (decorate view.negated message v))
      | .error _ => none
    | .collectAll => some (.collect true)
    | .coerce coercion message keepsPre =>
      if coercion.isInstalled c then none
      else some (.coerce coercion.kind (coercion.wrapper message) keepsPre)
    | .custom w keepsPre => some (.coerce .custom w keepsPre)
    | .split separator message =>
      some (.coerce .custom (fun v => .ok ((Conversion.pieces separator).apply v message)) true)
    | .pluck key => some (.pluck key)
    | _ => none

/-- A step does its operation on the chain, and nothing else. -/
theorem Step.chain_take (s : Step) (view : View) (c : Chain) :
    (s.take view c).chain = match s.operation? view c with
      | some op => op.after c
      | none => c := by
  unfold operation?
  cases hwrapping : s.wrapping? with
  | some wrapping =>
    obtain ⟨w, message⟩ := wrapping
    rw [take_of_wrapping hwrapping, wrapChain]
    dsimp only [Chain.Operation.after, Chain.Operation.apply]
    cases c.wrap fun v => (w v).map (decorate view.negated message) <;> rfl
  | none =>
    cases s with
    | wrap | explain | defaultTo | normalize | pick | flattenKeys => cases hwrapping
    | negate | nullable | optional | collectAll | custom | split => rfl
    | constrain constraint message =>
      rw [take, constrainChain]
      dsimp only
      cases constraint.validator? <;> rfl
    | coerce coercion message keepsPre =>
      rw [take]
      dsimp only
      cases coercion.isInstalled c <;> rfl
    | pluck key =>
      rw [take]
      dsimp only [Chain.Operation.after, Chain.Operation.apply]
      cases c.pluck key <;> rfl

/-- What a step leads to is the chain that it was taken on or what its operation makes of it. -/
theorem Step.chain_take_cases (s : Step) (view : View) (c : Chain) :
    (s.take view c).chain = c ∨ ∃ op : Chain.Operation, s.operation? view c = some op ∧
      op.apply c = .ok (s.take view c).chain := by
  rw [chain_take]
  cases s.operation? view c with
  | none => exact .inl rfl
  | some op =>
    dsimp only [Chain.Operation.after]
    cases happly : op.apply c with
    | error fault => exact .inl rfl
    | ok changed => exact .inr ⟨op, rfl, happly⟩

/-- A step does at most one operation on the chain. -/
theorem Step.chain_run (s : Step) (view : View) (c : Chain) :
    (s.run view c).chain = c ∨
      ∃ op : Chain.Operation, op.apply c = .ok (s.run view c).chain := by
  unfold run
  split
  · exact (s.chain_take_cases view c).imp_right fun ⟨op, _, hop⟩ => ⟨op, hop⟩
  · exact .inl rfl

/-- What operations keep under a condition is kept by steps on each other's results whose operations
meet it. -/
theorem following_keeps_of_operations {P : Chain.Operation → Chain → Prop} {I : Chain → Prop}
    (hkeeps : ∀ (op : Chain.Operation) (c d : Chain), P op c → I c → op.apply c = .ok d → I d)
    {steps : List Step} {view last : View} {c d : Chain}
    (halong : Along (fun s view c => ∀ op, s.operation? view c = some op → P op c) view c steps)
    (h : I c) (hfollowing : following view c steps = .ok (d, last)) : I d := by
  refine following_keeps (I := fun _ c => I c) (fun s view c next hs h hafter => ?_) halong h
    hfollowing
  rw [Step.run_of_after hafter]
  obtain hsame | ⟨op, hop, happly⟩ := s.chain_take_cases view c
  · rwa [hsame]
  · exact hkeeps op c _ (hs op hop) h happly

/-- What every operation keeps is kept by steps on each other's results. -/
theorem following_keeps_chain {I : Chain → Prop}
    (hkeeps : ∀ (op : Chain.Operation) (c d : Chain), I c → op.apply c = .ok d → I d)
    {steps : List Step} {view last : View} {c d : Chain} (h : I c)
    (hfollowing : following view c steps = .ok (d, last)) : I d := by
  have halong : Along (fun _ _ _ => True) view c steps :=
    along_of_forall (P := fun _ => True) (fun _ _ => trivial) view c
  exact following_keeps_of_operations (P := fun _ _ => True) (fun op c d _ => hkeeps op c d)
    (halong.mono fun _ _ _ _ _ _ => trivial) h hfollowing

theorem Draft.chain_step (d : Draft) (number : Nat) (s : Step) :
    (d.step number s).1.chain = (s.run (d.view number) d.chain).chain := by
  unfold Draft.step
  dsimp only
  split <;> rfl

end Builder
end Conform
