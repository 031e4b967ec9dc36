import Conform.Proofs.ChainOperations

/-
  A step into a map is a barrier. What a chain has when the step is taken is put into its lead, and
  no later operation looks there: whatever comes behind the step acts as it would on a fresh chain.
  `Behind base fresh running` is what a chain behind such a step has in common with a fresh one on
  which the same operations were carried out, `base` being the lead up to the step. Every operation
  keeps it (`Behind.apply`), and so does a sequence; at the end the running chain builds what the
  fresh one builds, with the base around it (`Behind.build`).
-/

namespace Conform.Chain

/-- The chains have the same constraints where these count, the same coercion and the same way of
combining. The lead of the second chain is the base around that of the first. -/
structure Behind (base : Wrapper) (fresh running : Chain) : Prop where
  pre : running.pre = fresh.pre
  post : fresh.coercion ≠ none → running.post = fresh.post
  coercion : running.coercion = fresh.coercion
  collecting : running.collecting = fresh.collecting
  lead : running.lead = some (match fresh.lead with
    | some lead => base.around lead
    | none => base)

namespace Behind

variable {base : Wrapper} {fresh running : Chain}

theorem active (h : Behind base fresh running) : running.active = fresh.active := by
  cases hc : fresh.coercion with
  | none => rw [active_of_coercion_none hc, active_of_coercion_none (h.coercion.trans hc), h.pre]
  | some coercion =>
    have hpost := h.post (by rw [hc]; exact nofun)
    rw [active_of_coercion_some hc, active_of_coercion_some (h.coercion.trans hc), hpost]

theorem setActive (h : Behind base fresh running) (vs : List Validator) :
    Behind base (fresh.setActive vs) (running.setActive vs) := by
  unfold Chain.setActive
  rw [h.coercion]
  split
  · exact { h with post := fun _ => rfl, coercion := rfl }
  · exact { h with pre := rfl, coercion := rfl }

theorem wrap (h : Behind base fresh running) (w : Wrapper) :
    Agree (Behind base) (fresh.wrap w) (running.wrap w) := by
  have haround : Agree (Behind base)
      ((w (join fresh.collecting fresh.active)).map fun v => fresh.setActive [v])
      ((w (join running.collecting running.active)).map fun v => running.setActive [v]) := by
    rw [h.active, h.collecting]
    cases w (join fresh.collecting fresh.active) with
    | error fault => rfl
    | ok v => exact h.setActive [v]
  cases hc : fresh.coercion with
  | none => rwa [wrap_of_coercion_eq_none hc, wrap_of_coercion_eq_none (h.coercion.trans hc)]
  | some coercion =>
    by_cases hnil : fresh.active = []
    · -- Right after a coercion it is the coercion that is wrapped, on both chains.
      rw [wrap_of_active_eq_nil hc hnil,
        wrap_of_active_eq_nil (h.coercion.trans hc) (h.active.trans hnil)]
      have hpost := h.post (by rw [hc]; exact nofun)
      exact { h with coercion := rfl, post := fun _ => hpost }
    · have hrunning : running.active ≠ [] := by rwa [h.active]
      rwa [wrap_of_active_ne_nil hnil, wrap_of_active_ne_nil hrunning]

theorem coerce (h : Behind base fresh running) (kind : CoercionKind) (w : Wrapper)
    (keepsPre : Bool) :
    Behind base (fresh.coerce kind w keepsPre).1 (running.coerce kind w keepsPre).1 := by
  unfold Chain.coerce
  rw [h.coercion, h.pre]
  cases fresh.coercion with
  | none => exact { h with pre := rfl, post := fun _ => rfl, coercion := rfl }
  | some before =>
    dsimp only
    split
    · exact { h with pre := rfl, post := fun _ => rfl, coercion := rfl }
    · exact { h with pre := rfl, post := fun _ => rfl, coercion := rfl }

/-- Another step into a map goes behind the lead of both chains. -/
theorem pluck (h : Behind base fresh running) (key : Value) :
    Agree (Behind base) (fresh.pluck key) (running.pluck key) := by
  unfold Chain.pluck
  rw [h.coercion, h.pre, h.lead]
  cases hc : fresh.coercion with
  | some coercion => rfl
  | none =>
    refine { h with pre := rfl, post := fun hsome => absurd rfl hsome, coercion := rfl, lead := ?_ }
    cases fresh.lead with
    | none => rfl
    | some lead => exact congrArg some (Wrapper.around_assoc base lead _)

/-- Every operation keeps what the chains have in common, or fails on both. -/
theorem apply (h : Behind base fresh running) (op : Operation) :
    Agree (Behind base) (op.apply fresh) (op.apply running) := by
  cases op with
  | add v =>
    have hactive := h.active
    change Behind base (fresh.setActive (fresh.active ++ [v]))
      (running.setActive (running.active ++ [v]))
    rw [hactive]
    exact h.setActive _
  | wrap w => exact h.wrap w
  | coerce kind w keepsPre => exact h.coerce kind w keepsPre
  | collect collecting => exact { h with collecting := rfl }
  | pluck key => exact h.pluck key

theorem core (h : Behind base fresh running) : running.core = fresh.core := by
  unfold Chain.core
  rw [h.coercion, h.collecting, h.pre]
  cases hc : fresh.coercion with
  | none => rfl
  | some coercion =>
    have hpost := h.post (by rw [hc]; exact nofun)
    rw [hpost]

/-- The running chain builds what the fresh one builds, behind the base. -/
theorem build (h : Behind base fresh running) : running.build = fresh.build.bind base := by
  unfold Chain.build
  rw [h.core, h.lead]
  cases fresh.core with
  | error fault => rfl
  | ok v =>
    cases fresh.lead with
    | none => rfl
    | some lead => rfl

end Behind

/-- A step into a map leaves a chain behind which nothing is known yet. -/
theorem behind_pluck {c plucked : Chain} {key : Value} (hc : c.coercion = none)
    (h : c.pluck key = .ok plucked) :
    Behind (match c.lead with
      | some lead => lead.around (pluckAfter c.pre key)
      | none => pluckAfter c.pre key) { collecting := c.collecting } plucked := by
  unfold Chain.pluck at h
  rw [hc] at h
  obtain rfl := Except.ok.inj h
  exact { pre := rfl, post := fun hsome => absurd rfl hsome, coercion := rfl, collecting := rfl,
          lead := rfl }

/-- From a step into a map on, a chain without a coercion does what a fresh chain does: the same
operations fail, and what is built is what the fresh chain builds, put behind the constraints that
the chain had at the step, and behind its lead. -/
theorem build_after_pluck (c : Chain) (key : Value) (ops : List Operation)
    (h : c.coercion = none) :
    ∃ plucked, c.pluck key = .ok plucked ∧
      faults ops plucked = faults ops { collecting := c.collecting } ∧
      (carryOut ops plucked).build =
        (carryOut ops { collecting := c.collecting }).build.bind fun b =>
          (c.lead.getD .ok) (.allOf (c.pre ++ [.pluckKey key b]) none false) := by
  obtain ⟨plucked, hplucked⟩ : ∃ plucked, c.pluck key = .ok plucked := by
    unfold Chain.pluck
    rw [h]
    exact ⟨_, rfl⟩
  obtain ⟨hbehind, hfaults⟩ :=
    carryOut_agrees (fun op _ _ hbehind => Behind.apply hbehind op) ops (behind_pluck h hplucked)
  refine ⟨plucked, hplucked, hfaults.symm, ?_⟩
  rw [hbehind.build]
  congr 1
  funext b
  cases c.lead with
  | none => rfl
  | some lead => rfl

/-- A chain that has stepped into a map before, and asks for another map there. -/
def inside : Chain where
  pre := [.isMap none]
  lead := some (pluckAfter [.isMap none] (.str "outer"))

/-- A change of the text, a coercion that drops the constraints so far, a step into a map that
comes too late, and a constraint. -/
def dropping : List Operation := [
  .wrap fun v => .ok (Conversion.trimmed.apply v none),
  .coerce .int (fun v => .ok (Conversion.int.apply v none)) false,
  .pluck (.str "late"),
  .add .valid]

/-- The coercion drops the change of the text, and neither of the two constraints before the step
into the map. -/
theorem coercion_drops_nothing_before_pluck :
    inside.coercion = none ∧ ∃ plucked, inside.pluck (.str "inner") = .ok plucked ∧
      faults dropping plucked =
        [none, none, some (.pluckAfterCoercion (.str "late") .int), none] ∧
      (carryOut dropping plucked).build = .ok (.allOf [.isMap none, .pluckKey (.str "outer")
        (.allOf [.isMap none, .pluckKey (.str "inner") (Conversion.int.apply .valid none)]
          none false)] none false) := by
  obtain ⟨plucked, hplucked, hfaults, hbuild⟩ :=
    build_after_pluck inside (.str "inner") dropping rfl
  refine ⟨rfl, plucked, hplucked, ?_, ?_⟩
  · rw [hfaults]
    rfl
  · rw [hbuild]
    rfl

end Conform.Chain
