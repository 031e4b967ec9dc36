import Conform.Proofs.NodeVerdicts

/-
  What the validators of a definition decide. `judge` is what the validator of a value decides, and
  `judge_map` says that for a map it is what its settings say.

  Main result: `judges_of_faultless`. If no node that is built of a value has a flaw, and the
  validators of all of them can be used, then the validator of the value judges: it answers every
  value at once, whether its key is there or not and whatever map is around it, and hands it back
  as it is.
-/

namespace Conform

namespace Definition

open Validator

/-! ## Settings of any node -/

section

variable [Environment] {j : Value → Verdict}

theorem allAnswers_constraintsFrom {xs : List Value}
    (hparts : ∀ x ∈ xs.filter isTyped, BuildsJudges j x) (path : String) (index : Nat) :
    (constraintsFrom path index (xs.map part)).AllAnswers fun vs =>
      List.Forall₂ Judges vs ((xs.filter isTyped).map j) := by
  induction xs generalizing index with
  | nil => exact Run.allAnswers_done .nil
  | cons x xs ih =>
    rw [List.map_cons, constraintsFrom, typeName_part]
    refine Run.allAnswers_bind fun _ => ?_
    cases htype : NodeType.ofName? (typeNameOf x) with
    | none =>
      rw [List.filter_cons_of_neg (not_isTyped_of_unnamed htype)] at hparts ⊢
      exact Run.allAnswers_bind fun _ => ih hparts (index + 1)
    | some type =>
      rw [List.filter_cons_of_pos (isTyped_of_named htype)] at hparts ⊢
      rw [List.forall_mem_cons] at hparts
      refine (hparts.1 (placeOf path "constraints" index)).bind fun v hv => ?_
      refine (ih hparts.2 (index + 1)).bind fun vs hvs => ?_
      exact Run.allAnswers_done (.cons hv hvs)

theorem allAnswers_constraintsOf {entries : Entries}
    (hparts : ∀ x ∈ knownConstraints entries, BuildsJudges j x) (path : String) :
    (constraintsOf (settingsOf entries) path).AllAnswers fun vs =>
      List.Forall₂ Judges vs ((knownConstraints entries).map j) := by
  unfold constraintsOf knownConstraints setting at *
  rw [get?_settingsOf]
  cases hget : entries.get? "constraints" with
  | none => exact Run.allAnswers_done .nil
  | some x =>
    rw [hget] at hparts
    cases x with
    | list xs =>
      have hnodes := allAnswers_constraintsFrom hparts path 0
      rwa [← items_part_list] at hnodes
    | _ => exact Run.allAnswers_raised _

end

/-- A validator with constraints accepts what it accepts itself and what all of them accept. One
that needs the enclosing map has none. -/
theorem allAnswers_constrained {v : Validator} {d : Verdict} {vs : List Validator}
    {ds : List Verdict} (hflags : v.flags = {}) (hv : v.Judges d)
    (hvs : List.Forall₂ Judges vs ds)
    (hplain : v.isContextual = false → ∀ site x, d site x = d .plain x) (path type : String) :
    (constrained path type v vs).AllAnswers fun w =>
      w.flags = {} ∧ w.isContextual = v.isContextual ∧
        w.Judges fun site x => d site x && ds.all fun constraint => constraint .plain x := by
  cases hvs with
  | nil =>
    refine Run.allAnswers_done ⟨hflags, rfl, hv.congr fun site x _ => ?_⟩
    rw [List.all_nil, Bool.and_true]
  | cons hconstraint hrest =>
    unfold constrained
    cases hcontextual : v.isContextual with
    | true => exact Run.allAnswers_raised _
    | false =>
      refine Run.allAnswers_done ⟨rfl, rfl, ?_⟩
      refine (judges_allOf (.cons hv (.cons hconstraint hrest)) none false).congr
        fun site x _ => ?_
      rw [List.all_cons, hplain hcontextual site x]

theorem judges_explained {v : Validator} {d : Verdict} (h : v.Judges d)
    (hplain : v.isContextual = false → ∀ site x, d site x = d .plain x) (s : Settings) :
    (explained s v).Judges d := by
  unfold explained
  cases hcontextual : v.isContextual with
  | true => exact h
  | false => exact h.withMessage? (hplain hcontextual) _

theorem flags_explained {v : Validator} (h : v.flags = {}) (s : Settings) :
    (explained s v).flags = {} := by
  unfold explained Validator.withMessage?
  split
  · exact h
  · split
    · rfl
    · exact h

section

variable [Environment]

theorem judges_flagged {v : Validator} {d : Verdict} (h : v.Judges d) (hflags : v.flags = {})
    (entries : Entries) :
    (flagged (settingsOf entries) v).Judges fun site x =>
      (flagsOf entries).letPass site x || d site x := by
  unfold flagged flagsOf
  rw [isOn_settingsOf, isOn_settingsOf]
  cases (setting entries "nullable").isTruthy <;> cases (setting entries "optional").isTruthy
  case false.false =>
    refine h.congr fun site x _ => ?_
    rw [Flags.letPass_unset, Bool.false_or]
  all_goals exact h.withFlags hflags _

/-- What the validator of a node decides, if the nodes that are built for it decide what is
said. -/
theorem allAnswers_nodeOf {j : Value → Verdict} {entries : Entries}
    (hparts : ∀ x ∈ builtParts (.map entries), BuildsJudges j x)
    (husable : isUsable (.map entries) = true) (path : String) :
    (nodeOf (settingsOf entries) path).AllAnswers fun v => v.Judges (nodeVerdict j entries) := by
  unfold nodeOf
  rw [typeName_settingsOf, ← typeOf?]
  refine Run.allAnswers_bind fun _ => ?_
  cases htype : typeOf? (.map entries) with
  | none => exact Run.allAnswers_raised _
  | some type =>
    rw [builtParts_of_type htype] at hparts
    rw [isUsable, htype] at husable
    obtain ⟨hcoreParts, hknown⟩ := List.forall_mem_append.mp hparts
    have hcore : (coreNode type (settingsOf entries) path).AllAnswers fun v =>
        v.isContextual = (type == .choice) ∧ v.flags = {} ∧ v.Judges (coreVerdict j type entries) :=
      fun v hv => ⟨isContextual_of_coreNode hv, decides_coreNode hcoreParts husable path v hv⟩
    have hconstraints := allAnswers_constraintsOf hknown path
    refine hcore.bind fun v hv => ?_
    obtain ⟨hcontextual, hflags, hjudges⟩ := hv
    have hplain : v.isContextual = false → ∀ site x,
        coreVerdict j type entries site x = coreVerdict j type entries .plain x := by
      intro hv site x
      refine coreVerdict_plain (fun hchoice => ?_) entries site x
      rw [hv, hchoice] at hcontextual
      cases hcontextual
    refine Run.allAnswers_bind fun _ => hconstraints.bind fun vs hvs => ?_
    refine (allAnswers_constrained hflags hjudges hvs hplain path _).bind fun w hw => ?_
    obtain ⟨hflags, hsame, hjudges⟩ := hw
    have hexplained := judges_explained hjudges (s := settingsOf entries) fun hw site x => by
      rw [hplain (hsame.symm.trans hw) site x]
    have hflagged := judges_flagged hexplained (flags_explained hflags _) entries
    refine Run.allAnswers_done (hflagged.congr fun site x _ => ?_)
    rw [nodeVerdict, htype, Option.any_some, List.all_map]
    rfl

/-! ## What a value decides -/

/-- What the validator of the value decides about values that can be shown. -/
def judge (x : Value) (site : Site) (y : Value) : Bool :=
  site.shows y && (((part x).node "$").bind fun v => v.evaluate site y).verdict? == some true

/-- No node that is built of the value, or below it, has a flaw, and the validators of all of them
can be used. -/
def Faultless (x : Value) : Prop := ∀ y, Builds x y → ownFlaws y = [] ∧ isUsable y = true

theorem faultless_iff (x : Value) :
    Faultless x ↔ (ownFlaws x = [] ∧ isUsable x = true) ∧ ∀ y ∈ builtParts x, Faultless y := by
  constructor
  · intro h
    exact ⟨h x (.self x), fun y hy z hz => h z (.inside hy hz)⟩
  · intro h y hy
    cases hy with
    | self => exact h.1
    | inside hpart hinside => exact h.2 _ hpart y hinside

theorem Faultless.exists_node {x : Value} (h : Faultless x) (path : String) :
    ∃ v, ((part x).node path).outcome? = some (.ok v) := by
  obtain ⟨hok, -⟩ | ⟨fault, -, y, hbuilds, hflaw⟩ := failsBy_node x path
  · exact hok
  · rw [(h y hbuilds).1] at hflaw
    cases hflaw

theorem judge_of_judges {x : Value} {v : Validator} {d : Verdict}
    (hnode : ((part x).node "$").outcome? = some (.ok v)) (h : v.Judges d) :
    judge x = fun site y => site.shows y && d site y := by
  funext site y
  rw [judge]
  cases hshows : site.shows y with
  | false => rfl
  | true =>
    obtain ⟨r, hr, hvalid, -⟩ := h.run site y hshows
    have hverdict : (((part x).node "$").bind fun v => v.evaluate site y).verdict? =
        some (d site y) := by
      refine Run.verdict?_bind.mpr ⟨v, hnode, ?_⟩
      rw [hr, Run.verdict?_done, hvalid]
    rw [hverdict]
    cases d site y <;> rfl

/-- By induction on the nodes: every validator of a faultless value decides what `judge` says, which
is what the settings say. -/
theorem judges_of_faultless (x : Value) : Faultless x →
    BuildsJudges judge x ∧ ∀ entries, x = .map entries →
      judge x = fun site y => site.shows y && nodeVerdict judge entries site y := by
  induction x using induction_builtParts with
  | h x ih =>
    intro hx
    obtain ⟨⟨hflaws, husable⟩, hbelow⟩ := (faultless_iff x).mp hx
    cases x with
    | map entries =>
      have hnode := allAnswers_nodeOf (fun y hy => (ih y hy (hbelow y hy)).1) husable
      obtain ⟨v, hv⟩ := hx.exists_node "$"
      have hjudge := judge_of_judges hv (hnode "$" v hv)
      refine ⟨fun path w hw => ?_, fun entries' hsame => ?_⟩
      · refine (hnode path w hw).congr fun site y hshows => ?_
        simp only [hjudge, hshows, Bool.true_and]
      · cases hsame
        exact hjudge
    | _ => cases hflaws

theorem judge_map {entries : Entries} (h : Faultless (.map entries)) :
    judge (.map entries) = fun site y => site.shows y && nodeVerdict judge entries site y :=
  (judges_of_faultless _ h).2 entries rfl

end

end Definition
end Conform
