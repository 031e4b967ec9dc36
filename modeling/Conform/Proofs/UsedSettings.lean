import Conform.Proofs.DefinitionVerdicts

/-
  What a node uses of its settings. Entries that are the same apart from one key have the same
  settings under the other ones (`SameApart`, `Sets`), and of a setting a node uses only what its
  type and its constraints take from it (`core_congr`). A definition is without faults if this is in
  order for the node and all nodes below it (`faultless_map_iff`).
-/

namespace Conform.Definition

open Validator

/-! ## Settings that are used -/

/-- The settings that a type of nodes has of its own. -/
def usedKeys : NodeType → List String
  | .list => ["items"]
  | .map => ["fields", "strict"]
  | .allOf | .anyOf | .noneOf => ["validators"]
  | .negation => ["validator"]
  | .equal => ["value"]
  | .oneOf => ["values"]
  | .range | .length => ["min", "max"]
  | .pattern => ["pattern"]
  | .choice => ["condition", "then", "otherwise"]
  | _ => []

/-- The entries are the same, in the same order, apart from those under the key. -/
def SameApart (key : String) (entries entries' : Entries) : Prop :=
  entries'.filter (fun entry => !(Value.str key).equals entry.1) =
    entries.filter fun entry => !(Value.str key).equals entry.1

/-- The entries are the same apart from the value that they have under the key. -/
structure Sets (key : String) (entries entries' : Entries) (x x' : Value) : Prop where
  same : SameApart key entries entries'
  before : Entries.get? entries key = some x
  after : Entries.get? entries' key = some x'

theorem equals_str_iff {key : String} {x : Value} :
    (Value.str key).equals x = true ↔ x = .str key := by
  cases x with
  | str other =>
    have hequals : (Value.str key).equals (.str other) = (key == other) := by rw [Value.equals]
    rw [hequals, beq_iff_eq]
    exact ⟨fun h => congrArg Value.str h.symm, fun h => (Value.str.inj h).symm⟩
  | _ => simp [Value.equals]

section

variable {key : String} {entries entries' : Entries} {x x' : Value}

theorem SameApart.get? (h : SameApart key entries entries') {other : String}
    (hother : other ≠ key) : Entries.get? entries' other = Entries.get? entries other := by
  have hfilter : ∀ es : Entries,
      Entries.get? (es.filter fun entry => !(Value.str key).equals entry.1) other =
        Entries.get? es other := by
    intro es
    rw [Entries.get?, Entries.find?, List.find?_filter, Entries.get?, Entries.find?]
    congr 2
    funext entry
    rw [Bool.eq_iff_iff, decide_eq_true_iff, and_iff_right_iff_imp, equals_str_iff]
    intro hentry
    rw [hentry, Bool.not_eq_true', ← Bool.not_eq_true, equals_str_iff]
    exact fun hsame => hother (Value.str.inj hsame)
  rw [← hfilter entries', h, hfilter]

theorem SameApart.setting_eq (h : SameApart key entries entries') {other : String}
    (hother : other ≠ key) : setting entries' other = setting entries other := by
  rw [Definition.setting, Definition.setting, h.get? hother]

theorem Sets.setting_before (h : Sets key entries entries' x x') : setting entries key = x :=
  setting_of_get? h.before

theorem Sets.setting_after (h : Sets key entries entries' x x') : setting entries' key = x' :=
  setting_of_get? h.after

theorem Sets.isNone_eq (h : Sets key entries entries' x x') (other : String) :
    (Entries.get? entries' other).isNone = (Entries.get? entries other).isNone := by
  by_cases hsame : other = key
  · rw [hsame, h.before, h.after]
    rfl
  · rw [h.same.get? hsame]

/-- A node looks at the settings of its type only. -/
theorem core_congr [Environment] (type : NodeType)
    (h : ∀ key ∈ usedKeys type, Entries.get? entries' key = Entries.get? entries key) :
    coreFlaws type entries' = coreFlaws type entries ∧
      isUsableAs type entries' = isUsableAs type entries ∧
      coreParts type entries' = coreParts type entries ∧
      ∀ j, coreVerdict j type entries' = coreVerdict j type entries := by
  have hgiven : ∀ key ∈ usedKeys type, given? entries' key = given? entries key := by
    intro key hkey
    rw [given?, given?, setting, setting, h key hkey]
  cases type <;> simp only [usedKeys, List.forall_mem_cons] at h hgiven <;>
    simp [coreFlaws, rangeFlaws, misfits, givenBounds, isUsableAs, coreParts, setting,
      List.filterMap_cons, h, hgiven, funext_iff, coreVerdict, rangeVerdict, boundChecks]

end

/-! ## Nodes in order -/

section

variable [Environment]

/-- A type of nodes takes from the settings what is in order, apart from the constraints. -/
structure CoreFaultless (type : NodeType) (entries : Entries) : Prop where
  flaws : coreFlaws type entries = []
  usable : isUsableAs type entries = true
  parts : ∀ y ∈ coreParts type entries, Faultless y

structure ConstraintsFaultless (type : NodeType) (entries : Entries) : Prop where
  flaws : constraintFlaws type entries = []
  parts : ∀ y ∈ knownConstraints entries, Faultless y

theorem faultless_map_iff (entries : Entries) :
    Faultless (.map entries) ↔ (setting entries "type").isShowable = true ∧
      ∃ type, typeOf? (.map entries) = some type ∧ CoreFaultless type entries ∧
        ConstraintsFaultless type entries := by
  rw [faultless_iff]
  cases htype : typeOf? (.map entries) with
  | none =>
    rw [ownFlaws_of_no_type htype]
    simp
  | some type =>
    rw [ownFlaws_of_type htype, builtParts_of_type htype, isUsable, htype, List.append_eq_nil_iff,
      List.append_eq_nil_iff, flawIf_eq_nil, Bool.not_eq_false', List.forall_mem_append]
    constructor
    · intro h
      obtain ⟨⟨⟨hshown, hcore, hconstraints⟩, husable⟩, hparts, hknown⟩ := h
      exact ⟨hshown, type, rfl, ⟨hcore, husable, hparts⟩, ⟨hconstraints, hknown⟩⟩
    · intro h
      obtain ⟨hshown, type', hsame, hcore, hconstraints⟩ := h
      cases hsame
      exact ⟨⟨⟨hshown, hcore.flaws, hconstraints.flaws⟩, hcore.usable⟩, hcore.parts,
        hconstraints.parts⟩

end

end Conform.Definition
