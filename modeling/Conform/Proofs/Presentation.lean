import Conform.Environment.Standard
import Conform.Proofs.AlikeDefinitions
import Conform.Proofs.DefinitionFlaws
import Mathlib.Logic.Relation

/-
  What of a definition makes no difference to its verdicts. `Edit` is one change of the way in which
  a definition is put, at any of its nodes: another message, all failures gathered or only the first
  one, another order of constraints, members or fields, constraints of unknown types added or left
  out. Each of them changes one setting of one node, and of a setting a node uses only what
  `coreVerdict` and its constraints take from it. So every edit leads to a definition that is
  `Alike`: without faults if the first one is, and with the same verdicts.

  Main result: `load_verdict_of_edits`. If a definition can be loaded, and the validators of its
  nodes can be used, then any number of edits leads to a definition that can be loaded too; both
  validators answer every value, whether it is there or not, and with the same verdict. Nothing is
  claimed of what they find wrong with a value, in which the message and the order do show.
  That the validators can be used is needed: options with too many digits can be loaded, and end a
  validation in a fault (`validate_fails_on_unshowable_options`).
-/

namespace Conform.Definition

open Validator

/-! ## Edits -/

/-- The second map is the first one with one change of the way in which a node is put: of the map
itself, or of one that stands where a node makes validators of its settings. -/
inductive Edit : Entries → Entries → Prop where
  /-- Another message, or none. -/
  | message {entries entries' : Entries} (h : SameApart "message" entries entries') :
      Edit entries entries'
  /-- All failures instead of the first one, or the other way round. -/
  | collecting {entries entries' : Entries} (h : SameApart "collecting" entries entries') :
      Edit entries entries'
  /-- Constraints or members in another order. -/
  | permuted {entries entries' : Entries} {key : String} {xs ys : List Value}
      (hkey : key ∈ ["constraints", "validators"])
      (h : Sets key entries entries' (.list xs) (.list ys)) (hperm : xs.Perm ys) :
      Edit entries entries'
  /-- One more constraint, of no known type. What is to be said of its type must be such that it can
  be said. -/
  | constraintAdded {entries entries' constraint : Entries} {xs ys : List Value}
      (h : Sets "constraints" entries entries' (.list (xs ++ ys))
        (.list (xs ++ .map constraint :: ys)))
      (hunknown : isTyped (.map constraint) = false)
      (hshown : (setting constraint "type").isShowable = true) : Edit entries entries'
  /-- One constraint less, which was of no known type. -/
  | constraintLeftOut {entries entries' constraint : Entries} {xs ys : List Value}
      (h : Sets "constraints" entries entries' (.list (xs ++ .map constraint :: ys))
        (.list (xs ++ ys)))
      (hunknown : isTyped (.map constraint) = false) : Edit entries entries'
  /-- Fields with different names in another order. -/
  | fieldsPermuted {entries entries' fields fields' : Entries}
      (h : Sets "fields" entries entries' (.map fields) (.map fields'))
      (hnames : (fields.map fun field => field.1.display).Nodup) (hperm : fields.Perm fields') :
      Edit entries entries'
  /-- An edit of a node that a setting is. -/
  | node {entries entries' fields fields' : Entries} {key : String}
      (hkey : key ∈ ["items", "validator", "condition", "then", "otherwise"])
      (h : Sets key entries entries' (.map fields) (.map fields')) (hedit : Edit fields fields') :
      Edit entries entries'
  /-- An edit of a node in a list. -/
  | member {entries entries' fields fields' : Entries} {key : String} {xs ys : List Value}
      (hkey : key ∈ ["items", "validators", "constraints"])
      (h : Sets key entries entries' (.list (xs ++ .map fields :: ys))
        (.list (xs ++ .map fields' :: ys)))
      (hedit : Edit fields fields') : Edit entries entries'
  /-- An edit of the node of a field. -/
  | field {entries entries' fields fields' before after : Entries} {name : Value}
      (h : Sets "fields" entries entries' (.map (before ++ (name, .map fields) :: after))
        (.map (before ++ (name, .map fields') :: after)))
      (hedit : Edit fields fields') : Edit entries entries'

section

variable {entries entries' fields fields' : Entries} {key : String}

/-- A constraint of no known type is left out, wherever it stands. -/
theorem filter_isTyped_of_unknown {xs ys : List Value} {x : Value} (h : isTyped x = false) :
    (xs ++ x :: ys).filter isTyped = (xs ++ ys).filter isTyped := by
  rw [List.filter_append, List.filter_append, List.filter_cons_of_neg (by rw [h]; simp)]

/-- One setting is changed, which does not name the whole. -/
theorem Edit.exists_sameApart (h : Edit entries entries') :
    ∃ key, key ≠ "self" ∧ SameApart key entries entries' := by
  cases h with
  | message h => exact ⟨_, by simp, h⟩
  | collecting h => exact ⟨_, by simp, h⟩
  | permuted hkey h => exact ⟨_, by rintro rfl; simp at hkey, h.same⟩
  | constraintAdded h => exact ⟨_, by simp, h.same⟩
  | constraintLeftOut h => exact ⟨_, by simp, h.same⟩
  | fieldsPermuted h => exact ⟨_, by simp, h.same⟩
  | node hkey h => exact ⟨_, by rintro rfl; simp at hkey, h.same⟩
  | member hkey h => exact ⟨_, by rintro rfl; simp at hkey, h.same⟩
  | field h => exact ⟨_, by simp, h.same⟩

/-- Keys that name settings still do after an edit. -/
theorem Edit.namesSetting (h : Edit entries entries')
    (hall : ∀ entry ∈ entries, namesSetting entry.1 = true) :
    ∀ entry ∈ entries', namesSetting entry.1 = true := by
  obtain ⟨key, hself, hsame⟩ := h.exists_sameApart
  intro entry hentry
  by_cases hedited : (Value.str key).equals entry.1 = true
  · rw [equals_str_iff.mp hedited]
    simpa [Definition.namesSetting] using hself
  · have hkept : entry ∈ entries'.filter fun entry => !(Value.str key).equals entry.1 :=
      List.mem_filter.mpr ⟨hentry, by simpa using hedited⟩
    rw [hsame] at hkept
    exact hall entry (List.mem_filter.mp hkept).1

theorem namesSetting_of_edits (h : Relation.ReflTransGen Edit entries entries')
    (hall : ∀ entry ∈ entries, namesSetting entry.1 = true) :
    ∀ entry ∈ entries', namesSetting entry.1 = true := by
  induction h with
  | refl => exact hall
  | tail _ hedit ih => exact hedit.namesSetting ih

section

variable [Environment]

theorem alike_of_members {xs ys : List Value} (hkey : key = "validators")
    (h : Sets key entries entries' (.list xs) (.list ys)) (hmembers : MembersAlike xs ys) :
    Alike (.map entries) (.map entries') := by
  subst hkey
  exact h.same.alike (by simp) (fun _ => coreAlike_of_members h hmembers)
    fun _ => h.same.constraintsAlike (by simp)

theorem alike_of_constraints {xs ys : List Value}
    (h : Sets "constraints" entries entries' (.list xs) (.list ys))
    (hmembers : MembersAlike (xs.filter isTyped) (ys.filter isTyped))
    (hshown : (∀ x ∈ xs, (setting (entriesOf x) "type").isShowable = true) →
      ∀ y ∈ ys, (setting (entriesOf y) "type").isShowable = true) :
    Alike (.map entries) (.map entries') :=
  h.same.alike (by simp) (fun type => h.same.coreAlike (by cases type <;> simp [usedKeys]))
    fun _ => constraintsAlike_of_members h hmembers hshown

theorem alike_of_fields
    (h : Sets "fields" entries entries' (.map fields) (.map fields'))
    (hshown : (∀ field ∈ fields, field.1.isShowable = true) →
      ∀ field ∈ fields', field.1.isShowable = true)
    (hfaultless : (∀ field ∈ fields, Faultless field.2) → ∀ field ∈ fields', Faultless field.2)
    (hjudged : (∀ field ∈ fields, Faultless field.2) → ∀ strict,
      mapVerdict judge (.map fields') strict = mapVerdict judge (.map fields) strict) :
    Alike (.map entries) (.map entries') :=
  h.same.alike (by simp) (fun _ => coreAlike_of_fields h hshown hfaultless hjudged)
    fun _ => h.same.constraintsAlike (by simp)

theorem SameApart.alike_of_unused (h : SameApart key entries entries')
    (hkey : key ∈ ["message", "collecting"]) : Alike (.map entries) (.map entries') := by
  have hused : ∀ type, key ∉ usedKeys type := by
    intro type
    cases type <;> simp [usedKeys] at hkey ⊢ <;> grind
  refine h.alike ?_ (fun type => h.coreAlike (hused type)) fun _ => h.constraintsAlike ?_
  · simp at hkey ⊢
    grind
  · simp at hkey
    grind

theorem membersAlike_filter_of_alike {xs ys : List Value} {x x' : Value} (h : Alike x x') :
    MembersAlike ((xs ++ x :: ys).filter isTyped) ((xs ++ x' :: ys).filter isTyped) := by
  have htyped : isTyped x' = isTyped x := by rw [isTyped, isTyped, h.typed]
  cases hx : isTyped x with
  | true =>
    rw [List.filter_append, List.filter_append, List.filter_cons_of_pos hx,
      List.filter_cons_of_pos (htyped.trans hx)]
    exact membersAlike_of_alike h
  | false =>
    rw [filter_isTyped_of_unknown hx, filter_isTyped_of_unknown (htyped.trans hx)]
    exact .refl _

theorem alike_of_node (hkey : key ∈ ["items", "validator", "condition", "then", "otherwise"])
    (h : Sets key entries entries' (.map fields) (.map fields'))
    (halike : Alike (.map fields) (.map fields')) : Alike (.map entries) (.map entries') := by
  have hcore : ∀ type, CoreAlike type entries entries' := by
    intro type
    cases type with
    | list =>
      by_cases hitems : key = "items"
      · subst hitems
        exact coreAlike_of_item h halike
      · exact h.same.coreAlike fun hused => hitems (List.mem_singleton.mp hused)
    | negation => exact h.coreAlike_negation halike
    | choice => exact h.coreAlike_choice halike
    | _ =>
      refine h.same.coreAlike ?_
      simp [usedKeys] at hkey ⊢ <;> grind
  refine h.same.alike ?_ hcore fun _ => h.same.constraintsAlike ?_
  · simp at hkey ⊢
    grind
  · simp at hkey
    grind

/-- By induction on the edit: what is edited stays alike, and so does all that is around it. -/
theorem Edit.alike (h : Edit entries entries') : Alike (.map entries) (.map entries') := by
  induction h with
  | message h => exact h.alike_of_unused (by simp)
  | collecting h => exact h.alike_of_unused (by simp)
  | permuted hkey h hperm =>
    cases List.mem_cons.mp hkey with
    | inl hconstraints =>
      subst hconstraints
      exact alike_of_constraints h (membersAlike_of_perm (hperm.filter isTyped))
        fun hxs y hy => hxs y (hperm.mem_iff.mpr hy)
    | inr hmembers =>
      exact alike_of_members (List.mem_singleton.mp hmembers) h (membersAlike_of_perm hperm)
  | constraintAdded h hunknown hshown =>
    refine alike_of_constraints h ?_ fun hxs => ?_
    · rw [filter_isTyped_of_unknown hunknown]
      exact .refl _
    · rw [List.forall_mem_append] at hxs
      rw [List.forall_mem_append, List.forall_mem_cons]
      exact ⟨hxs.1, hshown, hxs.2⟩
  | constraintLeftOut h hunknown =>
    refine alike_of_constraints h ?_ fun hxs => ?_
    · rw [filter_isTyped_of_unknown hunknown]
      exact .refl _
    · rw [List.forall_mem_append, List.forall_mem_cons] at hxs
      rw [List.forall_mem_append]
      exact ⟨hxs.1, hxs.2.2⟩
  | fieldsPermuted h hnames hperm =>
    exact alike_of_fields h (fun hall field hfield => hall field (hperm.mem_iff.mpr hfield))
      (fun hall field hfield => hall field (hperm.mem_iff.mpr hfield))
      fun _ strict => mapVerdict_of_perm hperm hnames strict
  | node hkey h _ ih => exact alike_of_node hkey h ih
  | @member _ _ _ _ key xs ys hkey h _ ih =>
    simp only [List.mem_cons, List.not_mem_nil, or_false] at hkey
    obtain hitems | hmembers | hconstraints := hkey
    · subst hitems
      refine h.same.alike (by simp) (fun type => ?_) fun _ => h.same.constraintsAlike (by simp)
      cases type with
      | list => exact coreAlike_of_place h ih
      | _ => exact h.same.coreAlike (by simp [usedKeys])
    · exact alike_of_members hmembers h (membersAlike_of_alike ih)
    · subst hconstraints
      refine alike_of_constraints h (membersAlike_filter_of_alike ih) fun hall => ?_
      rw [List.forall_mem_append, List.forall_mem_cons] at hall ⊢
      exact ⟨hall.1, by rw [ih.shown]; exact hall.2.1, hall.2.2⟩
  | field h _ ih =>
    refine alike_of_fields h (fun hall => ?_) (fun hall => ?_) fun hall strict => ?_
    · rw [List.forall_mem_append, List.forall_mem_cons] at hall ⊢
      exact hall
    · rw [List.forall_mem_append, List.forall_mem_cons] at hall ⊢
      exact ⟨hall.1, ih.faultless hall.2.1, hall.2.2⟩
    · rw [List.forall_mem_append, List.forall_mem_cons] at hall
      exact mapVerdict_of_judge (ih.judged hall.2.1) strict

theorem alike_of_edits (h : Relation.ReflTransGen Edit entries entries') :
    Alike (.map entries) (.map entries') := by
  induction h with
  | refl => exact .refl _
  | tail _ hedit ih => exact ih.trans hedit.alike

end

end

/-! ## Loading -/

section

variable [Environment] {source : Source} {entries : Entries} {v : Validator}

/-- A map that was loaded has nothing wrong with it, and its validator is the one of the outermost
node. -/
theorem node_of_load (hread : source.read.outcome? = some (.ok (.map entries)))
    (hload : (load source).outcome? = some (.ok v)) :
    (∀ kind, ¬ FlawedRoot (.map entries) kind) ∧
      ((part (.map entries)).node "$").outcome? = some (.ok v) := by
  have hsound : ∀ kind, ¬ FlawedRoot (.map entries) kind := by
    obtain ⟨-, hnone⟩ | ⟨fault, hfault, -⟩ := failsBy_load hread
    · exact hnone
    · rw [hload] at hfault
      cases hfault
  have hcreate : (create (.map entries)).outcome? = some (.ok v) :=
    (Run.outcome?_bind_of_ok ofDocument hread).symm.trans hload
  refine ⟨hsound, ?_⟩
  unfold create at hcreate
  dsimp only at hcreate
  split at hcreate
  · obtain ⟨_, -, hnode⟩ := Run.outcome?_bind_eq_ok.mp hcreate
    exact hnode
  · cases hcreate

theorem not_flawedRoot_iff :
    (∀ kind, ¬ FlawedRoot (.map entries) kind) ↔
      (∀ entry ∈ entries, namesSetting entry.1 = true) ∧
        ∀ y, Builds (.map entries) y → ownFlaws y = [] := by
  simp only [FlawedRoot, Flawed, entriesOf, not_or, not_and, not_exists,
    List.eq_nil_iff_forall_not_mem]
  constructor
  · intro h
    exact ⟨fun entry hentry => by simpa using (h .type).1 rfl entry hentry,
      fun y hy kind hkind => (h kind).2 y hy hkind⟩
  · intro h kind
    exact ⟨fun _ entry hentry => by simp [h.1 entry hentry], fun y hy => h.2 y hy kind⟩

theorem exists_load (hread : source.read.outcome? = some (.ok (.map entries)))
    (h : ∀ kind, ¬ FlawedRoot (.map entries) kind) :
    ∃ v, (load source).outcome? = some (.ok v) := by
  obtain ⟨hok, -⟩ | ⟨fault, -, hflawed⟩ := failsBy_load hread
  · exact hok
  · exact absurd hflawed (h fault.kind)

end

/-- Of a definition that was loaded and whose validators can be used, any number of edits makes one
that can be loaded too. Both validators answer every value, and with the same verdict. -/
theorem load_verdict_of_edits [Environment] {source source' : Source}
    {entries entries' : Entries} {v : Validator}
    (hread : source.read.outcome? = some (.ok (.map entries)))
    (hread' : source'.read.outcome? = some (.ok (.map entries')))
    (hload : (load source).outcome? = some (.ok v))
    (husable : ∀ y, Builds (.map entries) y → isUsable y = true)
    (hedits : Relation.ReflTransGen Edit entries entries') :
    ∃ w, (load source').outcome? = some (.ok w) ∧
      ∀ (x : Value) (present : Bool), x.isShowable = true →
        ∃ r s, (v.validate x present).outcome? = some (.ok r) ∧
          (w.validate x present).outcome? = some (.ok s) ∧ s.isValid = r.isValid := by
  obtain ⟨hsound, hnode⟩ := node_of_load hread hload
  obtain ⟨hnames, hflaws⟩ := not_flawedRoot_iff.mp hsound
  have hfaultless : Faultless (.map entries) := fun y hy => ⟨hflaws y hy, husable y hy⟩
  have halike := alike_of_edits hedits
  have hnames' := namesSetting_of_edits hedits hnames
  have hfaultless' := halike.faultless hfaultless
  obtain ⟨w, hload'⟩ := exists_load hread'
    (not_flawedRoot_iff.mpr ⟨hnames', fun y hy => (hfaultless' y hy).1⟩)
  have hv := (judges_of_faultless _ hfaultless).1 "$" v hnode
  have hw := (judges_of_faultless _ hfaultless').1 "$" w (node_of_load hread' hload').2
  refine ⟨w, hload', fun x present hshown => ?_⟩
  obtain ⟨r, hr, hvalid⟩ := hv.exists_validate hshown present
  obtain ⟨s, hs, hvalid'⟩ := hw.exists_validate hshown present
  refine ⟨r, s, hr, hs, ?_⟩
  rw [hvalid, hvalid', halike.judged hfaultless]

/-- The members of a group the other way round, one of them with a message, and all failures
gathered. -/
theorem load_verdict_of_edited_group :
    ∃ v, (@load .standard (.value (.map [(.str "type", .str "all"), (.str "validators", .list [
        .map [(.str "type", .str "int")],
        .map [(.str "type", .str "range"), (.str "min", .int 1)]])]))).outcome? = some (.ok v) ∧
      ∃ w, (@load .standard (.value (.map [(.str "type", .str "all"), (.str "validators", .list [
        .map [(.str "type", .str "range"), (.str "min", .int 1), (.str "message", .str "low")],
        .map [(.str "type", .str "int")]]), (.str "collecting", .bool true)]))).outcome? =
          some (.ok w) ∧
      ∀ (x : Value) (present : Bool), x.isShowable = true →
        ∃ r s, (v.validate x present).outcome? = some (.ok r) ∧
          (w.validate x present).outcome? = some (.ok s) ∧ s.isValid = r.isValid := by
  have hsets : ∀ xs ys : List Value,
      Sets "validators" [(.str "type", .str "all"), (.str "validators", .list xs)]
        [(.str "type", .str "all"), (.str "validators", .list ys)] (.list xs) (.list ys) := by
    intro xs ys
    constructor <;> simp [SameApart, Entries.get?, Entries.find?, Value.equals]
  have hpermuted := Edit.permuted (by simp) (hsets _ _)
    (.swap (.map [(.str "type", .str "range"), (.str "min", .int 1)])
      (.map [(.str "type", .str "int")]) [])
  have hmessage : Edit [(.str "type", .str "range"), (.str "min", .int 1)]
      [(.str "type", .str "range"), (.str "min", .int 1), (.str "message", .str "low")] :=
    .message (by simp [SameApart, Value.equals])
  have hmember := @Edit.member _ _ _ _ _ [] [.map [(.str "type", .str "int")]] (by simp)
    (hsets _ _) hmessage
  have hcollecting : ∀ xs : List Value,
      Edit [(.str "type", .str "all"), (.str "validators", .list xs)]
        [(.str "type", .str "all"), (.str "validators", .list xs),
          (.str "collecting", .bool true)] :=
    fun xs => .collecting (by simp [SameApart, Value.equals])
  have husable : passesBuilt isUsable 2 (.map [(.str "type", .str "all"),
      (.str "validators", .list [.map [(.str "type", .str "int")],
        .map [(.str "type", .str "range"), (.str "min", .int 1)]])]) = true := by
    decide +kernel
  have hloads : (@load .standard (.value (.map [(.str "type", .str "all"),
      (.str "validators", .list [.map [(.str "type", .str "int")],
        .map [(.str "type", .str "range"), (.str "min", .int 1)]])]))).answer?.isSome = true := by
    decide +kernel
  obtain ⟨v, hload⟩ := Run.exists_of_isSome_answer? hloads
  exact ⟨v, hload, @load_verdict_of_edits .standard _ _ _ _ _ rfl rfl hload
    (fun y hy => of_passesBuilt husable hy)
    (.tail (.tail (.single hpermuted) hmember) (hcollecting _))⟩

/-- Options with too many digits are loaded, but a value that is none of them cannot be told what is
expected of it. -/
theorem validate_fails_on_unshowable_options :
    (@load .standard (.value (.map [(.str "type", .str "one_of"),
      (.str "values", .list [.int (Int.ofNat Text.tooLong)])]))).answer?.isSome = true ∧
    ((@load .standard (.value (.map [(.str "type", .str "one_of"),
      (.str "values", .list [.int (Int.ofNat Text.tooLong)])]))).bind fun v =>
        v.validate (.int 1) true).faultKind? = some .value := by
  decide +kernel

end Conform.Definition
