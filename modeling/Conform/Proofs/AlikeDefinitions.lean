import Conform.Proofs.UsedSettings

/-
  Definitions that are alike: the second one is without faults if the first one is, and then decides
  the same (`Alike`). A node stays alike if one of its settings is changed that is no type and no
  flag, as long as what the node takes from the setting stays alike: members in another order, a
  member or a field that is alike, fields in another order.
-/

namespace Conform.Definition

open Validator

/-! ## Rules in another order -/

theorem insertRule_of_new {rules : List (Value × Verdict)} {key : Value} {d : Verdict}
    (h : ∀ rule ∈ rules, key.equals rule.1 = false) :
    insertRule rules key d = rules ++ [(key, d)] := by
  induction rules with
  | nil => rfl
  | cons rule rest ih =>
    rw [List.forall_mem_cons] at h
    rw [insertRule, h.1, if_neg Bool.false_ne_true, ih h.2, List.cons_append]

/-- Rules for different keys are kept as they are. -/
theorem rulesOf_of_different {pairs : List (Value × Verdict)}
    (h : pairs.Pairwise fun rule rule' => rule'.1.equals rule.1 = false) :
    rulesOf pairs = pairs := by
  have hfold : ∀ before : List (Value × Verdict),
      (before ++ pairs).Pairwise (fun rule rule' => rule'.1.equals rule.1 = false) →
      pairs.foldl (fun rules pair => insertRule rules pair.1 pair.2) before = before ++ pairs := by
    clear h
    induction pairs with
    | nil => exact fun before _ => (List.append_nil before).symm
    | cons pair rest ih =>
      intro before hbefore
      have hnew : ∀ rule ∈ before, pair.1.equals rule.1 = false := fun rule hrule =>
        (List.pairwise_append.mp hbefore).2.2 rule hrule pair List.mem_cons_self
      rw [List.append_cons] at hbefore
      rw [List.foldl_cons, insertRule_of_new hnew, ih _ hbefore, List.append_assoc]
      rfl
  exact hfold [] h

/-- What fields with different names ask is what each of them asks. -/
theorem fieldRules_of_nodup {j : Value → Verdict} {fields : Entries}
    (h : (fields.map fun field => field.1.display).Nodup) :
    fieldRules j fields = fields.map fun field => (.str field.1.display, j field.2) := by
  refine rulesOf_of_different ?_
  rw [List.Nodup, List.pairwise_map] at h
  rw [List.pairwise_map]
  refine h.imp fun hdifferent => ?_
  rw [← Bool.not_eq_true, equals_str_iff]
  exact fun hsame => hdifferent (Value.str.inj hsame)

theorem fieldsVerdict_of_perm {rules rules' : List (Value × Verdict)} (h : rules.Perm rules')
    (x : Value) : fieldsVerdict rules' x = fieldsVerdict rules x := by
  cases x with
  | map => exact h.symm.all_eq
  | _ => rfl

theorem keysVerdict_of_perm {declared declared' : List Value} (h : declared.Perm declared')
    (x : Value) : keysVerdict declared' x = keysVerdict declared x := by
  cases x with
  | map =>
    have hamong : ∀ key : Value, key.isAmong declared' = key.isAmong declared :=
      fun key => h.symm.any_eq
    simp only [keysVerdict, undeclared, hamong]
  | _ => rfl

/-! ## Definitions that are alike -/

section

variable [Environment]

/-- The second value is in order if the first one is, and then decides the same. As constraints,
both are of the same type. -/
structure Alike (x x' : Value) : Prop where
  typed : typeOf? x' = typeOf? x
  shown : setting (entriesOf x') "type" = setting (entriesOf x) "type"
  faultless : Faultless x → Faultless x'
  judged : Faultless x → judge x' = judge x

/-- The same of what a type of nodes takes from the settings. -/
structure CoreAlike (type : NodeType) (entries entries' : Entries) : Prop where
  faultless : CoreFaultless type entries → CoreFaultless type entries'
  judged : CoreFaultless type entries →
    coreVerdict judge type entries' = coreVerdict judge type entries

structure ConstraintsAlike (type : NodeType) (entries entries' : Entries) : Prop where
  faultless : ConstraintsFaultless type entries → ConstraintsFaultless type entries'
  judged : ConstraintsFaultless type entries → ∀ x,
    ((knownConstraints entries').all fun y => judge y .plain x) =
      (knownConstraints entries).all fun y => judge y .plain x

theorem Alike.refl (x : Value) : Alike x x := ⟨rfl, rfl, id, fun _ => rfl⟩

theorem Alike.trans {x y z : Value} (h : Alike x y) (h' : Alike y z) : Alike x z where
  typed := h'.typed.trans h.typed
  shown := h'.shown.trans h.shown
  faultless hx := h'.faultless (h.faultless hx)
  judged hx := (h'.judged (h.faultless hx)).trans (h.judged hx)

section

variable {key : String} {entries entries' : Entries} {type : NodeType}

/-- A node with another setting is alike if the setting is no type and no flag, and what it makes
of its settings is alike. -/
theorem SameApart.alike (h : SameApart key entries entries')
    (hkey : key ∉ ["type", "nullable", "optional"])
    (hcore : ∀ type, CoreAlike type entries entries')
    (hconstraints : ∀ type, ConstraintsAlike type entries entries') :
    Alike (.map entries) (.map entries') := by
  have hapart : ∀ other ∈ ["type", "nullable", "optional"], other ≠ key :=
    fun other hother hsame => hkey (hsame ▸ hother)
  have htype : typeOf? (.map entries') = typeOf? (.map entries) := by
    rw [typeOf?, typeOf?, typeNameOf, typeNameOf, h.get? (hapart "type" (by simp))]
  have hshown : setting entries' "type" = setting entries "type" :=
    h.setting_eq (hapart "type" (by simp))
  have hflags : flagsOf entries' = flagsOf entries := by
    rw [flagsOf, flagsOf, h.setting_eq (hapart "nullable" (by simp)),
      h.setting_eq (hapart "optional" (by simp))]
  have hfaultless : Faultless (.map entries) → Faultless (.map entries') := by
    intro hentries
    obtain ⟨hshowable, type, hof, hcores, hknown⟩ := (faultless_map_iff entries).mp hentries
    refine (faultless_map_iff entries').mpr ⟨?_, type, htype.trans hof,
      (hcore type).faultless hcores, (hconstraints type).faultless hknown⟩
    rw [hshown]
    exact hshowable
  refine ⟨htype, hshown, hfaultless, fun hentries => ?_⟩
  obtain ⟨-, type, hof, hcores, hknown⟩ := (faultless_map_iff entries).mp hentries
  rw [judge_map hentries, judge_map (hfaultless hentries)]
  funext site x
  rw [nodeVerdict, nodeVerdict, hflags, htype, hof, Option.any_some, Option.any_some,
    (hcore type).judged hcores, (hconstraints type).judged hknown]

/-- A setting that a type has no use for makes no difference to its nodes. -/
theorem SameApart.coreAlike (h : SameApart key entries entries') (hkey : key ∉ usedKeys type) :
    CoreAlike type entries entries' := by
  obtain ⟨hflaws, husable, hparts, hverdict⟩ := core_congr type fun other hother =>
    h.get? fun hsame => hkey (hsame ▸ hother)
  refine ⟨fun hcore => ⟨?_, ?_, ?_⟩, fun _ => hverdict judge⟩
  · rw [hflaws]
    exact hcore.flaws
  · rw [husable]
    exact hcore.usable
  · rw [hparts]
    exact hcore.parts

theorem SameApart.constraintsAlike (h : SameApart key entries entries')
    (hkey : key ≠ "constraints") : ConstraintsAlike type entries entries' := by
  have hget := h.get? hkey.symm
  have hknown : knownConstraints entries' = knownConstraints entries := by
    rw [knownConstraints, knownConstraints, setting, setting, hget]
  refine ⟨fun hconstraints => ⟨?_, ?_⟩, fun _ x => by rw [hknown]⟩
  · rw [constraintFlaws, hknown, misfits, setting, hget]
    exact hconstraints.flaws
  · rw [hknown]
    exact hconstraints.parts

/-! ## Members -/

/-- Lists of nodes that are in order if the first ones are, and then decide the same in some
order. -/
structure MembersAlike (xs ys : List Value) : Prop where
  faultless : (∀ y ∈ xs, Faultless y) → ∀ y ∈ ys, Faultless y
  judged : (∀ y ∈ xs, Faultless y) → (ys.map judge).Perm (xs.map judge)

variable {xs ys : List Value} {x x' : Value}

theorem MembersAlike.refl (xs : List Value) : MembersAlike xs xs := ⟨id, fun _ => .refl _⟩

theorem membersAlike_of_perm (h : xs.Perm ys) : MembersAlike xs ys :=
  ⟨fun hxs y hy => hxs y (h.mem_iff.mpr hy), fun _ => (h.map judge).symm⟩

theorem forall_faultless_of_alike (h : Alike x x')
    (hall : ∀ y ∈ xs ++ x :: ys, Faultless y) : ∀ y ∈ xs ++ x' :: ys, Faultless y := by
  rw [List.forall_mem_append, List.forall_mem_cons] at hall ⊢
  exact ⟨hall.1, h.faultless hall.2.1, hall.2.2⟩

theorem map_judge_of_alike (h : Alike x x') (hall : ∀ y ∈ xs ++ x :: ys, Faultless y) :
    (xs ++ x' :: ys).map judge = (xs ++ x :: ys).map judge := by
  rw [List.forall_mem_append, List.forall_mem_cons] at hall
  rw [List.map_append, List.map_append, List.map_cons, List.map_cons, h.judged hall.2.1]

theorem membersAlike_of_alike (h : Alike x x') :
    MembersAlike (xs ++ x :: ys) (xs ++ x' :: ys) :=
  ⟨forall_faultless_of_alike h, fun hall => by rw [map_judge_of_alike h hall]⟩

theorem MembersAlike.all_eq (h : MembersAlike xs ys) (hxs : ∀ y ∈ xs, Faultless y) (z : Value) :
    (ys.all fun y => judge y .plain z) = xs.all fun y => judge y .plain z := by
  have hperm := (h.judged hxs).all_eq (f := fun d : Verdict => d .plain z)
  rw [List.all_map, List.all_map] at hperm
  exact hperm

theorem MembersAlike.any_eq (h : MembersAlike xs ys) (hxs : ∀ y ∈ xs, Faultless y) (z : Value) :
    (ys.any fun y => judge y .plain z) = xs.any fun y => judge y .plain z := by
  have hperm := (h.judged hxs).any_eq (f := fun d : Verdict => d .plain z)
  rw [List.any_map, List.any_map] at hperm
  exact hperm

theorem MembersAlike.isEmpty_eq (h : MembersAlike xs ys) (hxs : ∀ y ∈ xs, Faultless y) :
    ys.isEmpty = xs.isEmpty := by
  have hlength := (h.judged hxs).length_eq
  rw [List.length_map, List.length_map] at hlength
  rw [Bool.eq_iff_iff, List.isEmpty_iff_length_eq_zero, List.isEmpty_iff_length_eq_zero, hlength]

/-- The members of a group. -/
theorem coreAlike_of_members (h : Sets "validators" entries entries' (.list xs) (.list ys))
    (hmembers : MembersAlike xs ys) : CoreAlike type entries entries' := by
  have hbefore : itemsOf (setting entries "validators") = xs := by rw [h.setting_before]; rfl
  have hafter : itemsOf (setting entries' "validators") = ys := by rw [h.setting_after]; rfl
  have hfits : misfits entries' "validators" [.list] = false := by rw [misfits, h.after]; rfl
  have hall : (∀ y ∈ itemsOf (setting entries "validators"), Faultless y) →
      ∀ y ∈ xs, Faultless y := by
    rw [hbefore]
    exact id
  cases type with
  | allOf | anyOf | noneOf =>
    refine ⟨fun hcore => ⟨?_, rfl, fun y hy => ?_⟩, fun hcore => ?_⟩
    · rw [coreFlaws, hfits]
      rfl
    · exact hmembers.faultless (hall hcore.parts) y (hafter ▸ hy)
    · funext site z
      simp only [coreVerdict, hbefore, hafter, hmembers.all_eq (hall hcore.parts),
        hmembers.any_eq (hall hcore.parts)]
  | _ => exact h.same.coreAlike (by simp [usedKeys])

/-- The constraints of a node. -/
theorem constraintsAlike_of_members
    (h : Sets "constraints" entries entries' (.list xs) (.list ys))
    (hmembers : MembersAlike (xs.filter isTyped) (ys.filter isTyped))
    (hshown : (∀ x ∈ xs, (setting (entriesOf x) "type").isShowable = true) →
      ∀ y ∈ ys, (setting (entriesOf y) "type").isShowable = true) :
    ConstraintsAlike type entries entries' := by
  have hbefore : knownConstraints entries = xs.filter isTyped := by
    rw [knownConstraints, h.setting_before]
    rfl
  have hafter : knownConstraints entries' = ys.filter isTyped := by
    rw [knownConstraints, h.setting_after]
    rfl
  refine ⟨fun hconstraints => ⟨?_, ?_⟩, fun hconstraints z => ?_⟩
  · have hflaws := hconstraints.flaws
    have hempty := hmembers.isEmpty_eq (hbefore ▸ hconstraints.parts)
    rw [constraintFlaws, h.setting_before, hbefore, List.append_eq_nil_iff,
      List.append_eq_nil_iff, flawIf_eq_nil, flawIf_eq_nil, flawIf_eq_nil, Bool.not_eq_false',
      List.all_eq_true] at hflaws
    rw [constraintFlaws, h.setting_after, hafter, hempty, List.append_eq_nil_iff,
      List.append_eq_nil_iff, flawIf_eq_nil, flawIf_eq_nil, flawIf_eq_nil, Bool.not_eq_false',
      List.all_eq_true]
    refine ⟨⟨?_, hshown hflaws.1.2⟩, hflaws.2⟩
    rw [misfits, h.after]
    rfl
  · rw [hafter]
    exact hmembers.faultless (hbefore ▸ hconstraints.parts)
  · rw [hbefore, hafter]
    exact hmembers.all_eq (hbefore ▸ hconstraints.parts) z

/-! ## Single nodes -/

section

variable (h : Sets key entries entries' x x') (halike : Alike x x')
include h halike

theorem Sets.faultless_get? {other : String}
    (hall : ∀ y, Entries.get? entries other = some y → Faultless y) (y : Value)
    (hy : Entries.get? entries' other = some y) : Faultless y := by
  by_cases hsame : other = key
  · rw [hsame, h.after] at hy
    cases hy
    exact halike.faultless (hall x (hsame ▸ h.before))
  · rw [h.same.get? hsame] at hy
    exact hall y hy

theorem Sets.judge_setting {other : String}
    (hall : ∀ y, Entries.get? entries other = some y → Faultless y) :
    judge (setting entries' other) = judge (setting entries other) := by
  by_cases hsame : other = key
  · rw [hsame, h.setting_before, h.setting_after]
    exact halike.judged (hall x (hsame ▸ h.before))
  · rw [h.same.setting_eq hsame]

theorem Sets.coreAlike_negation : CoreAlike .negation entries entries' := by
  have hall : CoreFaultless .negation entries →
      ∀ y, Entries.get? entries "validator" = some y → Faultless y :=
    fun hcore y hy => hcore.parts y (Option.mem_toList.mpr hy)
  refine ⟨fun hcore => ⟨?_, rfl, fun y hy => ?_⟩, fun hcore => ?_⟩
  · have hflaws := hcore.flaws
    rw [coreFlaws] at hflaws ⊢
    rw [h.isNone_eq]
    exact hflaws
  · exact h.faultless_get? halike (hall hcore) y (Option.mem_toList.mp hy)
  · funext site z
    simp only [coreVerdict, h.judge_setting halike (hall hcore)]

theorem Sets.coreAlike_choice : CoreAlike .choice entries entries' := by
  have hall : CoreFaultless .choice entries → ∀ key ∈ ["condition", "then", "otherwise"],
      ∀ y, Entries.get? entries key = some y → Faultless y :=
    fun hcore key hkey y hy => hcore.parts y (List.mem_filterMap.mpr ⟨key, hkey, hy⟩)
  refine ⟨fun hcore => ⟨?_, rfl, fun y hy => ?_⟩, fun hcore => ?_⟩
  · have hflaws := hcore.flaws
    rw [coreFlaws] at hflaws ⊢
    simp only [h.isNone_eq]
    exact hflaws
  · obtain ⟨key, hkey, hget⟩ := List.mem_filterMap.mp hy
    exact h.faultless_get? halike (hall hcore key hkey) y hget
  · have hjudge : ∀ key ∈ ["condition", "then", "otherwise"],
        judge (setting entries' key) = judge (setting entries key) :=
      fun key hkey => h.judge_setting halike (hall hcore key hkey)
    funext site z
    simp only [coreVerdict, hjudge "condition" (by simp), hjudge "then" (by simp),
      hjudge "otherwise" (by simp)]

end

/-- A node for all items. -/
theorem coreAlike_of_item {fields fields' : Entries}
    (h : Sets "items" entries entries' (.map fields) (.map fields'))
    (halike : Alike (.map fields) (.map fields')) : CoreAlike .list entries entries' := by
  have hitem : CoreFaultless .list entries → Faultless (.map fields) := by
    intro hcore
    refine hcore.parts _ ?_
    rw [coreParts, h.setting_before]
    exact List.mem_singleton.mpr rfl
  refine ⟨fun hcore => ⟨rfl, ?_, fun y hy => ?_⟩, fun hcore => ?_⟩
  · have husable := hcore.usable
    rw [isUsableAs, h.setting_before] at husable
    rw [isUsableAs, h.setting_after]
    exact husable
  · rw [coreParts, h.setting_after] at hy
    rw [List.mem_singleton.mp hy]
    exact halike.faultless (hitem hcore)
  · funext site z
    simp only [coreVerdict, h.setting_before, h.setting_after, listVerdict,
      halike.judged (hitem hcore)]

/-- Nodes for the places of a list. -/
theorem coreAlike_of_place
    (h : Sets "items" entries entries' (.list (xs ++ x :: ys)) (.list (xs ++ x' :: ys)))
    (halike : Alike x x') : CoreAlike .list entries entries' := by
  have hplaces : CoreFaultless .list entries → ∀ y ∈ xs ++ x :: ys, Faultless y := by
    intro hcore y hy
    refine hcore.parts y ?_
    rw [coreParts, h.setting_before]
    exact hy
  refine ⟨fun hcore => ⟨rfl, ?_, fun y hy => ?_⟩, fun hcore => ?_⟩
  · have husable := hcore.usable
    have hlength : (xs ++ x' :: ys).length = (xs ++ x :: ys).length := by
      rw [List.length_append, List.length_append, List.length_cons, List.length_cons]
    rw [isUsableAs, h.setting_before, itemsOf] at husable
    rw [isUsableAs, h.setting_after, itemsOf, hlength]
    exact husable
  · rw [coreParts, h.setting_after] at hy
    exact forall_faultless_of_alike halike (hplaces hcore) y hy
  · funext site z
    simp only [coreVerdict, h.setting_before, h.setting_after, listVerdict,
      map_judge_of_alike halike (hplaces hcore)]

/-! ## Fields -/

/-- The fields of a map. -/
theorem coreAlike_of_fields {fields fields' : Entries}
    (h : Sets "fields" entries entries' (.map fields) (.map fields'))
    (hshown : (∀ field ∈ fields, field.1.isShowable = true) →
      ∀ field ∈ fields', field.1.isShowable = true)
    (hfaultless : (∀ field ∈ fields, Faultless field.2) → ∀ field ∈ fields', Faultless field.2)
    (hjudged : (∀ field ∈ fields, Faultless field.2) → ∀ strict,
      mapVerdict judge (.map fields') strict = mapVerdict judge (.map fields) strict) :
    CoreAlike type entries entries' := by
  cases type with
  | map =>
    have hall : CoreFaultless .map entries → ∀ field ∈ fields, Faultless field.2 := by
      intro hcore field hfield
      refine hcore.parts _ ?_
      rw [coreParts, h.setting_before]
      exact List.mem_map.mpr ⟨field, hfield, rfl⟩
    have hfits : misfits entries' "fields" [.null, .map] = false := by rw [misfits, h.after]; rfl
    refine ⟨fun hcore => ⟨?_, rfl, fun y hy => ?_⟩, fun hcore => ?_⟩
    · have hflaws := hcore.flaws
      rw [coreFlaws, h.setting_before, entriesOf, List.append_eq_nil_iff, flawIf_eq_nil,
        flawIf_eq_nil, Bool.not_eq_false', List.all_eq_true] at hflaws
      rw [coreFlaws, h.setting_after, entriesOf, List.append_eq_nil_iff, flawIf_eq_nil,
        flawIf_eq_nil, Bool.not_eq_false', List.all_eq_true]
      exact ⟨hfits, hshown hflaws.2⟩
    · rw [coreParts, h.setting_after, entriesOf] at hy
      obtain ⟨field, hfield, hsame⟩ := List.mem_map.mp hy
      rw [← hsame]
      exact hfaultless (hall hcore) field hfield
    · funext site z
      simp only [coreVerdict, h.setting_before, h.setting_after, hjudged (hall hcore),
        h.same.setting_eq (show "strict" ≠ "fields" by decide)]
  | _ => exact h.same.coreAlike (by simp [usedKeys])

theorem mapVerdict_of_perm {fields fields' : Entries} (h : fields.Perm fields')
    (hnames : (fields.map fun field => field.1.display).Nodup) (strict : Bool) :
    mapVerdict judge (.map fields') strict = mapVerdict judge (.map fields) strict := by
  have hnames' : (fields'.map fun field => field.1.display).Nodup :=
    (h.map fun field => field.1.display).nodup_iff.mp hnames
  have hrules := h.map fun field => (Value.str field.1.display, judge field.2)
  funext x
  rw [mapVerdict, mapVerdict, fieldRules_of_nodup hnames, fieldRules_of_nodup hnames',
    fieldsVerdict_of_perm hrules, keysVerdict_of_perm (hrules.map _)]

theorem mapVerdict_of_judge {before after : Entries} {name : Value} (h : judge x' = judge x)
    (strict : Bool) :
    mapVerdict judge (.map (before ++ (name, x') :: after)) strict =
      mapVerdict judge (.map (before ++ (name, x) :: after)) strict := by
  have hrules : fieldRules judge (before ++ (name, x') :: after) =
      fieldRules judge (before ++ (name, x) :: after) := by
    rw [fieldRules, fieldRules, List.map_append, List.map_append, List.map_cons, List.map_cons, h]
  funext y
  rw [mapVerdict, mapVerdict, hrules]

end

end

end Conform.Definition
