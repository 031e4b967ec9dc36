import Conform.Proofs.Verdicts

/-
  What maps, lists and choices decide. Each part of a value is given to a validator that judges, and
  the whole is accepted if all of them accept (`judges_inspected`). Keys that are not declared are
  named in a message, so the map must be one that can be shown; the fields alone are decided about
  wherever their validators decide (`run_judges_fields`).
-/

namespace Conform

namespace Validator

variable {v : Validator} {d : Verdict}

/-! ## Maps and lists -/

/-- The parts of a value that all decide: the whole is accepted if all of them are. -/
theorem judges_inspected {parts : List Check.Part} {accepted : List Bool}
    (h : List.Forall₂ (fun part ok => ∃ r, part.2 = .done r ∧ r.isValid = ok) parts accepted)
    (message : Option Value) (code : Code) (x : Value) :
    (Check.inspected message code x parts).Judges x (accepted.all id) := by
  have hwalk : ∀ es : List Expectation,
      ((Check.inspecting message code x).start parts es).Judges x
        (es.isEmpty && accepted.all id) := by
    induction h with
    | nil =>
      intro es
      rw [List.all_nil, Bool.and_true]
      exact ⟨_, rfl, rfl, fun _ => rfl⟩
    | @cons part ok parts accepted hpart _ ih =>
      intro es
      obtain ⟨r, hr, hvalid⟩ := hpart
      have hempty : (es ++ r.expectations.map (Check.outward message code part.1)).isEmpty =
          (es.isEmpty && ok) := by
        rw [← hvalid]
        cases es with
        | nil => exact List.isEmpty_map
        | cons e es => rfl
      rw [Check.inspecting_cons, hr, Run.bind_done, List.all_cons, id, ← Bool.and_assoc, ← hempty]
      exact ih _
  exact hwalk []

theorem judges_isMap : (isMap none).Judges fun _ x => x.kind == .map :=
  judges_ofPredicate (isTotal_isType _ _ _) none fun _ x => by cases x <;> rfl

theorem judges_isList : (isList none).Judges fun _ x => x.kind == .list :=
  judges_ofPredicate (isTotal_isType _ _ _) none fun _ x => by cases x <;> rfl

/-- A map whose fields meet rules by key. -/
def fieldsVerdict (rules : List (Value × Verdict)) (x : Value) : Bool :=
  match x with
  | .map entries => rules.all fun rule =>
      rule.2 ⟨Entries.hasKey entries rule.1, some entries⟩
        ((Entries.find? entries rule.1).getD .null)
  | _ => false

def keysVerdict (declared : List Value) (x : Value) : Bool :=
  match x with
  | .map entries => (undeclared declared entries).isEmpty
  | _ => false

/-- A list whose items all pass. -/
def itemsVerdict (d : Verdict) (x : Value) : Bool :=
  match x with
  | .list items => items.all (d .plain)
  | _ => false

/-- A list with one item for each place, which passes there. -/
def placesVerdict (ds : List Verdict) (x : Value) : Bool :=
  match x with
  | .list items =>
    items.length == ds.length
      && items.zipIdx.all fun item => (ds[item.2]?).any fun d => d .plain item.1
  | _ => false

/-- The keys of a map that can be shown have texts, so those that are not declared can be named. -/
theorem judges_onlyKeys (declared : List Value) {entries : Entries}
    (hshows : Site.plain.shows (.map entries) = true) :
    ((onlyKeys declared none).evaluate .plain (.map entries)).Judges (.map entries)
      (keysVerdict declared (.map entries)) := by
  have hkeys : ∀ key ∈ undeclared declared entries, key.isShowable = true := by
    intro key hkey
    obtain ⟨entry, hentry, rfl⟩ := List.mem_map.mp (List.mem_of_mem_filter hkey)
    exact (Site.isShowable_entries hshows entry hentry).1
  rw [evaluate_onlyKeys, keysVerdict]
  cases hunknown : undeclared declared entries with
  | nil => exact Run.judges_success _ .null
  | cons key keys =>
    rw [hunknown] at hkeys
    have hall : (key :: keys).all Value.isShowable = true := List.all_eq_true.mpr hkeys
    simp only [unknownKeysMessage, replacing?, hall, if_true]
    exact Run.judges_refusal _ _ .null _

/-- The validators of a schema decide about the fields of one map. -/
theorem run_judges_fields {schema : Schema} {entries : Entries} {oks : List Bool}
    (h : List.Forall₂ (fun entry ok => entry.1.isShowable = true ∧ ∃ r : Result,
      entry.2.evaluate ⟨Entries.hasKey entries entry.1, some entries⟩
        ((Entries.find? entries entry.1).getD .null) = .done r ∧ r.isValid = ok) schema oks) :
    ((Validator.fields schema none {}).evaluate .plain (.map entries)).Judges (.map entries)
      (oks.all id) := by
  rw [evaluate_of_unset rfl, body_fields, Check.schema, List.map_map]
  refine judges_inspected ?_ none .mapFieldFailed (.map entries)
  rw [List.forall₂_map_left_iff]
  refine h.imp fun entry ok hentry => ?_
  obtain ⟨hshown, r, hr, hvalid⟩ := hentry
  have hpart : (Check.fieldPart entries entry.1 entry.2.toCheck).2 = .done r := by
    rw [Check.fieldPart_of_isShowable hshown]
    exact hr
  exact ⟨r, hpart, hvalid⟩

/-- The validators of a schema judge by the rules, key for key, and the keys have texts. -/
abbrev SchemaJudges (schema : Schema) (rules : List (Value × Verdict)) : Prop :=
  List.Forall₂ (fun entry rule => entry.1 = rule.1 ∧ entry.1.isShowable = true ∧
    entry.2.Judges rule.2) schema rules

section

variable {schema : Schema} {rules : List (Value × Verdict)} (h : SchemaJudges schema rules)
include h

theorem judges_fields {entries : Entries} (hshows : Site.plain.shows (.map entries) = true) :
    ((Validator.fields schema none {}).evaluate .plain (.map entries)).Judges (.map entries)
      (fieldsVerdict rules (.map entries)) := by
  have hsame : fieldsVerdict rules (.map entries) =
      (rules.map fun rule => rule.2 ⟨Entries.hasKey entries rule.1, some entries⟩
        ((Entries.find? entries rule.1).getD .null)).all id := by
    rw [List.all_map]
    rfl
  rw [hsame]
  refine run_judges_fields ?_
  rw [List.forall₂_map_right_iff]
  refine h.imp fun entry rule hrule => ?_
  obtain ⟨hkey, hshown, hjudges⟩ := hrule
  obtain ⟨r, hr, hvalid, -⟩ := hjudges.run ⟨Entries.hasKey entries rule.1, some entries⟩
    ((Entries.find? entries rule.1).getD .null) (Site.shows_field hshows rule.1 _)
  rw [hkey] at hshown ⊢
  exact ⟨hshown, r, hr, hvalid⟩

theorem judges_mapOf : (mapOf schema none).Judges fun _ => fieldsVerdict rules := by
  refine judges_and judges_isMap (fun x hshows hx => ?_) fun x hx => ?_
  · cases x with
    | map entries => exact judges_fields h hshows
    | _ => cases hx
  · cases x with
    | map => cases hx
    | _ => rfl

theorem judges_strictMapOf :
    (strictMapOf schema none).Judges fun _ x =>
      fieldsVerdict rules x && keysVerdict (rules.map (·.1)) x := by
  have hkeys : schema.keys = rules.map (·.1) := by
    rw [Schema.keys, ← List.forall₂_eq_eq_eq, List.forall₂_map_left_iff, List.forall₂_map_right_iff]
    exact h.imp fun _ _ hrule => hrule.1
  refine judges_and (judges_mapOf h) (fun x hshows hx => ?_) fun x hx => ?_
  · rw [hx, Bool.true_and, hkeys]
    cases x with
    | map entries => exact judges_onlyKeys _ hshows
    | _ => cases hx
  · rw [hx, Bool.false_and]

end

theorem judges_items {runAt : Nat → Value → Run Result} {items : List Value}
    {accepted : Value × Nat → Bool}
    (h : ∀ item ∈ items.zipIdx, ∃ r, runAt item.2 item.1 = .done r ∧ r.isValid = accepted item) :
    (Check.inspected none .listItemFailed (.list items) (Check.itemParts runAt items)).Judges
      (.list items) (items.zipIdx.all accepted) := by
  have hparts : List.Forall₂ (fun part ok => ∃ r : Result, part.2 = .done r ∧ r.isValid = ok)
      (Check.itemParts runAt items) (items.zipIdx.map accepted) := by
    rw [Check.itemParts, List.forall₂_map_left_iff, List.forall₂_map_right_iff, List.forall₂_same]
    exact h
  have hall := judges_inspected hparts none .listItemFailed (.list items)
  rwa [List.all_map] at hall

theorem judges_listEach (h : v.Judges d) : (listEach v none).Judges fun _ => itemsVerdict d := by
  refine judges_and judges_isList (fun x hshows hx => ?_) fun x hx => ?_
  · cases x with
    | list items =>
      have hitems : itemsVerdict d (.list items) =
          items.zipIdx.all fun item => d .plain item.1 := by
        conv_lhs => rw [itemsVerdict, ← List.zipIdx_map_fst 0 items, List.all_map]
        rfl
      rw [hitems, evaluate_of_unset rfl, body_listItems, Check.everyItem]
      refine judges_items fun item hitem => ?_
      obtain ⟨r, hr, hvalid, -⟩ := h.run .plain item.1
        (Site.shows_item hshows (List.fst_mem_of_mem_zipIdx hitem))
      exact ⟨r, hr, hvalid⟩
    | _ => cases hx
  · cases x with
    | list => cases hx
    | _ => rfl

/-- The number of places is compared with, so it must be one that can be shown. -/
theorem judges_lengthIs {n : Nat} (h : (Value.int n).isShowable = true) :
    (lengthIs n).Judges fun _ => lengthVerdict [fun _ y => y.equals (.int n)] :=
  judges_length (.cons (fun _ => run_judges_ofPredicate (isTotal_equal h) rfl none .plain) .nil)
    none

theorem judges_listOf {vs : List Validator} {ds : List Verdict} (h : List.Forall₂ Judges vs ds)
    (hlength : (Value.int vs.length).isShowable = true) :
    (listOf vs).Judges fun _ => placesVerdict ds := by
  have hguard : ((isList none).and (lengthIs vs.length)).Judges fun _ x =>
      x.kind == .list && lengthVerdict [fun _ y => y.equals (.int vs.length)] x := by
    refine judges_and judges_isList (fun x hshows hx => ?_) fun x hx => ?_
    · rw [hx, Bool.true_and]
      exact (judges_lengthIs hlength).run .plain x hshows
    · rw [hx, Bool.false_and]
  have hlengths : ∀ items : List Value, lengthVerdict [fun _ y => y.equals (.int vs.length)]
      (.list items) = (items.length == ds.length) := by
    intro items
    have hequal := Except.ok.inj (accepts_equal_int items.length vs.length)
    rw [← h.length_eq, beq_eq_decide, ← hequal]
    exact Bool.and_true _
  refine judges_and hguard (fun x hshows hx => ?_) fun x hx => ?_
  · cases x with
    | list items =>
      have hsame : (items.length == ds.length) = true := (hlengths items).symm.trans hx
      rw [placesVerdict, hsame, Bool.true_and, evaluate_of_unset rfl, body_listPlaces,
        Check.places]
      refine judges_items fun item hitem => ?_
      have hplace : item.2 < vs.length := by
        rw [h.length_eq, ← eq_of_beq hsame]
        exact List.snd_lt_of_mem_zipIdx hitem
      have hplace' : item.2 < ds.length := h.length_eq ▸ hplace
      obtain ⟨r, hr, hvalid, -⟩ := (h.get hplace hplace').run .plain item.1
        (Site.shows_item hshows (List.fst_mem_of_mem_zipIdx hitem))
      rw [List.getElem?_eq_getElem hplace', Check.runAtPlace, List.getElem?_map,
        List.getElem?_eq_getElem hplace]
      exact ⟨r, hr, hvalid⟩
    | _ => cases hx
  · cases x with
    | list items =>
      have hother : (items.length == ds.length) = false := (hlengths items).symm.trans hx
      rw [placesVerdict, hother, Bool.false_and]
    | _ => rfl

/-- One of two verdicts, chosen by a third one about the enclosing map; none without such a map. -/
def choiceVerdict (condition thenBranch otherwise : Verdict) (site : Site) (x : Value) : Bool :=
  match site.parent with
  | none => false
  | some parent =>
    if condition .plain (.map parent) then thenBranch ⟨site.present, none⟩ x
    else otherwise ⟨site.present, none⟩ x

theorem judges_relabelled {r : Result} {x : Value} {accepted : Bool} (message : Option Value)
    (hvalid : r.isValid = accepted) (hvalue : accepted = true → r.value = x) :
    (Run.done (Check.relabelled message x r)).Judges x accepted := by
  unfold Check.relabelled
  split
  · next text first rest _ hexpectations =>
    have hinvalid : accepted = false := by
      rw [← hvalid, Result.isValid, hexpectations]
      rfl
    rw [hinvalid]
    exact Run.judges_refusal x x .null _
  · exact ⟨r, rfl, hvalid, hvalue⟩

theorem judges_when {condition thenBranch otherwise : Validator} {dc dt dw : Verdict}
    (hcondition : condition.Judges dc) (hthen : thenBranch.Judges dt)
    (hotherwise : otherwise.Judges dw) (message : Option Value) :
    (when condition thenBranch otherwise message).Judges (choiceVerdict dc dt dw) := by
  refine judges_of_body rfl rfl fun site x hshows => ?_
  rw [when, body_conditional, Check.conditional, choiceVerdict]
  cases hparent : site.parent with
  | none => exact Run.judges_refusal x x .null _
  | some parent =>
    obtain ⟨hx, hmap⟩ := Bool.and_eq_true_iff.mp hshows
    rw [hparent] at hmap
    obtain ⟨met, hmet, hvalid, -⟩ :=
      hcondition.run .plain (.map parent) (Site.shows_of_isShowable hmap true)
    have hbranch := Site.shows_of_isShowable hx site.present
    dsimp only
    rw [Run.bind_eq, toCheck_run, hmet, Run.bind_done, hvalid]
    cases dc .plain (.map parent) with
    | true =>
      obtain ⟨r, hr, hvalid, hvalue⟩ := hthen.run ⟨site.present, none⟩ x hbranch
      rw [if_pos rfl, if_pos rfl, toCheck_run, hr]
      exact judges_relabelled message hvalid hvalue
    | false =>
      obtain ⟨r, hr, hvalid, hvalue⟩ := hotherwise.run ⟨site.present, none⟩ x hbranch
      rw [if_neg Bool.false_ne_true, if_neg Bool.false_ne_true, toCheck_run, hr]
      exact judges_relabelled message hvalid hvalue

end Validator
end Conform
