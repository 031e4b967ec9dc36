import Conform.Proofs.DefinitionFlaws
import Conform.Proofs.StructureVerdicts

/-
  What the nodes of a definition decide. `nodeVerdict` says it for each type of nodes from the
  settings, given what is decided by the nodes that are built for it. `decides_coreNode`: what a
  node of a type is built as decides so, if it can be used (`isUsable`). Nothing is claimed of nodes
  with a pattern that is no text, or with options that cannot be written: they can be loaded, but
  what they are loaded as fails when it is used.
-/

namespace Conform

namespace Definition

open Validator

/-! ## Verdicts by type -/

def flagsOf (entries : Entries) : Flags :=
  ⟨(setting entries "nullable").isTruthy, (setting entries "optional").isTruthy⟩

def boundChecks (entries : Entries) : List Predicate :=
  ((given? entries "min").map fun low => Predicate.related .ge low).toList
    ++ ((given? entries "max").map fun high => Predicate.related .le high).toList

/-- A value between the bounds that are given. -/
def rangeVerdict (entries : Entries) (x : Value) : Bool :=
  match given? entries "min", given? entries "max" with
  | some low, some high => (Predicate.between low high).holds x
  | _, _ => (boundChecks entries).all fun p => p.holds x

/-- The rules with the rule set for the key: in its place if the key is there, else last. -/
def insertRule : List (Value × Verdict) → Value → Verdict → List (Value × Verdict)
  | [], key, d => [(key, d)]
  | rule :: rest, key, d =>
    if key.equals rule.1 then (rule.1, d) :: rest else rule :: insertRule rest key d

/-- The rules that result from setting all pairs in order. -/
def rulesOf (pairs : List (Value × Verdict)) : List (Value × Verdict) :=
  pairs.foldl (fun rules pair => insertRule rules pair.1 pair.2) []

section

variable [Environment]

/-- A text in which the expression with the source occurs. -/
def patternVerdict (source x : Value) : Bool :=
  match source, x with
  | .str source, .str s => (Environment.compile source).toOption.any fun occursIn => occursIn s
  | _, _ => false

-- what is decided by the nodes that are built for a node
variable (j : Value → Verdict)

/-- A list, as the setting for its items asks. -/
def listVerdict (items x : Value) : Bool :=
  match items with
  | .null => x.kind == .list
  | .list places => placesVerdict (places.map j) x
  | item => itemsVerdict (j item) x

def fieldRules (fields : Entries) : List (Value × Verdict) :=
  rulesOf (fields.map fun field => (.str field.1.display, j field.2))

/-- A map, as the setting for its fields asks. -/
def mapVerdict (fields : Value) (strict : Bool) (x : Value) : Bool :=
  match fields with
  | .map fields =>
    fieldsVerdict (fieldRules j fields) x
      && (!strict || keysVerdict ((fieldRules j fields).map (·.1)) x)
  | _ => x.kind == .map

/-- What a node of the type decides apart from its constraints and flags. -/
def coreVerdict (type : NodeType) (entries : Entries) (site : Site) (x : Value) : Bool :=
  match type with
  | .string => x.kind == .str
  | .int => x.kind == .int
  | .float => x.kind == .float
  | .number => x.kind == .int || x.kind == .float
  | .bool => x.kind == .bool
  | .list => listVerdict j (setting entries "items") x
  | .map => mapVerdict j (setting entries "fields") (setting entries "strict").isTruthy x
  | .allOf => (itemsOf (setting entries "validators")).all fun y => j y .plain x
  | .anyOf => (itemsOf (setting entries "validators")).any fun y => j y .plain x
  | .noneOf => !(itemsOf (setting entries "validators")).any fun y => j y .plain x
  | .negation => !j (setting entries "validator") .plain x
  | .equal => x.equals (setting entries "value")
  | .oneOf => x.isAmong (itemsOf (setting entries "values"))
  | .range => rangeVerdict entries x
  | .length => lengthVerdict ((boundChecks entries).map fun p _ => p.holds) x
  | .pattern => patternVerdict (setting entries "pattern") x
  | .choice => choiceVerdict (j (setting entries "condition")) (j (setting entries "then"))
      (j (setting entries "otherwise")) site x

/-- What a node decides: what its flags let pass, it accepts, and otherwise what its type and its
constraints accept. -/
def nodeVerdict (entries : Entries) (site : Site) (x : Value) : Bool :=
  (flagsOf entries).letPass site x ||
    (((typeOf? (.map entries)).any fun type => coreVerdict j type entries site x)
      && (knownConstraints entries).all fun y => j y .plain x)

theorem coreVerdict_plain {j : Value → Verdict} {type : NodeType} (h : type ≠ .choice)
    (entries : Entries) (site : Site) (x : Value) :
    coreVerdict j type entries site x = coreVerdict j type entries .plain x := by
  cases type with
  | choice => exact absurd rfl h
  | _ => rfl

end

/-- Whether the validator of the settings can be used: a pattern must be a text, and options and the
number of places must be such that they can be written. -/
def isUsableAs (type : NodeType) (entries : Entries) : Bool :=
  match type with
  | .oneOf => (itemsOf (setting entries "values")).all Value.isShowable
  | .pattern => (setting entries "pattern").kind == .str
  | .list => (Value.int (itemsOf (setting entries "items")).length).isShowable
  | _ => true

/-- Whether the validator of the value can be used, as far as its own settings go. -/
def isUsable : Value → Bool
  | .map entries => (typeOf? (.map entries)).all fun type => isUsableAs type entries
  | _ => true

/-! ## Answers of runs -/

theorem allAnswers_requireShowable (values : List Value) :
    (requireShowable values).AllAnswers fun _ => values.all Value.isShowable = true := by
  unfold requireShowable
  split
  · next h => exact Run.allAnswers_done h
  · exact Run.allAnswers_raised _

section

variable [Environment]

theorem allAnswers_require (entries : Entries) (path key : String) :
    (require (settingsOf entries) path key).AllAnswers fun p =>
      entries.get? key = some (setting entries key) ∧ p = part (setting entries key) := by
  intro p hp
  obtain ⟨x, hget, hsame⟩ := outcome?_require hp
  rw [setting_of_get? hget]
  exact ⟨hget, hsame⟩

variable {j : Value → Verdict}

/-- Every validator that is built of the value decides what is said of it. -/
def BuildsJudges (j : Value → Verdict) (x : Value) : Prop :=
  ∀ path, ((part x).node path).AllAnswers fun v => v.Judges (j x)

theorem allAnswers_nodesFrom {xs : List Value} (hparts : ∀ x ∈ xs, BuildsJudges j x)
    (path key : String) (index : Nat) :
    (nodesFrom path key index (xs.map part)).AllAnswers fun vs =>
      List.Forall₂ Judges vs (xs.map j) := by
  induction xs generalizing index with
  | nil => exact Run.allAnswers_done .nil
  | cons x xs ih =>
    rw [List.forall_mem_cons] at hparts
    refine (hparts.1 (placeOf path key index)).bind fun v hv => ?_
    refine (ih hparts.2 (index + 1)).bind fun vs hvs => ?_
    exact Run.allAnswers_done (.cons hv hvs)

theorem allAnswers_child {entries : Entries} {key : String}
    (hpart : ∀ x, entries.get? key = some x → BuildsJudges j x) (path : String) :
    (child (settingsOf entries) path key).AllAnswers fun v =>
      v.Judges (j (setting entries key)) := by
  refine (allAnswers_require entries path key).bind fun p hp => ?_
  rw [hp.2]
  exact hpart _ hp.1 (path ++ "." ++ key)

theorem allAnswers_children {entries : Entries} {key : String}
    (hparts : ∀ x ∈ itemsOf (setting entries key), BuildsJudges j x) (path : String) :
    (children (settingsOf entries) path key).AllAnswers fun vs =>
      List.Forall₂ Judges vs ((itemsOf (setting entries key)).map j) := by
  unfold children setting at *
  rw [get?_settingsOf]
  cases hget : entries.get? key with
  | none => exact Run.allAnswers_done .nil
  | some x =>
    rw [hget] at hparts
    cases x with
    | list xs =>
      have hnodes := allAnswers_nodesFrom hparts path key 0
      rwa [← items_part_list] at hnodes
    | _ => exact Run.allAnswers_raised _

theorem allAnswers_fieldNodes {fields : Entries}
    (hparts : ∀ field ∈ fields, BuildsJudges j field.2) (path : String) :
    (fieldNodes path (settingsOf fields)).AllAnswers fun pairs =>
      SchemaJudges pairs (fields.map fun field => (.str field.1.display, j field.2)) := by
  induction fields with
  | nil => exact Run.allAnswers_done .nil
  | cons field rest ih =>
    obtain ⟨key, x⟩ := field
    rw [List.forall_mem_cons] at hparts
    refine Run.allAnswers_bind fun _ => ?_
    refine (hparts.1 (path ++ "." ++ key.display)).bind fun v hv => ?_
    refine (ih hparts.2).bind fun pairs hpairs => ?_
    exact Run.allAnswers_done (.cons ⟨rfl, rfl, hv⟩ hpairs)

end

/-! ## Fields -/

theorem schemaJudges_insert {schema : Schema} {rules : List (Value × Verdict)} {key : Value}
    {v : Validator} {d : Verdict} (h : SchemaJudges schema rules) (hkey : key.isShowable = true)
    (hv : v.Judges d) :
    SchemaJudges (Schema.insert schema key v) (insertRule rules key d) := by
  induction h with
  | nil => exact .cons ⟨rfl, hkey, hv⟩ .nil
  | cons hrule hrest ih =>
    rw [Schema.insert, insertRule, hrule.1]
    split
    · exact .cons ⟨rfl, hrule.1 ▸ hrule.2.1, hv⟩ hrest
    · exact .cons hrule ih

/-- The rules for the fields are put together as the schema of their validators is. -/
theorem schemaJudges_ofPairs {pairs : List (Value × Validator)} {rules : List (Value × Verdict)}
    (h : SchemaJudges pairs rules) : SchemaJudges (Schema.ofPairs pairs) (rulesOf rules) := by
  have hfold : ∀ {schema : Schema} {before : List (Value × Verdict)},
      SchemaJudges schema before →
      SchemaJudges (pairs.foldl (fun schema pair => Schema.insert schema pair.1 pair.2) schema)
        (rules.foldl (fun rules pair => insertRule rules pair.1 pair.2) before) := by
    induction h with
    | nil => exact fun hbefore => hbefore
    | cons hrule _ ih =>
      intro schema before hbefore
      obtain ⟨hsame, hshown, hv⟩ := hrule
      rw [List.foldl_cons, List.foldl_cons, hsame]
      exact ih (schemaJudges_insert hbefore (hsame ▸ hshown) hv)
  exact hfold .nil

/-! ## Nodes by type -/

/-- Every validator that the run gives has no flags and decides so. -/
def Decides (run : Run Validator) (d : Verdict) : Prop :=
  run.AllAnswers fun v => v.flags = {} ∧ v.Judges d

theorem decides_done {v : Validator} {d : Verdict} (hflags : v.flags = {}) (h : v.Judges d) :
    Decides (.done v) d :=
  Run.allAnswers_done ⟨hflags, h⟩

theorem decides_check {p : Predicate} {d : Verdict} (h : p.IsTotal)
    (haccepts : ∀ site x, p.accepts x = .ok (d site x)) : Decides (.done (ofPredicate p none)) d :=
  decides_done rfl (judges_ofPredicate h none haccepts)

theorem isTotal_of_mem_boundChecks {entries : Entries}
    (hshown : (givenBounds entries).all Value.isShowable = true) {p : Predicate}
    (hp : p ∈ boundChecks entries) : p.IsTotal := by
  have hgiven := List.all_eq_true.mp hshown
  rw [boundChecks, List.mem_append, Option.mem_toList, Option.mem_toList] at hp
  cases hp with
  | inl hmin =>
    obtain ⟨low, hlow, hsame⟩ := Option.map_eq_some_iff.mp hmin
    rw [← hsame]
    exact isTotal_related (hgiven low (List.mem_append_left _ (Option.mem_toList.mpr hlow))) .ge
  | inr hmax =>
    obtain ⟨high, hhigh, hsame⟩ := Option.map_eq_some_iff.mp hmax
    rw [← hsame]
    exact isTotal_related (hgiven high (List.mem_append_right _ (Option.mem_toList.mpr hhigh))) .le

section

variable [Environment] {j : Value → Verdict}

theorem decides_listNode {entries : Entries}
    (hparts : ∀ x ∈ itemNodes (setting entries "items"), BuildsJudges j x)
    (husable : isUsableAs .list entries = true) (path : String) :
    Decides (listNode (settingsOf entries) path) fun _ =>
      listVerdict j (setting entries "items") := by
  unfold Decides listNode isUsableAs setting at *
  rw [get?_settingsOf]
  cases hget : entries.get? "items" with
  | none => exact decides_done rfl judges_isList
  | some x =>
    rw [hget] at hparts husable
    cases x with
    | null => exact decides_done rfl judges_isList
    | list xs =>
      have hnodes := allAnswers_nodesFrom hparts path "items" 0
      rw [← items_part_list] at hnodes
      refine hnodes.bind fun vs hvs => decides_done rfl ?_
      have hlength : vs.length = xs.length := hvs.length_eq.trans (List.length_map j)
      refine judges_listOf hvs ?_
      rw [hlength]
      exact husable
    | _ =>
      have hnode := hparts _ (List.mem_singleton.mpr rfl) (path ++ ".items")
      exact hnode.bind fun v hv => decides_done rfl (judges_listEach hv)

theorem decides_mapNode {entries : Entries}
    (hparts : ∀ field ∈ entriesOf (setting entries "fields"), BuildsJudges j field.2)
    (path : String) :
    Decides (mapNode (settingsOf entries) path) fun _ =>
      mapVerdict j (setting entries "fields") (setting entries "strict").isTruthy := by
  unfold Decides mapNode
  rw [isOn_settingsOf]
  generalize (setting entries "strict").isTruthy = strict
  unfold setting at *
  rw [get?_settingsOf]
  cases hget : entries.get? "fields" with
  | none => exact decides_done rfl judges_isMap
  | some x =>
    rw [hget] at hparts
    cases x with
    | null => exact decides_done rfl judges_isMap
    | map fields =>
      refine (allAnswers_fieldNodes hparts path).bind fun pairs hpairs => ?_
      have hrules := schemaJudges_ofPairs hpairs
      cases strict with
      | true => exact decides_done rfl (judges_strictMapOf hrules)
      | false =>
        refine decides_done rfl ((judges_mapOf hrules).congr fun _ x _ => ?_)
        exact (Bool.and_true _).symm
    | _ => exact Run.allAnswers_raised _

theorem boundsOf_settingsOf_eq (entries : Entries) :
    (boundsOf (settingsOf entries)).map (fun bound => isRelated bound.1 bound.2 none) =
      (boundChecks entries).map fun p => ofPredicate p none := by
  rw [boundsOf, value?_settingsOf, value?_settingsOf, boundChecks]
  cases given? entries "min" <;> cases given? entries "max" <;> rfl

/-- There is one validator for each check of a bound, in order. -/
theorem allAnswers_boundNodes (entries : Entries) :
    (boundNodes (settingsOf entries)).AllAnswers fun vs =>
      vs = (boundChecks entries).map (fun p => ofPredicate p none) ∧
        ∀ p ∈ boundChecks entries, p.IsTotal := by
  unfold boundNodes
  rw [boundsOf_settingsOf, boundsOf_settingsOf_eq]
  refine (allAnswers_requireShowable _).bind fun _ hshown => Run.allAnswers_done ⟨rfl, ?_⟩
  exact fun p hp => isTotal_of_mem_boundChecks hshown hp

theorem decides_length (entries : Entries) :
    Decides ((boundNodes (settingsOf entries)).bind fun bounds => .done (length bounds none))
      fun _ => lengthVerdict ((boundChecks entries).map fun p _ => p.holds) := by
  refine (allAnswers_boundNodes entries).bind fun vs hvs => decides_done rfl ?_
  obtain ⟨hvs, htotal⟩ := hvs
  refine judges_length ?_ none
  rw [hvs, List.forall₂_map_left_iff, List.forall₂_map_right_iff, List.forall₂_same]
  exact fun p hp => run_judges_check (htotal p hp) none .plain

/-- Of at most one bound the check of it is the whole. -/
theorem decides_single_bound {entries : Entries} (hsingle : (boundChecks entries).length ≤ 1) :
    Decides ((boundNodes (settingsOf entries)).bind fun bounds =>
        .done (bounds.head?.getD .valid))
      fun _ x => (boundChecks entries).all fun p => p.holds x := by
  refine (allAnswers_boundNodes entries).bind fun vs hvs => ?_
  obtain ⟨hvs, htotal⟩ := hvs
  rw [hvs]
  cases hchecks : boundChecks entries with
  | nil => exact decides_done rfl judges_valid
  | cons p rest =>
    rw [hchecks] at hsingle htotal
    have hrest : rest = [] :=
      List.eq_nil_of_length_eq_zero (Nat.le_zero.mp (Nat.le_of_succ_le_succ hsingle))
    rw [hrest]
    refine decides_done rfl
      ((judges_check (htotal p List.mem_cons_self) none).congr fun _ x _ => ?_)
    exact (Bool.and_true _).symm

theorem decides_rangeNode (entries : Entries) (path : String) :
    Decides (rangeNode (settingsOf entries) path) fun _ => rangeVerdict entries := by
  unfold Decides rangeNode rangeVerdict
  rw [value?_settingsOf, value?_settingsOf]
  cases hlow : given? entries "min" with
  | none =>
    refine decides_single_bound ?_
    rw [boundChecks, hlow]
    cases given? entries "max" <;> simp
  | some low =>
    cases hhigh : given? entries "max" with
    | none =>
      refine decides_single_bound ?_
      rw [boundChecks, hlow, hhigh]
      exact Nat.le_refl 1
    | some high =>
      dsimp only
      cases low.related .gt high with
      | none => exact Run.allAnswers_raised _
      | some reversed =>
        cases reversed with
        | true => exact Run.allAnswers_bind fun _ => Run.allAnswers_raised _
        | false =>
          refine (allAnswers_requireShowable [low, high]).bind fun _ hshown => ?_
          refine Run.allAnswers_ofExcept fun v hv => ?_
          rw [eq_of_isInRange_eq_ok hv]
          exact ⟨rfl, judges_check (isTotal_between hshown) none⟩

/-- What a node of the type decides, if the nodes that are built for it decide what is said. -/
theorem decides_coreNode {type : NodeType} {entries : Entries}
    (hparts : ∀ x ∈ coreParts type entries, BuildsJudges j x)
    (husable : isUsableAs type entries = true) (path : String) :
    Decides (coreNode type (settingsOf entries) path) (coreVerdict j type entries) := by
  cases type with
  | string | int | float | number | bool =>
    exact decides_check (isTotal_isType _ _ _) fun _ x => by cases x <;> rfl
  | list => exact decides_listNode hparts husable path
  | map =>
    have hfields : ∀ field ∈ entriesOf (setting entries "fields"), BuildsJudges j field.2 :=
      fun field hfield => hparts _ (List.mem_map.mpr ⟨field, hfield, rfl⟩)
    exact decides_mapNode hfields path
  | allOf =>
    refine (allAnswers_children hparts path).bind fun vs hvs => decides_done rfl ?_
    refine (judges_allOf hvs none _).congr fun _ x _ => ?_
    rw [List.all_map]
    rfl
  | anyOf =>
    refine (allAnswers_children hparts path).bind fun vs hvs => decides_done rfl ?_
    refine (judges_anyOf hvs none).congr fun _ x _ => ?_
    rw [List.any_map]
    rfl
  | noneOf =>
    refine (allAnswers_children hparts path).bind fun vs hvs => decides_done rfl ?_
    refine (judges_noneOf hvs none).congr fun _ x _ => ?_
    rw [List.any_map]
    rfl
  | negation =>
    have hpart : ∀ x, entries.get? "validator" = some x → BuildsJudges j x :=
      fun x hx => hparts x (Option.mem_toList.mpr hx)
    exact (allAnswers_child hpart path).bind fun v hv => decides_done rfl (judges_not hv none)
  | equal =>
    refine (allAnswers_require entries path "value").bind fun p hp => ?_
    rw [hp.2, value_part]
    refine (allAnswers_requireShowable [setting entries "value"]).bind fun _ hshown => ?_
    exact decides_check (isTotal_equal ((Bool.and_true _).symm.trans hshown)) fun _ _ => rfl
  | oneOf =>
    refine (allAnswers_require entries path "values").bind fun p hp => ?_
    rw [hp.2, value_part]
    split
    · next options hoptions =>
      rw [isUsableAs, hoptions] at husable
      refine decides_check (isTotal_oneOf husable) fun _ x => ?_
      rw [coreVerdict, hoptions]
      rfl
    · exact Run.allAnswers_raised _
  | range => exact decides_rangeNode entries path
  | length => exact decides_length entries
  | pattern =>
    refine (allAnswers_require entries path "pattern").bind fun p hp => ?_
    rw [hp.2, value_part]
    refine Run.AllAnswers.bind
      (Run.allAnswers_ofExcept fun check hcheck => eq_of_patternCheck_eq_ok hcheck)
      fun check hcheck => ?_
    obtain ⟨source, occursIn, hsource, hcompiled, hsame⟩ | ⟨hbroken, -⟩ := hcheck
    · rw [hsame]
      refine decides_check (isTotal_matching source occursIn) fun _ x => ?_
      rw [coreVerdict, hsource]
      cases x with
      | str s =>
        rw [patternVerdict, hcompiled]
        rfl
      | _ => rfl
    · rw [isUsableAs] at husable
      cases hpattern : setting entries "pattern" with
      | str source => exact absurd hpattern (hbroken source)
      | _ =>
        rw [hpattern] at husable
        cases husable
  | choice =>
    have hpart : ∀ key ∈ ["condition", "then", "otherwise"], ∀ x, entries.get? key = some x →
        BuildsJudges j x := fun key hkey x hx => hparts x (List.mem_filterMap.mpr ⟨key, hkey, hx⟩)
    refine (allAnswers_child (hpart "condition" (by simp)) path).bind fun condition hcondition => ?_
    refine (allAnswers_child (hpart "then" (by simp)) path).bind fun thenBranch hthen => ?_
    refine (allAnswers_child (hpart "otherwise" (by simp)) path).bind fun otherwise hotherwise => ?_
    exact decides_done rfl (judges_when hcondition hthen hotherwise _)

end

end Definition
end Conform
