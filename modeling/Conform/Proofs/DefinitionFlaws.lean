import Conform.Definition.Source
import Conform.Environment.Standard
import Conform.Proofs.NodeFlaws

/-
  What can be wrong with a definition. Loading reads the source, takes the value that was read as
  the outermost node, which may have no keys but names of settings, and goes through the nodes.

  Main results:
  * `failsBy_node`: a value gives a validator if no node that is built below it has a flaw, and
    otherwise ends in a fault whose kind is the kind of one of these flaws.
  * `load_fails_by_flaws`: the same for loading from any source, with what reading the source and
    the outermost map add. Not all flaws are faults of the configuration: bounds without an order
    and keys that name no setting are wrong types, whole numbers with too many digits cannot be
    written, and an expression that cannot be compiled ends in whatever fault the compiler raises.
-/

namespace Conform

namespace Definition

theorem failsBy_constrained (path type : String) (v : Validator) (vs : List Validator) :
    (constrained path type v vs).FailsBy
      (· ∈ flawIf .configuration (v.isContextual && !vs.isEmpty)) := by
  cases vs with
  | nil =>
    refine Run.failsBy_done v fun kind => ?_
    simp [flawIf]
  | cons w ws =>
    unfold constrained
    cases v.isContextual with
    | true => exact failsBy_reject _ (by simp [flawIf])
    | false =>
      refine Run.failsBy_done _ fun kind => ?_
      simp [flawIf]

section

variable [Environment]

section

-- the kinds of flaws of what is built of a value
variable {F : Value → FaultKind → Prop}

theorem failsBy_constraintsFrom {xs : List Value}
    (hparts : ∀ x ∈ xs.filter isTyped, BuildsBy F x) (path : String)
    (index : Nat) :
    (constraintsFrom path index (xs.map part)).FailsBy fun kind =>
      kind ∈ flawIf .value (!xs.all fun x => (setting (entriesOf x) "type").isShowable) ∨
        ∃ x ∈ xs.filter isTyped, F x kind := by
  induction xs generalizing index with
  | nil => exact Run.failsBy_done [] (by simp [flawIf])
  | cons x xs ih =>
    have hshown := failsBy_requireShowable [setting (entriesOf x) "type"]
    rw [List.map_cons, constraintsFrom, settings_part, value_settingsOf, typeName_part]
    cases htype : NodeType.ofName? (typeNameOf x) with
    | none =>
      rw [List.filter_cons_of_neg (not_isTyped_of_unnamed htype)] at hparts ⊢
      refine (hshown.bind fun _ _ => Run.failsBy_note _ (ih hparts (index + 1))).of_iff
        fun kind => ?_
      simp only [mem_flawIf, List.all_cons, List.all_nil, Bool.and_true, Bool.not_and,
        Bool.or_eq_true]
      grind
    | some type =>
      rw [List.filter_cons_of_pos (isTyped_of_named htype)] at hparts ⊢
      rw [List.forall_mem_cons] at hparts
      have hrest := ih hparts.2 (index + 1)
      refine (hshown.bind fun _ _ => (hparts.1 (placeOf path "constraints" index)).bind fun v _ =>
        hrest.bind_done (v :: ·)).of_iff fun kind => ?_
      simp only [mem_flawIf, List.all_cons, List.all_nil, List.mem_cons, exists_eq_or_imp,
        Bool.and_true, Bool.not_and, Bool.or_eq_true]
      grind

theorem failsBy_constraintsOf {entries : Entries}
    (hparts : ∀ x ∈ knownConstraints entries, BuildsBy F x) (path : String) :
    (constraintsOf (settingsOf entries) path).FailsBy fun kind =>
      kind ∈ flawIf .configuration (misfits entries "constraints" [.list]) ∨
        kind ∈ flawIf .value (!(itemsOf (setting entries "constraints")).all fun x =>
          (setting (entriesOf x) "type").isShowable) ∨
        ∃ x ∈ knownConstraints entries, F x kind := by
  unfold constraintsOf knownConstraints setting misfits at *
  rw [get?_settingsOf]
  cases hget : entries.get? "constraints" with
  | none => exact Run.failsBy_done [] (by simp [flawIf, itemsOf])
  | some x =>
    rw [hget] at hparts
    cases x with
    | list xs =>
      have hnodes := failsBy_constraintsFrom hparts path 0
      rw [← items_part_list] at hnodes
      exact hnodes.of_iff (by simp [flawIf, itemsOf, Value.kind, setting])
    | _ => exact failsBy_reject _ (by simp [flawIf, itemsOf, Value.kind])

end

/-- A node goes wrong by its own flaws and by what goes wrong in its parts. -/
theorem failsBy_nodeOf {F : Value → FaultKind → Prop} {entries : Entries}
    (hparts : ∀ x ∈ builtParts (.map entries), BuildsBy F x) (path : String) :
    (nodeOf (settingsOf entries) path).FailsBy fun kind =>
      kind ∈ ownFlaws (.map entries) ∨ ∃ x ∈ builtParts (.map entries), F x kind := by
  have hshown := failsBy_requireShowable [setting entries "type"]
  unfold nodeOf
  rw [value_settingsOf, typeName_settingsOf, ← typeOf?]
  cases htype : typeOf? (.map entries) with
  | none =>
    rw [builtParts_of_no_type htype, ownFlaws_of_no_type htype]
    have hreject : (reject (.unknownType path (typeNameOf (.map entries))) : Run Validator).FailsBy
        (· = .configuration) := failsBy_reject _ rfl
    refine (hshown.bind fun _ _ => hreject).of_iff fun kind => ?_
    simp [mem_flawIf]
  | some type =>
    rw [builtParts_of_type htype] at hparts ⊢
    rw [ownFlaws_of_type htype]
    obtain ⟨hcoreParts, hknown⟩ := List.forall_mem_append.mp hparts
    have hcore := failsBy_coreNode hcoreParts path
    have hconstraints := failsBy_constraintsOf hknown path
    have hrest : ∀ v, (coreNode type (settingsOf entries) path).outcome? = some (.ok v) →
        ((constraintsOf (settingsOf entries) path).bind fun constraints =>
          (constrained path (typeNameOf (.map entries)) v constraints).bind fun w =>
            .done (flagged (settingsOf entries) (explained (settingsOf entries) w))).FailsBy
        fun kind => kind ∈ constraintFlaws type entries ∨
          ∃ x ∈ knownConstraints entries, F x kind := by
      intro v hv
      have hcontextual := isContextual_of_coreNode hv
      have hconstrained : ∀ vs, (constraintsOf (settingsOf entries) path).outcome? = some (.ok vs) →
          ((constrained path (typeNameOf (.map entries)) v vs).bind fun w =>
            .done (flagged (settingsOf entries) (explained (settingsOf entries) w))).FailsBy
          (· ∈ flawIf .configuration
            (type == .choice && !(knownConstraints entries).isEmpty)) := by
        intro vs hvs
        have hsame : vs.isEmpty = (knownConstraints entries).isEmpty := by
          have hlength := length_constraintsOf hvs
          rw [Bool.eq_iff_iff, List.isEmpty_iff_length_eq_zero, List.isEmpty_iff_length_eq_zero,
            hlength]
        rw [← hcontextual, ← hsame]
        exact (failsBy_constrained path _ v vs).bind_done _
      refine (hconstraints.bind hconstrained).of_iff fun kind => ?_
      simp only [constraintFlaws, List.mem_append]
      grind
    refine (hshown.bind fun _ _ => hcore.bind fun v hv => Run.failsBy_note _ (hrest v hv)).of_iff
      fun kind => ?_
    simp only [List.mem_append, List.all_cons, List.all_nil, Bool.and_true]
    grind

/-- A value gives a validator if no node that is built of it, or below it, has a flaw, and
otherwise ends in a fault of a kind that one of them has. -/
theorem failsBy_node (x : Value) (path : String) : ((part x).node path).FailsBy (Flawed x) := by
  induction x using induction_builtParts generalizing path with
  | h x ih =>
    have hnode : ((part x).node path).FailsBy fun kind =>
        kind ∈ ownFlaws x ∨ ∃ y ∈ builtParts x, Flawed y kind := by
      cases x with
      | map entries => exact failsBy_nodeOf ih path
      | _ => exact failsBy_reject _ (.inl (List.mem_singleton.mpr rfl))
    exact hnode.of_iff fun kind => (flawed_iff x kind).symm

/-! ## Loading -/

/-- Something is wrong with the value as the outermost node: a key of it names no setting, or a
node that is built of it, or below it, has a flaw. -/
def FlawedRoot (x : Value) (kind : FaultKind) : Prop :=
  (kind = .type ∧ ∃ entry ∈ entriesOf x, namesSetting entry.1 = false) ∨ Flawed x kind

theorem flawed_of_unshowable_type {entries : Entries} {kind : FaultKind}
    (h : kind ∈ flawIf .value (!(setting entries "type").isShowable)) :
    Flawed (.map entries) kind := by
  refine ⟨.map entries, .self _, ?_⟩
  rw [ownFlaws]
  exact List.mem_append_left _ h

theorem failsBy_ofDocument (x : Value) : (ofDocument x).FailsBy (FlawedRoot x) := by
  cases x with
  | map entries =>
    unfold ofDocument create
    dsimp only
    by_cases hkeys : entries.all (fun entry => namesSetting entry.1) = true
    · rw [if_pos hkeys, settings_part, value_settingsOf]
      have hnode := failsBy_node (.map entries) "$"
      refine ((failsBy_requireShowable [setting entries "type"]).bind fun _ _ =>
        Run.failsBy_note _ hnode).of_iff fun kind => ?_
      have hnone : ¬ ∃ entry ∈ entries, namesSetting entry.1 = false := by
        intro hsome
        obtain ⟨entry, hentry, hname⟩ := hsome
        have hnames := List.all_eq_true.mp hkeys entry hentry
        rw [hname] at hnames
        cases hnames
      have htype : kind ∈ flawIf .value (!(setting entries "type").isShowable) →
          Flawed (.map entries) kind := flawed_of_unshowable_type
      simp only [List.all_cons, List.all_nil, Bool.and_true, FlawedRoot, entriesOf]
      grind
    · rw [if_neg hkeys]
      refine Run.failsBy_raised (.inl ⟨rfl, ?_⟩)
      simpa [entriesOf] using hkeys
  | _ => exact failsBy_reject _ (.inr ⟨_, .self _, List.mem_singleton.mpr rfl⟩)

/-- The compiler refuses a text with a fault of the kind. -/
def RefusesBy (kind : FaultKind) : Prop :=
  ∃ source fault, Environment.compile source = .error fault ∧ kind = fault.kind

theorem refusesBy_of_mem_patternFlaws {x : Value} {kind : FaultKind} (h : kind ∈ patternFlaws x) :
    RefusesBy kind := by
  cases x with
  | str source =>
    rw [patternFlaws] at h
    split at h
    · cases h
    · next fault hrefused => exact ⟨source, fault, hrefused, List.mem_singleton.mp h⟩
  | _ => cases h

theorem mem_of_mem_coreFlaws {type : NodeType} {entries : Entries} {kind : FaultKind}
    (h : kind ∈ coreFlaws type entries) :
    kind ∈ [FaultKind.configuration, .type, .value] ∨ RefusesBy kind := by
  have hpattern := @refusesBy_of_mem_patternFlaws
  unfold coreFlaws rangeFlaws at h
  grind [mem_flawIf]

/-- Flaws are of three kinds, and of those of the faults that the compiler ends in. -/
theorem FlawedRoot.kind_mem {x : Value} {kind : FaultKind} (h : FlawedRoot x kind) :
    kind ∈ [FaultKind.configuration, .type, .value] ∨ RefusesBy kind := by
  obtain ⟨hkind, -⟩ | ⟨y, -, hflaw⟩ := h
  · rw [hkind]
    exact .inl (by decide)
  · unfold ownFlaws constraintFlaws at hflaw
    have hcore := @mem_of_mem_coreFlaws
    grind [mem_flawIf]

/-- Reading does not wait. -/
theorem exists_outcome?_readDocument (malformed : DefinitionProblem) (text : String) :
    ∃ ending, (readDocument malformed text).outcome? = some ending :=
  ⟨_, Run.outcome?_ofExcept _⟩

theorem exists_outcome?_readFile (path : FilePath) (content : Option String) :
    ∃ ending, (readFile path content).outcome? = some ending := by
  unfold readFile
  split
  · dsimp only
    split
    · unfold readJson
      split
      · exact ⟨_, rfl⟩
      · exact ⟨_, rfl⟩
      · exact ⟨_, rfl⟩
    · exact exists_outcome?_readDocument _ _
  · split
    · exact ⟨_, rfl⟩
    · exact ⟨_, rfl⟩

theorem exists_outcome?_readText (text : String) (content : Option String) :
    ∃ ending, (readText text content).outcome? = some ending := by
  unfold readText
  dsimp only
  split
  · split
    · exact exists_outcome?_readFile _ _
    · split
      · exact ⟨_, rfl⟩
      · exact exists_outcome?_readDocument _ _
  · exact exists_outcome?_readDocument _ _

theorem exists_outcome?_read (source : Source) : ∃ ending, source.read.outcome? = some ending := by
  cases source with
  | value x =>
    cases x with
    | str s => exact exists_outcome?_readText s none
    | _ => exact ⟨_, rfl⟩
  | text s content => exact exists_outcome?_readText s content
  | file path content => exact exists_outcome?_readFile _ content

theorem failsBy_load {source : Source} {x : Value} (hread : source.read.outcome? = some (.ok x)) :
    (load source).FailsBy (FlawedRoot x) := by
  have hload : (load source).outcome? = (ofDocument x).outcome? := Run.outcome?_bind_of_ok _ hread
  have hdocument := failsBy_ofDocument x
  rwa [Run.FailsBy, ← hload] at hdocument

/-- Loading ends in the fault that reading the source ends in. If a value is read, loading gives a
validator if nothing is wrong with it as the outermost node, and otherwise ends in a fault of a kind
that is wrong with it: a fault of the configuration, a wrong type, a value that cannot be written,
or whatever fault the compiler of expressions refuses a text with. -/
theorem load_fails_by_flaws (source : Source) :
    (∃ fault, source.read.outcome? = some (.error fault) ∧
      (load source).outcome? = some (.error fault)) ∨
    ∃ x, source.read.outcome? = some (.ok x) ∧ (load source).FailsBy (FlawedRoot x) ∧
      ∀ kind, FlawedRoot x kind →
        kind ∈ [FaultKind.configuration, .type, .value] ∨ RefusesBy kind := by
  obtain ⟨ending, hread⟩ := exists_outcome?_read source
  cases ending with
  | error fault => exact .inl ⟨fault, hread, Run.outcome?_bind_of_error _ hread⟩
  | ok x => exact .inr ⟨x, hread, failsBy_load hread, fun kind hkind => hkind.kind_mem⟩

end

/-- Bounds without an order, texts that are no patterns, a key that is no text and a whole number
with too many digits end loading in faults that are none of the configuration. -/
theorem load_fails_apart_from_configuration :
    (@load .standard (.value (.map [(.str "type", .str "range"), (.str "min", .int 1),
      (.str "max", .str "a")]))).faultKind? = some .type ∧
    (@load .standard (.value (.map [(.str "type", .str "pattern"),
      (.str "pattern", .str "(")]))).faultKind? = some .pattern ∧
    (@load .standard (.value (.map [(.str "type", .str "pattern"),
      (.str "pattern", .str "a\x7b4294967295\x7d")]))).faultKind? = some .overflow ∧
    (@load .standard (.value (.map [(.str "type", .str "string"), (.int 1, .null)]))).faultKind? =
      some .type ∧
    (@load .standard (.value (.map [(.str "type", .str "eq"),
      (.str "value", .int (Int.ofNat Text.tooLong))]))).faultKind? = some .value := by
  decide +kernel

end Definition
end Conform
