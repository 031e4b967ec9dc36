import Conform.Proofs.Accounting

/-
  Nodes that take a value apart account for their faults if the nodes for the parts do. Maps, lists
  and choices by key stand behind guards that let nothing else through, so what is asked of the
  value is there; the texts of keys are the one thing that can be missing.
-/

namespace Conform

namespace Validator

open Run

variable {v : Observer → Validator}

/-! ## Parts of a value -/

/-- The last check of a conjunction. -/
theorem accounted_last {Q Q' : Result → Prop} {given x : Value}
    (h : Accounted Q fun o => (v o).evaluate .plain x)
    (hvalid : ∀ r, Q r → r.isValid = true → Q' (.success r.value given))
    (hinvalid : ∀ r, Q r → r.isValid = false → Q' r) :
    Accounted Q' fun o => Check.threaded none given [(v o).toCheck] x := by
  simp only [Check.threaded_cons, toCheck_run]
  refine h.bind fun r hr => ?_
  cases hv : r.isValid with
  | true => exact accounted_done (hvalid r hr hv)
  | false => exact accounted_done (hinvalid r hr hv)

theorem accounted_inspected {γ : Type} (message : Option Value) (code : Code) (x : Value)
    (segment : γ → String) (run : Observer → γ → Run Result) {members : List γ}
    (h : ∀ m ∈ members, Accounted (fun _ => True) fun o => run o m) :
    Accounted (fun r => r.value = x) fun o =>
      Check.inspected message code x (members.map fun m => (segment m, run o m)) := by
  refine accounted_start _ (fun o m => (segment m, run o m)) (fun m hm es => ?_) (fun _ => rfl) []
  refine (h m hm).bind fun r _ => ?_
  have hstep : ∀ o, (Check.inspecting message code x).step (segment m, run o m) r es =
      .ok (.inr (es ++ r.expectations.map (Check.outward message code (segment m)))) := fun _ => rfl
  simp only [hstep]
  exact accounted_done trivial

section Parts

variable {γ : Type} {w : γ → Observer → Validator}

theorem accounted_fields {schema : List (Value × γ)} (h : ∀ entry ∈ schema, Sound (w entry.2))
    (hkeys : ∀ entry ∈ schema, entry.1.isShowable = true) (message : Option Value)
    (entries : Entries) :
    Accounted (fun r => r.value = .map entries) fun o =>
      (Validator.fields (schema.map fun entry => (entry.1, w entry.2 o)) message {}).evaluate
        .plain (.map entries) := by
  have hfields : ∀ o, (Validator.fields (schema.map fun entry => (entry.1, w entry.2 o)) message
      {}).evaluate .plain (.map entries) = Check.inspected message .mapFieldFailed (.map entries)
        (schema.map fun entry => (Check.keySegment entry.1,
          (w entry.2 o).evaluate ⟨entries.hasKey entry.1, some entries⟩
            ((entries.find? entry.1).getD .null))) := by
    intro o
    rw [Validator.evaluate, Validator.flags, Flags.guard_unset, body_fields, Check.schema,
      List.map_map, List.map_map]
    refine congrArg _ (List.map_congr_left fun entry hentry => ?_)
    exact Check.fieldPart_of_isShowable (hkeys entry hentry) entries _
  simp only [hfields]
  exact accounted_inspected message .mapFieldFailed _ (fun entry => Check.keySegment entry.1) _
    fun entry hentry => (h entry hentry).evaluate _ _

theorem accounted_mapOf {schema : List (Value × γ)} (h : ∀ entry ∈ schema, Sound (w entry.2))
    (hkeys : ∀ entry ∈ schema, entry.1.isShowable = true) (message : Option Value) (site : Site)
    (x : Value) :
    Accounted (fun r => r.isValid = true → ∃ entries, r.value = .map entries) fun o =>
      (mapOf (schema.map fun entry => (entry.1, w entry.2 o)) message).body site x := by
  have hbody : ∀ o, (mapOf (schema.map fun entry => (entry.1, w entry.2 o)) message).body site x =
      Check.threaded none x [(isMap none).toCheck, (Validator.fields
        (schema.map fun entry => (entry.1, w entry.2 o)) message {}).toCheck] x := fun _ => rfl
  simp only [hbody]
  have hinvalid : ∀ r : Result, r.isValid = false → r.isValid = true →
      ∃ entries, r.value = .map entries := by
    intro r hfalse htrue
    rw [hfalse] at htrue
    cases htrue
  refine accounted_isMap hinvalid ?_
  rintro entries rfl
  exact accounted_last (accounted_fields h hkeys message entries) (fun r hr _ _ => ⟨entries, hr⟩)
    fun r _ hr => hinvalid r hr

theorem sound_mapOf {schema : List (Value × γ)} (h : ∀ entry ∈ schema, Sound (w entry.2))
    (hkeys : ∀ entry ∈ schema, entry.1.isShowable = true) (message : Option Value) :
    Sound fun o => mapOf (schema.map fun entry => (entry.1, w entry.2 o)) message where
  flags _ := rfl
  body site x := (accounted_mapOf h hkeys message site x).mono fun _ _ => trivial

theorem isShowable_of_showsEntryKeys {entries : Entries} (h : showsEntryKeys entries = true)
    {entry : Value × Value} (hentry : entry ∈ entries) : entry.1.isShowable = true := by
  induction entries with
  | nil => cases hentry
  | cons first rest ih =>
    rw [showsEntryKeys, Bool.and_eq_true, Bool.and_eq_true] at h
    cases hentry with
    | head => exact h.1.1
    | tail _ hrest => exact ih h.2 hrest

/-- Keys that are not declared have no message only if one of them has no text. -/
theorem unknownKeysMessage_of_not_isOk {message : Option Value} {keys : List Value}
    (h : (unknownKeysMessage message keys).isOk = false) :
    unknownKeysMessage message keys = .error .tooManyDigits ∧
      ∃ key ∈ keys, key.isShowable = false := by
  unfold unknownKeysMessage at h ⊢
  split at h
  · cases h
  · split at h
    · cases h
    · next hall =>
      rw [if_neg hall]
      simpa using hall

/-- Keys that are not declared are written if no message was given. -/
theorem accounted_onlyKeys (declared : List Value) (message : Option Value) (entries : Entries) :
    Accounted (fun _ => True) fun o =>
      (Composition.writing o (Composition.writesUnknown declared message)
        (onlyKeys declared message)).evaluate .plain (.map entries) := by
  have hends := evaluate_onlyKeys declared message entries
  refine accounted_writing (fun hwrites => ?_) fun hnot => ?_
  · simp only [hends]
    rw [Composition.writesUnknown] at hwrites
    cases hkeys : undeclared declared entries with
    | nil => exact accounted_done trivial
    | cons key keys =>
      rw [hkeys] at hwrites
      cases htext : unknownKeysMessage message (key :: keys) with
      | ok text =>
        simp only [htext]
        exact accounted_done trivial
      | error fault =>
        rw [htext] at hwrites
        cases hwrites
  · obtain ⟨hfault, key, hkey, hunshowable⟩ := unknownKeysMessage_of_not_isOk hnot
    refine ⟨Bool.eq_false_iff.mpr fun hshows => ?_, ?_⟩
    · obtain ⟨entry, hentry, rfl⟩ := List.mem_map.mp (List.mem_of_mem_filter hkey)
      rw [isShowable_of_showsEntryKeys hshows hentry] at hunshowable
      cases hunshowable
    · rw [hends]
      cases hkeys : undeclared declared entries with
      | nil => rw [hkeys] at hkey; cases hkey
      | cons first rest => rw [hkeys] at hfault; simp only [hfault]; rfl

/-- Only a map gets past the fields, so it has keys to look at. -/
theorem sound_strictMapOf {schema : List (Value × γ)} (h : ∀ entry ∈ schema, Sound (w entry.2))
    (hkeys : ∀ entry ∈ schema, entry.1.isShowable = true) (message : Option Value) :
    Sound fun o => (mapOf (schema.map fun entry => (entry.1, w entry.2 o)) none).and
      (Composition.writing o (Composition.writesUnknown (schema.map (·.1)) message)
        (onlyKeys (schema.map (·.1)) message)) where
  flags _ := rfl
  body site x := by
    have hbody : ∀ o, ((mapOf (schema.map fun entry => (entry.1, w entry.2 o)) none).and
        (Composition.writing o (Composition.writesUnknown (schema.map (·.1)) message)
          (onlyKeys (schema.map (·.1)) message))).body site x =
        ((mapOf (schema.map fun entry => (entry.1, w entry.2 o)) none).body .plain x).bind
          fun r => if r.isValid then Check.threaded none x
            [(Composition.writing o (Composition.writesUnknown (schema.map (·.1)) message)
              (onlyKeys (schema.map (·.1)) message)).toCheck] r.value else .done r := by
      intro o
      rw [body_and, Check.threaded_cons, toCheck_run, evaluate_of_unset rfl]
      rfl
    simp only [hbody]
    refine (accounted_mapOf h hkeys none .plain x).bind fun r hr => ?_
    cases hvalid : r.isValid with
    | false => exact accounted_done trivial
    | true =>
      obtain ⟨entries, hentries⟩ := hr hvalid
      rw [hentries]
      exact accounted_last (accounted_onlyKeys _ message entries) (fun _ _ _ => trivial)
        fun _ _ _ => trivial

theorem sound_listEach (h : Sound v) (message : Option Value) :
    Sound fun o => listEach (v o) message where
  flags _ := rfl
  body site x := by
    have hbody : ∀ o, (listEach (v o) message).body site x = Check.threaded none x
        [(isList none).toCheck, (Validator.listItems (v o) message {}).toCheck] x := fun _ => rfl
    simp only [hbody]
    refine accounted_isList (fun _ _ => trivial) ?_
    rintro items rfl
    have hitems : ∀ o, (Validator.listItems (v o) message {}).evaluate .plain (.list items) =
        Check.inspected message .listItemFailed (.list items) (items.zipIdx.map fun part =>
          (Check.indexSegment part.2, (v o).evaluate .plain part.1)) := by
      intro o
      rw [Validator.evaluate, Validator.flags, Flags.guard_unset, body_listItems,
        Check.everyItem, Check.itemParts]
      rfl
    refine accounted_last (Q := fun _ => True) ?_ (fun _ _ _ => trivial) fun _ _ _ => trivial
    simp only [hitems]
    exact (accounted_inspected message .listItemFailed (.list items)
      (fun part : Value × Nat => Check.indexSegment part.2)
      (fun o part => (v o).evaluate .plain part.1)
      fun part _ => h.evaluate .plain part.1).mono fun _ _ => trivial

/-- Every item of a list of the right length has a validator. -/
theorem sound_listOf {members : List γ} (h : ∀ m ∈ members, Sound (w m))
    (hlength : (Value.int members.length).isShowable = true) :
    Sound fun o => listOf (members.map fun m => w m o) where
  flags _ := rfl
  body site x := by
    have hbody : ∀ o, (listOf (members.map fun m => w m o)).body site x = Check.threaded none x
        [(isList none).toCheck, (lengthIs (members.map fun m => w m o).length).toCheck,
          (Validator.listPlaces (members.map fun m => w m o) {}).toCheck] x := fun _ => rfl
    simp only [hbody, List.length_map]
    refine accounted_isList (fun _ _ => trivial) ?_
    rintro items rfl
    refine accounted_guarded (settles_lengthIs hlength items) (fun _ _ => trivial)
      fun haccepts => ?_
    have hcount : items.length = members.length := by
      by_contra hne
      have hrejects := rejects_lengthIs hne fun _ => .raised .wrongType
      rw [haccepts] at hrejects
      cases hrejects
    have hitems : ∀ o, (Validator.listPlaces (members.map fun m => w m o) {}).evaluate .plain
        (.list items) = Check.inspected none .listItemFailed (.list items)
          (items.zipIdx.map fun part => (Check.indexSegment part.2, Check.runAtPlace
            (members.map fun m => (w m o).toCheck) part.2 part.1)) := by
      intro o
      rw [Validator.evaluate, Validator.flags, Flags.guard_unset, body_listPlaces,
        Check.places, Check.itemParts, List.map_map]
      rfl
    refine accounted_last (Q := fun _ => True) ?_ (fun _ _ _ => trivial) fun _ _ _ => trivial
    simp only [hitems]
    refine (accounted_inspected none .listItemFailed (.list items)
      (fun part : Value × Nat => Check.indexSegment part.2)
      (fun o part => Check.runAtPlace (members.map fun m => (w m o).toCheck) part.2 part.1)
      fun part hpart => ?_).mono fun _ _ => trivial
    have hindex : part.2 < members.length := by
      have hbound := (List.mem_zipIdx hpart).2.1
      omega
    have hplace : ∀ o, Check.runAtPlace (members.map fun m => (w m o).toCheck) part.2 part.1 =
        (w members[part.2] o).evaluate .plain part.1 := by
      intro o
      rw [Check.runAtPlace, List.getElem?_map, List.getElem?_eq_getElem hindex]
      rfl
    simp only [hplace]
    exact (h _ (List.getElem_mem hindex)).evaluate .plain part.1

/-- The map has a value under the key when it is looked up. -/
theorem sound_getField (h : Sound v) (key : String) :
    Sound fun o => getField (.str key) (v o) where
  flags _ := rfl
  body site x := by
    have hbody : ∀ o, (getField (.str key) (v o)).body site x = Check.threaded none x
        [(isMap none).toCheck, (containsKey (.str key) none).toCheck,
          (Validator.member (.str key) (v o) {}).toCheck] x := fun _ => rfl
    simp only [hbody]
    refine accounted_isMap (fun _ _ => trivial) ?_
    rintro entries rfl
    refine accounted_containsKey (fun _ _ => trivial) fun y hy => ?_
    have hmember : ∀ o, (Validator.member (.str key) (v o) {}).evaluate .plain (.map entries) =
        ((v o).evaluate .plain y).bind fun r => .done (if r.isValid then r
          else ⟨.map entries, r.expectations.map (Expectation.under (Check.keySegment (.str key))),
            .null⟩) := by
      intro o
      rw [Validator.evaluate, Validator.flags, Flags.guard_unset, body_member, Check.onField, hy]
      refine congrArg (((v o).evaluate .plain y).bind ·) (funext fun r => ?_)
      cases r.isValid <;> rfl
    refine accounted_last (Q := fun _ => True) ?_ (fun _ _ _ => trivial) fun _ _ _ => trivial
    simp only [hmember]
    exact (h.evaluate .plain y).bind fun _ _ => accounted_done trivial

def listing (y : Value) (cases : List (Value × γ)) : Option (Value × γ) :=
  if y.isHashable then cases.find? fun entry => y.equals entry.1 else none

theorem mem_of_listing {y : Value} {cases : List (Value × γ)} {entry : Value × γ}
    (h : listing y cases = some entry) : entry ∈ cases := by
  unfold listing at h
  split at h
  · exact List.mem_of_find?_eq_some h
  · cases h

theorem evaluate_dispatch (key : Value) (cases : List (Value × γ)) (f : γ → Validator)
    (x : Value) :
    (Validator.dispatch key (cases.map fun entry => (entry.1, f entry.2)) {}).evaluate .plain x =
      (Run.ofExcept (Check.lookUp key x)).bind fun y => match listing y cases with
        | none => (Run.ofExcept (Check.segmentOf key)).bind fun _ =>
            .done (.refusal x (Check.unknownCase key (cases.map (·.1)) x y))
        | some entry => ((f entry.2).evaluate .plain x).bind fun r =>
            .done (if r.isValid then .success x else r) := by
  have hlisted : ∀ y, Check.listedFor y (cases.map fun entry => (entry.1, (f entry.2).toCheck)) =
      (listing y cases).map fun entry => (f entry.2).toCheck := by
    intro y
    rw [Check.listedFor, List.find?_map, Option.map_map, listing]
    split <;> rfl
  have hchecks : ((cases.map fun entry => (entry.1, f entry.2)).map fun entry =>
      (entry.1, entry.2.toCheck)) = cases.map fun entry => (entry.1, (f entry.2).toCheck) :=
    List.map_map
  have hkeys : (cases.map fun entry => (entry.1, (f entry.2).toCheck)).map (·.1) =
      cases.map (·.1) := List.map_map
  rw [Validator.evaluate, Validator.flags, Flags.guard_unset, body_dispatch, Check.dispatched,
    hchecks, hkeys, bind_eq]
  congr 1
  funext y
  rw [hlisted]
  cases listing y cases <;> rfl

/-- The map has a value under the key when it is looked up, and the map that is checked is the
whole one. -/
theorem sound_switchBy {cases : List (Value × γ)} (h : ∀ entry ∈ cases, Sound (w entry.2))
    (key : String) :
    Sound fun o => switchBy (.str key) (cases.map fun entry => (entry.1, w entry.2 o)) where
  flags _ := rfl
  body site x := by
    have hbody : ∀ o, (switchBy (.str key) (cases.map fun entry => (entry.1, w entry.2 o))).body
        site x = Check.threaded none x [(isMap none).toCheck,
          (containsKey (.str key) (some (.str ("Missing key: \"" ++ (Value.str key).display ++
            "\"")))).toCheck,
          (Validator.dispatch (.str key)
            (cases.map fun entry => (entry.1, w entry.2 o)) {}).toCheck]
            x := fun _ => rfl
    simp only [hbody]
    refine accounted_isMap (fun _ _ => trivial) ?_
    rintro entries rfl
    refine accounted_containsKey (fun _ _ => trivial) fun y hy => ?_
    refine accounted_last (Q := fun _ => True) ?_ (fun _ _ _ => trivial) fun _ _ _ => trivial
    have hdispatch := fun o => evaluate_dispatch (.str key) cases (fun m => w m o) (.map entries)
    rw [hy] at hdispatch
    simp only [hdispatch, Run.ofExcept, bind_done]
    cases hentry : listing y cases with
    | none => exact accounted_done trivial
    | some entry =>
      have hsound := h entry (mem_of_listing hentry)
      exact (hsound.evaluate .plain (.map entries)).bind fun _ _ => accounted_done trivial

end Parts

end Validator
end Conform
