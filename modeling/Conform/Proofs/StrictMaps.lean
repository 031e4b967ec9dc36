import Conform.Proofs.EntryPoints

/-
  Maps that may have no other keys. Both ways to ask for the fields of a map look into the same
  parts, so whatever the fields do, they have the same run up to the point where what was found
  wrong is made into a result (`evaluate_mapOf_findings`, `evaluate_strictMapOf_findings`). A map
  whose fields all pass is then looked at for keys that are not declared.

  Main result: `strictMapOf_tightens`. A message for the map is what the two do not agree about:
  `mapOf` puts it in place of the messages of the fields, and `strictMapOf` keeps it for the keys
  that are not declared (`strictMapOf_keeps_field_message`). Without one these keys are named in a
  text, and a whole number with too many digits has no text, so such a key is a fault.
-/

namespace Conform

namespace Expectation

/-- The expectation with a message in place of its own. -/
def retold (message : Option Value) (e : Expectation) : Expectation :=
  { e with message := messageOr message e.message }

theorem map_retold_of_none {message : Option Value} (h : replacing? message = none)
    (es : List Expectation) : es.map (retold message) = es := by
  refine (List.map_congr_left fun e _ => ?_).trans (List.map_id es)
  rw [retold, messageOr, h]
  rfl

end Expectation

namespace Run

variable {α : Type}

/-- A result and an ending that are made of one run go together as they do for each of its
answers. -/
theorem exists_ending_of_bind_done {R : Result → Except Fault Result → Prop} {f : α → Result}
    {g : α → Except Fault Result} (h : ∀ a, R (f a) (g a)) {run : Run α} {r : Result}
    (hr : (run.bind fun a => .done (f a)).outcome? = some (.ok r)) :
    ∃ ending, (run.bind fun a => .ofExcept (g a)).outcome? = some ending ∧ R r ending := by
  obtain ⟨a, ha, hdone⟩ := outcome?_bind_eq_ok.mp hr
  cases hdone
  refine ⟨g a, ?_, h a⟩
  rw [outcome?_bind_of_ok _ ha, outcome?_ofExcept]

theorem exists_result_of_bind_ofExcept {R : Result → Except Fault Result → Prop} {f : α → Result}
    {g : α → Except Fault Result} (h : ∀ a, R (f a) (g a)) {run : Run α} {s : Result}
    (hs : (run.bind fun a => .ofExcept (g a)).outcome? = some (.ok s)) :
    ∃ r, (run.bind fun a => .done (f a)).outcome? = some (.ok r) ∧ R r (.ok s) := by
  obtain ⟨a, ha, hends⟩ := outcome?_bind_eq_ok.mp hs
  rw [outcome?_ofExcept, Option.some.injEq] at hends
  exact ⟨f a, outcome?_bind_eq_ok.mpr ⟨a, ha, rfl⟩, hends ▸ h a⟩

end Run

namespace Check

/-- A message for the whole changes what the expectations of the parts say and nothing else. -/
theorem inspecting_retold (message : Option Value) (code : Code) (x : Value) (parts : List Part)
    (es : List Expectation) :
    (inspecting message code x).start parts (es.map (Expectation.retold message)) =
      ((inspecting none code x).start parts es).found.bind fun es =>
        .done (wholeOf x (es.map (Expectation.retold message))) := by
  -- What has been gathered on the left has the message already, so the two stay in step.
  induction parts generalizing es with
  | nil => rfl
  | cons part parts ih =>
    rw [inspecting_cons, inspecting_cons, Run.found_bind, Run.bind_assoc]
    congr 1
    funext r
    rw [← ih, List.map_append, List.map_map]
    rfl

end Check

namespace Validator

open Expectation (retold)

/-- What is wrong with the fields of a map, in their own words. -/
def fieldFindings (schema : Schema) (entries : Entries) : Run (List Expectation) :=
  (Check.inspected none .mapFieldFailed (.map entries)
    (schema.map fun entry => Check.fieldPart entries entry.1 entry.2.toCheck)).found

/-- The result on a map that may have other keys. -/
def openResult (message : Option Value) (entries : Entries) (es : List Expectation) : Result :=
  (Check.wholeOf (.map entries) (es.map (retold message))).behind (.map entries)

/-- How the run ends on a map that may not: what is wrong with the fields goes before other keys,
and these need a message. -/
def strictEnding (schema : Schema) (message : Option Value) (entries : Entries)
    (es : List Expectation) : Except Fault Result :=
  if es.isEmpty then
    match undeclared schema.keys entries with
    | [] => .ok (.success (.map entries) (.map entries))
    | unknown => (unknownKeysMessage message unknown).map fun text =>
      .refusal (.map entries) (unknownKeys text (.map entries) unknown)
  else .ok (Check.wholeOf (.map entries) es)

theorem evaluate_mapOf_findings (schema : Schema) (message : Option Value) (site : Site)
    (entries : Entries) :
    (mapOf schema message).evaluate site (.map entries) =
      (fieldFindings schema entries).bind fun es => .done (openResult message entries es) := by
  rw [evaluate_mapOf_map, Check.inspected]
  have hretold := Check.inspecting_retold message .mapFieldFailed (.map entries)
    (schema.map fun entry => Check.fieldPart entries entry.1 entry.2.toCheck) []
  rw [List.map_nil] at hretold
  rw [hretold, Run.bind_assoc]
  rfl

theorem evaluate_strictMapOf_findings (schema : Schema) (message : Option Value) (site : Site)
    (entries : Entries) :
    (strictMapOf schema message).evaluate site (.map entries) =
      (fieldFindings schema entries).bind fun es =>
        .ofExcept (strictEnding schema message entries es) := by
  rw [strictMapOf, evaluate_of_unset rfl, body_and, Check.threaded_cons, toCheck_run,
    evaluate_mapOf_findings, Run.bind_assoc]
  congr 1
  funext es
  rw [Run.bind_done, openResult, Expectation.map_retold_of_none rfl, Result.isValid_behind,
    Result.value_behind, strictEnding]
  cases es with
  | nil =>
    -- Nothing is wrong with the fields, so the keys have the last word.
    change Check.threaded none _ [(onlyKeys schema.keys message).toCheck] (.map entries) = _
    rw [threaded_single, toCheck_run, evaluate_onlyKeys]
    cases undeclared schema.keys entries with
    | nil => rfl
    | cons key keys =>
      dsimp only
      cases unknownKeysMessage message (key :: keys) <;> rfl
  | cons e es => rfl

/-- A value that is no map is nothing to either of them. -/
theorem evaluate_strictMapOf_of_ne_map {x : Value} (h : ∀ entries, x ≠ .map entries)
    (schema : Schema) (message : Option Value) (site : Site) :
    (strictMapOf schema message).evaluate site x = (mapOf schema message).evaluate site x := by
  have hrejects := rejects_isMap h
  have hmap : ∀ message site, (mapOf schema message).evaluate site x =
      (isMap none).evaluate .plain x :=
    fun message site => evaluate_and_of_rejects hrejects _ site
  have hstrict : ((mapOf schema none).evaluate .plain x).Rejects := by rwa [hmap]
  rw [strictMapOf, evaluate_and_of_rejects hstrict, hmap, hmap]

/-- Whether there is something to say about keys: a message that was given, or a text that names
them. -/
def CanSay (message : Option Value) (keys : List Value) : Prop :=
  replacing? message ≠ none ∨ ∀ key ∈ keys, key.isShowable = true

theorem unknownKeysMessage_eq_ok {message : Option Value} {keys : List Value}
    (h : CanSay message keys) : ∃ text, unknownKeysMessage message keys = .ok text := by
  unfold unknownKeysMessage
  split
  · exact ⟨_, rfl⟩
  · next hnone =>
    rcases h with hmessage | hkeys
    · exact absurd hnone hmessage
    · rw [if_pos (List.all_eq_true.mpr hkeys)]
      exact ⟨_, rfl⟩

theorem unknownKeysMessage_eq_error {message : Option Value} {keys : List Value}
    (h : ¬CanSay message keys) : unknownKeysMessage message keys = .error .tooManyDigits := by
  rw [CanSay, not_or, not_not, ← List.all_eq_true] at h
  rw [unknownKeysMessage, h.1]
  exact if_neg h.2

/-- How the validation of a map that may have no other keys ends if the result is `r` where it may:
what is wrong with the fields is the same, apart from a message for the whole, and other keys
matter if nothing is. They are a fault if there is nothing to say about them. -/
structure Tightens (schema : Schema) (message : Option Value) (entries : Entries) (r : Result)
    (ending : Except Fault Result) : Prop where
  rejected : r.isValid = false →
    ∃ s, ending = .ok s ∧ s.isValid = false ∧ r = s.mapExpectations (retold message)
  unworded : r.isValid = false → replacing? message = none → ending = .ok r
  declared : r.isValid = true → undeclared schema.keys entries = [] → ending = .ok r
  unknown : r.isValid = true → undeclared schema.keys entries ≠ [] →
    CanSay message (undeclared schema.keys entries) →
    ∃ e, ending = .ok (.refusal (.map entries) e) ∧ e.code = some Code.unknownKey.text ∧
      e.data = some [("keys", .list ((entries.map (·.1)).filter fun key =>
        !key.isAmong schema.keys))]
  unsaid : r.isValid = true → undeclared schema.keys entries ≠ [] →
    ¬CanSay message (undeclared schema.keys entries) → ending = .error .tooManyDigits

theorem tightens_endings (schema : Schema) (message : Option Value) (entries : Entries)
    (es : List Expectation) :
    Tightens schema message entries (openResult message entries es)
      (strictEnding schema message entries es) := by
  cases es with
  | nil =>
    have hending : undeclared schema.keys entries ≠ [] →
        strictEnding schema message entries [] =
          (unknownKeysMessage message (undeclared schema.keys entries)).map fun text =>
            .refusal (.map entries)
              (unknownKeys text (.map entries) (undeclared schema.keys entries)) := by
      intro hsome
      rw [strictEnding, List.isEmpty_nil, if_pos rfl]
      cases hunknown : undeclared schema.keys entries with
      | nil => exact absurd hunknown hsome
      | cons key keys => rfl
    refine ⟨nofun, nofun, fun _ hnone => ?_, fun _ hsome hsay => ?_, fun _ hsome hsay => ?_⟩
    · rw [strictEnding, hnone]
      rfl
    · obtain ⟨text, htext⟩ := unknownKeysMessage_eq_ok hsay
      rw [hending hsome, htext]
      exact ⟨_, rfl, rfl, rfl⟩
    · rw [hending hsome, unknownKeysMessage_eq_error hsay]
      rfl
  | cons e es =>
    refine ⟨fun _ => ⟨_, rfl, rfl, rfl⟩, fun _ hnone => ?_, nofun, nofun, nofun⟩
    rw [openResult, Expectation.map_retold_of_none hnone]
    rfl

/-- The fault for keys without a text is the same one after waiting. -/
theorem carriedOut_strictEnding (awaiting : Bool) (schema : Schema) (message : Option Value)
    (entries : Entries) (es : List Expectation) :
    (Run.ofExcept (strictEnding schema message entries es)).carriedOut awaiting =
      .ofExcept (strictEnding schema message entries es) := by
  have hfault : ∀ fault, strictEnding schema message entries es = .error fault →
      fault = .tooManyDigits := by
    intro fault h
    unfold strictEnding unknownKeysMessage at h
    split at h
    · split at h
      · cases h
      · split at h
        · cases h
        · split at h
          · cases h
          · cases h
            rfl
    · cases h
  cases hending : strictEnding schema message entries es with
  | ok s => exact Run.carriedOut_done awaiting s
  | error fault =>
    rw [hfault fault hending]
    cases awaiting <;> rfl

/-- Without other keys a map is asked for the same. A value that is no map has the same results,
with and without waiting. A map that is rejected anyway is rejected for the same reasons, with the
same result if there is no message to replace theirs; a map that is accepted is accepted still if
all of its keys are declared, with the same result, and else is rejected for the keys that are not,
in the order of the map, or is a fault if no message was given and one of them has no text. A map
that has a result without other keys has one with them. -/
theorem strictMapOf_tightens (schema : Schema) (message : Option Value) (awaiting present : Bool) :
    (∀ x r, (∀ entries, x ≠ .map entries) →
      (((strictMapOf schema message).validated awaiting x present).outcome? = some (.ok r) ↔
        ((mapOf schema message).validated awaiting x present).outcome? = some (.ok r))) ∧
      (∀ entries r,
        ((mapOf schema message).validated awaiting (.map entries) present).outcome? =
            some (.ok r) →
          ∃ ending, ((strictMapOf schema message).validated awaiting (.map entries)
            present).outcome? = some ending ∧ Tightens schema message entries r ending) ∧
      ∀ entries s,
        ((strictMapOf schema message).validated awaiting (.map entries) present).outcome? =
            some (.ok s) →
          ∃ r, ((mapOf schema message).validated awaiting (.map entries) present).outcome? =
            some (.ok r) ∧ Tightens schema message entries r (.ok s) := by
  refine ⟨fun x r hmap => ?_, fun entries r hr => ?_, fun entries s hs => ?_⟩
  · rw [outcome?_validated_iff, outcome?_validated_iff, evaluate_strictMapOf_of_ne_map hmap]
  · simp only [outcome?_validated_iff, evaluate_mapOf_findings, Run.carriedOut_bind,
      Run.carriedOut_done] at hr
    obtain ⟨ending, hending, htightens⟩ :=
      Run.exists_ending_of_bind_done (tightens_endings schema message entries) hr
    refine ⟨ending, outcome?_validated_of_some ?_, htightens⟩
    simpa only [evaluate_strictMapOf_findings, Run.carriedOut_bind, carriedOut_strictEnding]
      using hending
  · simp only [outcome?_validated_iff, evaluate_mapOf_findings, evaluate_strictMapOf_findings,
      Run.carriedOut_bind, Run.carriedOut_done, carriedOut_strictEnding] at hs ⊢
    exact Run.exists_result_of_bind_ofExcept (tightens_endings schema message entries) hs

def textSchema : Schema := [(.str "a", isString none)]

def textAndMore : Entries := [(.str "a", .str "t"), (.str "b", .int 2)]

/-- A number is no map to either, and the key that is not declared is named. -/
theorem strictMapOf_tightens_textSchema :
    (∀ entries, Value.int 5 ≠ .map entries) ∧
      (∃ r, r.isValid = false ∧
        ((strictMapOf textSchema (some (.str "m"))).validated false (.int 5) true).outcome? =
          some (.ok r)) ∧
      ((mapOf textSchema (some (.str "m"))).validated false (.map textAndMore) true).outcome? =
        some (.ok (.success (.map textAndMore) (.map textAndMore))) ∧
      ∃ e, ((strictMapOf textSchema (some (.str "m"))).validated false (.map textAndMore)
          true).outcome? = some (.ok (.refusal (.map textAndMore) e)) ∧
        e.data = some [("keys", .list [.str "b"])] := by
  obtain ⟨hothers, hopen, -⟩ := strictMapOf_tightens textSchema (some (.str "m")) false true
  have hmap : ∀ entries, Value.int 5 ≠ .map entries := by
    intro entries h
    cases h
  have hfind : Entries.find? textAndMore (.str "a") = some (.str "t") := by
    simp [Entries.find?, textAndMore, Value.equals]
  have hfindings : fieldFindings textSchema textAndMore = .done [] := by
    rw [fieldFindings, textSchema, List.map_singleton, Check.fieldPart_of_isShowable rfl,
      Entries.hasKey_iff_find?, hfind]
    rfl
  have haccepted : ((mapOf textSchema (some (.str "m"))).validated false (.map textAndMore)
      true).outcome? = some (.ok (.success (.map textAndMore) (.map textAndMore))) := by
    refine (outcome?_validated_iff false _ _ true _).mpr ?_
    rw [evaluate_mapOf_findings, hfindings]
    rfl
  have hkeys : undeclared textSchema.keys textAndMore = [.str "b"] := by
    simp [undeclared, Schema.keys, textSchema, textAndMore, Value.isAmong, Value.equals]
  obtain ⟨ending, hs, htightens⟩ := hopen textAndMore _ haccepted
  obtain ⟨e, rfl, -, hdata⟩ :=
    htightens.unknown rfl (hkeys ▸ List.cons_ne_nil _ _) (.inl (Option.some_ne_none _))
  refine ⟨hmap, ⟨_, ?_, (hothers (.int 5) _ hmap).mpr rfl⟩, haccepted, e, hs, ?_⟩
  · rfl
  · rw [hdata]
    exact congrArg (fun keys => some [("keys", Value.list keys)]) hkeys

/-- What is wrong with a field is said in the words of the message, or in those of the field. -/
theorem strictMapOf_keeps_field_message :
    ((mapOf textSchema (some (.str "m"))).validate (.map [(.str "a", .int 1)]) true).outcome? =
        some (.ok (.refusal (.map [(.str "a", .int 1)])
          { message := .str "m", value := .int 1, path := some ".a",
            code := some "type.mismatch",
            data := some [("expected", .str "str"), ("found", .str "int")] })) ∧
      ((strictMapOf textSchema (some (.str "m"))).validate (.map [(.str "a", .int 1)])
          true).outcome? =
        some (.ok (.refusal (.map [(.str "a", .int 1)])
          { message := .str "str", value := .int 1, path := some ".a",
            code := some "type.mismatch",
            data := some [("expected", .str "str"), ("found", .str "int")] })) := by
  have hfind : Entries.find? [(.str "a", .int 1)] (.str "a") = some (.int 1) := by
    simp [Entries.find?, Value.equals]
  have hfindings : fieldFindings textSchema [(.str "a", .int 1)] =
      .done [{ message := .str "str", value := .int 1, path := some ".a",
               code := some "type.mismatch",
               data := some [("expected", .str "str"), ("found", .str "int")] }] := by
    rw [fieldFindings, textSchema, List.map_singleton, Check.fieldPart_of_isShowable rfl,
      Entries.hasKey_iff_find?, hfind]
    rfl
  constructor
  · refine (outcome?_validated_iff false _ _ true _).mpr ?_
    rw [evaluate_mapOf_findings, hfindings]
    rfl
  · refine (outcome?_validated_iff false _ _ true _).mpr ?_
    rw [evaluate_strictMapOf_findings, hfindings]
    rfl

end Validator
end Conform
