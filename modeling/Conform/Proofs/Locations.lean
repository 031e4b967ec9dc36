import Conform.Proofs.Shape
import Mathlib.Data.List.Forall2

/-
  What a nested schema of maps and lists reports. `found_evaluate`: carrying out the schema is
  asking the validators of its locations one after another. `validate_reports_failing_locations`
  draws the conclusion for the synchronous entry point: its expectations are the failures of the
  failing locations, in order, each with its path.
-/

namespace Conform

/-! ## Failures on the way out -/

/-- A failure at the end of a path as it is reported at its start. -/
def placed (path : List Segment) (e : Expectation) : Expectation :=
  match path.getLast? with
  | none => e
  | some segment =>
    { e with
      path := some (pathText path ++ e.path.getD "")
      code := firstNonEmpty e.code (some segment.code.text) }

@[simp] theorem placed_nil (e : Expectation) : placed [] e = e := rfl

theorem firstNonEmpty_firstNonEmpty (code : Option String) (inner outer : Code) :
    firstNonEmpty (firstNonEmpty code (some inner.text)) (some outer.text) =
      firstNonEmpty code (some inner.text) := by
  unfold firstNonEmpty
  cases h : nonEmpty? code with
  | none => simp [nonEmpty?, Option.filter, inner.text_ne_empty]
  | some text =>
    have hne : (text != "") = true := (Option.filter_eq_some_iff.mp h).2
    simp only [nonEmpty?, Option.filter, hne, if_true]

/-- One container after another puts its segment in front of the path, and only the innermost one
has a say in the code. -/
theorem outward_placed (segment : Segment) (path : List Segment) (e : Expectation) :
    Check.outward none segment.code segment.text (placed path e) = placed (segment :: path) e := by
  cases path with
  | nil => simp [placed, Check.outward, Expectation.under, pathText, messageOr, replacing?]
  | cons inner path =>
    have hlast : (inner :: path).getLast? = some ((inner :: path).getLast (by simp)) :=
      List.getLast?_eq_some_getLast _
    simp only [placed, List.getLast?_cons_cons, hlast, Check.outward, Expectation.under,
      firstNonEmpty_firstNonEmpty, pathText, String.append_assoc]
    rfl

/-- A failure without a path of its own gets the path of its location. -/
theorem Location.placed_of_pathless (l : Location) {e : Expectation} (h : e.path = none) :
    placed l.path e = l.reported e := by
  obtain ⟨path, asked, site, x⟩ := l
  cases path with
  | nil => simp [Location.reported, Location.codeFor, pathText?, ← h]
  | cons segment path =>
    have hlast : (segment :: path).getLast? = some ((segment :: path).getLast (by simp)) :=
      List.getLast?_eq_some_getLast _
    simp only [placed, Location.reported, Location.codeFor, hlast, h, pathText?_cons,
      Option.getD_none, String.append_empty]

/-- What the validators of locations find wrong, asked one after another. -/
def reports : List Location → Run (List Expectation)
  | [] => .done []
  | l :: ls => (l.asked.evaluate l.site l.value).found.bind fun es =>
    (reports ls).bind fun rest => .done (es.map (placed l.path) ++ rest)

theorem reports_append (ls ms : List Location) :
    reports (ls ++ ms) =
      (reports ls).bind fun es => (reports ms).bind fun rest => .done (es ++ rest) := by
  induction ls with
  | nil => simp [reports]
  | cons l ls ih => simp [reports, ih, Run.bind_assoc]

theorem reports_below (segment : Segment) (ls : List Location) :
    reports (ls.map (Location.below segment)) =
      (reports ls).bind fun es =>
        .done (es.map (Check.outward none segment.code segment.text)) := by
  induction ls with
  | nil => rfl
  | cons l ls ih =>
    have hplaced : ∀ es : List Expectation, es.map (placed (segment :: l.path)) =
        (es.map (placed l.path)).map (Check.outward none segment.code segment.text) := by
      intro es
      rw [List.map_map]
      exact List.map_congr_left fun e _ => (outward_placed segment l.path e).symm
    simp only [List.map_cons, reports, Location.below, ih, Run.bind_assoc, Run.bind_done, hplaced,
      List.map_append]

/-! ## Parts -/

/-- The locations of a part are those that its check looks at. -/
def Covers (code : Code) (part : Check.Part) (locations : Segment × List Location) : Prop :=
  part.1 = locations.1.text ∧ locations.1.code = code ∧ part.2.found = reports locations.2

theorem found_inspecting {code : Code} {x : Value} {parts : List Check.Part}
    {locations : List (Segment × List Location)} (h : List.Forall₂ (Covers code) parts locations)
    (es : List Expectation) :
    ((Check.inspecting none code x).start parts es).found =
      (reports (Shape.inParts locations)).bind fun rest => .done (es ++ rest) := by
  induction h generalizing es with
  | nil => simp [Check.inspecting, Check.wholeOf, Shape.inParts, reports]
  | @cons part location parts locations hpart _ ih =>
    obtain ⟨hsegment, rfl, hrun⟩ := hpart
    rw [Shape.inParts_cons, reports_append, reports_below, ← hrun, Check.inspecting_cons,
      Run.found_bind, hsegment]
    simp only [ih, List.append_assoc]
    rw [Run.found]
    simp only [Run.bind_assoc, Run.bind_done]

/-! ## Containers -/

theorem found_guard (f : Flags) (body : Site → Value → Run Result) (site : Site) (x : Value) :
    (f.guard body site x).found = if f.letPass site x then .done [] else (body site x).found := by
  rw [Flags.guard]
  split <;> rfl

theorem reports_single (v : Validator) (site : Site) (x : Value) :
    reports [⟨[], v, site, x⟩] = (v.evaluate site x).found := by
  have hplaced : ∀ es : List Expectation, es.map (placed []) = es := by
    intro es
    exact (List.map_congr_left fun e _ => placed_nil e).trans (List.map_id es)
  simp only [reports, hplaced, Run.bind_done, List.append_nil, Run.bind_pure]

namespace Shape

theorem length_placeValidators (places : List Shape) :
    (placeValidators places).length = places.length := by
  induction places with
  | nil => rfl
  | cons s rest ih => rw [placeValidators, List.length_cons, List.length_cons, ih]

/-- A map schema looks at its fields behind its guard. -/
theorem found_mapOf (schema : Schema) (f : Flags) (site : Site) (x : Value) :
    (((Validator.mapOf schema none).withFlags f).evaluate site x).found =
      if f.letPass site x then .done []
      else match x with
        | .map entries => (Check.inspected none .mapFieldFailed x
            (schema.map fun entry => Check.fieldPart entries entry.1 entry.2.toCheck)).found
        | _ => reports [⟨[], Validator.isMap none, .plain, x⟩] := by
  rw [Validator.evaluate_withFlags, found_guard]
  congr 1
  have hbody : (Validator.mapOf schema none).body site x = Check.threaded none x
      [(Validator.isMap none).toCheck, (Validator.fields schema none {}).toCheck] x := rfl
  rw [hbody]
  split
  · next entries =>
    rw [Validator.threaded_of_accepts _ _ (Validator.evaluate_isMap entries),
      Validator.found_threaded_single, Validator.toCheck_run, Validator.evaluate,
      Validator.flags, Flags.guard_unset, Validator.body_fields, Check.schema, List.map_map]
    rfl
  · next h =>
    rw [Validator.threaded_of_rejects _ _ (Validator.rejects_isMap h), reports_single]

/-- A list schema looks at its items behind its guard. -/
theorem found_listEach (item : Validator) (f : Flags) (site : Site) (x : Value) :
    (((Validator.listEach item none).withFlags f).evaluate site x).found =
      if f.letPass site x then .done []
      else match x with
        | .list items => (Check.inspected none .listItemFailed x
            (Check.itemParts (fun _ y => item.evaluate .plain y) items)).found
        | _ => reports [⟨[], Validator.isList none, .plain, x⟩] := by
  rw [Validator.evaluate_withFlags, found_guard]
  congr 1
  have hbody : (Validator.listEach item none).body site x = Check.threaded none x
      [(Validator.isList none).toCheck, (Validator.listItems item none {}).toCheck] x := rfl
  rw [hbody]
  split
  · next items =>
    rw [Validator.threaded_of_accepts _ _ (Validator.evaluate_isList items),
      Validator.found_threaded_single, Validator.toCheck_run, Validator.evaluate,
      Validator.flags, Flags.guard_unset, Validator.body_listItems, Check.everyItem]
    rfl
  · next h =>
    rw [Validator.threaded_of_rejects _ _ (Validator.rejects_isList h), reports_single]

/-- A positional list schema looks at its items behind its guards. -/
theorem found_listOf (vs : List Validator) (f : Flags) (site : Site) (x : Value) :
    (((Validator.listOf vs).withFlags f).evaluate site x).found =
      if f.letPass site x then .done []
      else match x with
        | .list items =>
          if items.length = vs.length then (Check.inspected none .listItemFailed x
            (Check.itemParts (Check.runAtPlace (vs.map Validator.toCheck)) items)).found
          else reports [⟨[], Validator.lengthIs vs.length, .plain, x⟩]
        | _ => reports [⟨[], Validator.isList none, .plain, x⟩] := by
  rw [Validator.evaluate_withFlags, found_guard]
  congr 1
  have hbody : (Validator.listOf vs).body site x = Check.threaded none x
      [(Validator.isList none).toCheck, (Validator.lengthIs vs.length).toCheck,
        (Validator.listPlaces vs {}).toCheck] x := rfl
  rw [hbody]
  split
  · next items =>
    rw [Validator.threaded_of_accepts _ _ (Validator.evaluate_isList items)]
    split
    · next hlength =>
      rw [Validator.threaded_of_accepts _ _ (Validator.evaluate_lengthIs hlength),
        Validator.found_threaded_single, Validator.toCheck_run, Validator.evaluate,
        Validator.flags, Flags.guard_unset, Validator.body_listPlaces, Check.places]
    · next hlength =>
      rw [Validator.threaded_of_rejects _ _ (Validator.rejects_lengthIs hlength), reports_single]
  · next h =>
    rw [Validator.threaded_of_rejects _ _ (Validator.rejects_isList h), reports_single]

mutual

/-- Carrying out a schema is asking the validators of its locations one after another. -/
theorem found_evaluate : (s : Shape) → (site : Site) → (x : Value) →
    (s.validator.evaluate site x).found = reports (s.locations site x)
  | .leaf v, site, x => by
    rw [validator, locations]
    split
    · next h => rw [Validator.evaluate, found_guard, if_pos h, reports]
    · rw [reports_single]
  | .map fields f, site, x => by
    rw [validator, found_mapOf, locations_map]
    split
    · rfl
    · cases x with
      | map entries =>
        exact (found_inspecting (covers_fields entries fields) []).trans (Run.bind_pure _)
      | _ => rfl
  | .each item f, site, x => by
    rw [validator, found_listEach, locations_each]
    split
    · rfl
    · cases x with
      | list items =>
        have hcovers : List.Forall₂ (Covers .listItemFailed)
            (Check.itemParts (fun _ y => (validator item).evaluate .plain y) items)
            (items.zipIdx.map fun (y, i) => (Segment.index i, locations item .plain y)) := by
          refine List.forall₂_map_left_iff.mpr (List.forall₂_map_right_iff.mpr ?_)
          exact List.forall₂_same.mpr fun entry _ => ⟨rfl, rfl, found_evaluate item _ _⟩
        exact (found_inspecting hcovers []).trans (Run.bind_pure _)
      | _ => rfl
  | .list places f, site, x => by
    rw [validator, found_listOf, locations_list, length_placeValidators]
    split
    · rfl
    · cases x with
      | list items =>
        by_cases hlength : items.length = places.length
        · have hcovers := covers_places _ places 0 items hlength rfl
          simp only [hlength, if_true]
          exact (found_inspecting hcovers []).trans (Run.bind_pure _)
        · simp only [hlength, if_false]
      | _ => rfl

theorem covers_fields (entries : Entries) : (fields : List (Value × Shape)) →
    List.Forall₂ (Covers .mapFieldFailed)
      ((fieldValidators fields).map fun entry =>
        Check.fieldPart entries entry.1 entry.2.toCheck)
      (fieldLocations entries fields)
  | [] => by
    rw [fieldValidators, fieldLocations]
    exact .nil
  | (key, s) :: rest => by
    rw [fieldValidators, fieldLocations, List.map_cons]
    refine .cons ⟨rfl, rfl, ?_⟩ (covers_fields entries rest)
    cases hkey : key.isShowable with
    | true =>
      rw [Check.fieldPart_of_isShowable hkey, if_pos rfl]
      exact found_evaluate s _ _
    | false =>
      rw [Check.fieldPart_of_not_isShowable hkey, if_neg Bool.false_ne_true]
      rfl

theorem covers_places (checks : List Check) : (places : List Shape) → (i : Nat) →
    (items : List Value) → items.length = places.length →
    checks.drop i = (placeValidators places).map Validator.toCheck →
    List.Forall₂ (Covers .listItemFailed)
      ((items.zipIdx i).map fun (y, i) => (Check.indexSegment i, Check.runAtPlace checks i y))
      (placeLocations places i items)
  | [], i, [], _, _ => by
    rw [placeLocations]
    · exact .nil
    · exact nofun
  | s :: rest, i, y :: ys, hlength, hchecks => by
    have hhere : checks[i]? = some (validator s).toCheck := by
      have hdrop := congrArg (·[0]?) hchecks
      simpa [placeValidators] using hdrop
    have hrest : checks.drop (i + 1) = (placeValidators rest).map Validator.toCheck := by
      rw [← List.drop_drop, hchecks, placeValidators, List.map_cons, List.drop_one, List.tail_cons]
    rw [placeLocations, List.zipIdx_cons, List.map_cons]
    refine .cons ⟨rfl, rfl, ?_⟩ (covers_places checks rest (i + 1) ys (Nat.succ.inj hlength) hrest)
    simp only [Check.runAtPlace, hhere]
    exact found_evaluate s _ _

end

/-! ## What the synchronous entry point reports -/

/-- The validators of all locations give results if they are asked one after another exactly if
each of them does. -/
theorem outcome?_reports_eq_ok (ls : List Location) (es : List Expectation) :
    (reports ls).outcome? = some (.ok es) ↔
      (∀ l ∈ ls, l.Answers) ∧ es = ls.flatMap fun l => l.own.map (placed l.path) := by
  induction ls generalizing es with
  | nil => simp [reports, eq_comm]
  | cons l ls ih =>
    rw [reports, Run.outcome?_bind_eq_ok]
    constructor
    · rintro ⟨own, hown, hrest⟩
      obtain ⟨r, hr, hown⟩ := Run.outcome?_bind_eq_ok.mp hown
      obtain ⟨rest, hls, hes⟩ := Run.outcome?_bind_eq_ok.mp hrest
      cases hown
      cases hes
      obtain ⟨hanswers, rfl⟩ := (ih rest).mp hls
      refine ⟨List.forall_mem_cons.mpr ⟨⟨r, hr⟩, hanswers⟩, ?_⟩
      rw [List.flatMap_cons, Location.own_of_answer hr]
    · rintro ⟨hanswers, rfl⟩
      obtain ⟨⟨r, hr⟩, hanswers⟩ := List.forall_mem_cons.mp hanswers
      refine ⟨r.expectations, Run.outcome?_bind_eq_ok.mpr ⟨r, hr, rfl⟩, ?_⟩
      refine Run.outcome?_bind_eq_ok.mpr ⟨_, (ih _).mpr ⟨hanswers, rfl⟩, ?_⟩
      rw [List.flatMap_cons, Location.own_of_answer hr]
      rfl

/-- Locations where nothing is wrong report nothing. -/
theorem flatMap_failing (s : Shape) (site : Site) (x : Value) {α : Type}
    (f : Location → Expectation → α) :
    (s.failing site x).flatMap (fun l => l.own.map (f l)) =
      (s.locations site x).flatMap fun l => l.own.map (f l) := by
  rw [failing]
  induction s.locations site x with
  | nil => rfl
  | cons l ls ih => cases h : l.own <;> simp [Location.fails, h, ih]

/-- A location where something is wrong reports something. -/
theorem flatMap_failing_eq_nil_iff (s : Shape) (site : Site) (x : Value) {α : Type}
    (f : Location → Expectation → α) :
    (s.failing site x).flatMap (fun l => l.own.map (f l)) = [] ↔ s.failing site x = [] := by
  refine ⟨fun h => ?_, fun h => by rw [h, List.flatMap_nil]⟩
  refine List.eq_nil_iff_forall_not_mem.mpr fun l hl => ?_
  have hnone : l.own = [] := List.map_eq_nil_iff.mp (List.flatMap_eq_nil_iff.mp h l hl)
  have hfails : l.fails = true := (List.mem_filter.mp hl).2
  rw [Location.fails, hnone] at hfails
  cases hfails

theorem pathless_own {s : Shape} (h : s.PathlessLeaves) (site : Site) (x : Value) :
    ∀ l ∈ s.locations site x, ∀ e ∈ l.own, e.path = none := by
  refine locations_induction (P := fun ls => ∀ l ∈ ls, ∀ e ∈ l.own, e.path = none) ?_ s h site x
  have hsingle : ∀ v site x, v.Pathless →
      ∀ l ∈ [(⟨[], v, site, x⟩ : Location)], ∀ e ∈ l.own, e.path = none := by
    intro v site x hv l hl e he
    obtain rfl := List.mem_singleton.mp hl
    rw [Location.own] at he
    split at he
    · next r hr => exact hv site x r hr e he
    · cases he
  have hparts : ∀ parts : List (Segment × List Location),
      (∀ part ∈ parts, ∀ l ∈ part.2, ∀ e ∈ l.own, e.path = none) →
        ∀ l ∈ inParts parts, ∀ e ∈ l.own, e.path = none := by
    intro parts hparts l hl
    obtain ⟨part, hpart, inner, hinner, rfl⟩ := exists_of_mem_inParts hl
    exact hparts part hpart inner hinner
  have hnil : ∀ l ∈ ([] : List Location), ∀ e ∈ l.own, e.path = none := by
    intro l hl
    cases hl
  exact ⟨hnil, hsingle, fun v => hsingle v .plain, fun parts _ _ _ => hparts parts,
    fun parts _ _ => hparts parts⟩

/-- The expectations of a nested schema of maps and lists are the failures of the locations that
fail, depth first, each with the path to its location. -/
theorem validate_reports_failing_locations (s : Shape) (hpathless : s.PathlessLeaves) (x : Value)
    (present : Bool) :
    let looked := s.locations ⟨present, none⟩ x
    let failing := s.failing ⟨present, none⟩ x
    ((∃ r, (s.validator.validate x present).outcome? = some (.ok r)) ↔ ∀ l ∈ looked, l.Answers) ∧
      (∀ r, (s.validator.validate x present).outcome? = some (.ok r) →
        r.expectations = failing.flatMap (fun l => l.own.map l.reported) ∧
          (r.isValid = true ↔ failing = [])) ∧
      (s.DistinctKeys → (looked.map Location.path).Nodup) ∧
      (s.DistinctKeys → s.PlainKeys → (looked.map fun l => pathText? l.path).Nodup) := by
  intro looked failing
  have hrun : ∀ r, (s.validator.validate x present).outcome? = some (.ok r) ↔
      (s.validator.evaluate ⟨present, none⟩ x).outcome? = some (.ok r) :=
    Validator.outcome?_validate_eq_ok
  have hreports : ∀ es, (∃ r, (s.validator.validate x present).outcome? = some (.ok r) ∧
      r.expectations = es) ↔ (∀ l ∈ looked, l.Answers) ∧
        es = looked.flatMap fun l => l.own.map (placed l.path) := by
    intro es
    rw [← outcome?_reports_eq_ok, ← found_evaluate, Run.found, Run.outcome?_bind_eq_ok]
    simp only [hrun, Run.outcome?_done, Option.some.injEq, Except.ok.injEq]
  have hplaced : looked.flatMap (fun l => l.own.map (placed l.path)) =
      failing.flatMap fun l => l.own.map l.reported := by
    have hfailing : failing.flatMap (fun l => l.own.map l.reported) =
        looked.flatMap fun l => l.own.map l.reported := flatMap_failing s _ x _
    rw [hfailing]
    refine List.flatMap_congr fun l hl => List.map_congr_left fun e he => ?_
    exact l.placed_of_pathless (pathless_own hpathless _ x l hl e he)
  refine ⟨⟨?_, ?_⟩, fun r hr => ?_, fun h => nodup_paths h _ x,
    fun h h' => nodup_pathTexts h h' _ x⟩
  · rintro ⟨r, hr⟩
    exact ((hreports r.expectations).mp ⟨r, hr, rfl⟩).1
  · intro hanswers
    obtain ⟨r, hr, -⟩ := (hreports _).mpr ⟨hanswers, rfl⟩
    exact ⟨r, hr⟩
  · have hes : r.expectations = failing.flatMap fun l => l.own.map l.reported := by
      rw [((hreports r.expectations).mp ⟨r, hr, rfl⟩).2, hplaced]
    refine ⟨hes, ?_⟩
    rw [Result.isValid_iff, hes]
    exact flatMap_failing_eq_nil_iff s _ x _

/-- A map with tags, which are numbers and may be absent, and a name. -/
def tagged : Shape :=
  .map [(.str "tags", .each (.leaf (Validator.isKind .int none)) ⟨true, false⟩),
    (.str "name", .leaf (Validator.isString none))] {}

/-- A wrong item of a list and a field that is missing are both reported, each in its place. -/
theorem validate_reports_item_and_field :
    tagged.PathlessLeaves ∧ tagged.DistinctKeys ∧ tagged.PlainKeys ∧
      ∃ r, (tagged.validator.validate (.map [(.str "tags", .list [.int 1, .str "b"])])
          true).outcome? = some (.ok r) ∧
        r.expectations.map Expectation.path = [some ".tags[1]", some ".name"] ∧
        r.isValid = false ∧
        ((tagged.locations .plain (.map [(.str "tags", .list [.int 1, .str "b"])])).map
          fun l => pathText? l.path).Nodup := by
  have hpathless : tagged.PathlessLeaves :=
    ⟨trivial, Validator.pathless_ofPredicate _ _, Validator.pathless_ofPredicate _ _, trivial⟩
  have hdistinct : tagged.DistinctKeys := ⟨by simp, trivial, trivial, trivial⟩
  have hplain : tagged.PlainKeys := by
    have htags : ∀ c ∈ "tags".toList, ¬ Segment.starts c := by simp [Segment.starts]
    have hname : ∀ c ∈ "name".toList, ¬ Segment.starts c := by simp [Segment.starts]
    exact ⟨List.forall_mem_cons.mpr ⟨htags, List.forall_mem_singleton.mpr hname⟩, trivial, trivial,
      trivial⟩
  have h := validate_reports_failing_locations tagged hpathless
    (.map [(.str "tags", .list [.int 1, .str "b"])]) true
  obtain ⟨r, hr⟩ := h.1.mpr (by decide +kernel)
  obtain ⟨hes, hvalid⟩ := h.2.1 r hr
  refine ⟨hpathless, hdistinct, hplain, r, hr, ?_, ?_, h.2.2.2 hdistinct hplain⟩
  · rw [hes]
    decide +kernel
  · rw [Result.isValid, hes]
    decide +kernel

end Shape
end Conform
