import Conform.Validator.Evaluate
import Mathlib.Data.List.Forall2

/-
  Relations between runs. A run relation is kept by the ways in which runs are put together: an
  answer, a fault, a log record, one run after another. Hence it is kept by every combination of
  checks: if the runs of the children are related, then so are the runs of the node. Nothing is
  assumed about points of waiting, so this says of each node that it treats the runs of its
  children as wholes, wherever they may have to be waited for.
-/

namespace Conform

/-- A relation between runs that is kept by the ways in which nodes put runs together. -/
structure RunRelation where
  Holds : {α : Type} → Run α → Run α → Prop
  done : ∀ {α : Type} (a : α), Holds (.done a) (.done a)
  raised : ∀ {α : Type} (fault : Fault), Holds (.raised fault : Run α) (.raised fault)
  logged : ∀ {α : Type} (entry : LogRecord) {r s : Run α},
    Holds r s → Holds (.note (.logged entry) r) (.note (.logged entry) s)
  bind : ∀ {α β : Type} {r s : Run α} {f g : α → Run β},
    Holds r s → (∀ a, Holds (f a) (g a)) → Holds (r.bind f) (s.bind g)

/-- Two checks whose runs are related and that expect the same. -/
structure Check.Related (R : RunRelation) (c d : Check) : Prop where
  run : ∀ site x, R.Holds (c.run site x) (d.run site x)
  describe : c.describe = d.describe

namespace RunRelation

variable (R : RunRelation)

theorem ofExcept {α : Type} (e : Except Fault α) :
    R.Holds (Run.ofExcept e) (Run.ofExcept e) := by
  cases e with
  | ok a => exact R.done a
  | error fault => exact R.raised fault

/-- Flags let a value pass in both runs or in neither. -/
theorem guard (f : Flags) {body body' : Site → Value → Run Result}
    (h : ∀ site x, R.Holds (body site x) (body' site x)) (site : Site) (x : Value) :
    R.Holds (f.guard body site x) (f.guard body' site x) := by
  unfold Flags.guard
  split
  · exact R.done _
  · exact h site x

/-- A walk through related members, each of which has the same effect on the walk. -/
theorem start {ι σ : Type} (w : Walk ι σ) {rel : ι → ι → Prop}
    (hvisit : ∀ {i j}, rel i j → ∀ s, R.Holds (w.visit i s) (w.visit j s))
    (hstep : ∀ {i j}, rel i j → w.step i = w.step j)
    {is js : List ι} (h : List.Forall₂ rel is js) (s : σ) :
    R.Holds (w.start is s) (w.start js s) := by
  induction h generalizing s with
  | nil => exact R.done _
  | @cons i j is js hij _ ih =>
    rw [Walk.start_cons, Walk.start_cons]
    refine R.bind (hvisit hij s) fun r => ?_
    rw [Walk.afterStep, Walk.afterStep, hstep hij]
    refine R.bind (R.ofExcept _) fun next => ?_
    cases next with
    | inl stop => exact R.done stop
    | inr s => exact ih s

/-! ## Nodes with several children -/

section Several

variable {cs ds : List Check} (h : List.Forall₂ (Check.Related R) cs ds)
include h

theorem threaded (message : Option Value) (given x : Value) :
    R.Holds (Check.threaded message given cs x) (Check.threaded message given ds x) :=
  R.start _ (fun hcd _ => hcd.run _ _) (fun _ => rfl) h x

theorem collected (message : Option Value) (x : Value) :
    R.Holds (Check.collected message cs x) (Check.collected message ds x) :=
  R.start _ (fun hcd _ => hcd.run _ _) (fun _ => rfl) h []

theorem alternatives (message : Option Value) (x : Value) :
    R.Holds (Check.alternatives message cs x) (Check.alternatives message ds x) :=
  R.start _ (fun hcd _ => hcd.run _ _) (fun _ => rfl) h []

theorem exclusion (message : Option Value) (x : Value) :
    R.Holds (Check.exclusion message cs x) (Check.exclusion message ds x) := by
  refine R.start _ (fun hcd _ => hcd.run _ _) (fun {c d} hcd => ?_) h []
  -- A check that is denied says what it expects, so the expectations must agree as well.
  funext r es
  simp only [Check.excluding, Check.denied, hcd.describe]

theorem sized (message : Option Value) (x : Value) :
    R.Holds (Check.sized message cs x) (Check.sized message ds x) := by
  unfold Check.sized
  split
  · exact R.done _
  · exact R.bind (R.threaded h _ _ _) fun _ => R.done _

end Several

/-! ## Nodes with one child -/

section One

variable {c d : Check} (h : Check.Related R c d)
include h

theorem negated (message : Option Value) (x : Value) :
    R.Holds (Check.negated message c x) (Check.negated message d x) := by
  unfold Check.negated
  refine R.bind (h.run _ _) fun r => ?_
  split
  · split
    · exact R.done _
    · rw [Check.denied, Check.denied, h.describe]
      exact R.bind (R.ofExcept _) fun _ => R.done _
  · exact R.done _

theorem replaced (e : Expectation) (x : Value) :
    R.Holds (Check.replaced e c x) (Check.replaced e d x) := by
  unfold Check.replaced
  refine R.bind (h.run _ _) fun r => ?_
  split <;> exact R.done _

theorem throwing (x : Value) : R.Holds (Check.throwing c x) (Check.throwing d x) := by
  unfold Check.throwing
  refine R.bind (h.run _ _) fun r => ?_
  split
  · exact R.done _
  · split
    · exact R.logged _ (R.raised _)
    · exact R.raised _

theorem after (fn : Value → Except Fault Value) (x : Value) :
    R.Holds (Check.after fn c x) (Check.after fn d x) :=
  R.bind (R.ofExcept _) fun y => h.run _ y

theorem pivoted (find : Value → Except Fault (Option Value)) (message : String) (x : Value) :
    R.Holds (Check.pivoted find message c x) (Check.pivoted find message d x) := by
  unfold Check.pivoted
  refine R.bind (R.ofExcept _) fun found => ?_
  split
  · exact h.run _ _
  · exact R.done _

theorem coerced (target : String) {guard guard' : Check} (hg : Check.Related R guard guard')
    (convert : Value → Except String Value) (x : Value) :
    R.Holds (Check.coerced target guard convert c x) (Check.coerced target guard' convert d x) := by
  unfold Check.coerced
  refine R.bind (hg.run _ _) fun r => ?_
  split
  · split
    · exact h.run _ _
    · exact R.done _
  · exact R.done _

theorem onField (key x : Value) : R.Holds (Check.onField key c x) (Check.onField key d x) := by
  unfold Check.onField
  refine R.bind (R.ofExcept _) fun y => R.bind (h.run _ y) fun r => ?_
  split
  · exact R.done _
  · exact R.bind (R.ofExcept _) fun _ => R.done _

end One

/-! ## Nodes that choose by the enclosing map -/

theorem conditional (message : Option Value) {c c' t t' o o' : Check}
    (hc : Check.Related R c c') (ht : Check.Related R t t') (ho : Check.Related R o o')
    (site : Site) (x : Value) :
    R.Holds (Check.conditional message c t o site x)
      (Check.conditional message c' t' o' site x) := by
  unfold Check.conditional
  split
  · exact R.done _
  · refine R.bind (hc.run _ _) fun met => ?_
    refine R.bind ?_ fun _ => R.done _
    split
    · exact ht.run _ _
    · exact ho.run _ _

theorem chosen {choose choose' : Entries → Check}
    (h : ∀ parent, Check.Related R (choose parent) (choose' parent)) (site : Site) (x : Value) :
    R.Holds (Check.chosen choose site x) (Check.chosen choose' site x) := by
  unfold Check.chosen
  split
  · exact R.done _
  · exact (h _).run _ _

/-! ## Nodes for the parts of a value -/

def Keyed (R : RunRelation) (c d : Value × Check) : Prop := c.1 = d.1 ∧ Check.Related R c.2 d.2

/-- Two parts in the same place whose runs are related. -/
def SamePart (R : RunRelation) (p q : Check.Part) : Prop := p.1 = q.1 ∧ R.Holds p.2 q.2

theorem inspected (message : Option Value) (code : Code) (x : Value) {ps qs : List Check.Part}
    (h : List.Forall₂ R.SamePart ps qs) :
    R.Holds (Check.inspected message code x ps) (Check.inspected message code x qs) := by
  refine R.start _ (fun hpq _ => hpq.2) (fun {p q} hpq => ?_) h []
  funext r es
  simp only [Check.inspecting, hpq.1]

theorem schema (message : Option Value) {cs ds : List (Value × Check)}
    (h : List.Forall₂ R.Keyed cs ds) (x : Value) :
    R.Holds (Check.schema message cs x) (Check.schema message ds x) := by
  unfold Check.schema
  split
  · refine R.inspected _ _ _ (List.forall₂_map_left_iff.mpr (List.forall₂_map_right_iff.mpr ?_))
    refine h.imp fun c d hcd => ⟨?_, ?_⟩
    · simp only [Check.fieldPart, hcd.1]
    · simp only [Check.fieldPart, hcd.1]
      exact R.bind (R.ofExcept _) fun _ => hcd.2.run _ _
  · exact R.raised _

theorem itemParts {runAt runAt' : Nat → Value → Run Result}
    (h : ∀ index y, R.Holds (runAt index y) (runAt' index y)) (items : List Value) :
    List.Forall₂ R.SamePart (Check.itemParts runAt items) (Check.itemParts runAt' items) := by
  refine List.forall₂_map_left_iff.mpr (List.forall₂_map_right_iff.mpr ?_)
  exact List.forall₂_same.mpr fun item _ => ⟨rfl, h _ _⟩

theorem everyItem (message : Option Value) {c d : Check} (h : Check.Related R c d) (x : Value) :
    R.Holds (Check.everyItem message c x) (Check.everyItem message d x) := by
  unfold Check.everyItem
  split
  · exact R.inspected _ _ _ (R.itemParts (fun _ y => h.run _ y) _)
  · exact R.raised _

theorem runAtPlace {cs ds : List Check} (h : List.Forall₂ (Check.Related R) cs ds) (index : Nat)
    (y : Value) : R.Holds (Check.runAtPlace cs index y) (Check.runAtPlace ds index y) := by
  unfold Check.runAtPlace
  induction h generalizing index with
  | nil => exact R.raised _
  | @cons c d cs ds hcd _ ih =>
    cases index with
    | zero => exact hcd.run _ _
    | succ index => exact ih index

theorem places {cs ds : List Check} (h : List.Forall₂ (Check.Related R) cs ds) (x : Value) :
    R.Holds (Check.places cs x) (Check.places ds x) := by
  unfold Check.places
  split
  · exact R.inspected _ _ _ (R.itemParts (R.runAtPlace h) _)
  · exact R.raised _

theorem listedFor {cs ds : List (Value × Check)} (h : List.Forall₂ R.Keyed cs ds) (y : Value) :
    Option.Rel (Check.Related R) (Check.listedFor y cs) (Check.listedFor y ds) := by
  unfold Check.listedFor
  split
  · induction h with
    | nil => exact .none
    | @cons c d cs ds hcd _ ih =>
      obtain ⟨key, c⟩ := c
      obtain ⟨key', d⟩ := d
      obtain ⟨rfl : key = key', hcd⟩ := hcd
      simp only [List.find?_cons]
      split
      · exact .some hcd
      · exact ih
  · exact .none

theorem dispatched (key : Value) {cs ds : List (Value × Check)}
    (h : List.Forall₂ R.Keyed cs ds) (x : Value) :
    R.Holds (Check.dispatched key cs x) (Check.dispatched key ds x) := by
  have hkeys : cs.map (·.1) = ds.map (·.1) := by
    induction h with
    | nil => rfl
    | cons hcd _ ih => rw [List.map_cons, List.map_cons, hcd.1, ih]
  unfold Check.dispatched
  refine R.bind (R.ofExcept _) fun y => ?_
  have hlisted := R.listedFor h y
  generalize Check.listedFor y cs = c?, Check.listedFor y ds = d? at hlisted ⊢
  cases hlisted with
  | some hcd => exact R.bind (hcd.run _ _) fun _ => R.done _
  | none =>
    rw [hkeys]
    exact R.bind (R.ofExcept _) fun _ => R.done _

end RunRelation
end Conform
