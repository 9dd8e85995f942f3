import Mathlib.Data.List.Basic
import RealityLayer.Foundation.Transition

namespace RealityLayer
namespace Foundation

universe u v w x

/-!
# Projections of a transition system

A system is often put together from parts.  A projection reads off the state of one
part, and for each label the label that the part takes, or none where the part stays as
it is.  A run of the whole is then a run of the part, with the history of the steps that
the part takes.  What is proved of the runs of a part holds in this way of every system
that it is a part of.
-/

/-- The part of a system's state that another system moves. A step of the whole either is a
step of the part, under the label that the part sees, or leaves the part alone. -/
structure Projection {S : Type u} {L : Type v} {T : Type w} {M : Type x} (whole : System S L)
    (part : System T M) where
  state : S -> T
  label : S -> L -> Option M
  starts : forall before, whole.start before -> part.start (state before)
  moves : forall before taken visible, whole.admits before taken -> label before taken = some visible ->
    part.admits (state before) visible ∧
      state (whole.next before taken) = part.next (state before) visible
  stays : forall before taken, whole.admits before taken -> label before taken = none ->
    state (whole.next before taken) = state before

namespace Projection

variable {S : Type u} {L : Type v} {T : Type w} {M : Type x}
variable {whole : System S L} {part : System T M} (projection : Projection whole part)

/-- The step of the part, if it takes one. -/
def step (step : Step S L) : Option (Step T M) :=
  (projection.label step.before step.label).map (fun visible =>
    ⟨projection.state step.before, visible, projection.state step.after⟩)

/-- The steps that the part takes. -/
def steps (history : List (Step S L)) : List (Step T M) := history.filterMap projection.step

theorem steps_snoc (history : List (Step S L)) (last : Step S L) :
    projection.steps (history ++ [last]) = projection.steps history ++ (projection.step last).toList := by
  unfold steps
  rw [List.filterMap_append]
  cases visible : projection.step last with
  | none => rw [List.filterMap_cons_none visible]; rfl
  | some step => rw [List.filterMap_cons_some visible]; rfl

/-- A step of the part is one of the whole that it takes. -/
theorem step_eq_some_iff (taken : Step S L) (visible : Step T M) :
    projection.step taken = some visible <->
      projection.label taken.before taken.label = some visible.label ∧
        visible.before = projection.state taken.before ∧
        visible.after = projection.state taken.after := by
  unfold step
  rw [Option.map_eq_some_iff]
  constructor
  · rintro ⟨label, seen, rfl⟩
    exact ⟨seen, rfl, rfl⟩
  · rintro ⟨seen, before, after⟩
    exact ⟨visible.label, seen, by rw [← before, ← after]⟩

/-- Steps that the part takes in some order were taken in that order. -/
theorem steps_sublist {chosen : List (Step T M)} {history : List (Step S L)}
    (inside : chosen.Sublist (projection.steps history)) :
    Exists fun earlier : List (Step S L) => earlier.Sublist history ∧
      earlier.map projection.step = chosen.map some := by
  rcases List.sublist_filterMap_iff.mp inside with ⟨taken, within, rfl⟩
  refine ⟨taken.filter (fun step => (projection.step step).isSome),
    List.filter_sublist.trans within, ?_⟩
  clear inside within
  induction taken with
  | nil => rfl
  | cons first rest ih =>
      cases seen : projection.step first with
      | none =>
          rw [List.filter_cons_of_neg (by simp [seen]), List.filterMap_cons_none seen]
          exact ih
      | some visible =>
          rw [List.filter_cons_of_pos (by simp [seen]), List.filterMap_cons_some seen, List.map_cons,
            List.map_cons, ih, seen]

theorem steps_pair {first second : Step T M} {history : List (Step S L)}
    (inside : [first, second].Sublist (projection.steps history)) :
    Exists fun earlier : Step S L => Exists fun later : Step S L =>
      [earlier, later].Sublist history ∧ projection.step earlier = some first ∧
        projection.step later = some second := by
  rcases projection.steps_sublist inside with ⟨taken, within, same⟩
  rcases List.map_eq_cons_iff.mp same with ⟨earlier, rest, rfl, first, same⟩
  rcases List.map_eq_cons_iff.mp same with ⟨later, rest, rfl, second, same⟩
  rw [List.map_eq_nil_iff.mp same] at within
  exact ⟨earlier, later, within, first, second⟩

/-- A run of the whole is a run of the part. -/
theorem run {history : List (Step S L)} {state : S} (run : whole.Run history state) :
    part.Run (projection.steps history) (projection.state state) := by
  induction run with
  | begin initial => exact .begin (projection.starts _ initial)
  | @extend history state label earlier admitted ih =>
      rw [steps_snoc]
      cases visible : projection.label state label with
      | none =>
          have silent : projection.step ⟨state, label, whole.next state label⟩ = none := by
            unfold step
            rw [visible]
            rfl
          rw [silent, Option.toList_none, List.append_nil, projection.stays state label admitted visible]
          exact ih
      | some taken =>
          rcases projection.moves state label taken admitted visible with ⟨admits, moved⟩
          have seen : projection.step ⟨state, label, whole.next state label⟩ =
              some ⟨projection.state state, taken, part.next (projection.state state) taken⟩ := by
            unfold step
            rw [visible, ← moved]
            rfl
          rw [seen, Option.toList_some, moved]
          exact .extend taken ih admits

end Projection

end Foundation
end RealityLayer
