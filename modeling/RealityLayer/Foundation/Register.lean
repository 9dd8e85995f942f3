import Mathlib.Data.List.Induction
import RealityLayer.Foundation.Transition

namespace RealityLayer
namespace Foundation

universe u v w

/-!
# The value that was written last

A step of a run may write a value, or none.  A register is what a state shows when every
step that writes sets it and no other step moves it.  Then it shows what was written last,
and the initial value where nothing was written.  A value other than the initial one was
therefore written by some step, and that step can be named.

A register that is set once stays as it is afterwards, so every step that sets it agrees
with every other.
-/

/-- A run can be cut before each of its steps. -/
theorem System.Run.cut {S : Type u} {L : Type v} {system : System S L} {history : List (Step S L)}
    {state : S} (run : system.Run history state) {front back : List (Step S L)} {step : Step S L}
    (parts : history = front ++ step :: back) :
    system.Run front step.before ∧ system.Takes step := by
  induction run generalizing back with
  | begin initial =>
      cases front <;> cases parts
  | @extend history state label earlier admitted ih =>
      rcases List.eq_nil_or_concat' back with rfl | ⟨inner, last, rfl⟩
      · rcases List.append_inj' parts rfl with ⟨rfl, same⟩
        cases same
        exact ⟨earlier, admitted, rfl⟩
      · rw [← List.cons_append, ← List.append_assoc] at parts
        exact ih (List.append_inj' parts rfl).1

section Register

variable {S : Type u} {L : Type v} {V : Type w}

/-- The value that a history wrote last. Steps that write nothing leave it, and the initial
value stands before any of them. -/
def lastWritten (written : Step S L -> Option V) (initial : V) (history : List (Step S L)) : V :=
  history.foldl (fun value step => (written step).getD value) initial

@[simp] theorem lastWritten_nil (written : Step S L -> Option V) (initial : V) :
    lastWritten written initial [] = initial := rfl

theorem lastWritten_snoc (written : Step S L -> Option V) (initial : V) (history : List (Step S L))
    (last : Step S L) : lastWritten written initial (history ++ [last]) =
      (written last).getD (lastWritten written initial history) := by
  unfold lastWritten
  rw [List.foldl_append]
  rfl

/-- What was written last was written by some step, unless it is the initial value. -/
theorem lastWritten_source (written : Step S L -> Option V) (initial : V) (history : List (Step S L)) :
    lastWritten written initial history = initial ∨
      Exists fun step => step ∈ history ∧
        written step = some (lastWritten written initial history) := by
  induction history using List.reverseRecOn with
  | nil => exact Or.inl rfl
  | append_singleton history last ih =>
      rw [lastWritten_snoc]
      cases writes : written last with
      | some value =>
          rw [Option.getD_some]
          exact Or.inr ⟨last, List.mem_append_right _ (List.mem_singleton_self _), writes⟩
      | none =>
          rw [Option.getD_none]
          rcases ih with same | ⟨step, member, source⟩
          · exact Or.inl same
          · exact Or.inr ⟨step, List.mem_append_left _ member, source⟩

/-- A state shows what was written last when each step sets it to what it writes, or
leaves it. -/
theorem System.Run.shows_lastWritten {system : System S L} {history : List (Step S L)} {state : S}
    (run : system.Run history state) (shows : S -> V) (written : Step S L -> Option V) (initial : V)
    (initially : forall state, system.start state -> shows state = initial)
    (sets : forall history state label, system.Run history state -> system.admits state label ->
      shows (system.next state label) =
        (written ⟨state, label, system.next state label⟩).getD (shows state)) :
    shows state = lastWritten written initial history := by
  induction run with
  | begin initial => exact initially _ initial
  | @extend history state label earlier admitted ih =>
      rw [lastWritten_snoc, ← ih]
      exact sets history state label earlier admitted

end Register

/-! ## A register that is set once -/

section Once

variable {S : Type u} {L : Type v} {V : Type w} {system : System S L} (decided : S -> Option V)
variable {history : List (Step S L)} {state : S} {value : V}

/-- A register that no step of a run moves once it is set shows what it showed after any step. -/
theorem System.Run.decided_stays (run : system.Run history state)
    (stays : forall step, step ∈ history -> forall value, decided step.before = some value ->
      decided step.after = some value)
    {step : Step S L} (member : step ∈ history) (set : decided step.after = some value) :
    decided state = some value := by
  induction run with
  | begin initial => cases member
  | @extend history before label earlier admitted ih =>
      rcases List.mem_append.mp member with inside | last
      · apply stays ⟨before, label, system.next before label⟩
          (List.mem_append_right _ (List.mem_singleton_self _))
        exact ih (fun step member => stays step (List.mem_append_left _ member)) inside
      · rw [List.mem_singleton.mp last] at set
        exact set

/-- A register that shows a value showed it before every step, or some step has set it. The
step is one of the run, and before the moment that is looked at. -/
theorem System.Run.decided_source (run : system.Run history state)
    (shown : decided state = some value) :
    (forall step, step ∈ history -> decided step.before = some value) ∨
      Exists fun step => step ∈ history ∧ decided step.before ≠ some value ∧
        decided step.after = some value := by
  induction run with
  | begin initial =>
      apply Or.inl
      intro step member
      cases member
  | @extend history before label earlier admitted ih =>
      by_cases already : decided before = some value
      · rcases ih already with always | ⟨step, member, unset, set⟩
        · apply Or.inl
          intro step member
          rcases List.mem_append.mp member with inside | last
          · exact always step inside
          · rw [List.mem_singleton.mp last]
            exact already
        · exact Or.inr ⟨step, List.mem_append_left _ member, unset, set⟩
      · exact Or.inr ⟨_, List.mem_append_right _ (List.mem_singleton_self _), already, shown⟩

end Once

end Foundation
end RealityLayer
