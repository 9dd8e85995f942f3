import Mathlib.Data.List.Forall2

namespace RealityLayer
namespace Foundation

universe u v w

/-!
# Calls, runs and what a run preserves

A call on a stateful object either returns a value or raises, and in both
cases it leaves a state behind.  `Outcome` keeps the two together: raising does
not undo what the call did before.  That distinction is what separates an
all-or-nothing operation from one that can fail half way.

A `System` is a set of start states with a deterministic step for each admitted
label.  A `Run` carries its whole history, so a statement about a run can speak
about earlier steps with their own states and arguments.  Two induction rules
are proved once: one for properties of the state alone, and one for properties
that connect the state with the history that led to it.
-/

/-- What a call leaves behind: the state, and a value or an exception. An exception does not
undo anything, so the state after it is a result like the value. -/
structure Outcome (E : Type u) (S : Type v) (A : Type w) where
  state : S
  result : Except E A

/-- A result that has a value returned it. -/
theorem ok_of_toOption {E : Type u} {A : Type w} {result : Except E A} {value : A}
    (returned : result.toOption = some value) : result = .ok value := by
  cases result with
  | error error => cases returned
  | ok other => exact congrArg Except.ok (Option.some.inj returned)

/-- A sequence that returned returned at every step. -/
theorem bind_ok {E : Type u} {A B : Type w} {first : Except E A} {rest : A -> Except E B} {result : B}
    (returned : (first >>= rest) = .ok result) :
    Exists fun value : A => first = .ok value ∧ rest value = .ok result := by
  cases first with
  | error error => cases returned
  | ok value => exact ⟨value, rfl, returned⟩

/-- Mapping a list that returned returned on each item. -/
theorem forall₂_of_mapM {E : Type u} {A : Type v} {B : Type w} {reader : A -> Except E B}
    {items : List A} {results : List B} (returned : items.mapM reader = .ok results) :
    List.Forall₂ (fun item result => reader item = .ok result) items results := by
  induction items generalizing results with
  | nil =>
      cases returned
      exact .nil
  | cons item rest ih =>
      rw [List.mapM_cons] at returned
      rcases bind_ok returned with ⟨first, read, returned⟩
      rcases bind_ok returned with ⟨later, mapped, returned⟩
      cases returned
      exact .cons read (ih mapped)

/-- Mapping a list returns when it returns on each item. -/
theorem mapM_ok {E : Type u} {A : Type v} {B : Type w} {reader : A -> Except E B} (items : List A)
    (total : forall item, item ∈ items -> Exists fun result : B => reader item = .ok result) :
    Exists fun results : List B => items.mapM reader = .ok results := by
  induction items with
  | nil => exact ⟨[], rfl⟩
  | cons item rest ih =>
      rcases total item List.mem_cons_self with ⟨first, read⟩
      rcases ih (fun item member => total item (List.mem_cons_of_mem _ member)) with ⟨later, mapped⟩
      refine ⟨first :: later, ?_⟩
      rw [List.mapM_cons, read, mapped]
      rfl

theorem exists_right_of_forall₂ {A : Type u} {B : Type v} {relates : A -> B -> Prop} {items : List A}
    {results : List B} (related : List.Forall₂ relates items results) {item : A}
    (member : item ∈ items) : Exists fun result : B => result ∈ results ∧ relates item result := by
  induction related with
  | nil => cases member
  | cons first rest ih =>
      rcases List.mem_cons.mp member with rfl | later
      · exact ⟨_, List.mem_cons_self, first⟩
      · rcases ih later with ⟨result, inside, related⟩
        exact ⟨result, List.mem_cons_of_mem _ inside, related⟩

theorem exists_left_of_forall₂ {A : Type u} {B : Type v} {relates : A -> B -> Prop} {items : List A}
    {results : List B} (related : List.Forall₂ relates items results) {result : B}
    (member : result ∈ results) : Exists fun item : A => item ∈ items ∧ relates item result :=
  exists_right_of_forall₂ related.flip member

namespace Outcome

variable {E : Type u} {S : Type v} {A : Type w} {B : Type w}

def returns (state : S) (value : A) : Outcome E S A := ⟨state, .ok value⟩

def raises (state : S) (error : E) : Outcome E S A := ⟨state, .error error⟩

/-- A call whose result is a value returned it, in the state it left. -/
theorem eq_returns {outcome : Outcome E S A} {value : A} (returned : outcome.result = .ok value) :
    outcome = returns outcome.state value := by
  cases outcome
  cases returned
  rfl

/-- Continue a call that returned.  A raised exception skips the rest and
keeps the state it was raised in. -/
def andThen (outcome : Outcome E S A) (rest : S -> A -> Outcome E S B) : Outcome E S B :=
  match outcome.result with
  | .ok value => rest outcome.state value
  | .error error => raises outcome.state error

/-- Change the returned value only. -/
def map (change : A -> B) (outcome : Outcome E S A) : Outcome E S B :=
  ⟨outcome.state, outcome.result.map change⟩

@[simp] theorem map_state (change : A -> B) (outcome : Outcome E S A) :
    (outcome.map change).state = outcome.state := rfl

/-- Changing the value neither hides nor adds an exception. -/
@[simp] theorem map_result_error (change : A -> B) (outcome : Outcome E S A) (error : E) :
    (outcome.map change).result = .error error <-> outcome.result = .error error := by
  unfold map
  cases outcome.result with
  | ok value => simp [Except.map]
  | error other => simp [Except.map]

@[simp] theorem returns_state (state : S) (value : A) :
    (returns state value : Outcome E S A).state = state := rfl

@[simp] theorem returns_result (state : S) (value : A) :
    (returns state value : Outcome E S A).result = .ok value := rfl

@[simp] theorem raises_state (state : S) (error : E) :
    (raises state error : Outcome E S A).state = state := rfl

@[simp] theorem raises_result (state : S) (error : E) :
    (raises state error : Outcome E S A).result = .error error := rfl

/-- A continuation that never touches the state leaves the first call's. -/
theorem andThen_state (outcome : Outcome E S A) (rest : S -> A -> Outcome E S B)
    (keeps : forall state value, (rest state value).state = state) :
    (outcome.andThen rest).state = outcome.state := by
  unfold andThen
  cases outcome.result with
  | ok value => exact keeps outcome.state value
  | error error => rfl

/-- Call an operation on each record in turn, stopping where it raises. The state of the
records before it is kept. -/
def forEach {R : Type w} (operation : S -> R -> Outcome E S PUnit.{w + 1}) (state : S) :
    List R -> Outcome E S PUnit.{w + 1}
  | [] => returns state ⟨⟩
  | record :: rest => (operation state record).andThen (fun next _ => forEach operation next rest)

theorem forEach_append {R : Type w} (operation : S -> R -> Outcome E S PUnit.{w + 1})
    {state middle : S} {front : List R}
    (returned : forEach operation state front = returns middle ⟨⟩) (back : List R) :
    forEach operation state (front ++ back) = forEach operation middle back := by
  induction front generalizing state with
  | nil =>
      cases returned
      rfl
  | cons record rest ih =>
      rw [forEach] at returned
      rw [List.cons_append, forEach]
      cases called : (operation state record).result with
      | error error =>
          rw [andThen, called] at returned
          cases returned
      | ok value =>
          rw [andThen, called] at returned ⊢
          exact ih returned

/-- Nothing after a record that raised can make the sequence return. -/
theorem forEach_raised {R : Type w} (operation : S -> R -> Outcome E S PUnit.{w + 1}) {state : S}
    {front : List R} (raised : (forEach operation state front).result ≠ .ok ⟨⟩) (back : List R) :
    (forEach operation state (front ++ back)).result ≠ .ok ⟨⟩ := by
  induction front generalizing state with
  | nil => exact absurd rfl raised
  | cons record rest ih =>
      rw [forEach] at raised
      rw [List.cons_append, forEach]
      cases called : (operation state record).result with
      | error error =>
          rw [andThen, called]
          intro same
          cases same
      | ok value =>
          rw [andThen, called] at raised ⊢
          exact ih raised

end Outcome

/-- One recorded step of a run, with the states around it. A history keeps both states so
that a property of a moment can be read off without replaying the run. -/
structure Step (S : Type u) (L : Type v) where
  before : S
  label : L
  after : S

/-- Start states, admitted labels and their deterministic effect. Whatever is not determined
by a call, such as identifiers and the clock, is part of its label. -/
structure System (S : Type u) (L : Type v) where
  start : S -> Prop
  admits : S -> L -> Prop
  next : S -> L -> S

namespace System

variable {S : Type u} {L : Type v}

/-- A run of a system with its history, oldest step first. A label that is not admitted never
occurs, and every admitted one may. -/
inductive Run (system : System S L) : List (Step S L) -> S -> Prop
  | begin {state : S} (initial : system.start state) : Run system [] state
  | extend {history : List (Step S L)} {state : S} (label : L)
      (earlier : Run system history state) (admitted : system.admits state label) :
      Run system (history ++ [⟨state, label, system.next state label⟩]) (system.next state label)

/-- A step taken from a state by an admitted label. The state after it is the one the system
computes, so steps are deterministic. -/
def Takes (system : System S L) (step : Step S L) : Prop :=
  system.admits step.before step.label ∧ step.after = system.next step.before step.label

/-- The same system with fewer labels admitted. Its runs are runs of the whole system, so
whatever holds of those carries over. -/
def restrict (system : System S L) (allowed : S -> L -> Prop) : System S L where
  start := system.start
  admits := fun state label => system.admits state label ∧ allowed state label
  next := system.next

namespace Run

variable {system : System S L} {history : List (Step S L)} {state : S}

/-- The induction rule for properties of the reached state. A property that holds at the
start and survives each admitted step holds wherever a run leads. -/
theorem invariant {property : S -> Prop} (run : system.Run history state)
    (initially : forall state, system.start state -> property state)
    (preserved : forall state label, property state -> system.admits state label ->
      property (system.next state label)) :
    property state := by
  induction run with
  | begin initial => exact initially _ initial
  | extend label earlier admitted ih => exact preserved _ label ih admitted

/-- The induction rule for properties that connect the reached state with
the steps that led to it.  The earlier run is available to the step case. -/
theorem historyInvariant {property : List (Step S L) -> S -> Prop}
    (run : system.Run history state)
    (initially : forall state, system.start state -> property [] state)
    (preserved : forall history state label, system.Run history state -> property history state ->
      system.admits state label ->
      property (history ++ [⟨state, label, system.next state label⟩]) (system.next state label)) :
    property history state := by
  induction run with
  | begin initial => exact initially _ initial
  | extend label earlier admitted ih => exact preserved _ _ label earlier ih admitted

/-- Where a step brings into use nothing but the identifier that its label draws, an identifier
in use was drawn by a step. -/
theorem drawn {I : Type w} (run : system.Run history state) (uses : S -> I -> Prop) (draws : L -> I)
    (initially : forall state id, system.start state -> ¬ uses state id)
    (preserved : forall state label id, system.admits state label ->
      uses (system.next state label) id -> uses state id ∨ id = draws label)
    {id : I} (used : uses state id) : id ∈ history.map (fun step => draws step.label) := by
  induction run with
  | begin initial => exact absurd used (initially _ id initial)
  | extend label earlier admitted ih =>
      rw [List.map_append, List.mem_append]
      rcases preserved _ label id admitted used with before | new
      · exact Or.inl (ih before)
      · exact Or.inr (List.mem_singleton.mpr new)

/-- Every recorded step was taken from a state that the run itself reached. So an invariant
can be used at any step of a run. -/
theorem reaches_step (run : system.Run history state) {step : Step S L} (member : step ∈ history) :
    system.Takes step ∧ Exists fun front => system.Run front step.before := by
  induction run with
  | begin initial => cases member
  | extend label earlier admitted ih =>
      rcases List.mem_append.mp member with before | last
      · exact ih before
      · have same := List.mem_singleton.mp last
        subst same
        exact ⟨⟨admitted, rfl⟩, _, earlier⟩

/-- A run of a restricted system is a run of the system itself. -/
theorem ofRestrict {allowed : S -> L -> Prop} (run : (system.restrict allowed).Run history state) :
    system.Run history state := by
  induction run with
  | begin initial => exact .begin initial
  | extend label earlier admitted ih => exact .extend label ih admitted.1

end Run

/-! ## Logs and replay

A system may record what each step did, so that another state can be built from
the records alone. -/

section Replay

variable {E : Type u} {R : Type w} {system : System S L}

/-- The records of a history, in the order of its steps. -/
def logOf (records : Step S L -> List R) (history : List (Step S L)) : List R :=
  history.flatMap records

theorem logOf_snoc (records : Step S L -> List R) (history : List (Step S L)) (step : Step S L) :
    logOf records (history ++ [step]) = logOf records history ++ records step := by
  simp [logOf]

/-- The replay rule: when restoring the records of a step takes each mirror of
the state before it to a mirror of the state after it, restoring the whole log
builds a mirror of the reached state. -/
theorem replay_mirrors (records : Step S L -> List R)
    (restore : S -> R -> Outcome E S PUnit.{w + 1}) (blank : S) (mirrors : S -> S -> Prop)
    {history : List (Step S L)} {state : S} (run : system.Run history state)
    (initially : forall state, system.start state -> mirrors state blank)
    (follows : forall history state label mirror, system.Run history state -> mirrors state mirror ->
      system.admits state label -> Exists fun next =>
        Outcome.forEach restore mirror (records ⟨state, label, system.next state label⟩) =
          .returns next ⟨⟩ ∧ mirrors (system.next state label) next) :
    Exists fun mirror => Outcome.forEach restore blank (logOf records history) = .returns mirror ⟨⟩ ∧
      mirrors state mirror := by
  induction run with
  | begin initial => exact ⟨blank, rfl, initially _ initial⟩
  | extend label earlier admitted ih =>
      rcases ih with ⟨mirror, restored, similar⟩
      rcases follows _ _ label mirror earlier similar admitted with ⟨next, further, kept⟩
      refine ⟨next, ?_, kept⟩
      rw [logOf_snoc, Outcome.forEach_append restore restored]
      exact further

end Replay

/-! ## Executing a run -/

/-- The history of a label sequence, with its final state. -/
def trace (system : System S L) (state : S) : List L -> List (Step S L) × S
  | [] => ([], state)
  | label :: rest =>
      let later := trace system (system.next state label) rest
      (⟨state, label, system.next state label⟩ :: later.1, later.2)

/-- Admitting fewer labels does not change what a label sequence does. -/
theorem restrict_trace (system : System S L) (allowed : S -> L -> Prop) (state : S)
    (labels : List L) : (system.restrict allowed).trace state labels = system.trace state labels := by
  induction labels generalizing state with
  | nil => rfl
  | cons label rest ih => rw [trace, trace, ih]; rfl

/-- Every label of a sequence is admitted where it is taken. With it the trace of the
sequence is a run. -/
def AdmitsAll (system : System S L) (state : S) : List L -> Prop
  | [] => True
  | label :: rest => system.admits state label ∧ AdmitsAll system (system.next state label) rest

instance decidableAdmitsAll (system : System S L)
    [decide : forall state label, Decidable (system.admits state label)] :
    (labels : List L) -> (state : S) -> Decidable (system.AdmitsAll state labels)
  | [], _ => isTrue trivial
  | label :: rest, state =>
      have := decidableAdmitsAll system rest (system.next state label)
      inferInstanceAs (Decidable (system.admits state label ∧ _))

/-- A front of an admitted label sequence is admitted. -/
theorem AdmitsAll.front {system : System S L} {state : S} {labels all : List L}
    (admitted : system.AdmitsAll state all) (front : labels <+: all) :
    system.AdmitsAll state labels := by
  rcases front with ⟨rest, rfl⟩
  induction labels generalizing state with
  | nil => trivial
  | cons label labels ih => exact ⟨admitted.1, ih admitted.2⟩

theorem trace_append (system : System S L) (state : S) (first rest : List L) :
    (system.trace state (first ++ rest)).2 =
      (system.trace (system.trace state first).2 rest).2 := by
  induction first generalizing state with
  | nil => rfl
  | cons label first ih => exact ih (system.next state label)

/-- A label sequence is admitted in two parts. -/
theorem admitsAll_append {system : System S L} {state : S} {first rest : List L} :
    system.AdmitsAll state (first ++ rest) <->
      system.AdmitsAll state first ∧ system.AdmitsAll (system.trace state first).2 rest := by
  induction first generalizing state with
  | nil => exact ⟨fun admitted => ⟨trivial, admitted⟩, fun both => both.2⟩
  | cons label first ih =>
      constructor
      · rintro ⟨now, later⟩
        exact ⟨⟨now, (ih.mp later).1⟩, (ih.mp later).2⟩
      · rintro ⟨⟨now, later⟩, after⟩
        exact ⟨now, ih.mpr ⟨later, after⟩⟩

/-- Labels that the restriction allows everywhere stay admitted. -/
theorem AdmitsAll.restrict {system : System S L} {allowed : S -> L -> Prop} {state : S}
    {labels : List L} (admitted : system.AdmitsAll state labels)
    (allows : forall label, label ∈ labels -> forall state, allowed state label) :
    (system.restrict allowed).AdmitsAll state labels := by
  induction labels generalizing state with
  | nil => trivial
  | cons label rest ih =>
      exact ⟨⟨admitted.1, allows label List.mem_cons_self state⟩,
        ih admitted.2 (fun other member => allows other (List.mem_cons_of_mem _ member))⟩

theorem run_append_trace {system : System S L} {history : List (Step S L)} {state : S}
    (labels : List L) (run : system.Run history state) (admitted : system.AdmitsAll state labels) :
    system.Run (history ++ (system.trace state labels).1) (system.trace state labels).2 := by
  induction labels generalizing history state with
  | nil => simpa only [trace, List.append_nil] using run
  | cons label rest ih =>
      have extended := ih (.extend label run admitted.1) admitted.2
      simpa only [trace, List.append_assoc, List.singleton_append] using extended

/-- Executing admitted labels from a start state is a run. -/
theorem run_trace {system : System S L} {state : S} (labels : List L)
    (initial : system.start state) (admitted : system.AdmitsAll state labels) :
    system.Run (system.trace state labels).1 (system.trace state labels).2 := by
  simpa only [List.nil_append] using run_append_trace labels (.begin initial) admitted

end System

end Foundation
end RealityLayer
