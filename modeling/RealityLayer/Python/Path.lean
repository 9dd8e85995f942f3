import RealityLayer.Python.Text

namespace RealityLayer
namespace Python

/-!
# Paths

A path is a list of components, after a root or not.  Reading one from a text drops the
empty components and the single dots, and keeps `..` as it is.  The root is one separator,
or exactly two of them, which are kept apart from one; three or more are read as one.
Writing a path back and reading it again gives the same path.

A path names a place in the tree of directories.  There `..` steps back to the directory
above, and the root of the tree is its own parent.
-/

/-- The separator between components. -/
def slash : Nat := 47

/-- What is kept as a component: a text without separators, neither empty nor a single dot.
Two dots stay, since `Path` does not resolve them. -/
def pathPart (text : Text) : Bool :=
  decide (text ≠ "") && decide (text ≠ ".") && decide (slash ∉ text.codes)

/-- What a path starts with: nothing, `/` or `//`. Exactly two slashes are kept apart from
one, and three or more are one. -/
inductive PathRoot where
  | relative
  | single
  | double
deriving DecidableEq

/-- A `PurePosixPath`. Empty components and `.` are dropped when it is built, while `..`
stays: nothing is resolved. -/
structure Path where
  root : PathRoot
  parts : List Text
  plain : parts.all pathPart = true
deriving DecidableEq

namespace Path

/-- The components of a text. -/
def partsOf (codes : List Nat) : List Text :=
  ((codes.splitOn slash).map Text.mk).filter pathPart

/-- The root of a text. Exactly two leading slashes are kept as such, and any other number is
one. -/
def rootOf (codes : List Nat) : PathRoot :=
  if codes[0]? ≠ some slash then .relative
  else if codes[1]? ≠ some slash ∨ codes[2]? = some slash then .single
  else .double

/-- `Path(text)`. Repeated separators and single dots disappear here, and the root is kept
apart from the components. -/
def parse (text : Text) : Path where
  root := rootOf text.codes
  parts := partsOf text.codes
  plain := List.all_filter.trans (List.all_eq_true.mpr (fun _ _ => Bool.not_or_self _))

/-- `path.is_absolute()`. -/
def absolute (path : Path) : Bool := decide (path.root ≠ .relative)

/-- `path / other`. An absolute second path replaces the first one, which is how an
identifier leaves the directory. -/
def join (path other : Path) : Path :=
  if other.absolute then other
  else {
    root := path.root
    parts := path.parts ++ other.parts
    plain := by rw [List.all_append, path.plain, other.plain, Bool.and_self] }

/-- `path.as_posix()`. -/
def asPosix (path : Path) : Text :=
  match path.root, path.parts with
  | .relative, [] => "."
  | .relative, parts => ⟨[slash].intercalate (parts.map Text.codes)⟩
  | .single, parts => ⟨slash :: [slash].intercalate (parts.map Text.codes)⟩
  | .double, parts => ⟨slash :: slash :: [slash].intercalate (parts.map Text.codes)⟩

/-- Where components lead to, from a directory. Two dots go up, and at the top they stay there. -/
def resolve : List Text -> List Text -> List Text
  | directory, [] => directory
  | directory, part :: rest =>
      resolve (if part = ".." then directory.dropLast else directory ++ [part]) rest

/-- The place that a path names, in a working directory.  Both roots name the top of the
tree, as on Linux. -/
def place (path : Path) (directory : List Text) : List Text :=
  resolve (if path.absolute then [] else directory) path.parts

/-! ## Reading what was written -/

theorem partsOf_append (front back : List Nat) :
    partsOf (front ++ slash :: back) = partsOf front ++ partsOf back := by
  unfold partsOf
  rw [List.splitOn_append_cons_self, List.map_append, List.filter_append]

theorem partsOf_component {text : Text} (component : pathPart text = true) :
    partsOf text.codes = [text] := by
  have whole : slash ∉ text.codes := by
    unfold pathPart at component
    rw [Bool.and_eq_true, decide_eq_true_eq] at component
    exact component.2
  unfold partsOf
  rw [List.splitOn_eq_singleton whole]
  exact List.filter_cons_of_pos component

theorem partsOf_intercalate {parts : List Text} (plain : parts.all pathPart = true) :
    partsOf ([slash].intercalate (parts.map Text.codes)) = parts := by
  induction parts with
  | nil => rfl
  | cons part rest ih =>
      rw [List.all_cons, Bool.and_eq_true] at plain
      cases rest with
      | nil =>
          rw [List.map_singleton, List.intercalate_singleton]
          exact partsOf_component plain.1
      | cons next rest =>
          rw [List.map_cons, List.intercalate_cons_of_ne_nil (by simp), List.append_assoc,
            List.singleton_append, partsOf_append, partsOf_component plain.1, ih plain.2]
          rfl

theorem component_ne_nil {text : Text} (component : pathPart text = true) :
    Exists fun code : Nat => Exists fun rest : List Nat => text.codes = code :: rest ∧ code ≠ slash := by
  unfold pathPart at component
  simp only [Bool.and_eq_true, decide_eq_true_eq] at component
  rcases component with ⟨⟨full, _⟩, whole⟩
  rcases text with ⟨codes⟩
  cases codes with
  | nil => exact absurd rfl full
  | cons code rest => exact ⟨code, rest, rfl, fun same => whole (same ▸ List.mem_cons_self)⟩

/-- Components that are written one after the other do not start with a separator. -/
theorem intercalate_head {parts : List Text} (plain : parts.all pathPart = true) :
    ([slash].intercalate (parts.map Text.codes))[0]? ≠ some slash := by
  cases parts with
  | nil => exact nofun
  | cons part rest =>
      rw [List.all_cons, Bool.and_eq_true] at plain
      rcases component_ne_nil plain.1 with ⟨code, codes, full, other⟩
      have front : ([slash].intercalate ((part :: rest).map Text.codes))[0]? = some code := by
        cases rest with
        | nil =>
            rw [List.map_singleton, List.intercalate_singleton, full]
            rfl
        | cons next rest =>
            rw [List.map_cons, List.intercalate_cons_of_ne_nil (by simp), full]
            rfl
      rw [front]
      exact fun same => other (Option.some.inj same)

/-- The root is read back, from a rest that does not start with a separator. -/
theorem rootOf_written {rest : List Nat} (plain : rest[0]? ≠ some slash) :
    rootOf rest = .relative ∧ rootOf (slash :: rest) = .single ∧
      rootOf (slash :: slash :: rest) = .double := by
  refine ⟨if_pos plain, ?_, ?_⟩
  · exact (if_neg (fun other => other rfl)).trans (if_pos (Or.inl plain))
  · refine (if_neg (fun other => other rfl)).trans (if_neg ?_)
    rintro (other | same)
    · exact other rfl
    · exact plain same

/-- A path is read back from its text. The text of a relative path without components is a
dot, which is read as none. -/
theorem parse_asPosix (path : Path) : parse path.asPosix = path := by
  rcases path with ⟨root, parts, plain⟩
  have roots := rootOf_written (intercalate_head plain)
  have components := partsOf_intercalate plain
  have read : rootOf (asPosix ⟨root, parts, plain⟩).codes = root ∧
      partsOf (asPosix ⟨root, parts, plain⟩).codes = parts := by
    cases root with
    | relative =>
        cases parts with
        | nil => exact ⟨rfl, rfl⟩
        | cons part rest => exact ⟨roots.1, components⟩
    | single => exact ⟨roots.2.1, (partsOf_append [] _).trans components⟩
    | double =>
        refine ⟨roots.2.2, (partsOf_append [] _).trans ?_⟩
        exact (partsOf_append [] _).trans components
  unfold parse
  congr
  · exact read.1
  · exact read.2

/-! ## Places -/

/-- Without steps back the components are appended. -/
theorem resolve_forward (directory : List Text) {parts : List Text} (forward : (".." : Text) ∉ parts) :
    resolve directory parts = directory ++ parts := by
  induction parts generalizing directory with
  | nil => exact (List.append_nil directory).symm
  | cons part rest ih =>
      have apart : part ≠ ".." := fun same => forward (same ▸ List.mem_cons_self)
      rw [resolve, if_neg apart, ih _ (fun member => forward (List.mem_cons_of_mem _ member)), List.append_assoc]
      rfl

end Path

end Python
end RealityLayer
