import Mathlib.Data.List.Basic

/-! URNs as the normalized component sequences the object store addresses its objects by. -/

namespace GrrAcl

/-- A component a normalized path can hold: not empty, free of the separator, and no relative step. -/
def ValidComponent (component : String) : Prop :=
  component ≠ "" ∧ '/' ∉ component.toList ∧ component ≠ "." ∧ component ≠ ".."

instance (component : String) : Decidable (ValidComponent component) :=
  inferInstanceAs (Decidable (_ ∧ _))

/--
Modelled from the spec: `rdfvalue.RDFURN` is not under src/.

A URN is the ordered sequence of its normalized path components under the single root,
and two URNs are equal exactly when those sequences are.
-/
structure RDFURN where
  /-- The path components, outermost first. -/
  components : List String
  /-- Normalization leaves only components a path can hold. -/
  valid : ∀ component ∈ components, ValidComponent component
  deriving DecidableEq

/-- `aff4.ROOT_URN`, the URN of no components. -/
def rootUrn : RDFURN := ⟨[], by simp⟩

/-- The root has no components. -/
@[simp] theorem rootUrn_components : rootUrn.components = [] := rfl

/-- The pieces of a path between its separators, as `str.split("/")` gives them. -/
def splitPath (path : String) : List String :=
  (path.toList.splitOn '/').map String.mk

/--
`utils.NormalizePath` on the pieces of a path, the components kept so far held in reverse.

Empty and `.` pieces are dropped, and `..` takes back the component before it.
-/
def normalizePieces : List String → List String → List String
  | kept, [] => kept.reverse
  | kept, piece :: rest =>
    -- The three relative forms are tested in the order the source loop tests them.
    if piece = "" ∨ piece = "." then normalizePieces kept rest
    else if piece = ".." then normalizePieces kept.tail rest
    else normalizePieces (piece :: kept) rest

/-- No piece of a split path holds the separator it was split at. -/
theorem splitPath_separator_free (path : String) :
    ∀ piece ∈ splitPath path, '/' ∉ piece.toList := by
  -- Splitting either opens a new piece at a separator or extends the first piece by another character.
  suffices pieces : ∀ chars : List Char, ∀ piece ∈ chars.splitOnP (· == '/'), '/' ∉ piece by
    simpa [splitPath, List.splitOn] using pieces path.toList
  intro chars
  induction chars with
  | nil => simp
  | cons char rest ih =>
    rw [List.splitOnP_cons]
    split
    · simpa using ih
    · rename_i other
      cases split : rest.splitOnP (· == '/') with
      | nil => simp
      | cons first later =>
        rw [split] at ih
        simp only [List.modifyHead, List.mem_cons, forall_eq_or_imp, List.mem_cons] at ih ⊢
        refine ⟨?_, ih.2⟩
        rintro (same | inside)
        · exact other (by simp [← same])
        · exact ih.1 inside

/-- Normalizing separator-free pieces keeps only components a path can hold. -/
theorem normalizePieces_valid :
    ∀ (kept pieces : List String), (∀ component ∈ kept, ValidComponent component) →
      (∀ piece ∈ pieces, '/' ∉ piece.toList) →
        ∀ component ∈ normalizePieces kept pieces, ValidComponent component
  | kept, [], keptValid, _ => by simpa [normalizePieces] using keptValid
  | kept, piece :: rest, keptValid, free => by
    have restFree : ∀ piece ∈ rest, '/' ∉ piece.toList := fun p member => free p (by simp [member])
    unfold normalizePieces
    split
    · exact normalizePieces_valid kept rest keptValid restFree
    · split
      · exact normalizePieces_valid kept.tail rest
          (fun c member => keptValid c (List.mem_of_mem_tail member)) restFree
      · -- A piece that is none of the relative forms is kept, and it holds no separator.
        rename_i relative step
        refine normalizePieces_valid (piece :: kept) rest ?_ restFree
        simp only [List.mem_cons, forall_eq_or_imp]
        simp only [not_or] at relative
        exact ⟨⟨relative.1, free piece (by simp), relative.2, step⟩, keptValid⟩

/-- Pieces that are all components are kept in order behind what was kept before them. -/
theorem normalizePieces_components :
    ∀ (kept pieces : List String), (∀ piece ∈ pieces, ValidComponent piece) →
      normalizePieces kept pieces = kept.reverse ++ pieces
  | kept, [], _ => by simp [normalizePieces]
  | kept, piece :: rest, valid => by
    have head := valid piece (by simp)
    rw [normalizePieces, if_neg (by simp [head.1, head.2.2.1]), if_neg head.2.2.2,
      normalizePieces_components (piece :: kept) rest (fun p member => valid p (by simp [member]))]
    simp

/-- Interspersing a separator leaves a prefix of the first part in front. -/
theorem flatten_intersperse_append_head (separator first second : List Char)
    (rest : List (List Char)) :
    (((first ++ second) :: rest).intersperse separator).flatten =
      first ++ ((second :: rest).intersperse separator).flatten := by
  cases rest <;> simp [List.intersperse, List.append_assoc]

/-- Joining strings is joining their characters with the separator's. -/
theorem intercalate_go_data (separator : String) :
    ∀ (first : String) (rest : List String),
      (String.intercalate.go first separator rest).data =
        separator.data.intercalate (first.data :: rest.map String.data)
  | first, [] => by simp [String.intercalate.go, List.intercalate]
  | first, next :: rest => by
    -- The accumulator swallows the next string with its separator, which is one more joined part.
    rw [String.intercalate.go, intercalate_go_data separator (first ++ separator ++ next) rest]
    simp only [List.intercalate, String.data_append, List.append_assoc, List.map_cons,
      flatten_intersperse_append_head, List.intersperse, List.flatten]

/-- Joining strings is joining their characters with the separator's, for any list of strings. -/
theorem intercalate_data (separator : String) (parts : List String) :
    (separator.intercalate parts).data = separator.data.intercalate (parts.map String.data) := by
  cases parts with
  | nil => rfl
  | cons first rest => exact intercalate_go_data separator first rest

namespace RDFURN

/-- URNs with the same components are the same URN. -/
theorem eq_of_components {urn other : RDFURN} (same : urn.components = other.components) : urn = other := by
  cases urn
  cases other
  cases same
  rfl

/-- `RDFURN.Add(path)`: the URN with the normalized components of the path appended. -/
def add (urn : RDFURN) (path : String) : RDFURN :=
  ⟨urn.components ++ normalizePieces [] (splitPath path), by
    -- The old components were valid, and the appended ones come out of normalization.
    simp only [List.mem_append]
    rintro component (old | new)
    · exact urn.valid component old
    · exact normalizePieces_valid [] _ (by simp) (splitPath_separator_free path) component new⟩

/-- `RDFURN.Path()`: the components joined behind a leading separator, `/` at the root. -/
def path (urn : RDFURN) : String :=
  "/" ++ "/".intercalate urn.components

/--
Modelled from the spec: `RDFURN.Split(count)` gives the first `count - 1` components and then
the rest joined as one last part, so that it has exactly `count` parts.

It fails on a URN of fewer than `count` components; a count of zero splits every component.
-/
def split (urn : RDFURN) : Nat → Option (List String)
  | 0 => some urn.components
  | count + 1 =>
    if urn.components.length < count + 1 then none
    else some (urn.components.take count ++ ["/".intercalate (urn.components.drop count)])

/-- `RDFURN.Basename()`: the last component, empty at the root. -/
def basename (urn : RDFURN) : String :=
  urn.components.getLast?.getD ""

/-- `str(urn)`: the path behind the `aff4:` scheme. -/
def toString (urn : RDFURN) : String :=
  "aff4:" ++ urn.path

/-- `rdfvalue.RDFURN(text)`: the string form read from the root, an `aff4:/` scheme dropped. -/
def ofString (text : String) : RDFURN :=
  rootUrn.add (if text.take 6 = "aff4:/" then text.drop 5 else text)

/-- A URN's path is its components' characters, each behind a separator. -/
theorem path_data (urn : RDFURN) (nonempty : urn.components ≠ []) :
    urn.path.data = '/' :: ['/'].intercalate (urn.components.map String.data) := by
  -- Past the leading separator the path is the joined components.
  obtain ⟨first, rest, split⟩ := List.exists_cons_of_ne_nil nonempty
  simp only [path, split, String.intercalate, String.data_append, intercalate_go_data]
  rfl

/-- Splitting a URN's path gives an empty piece before the separator and then its components. -/
theorem normalizePieces_path (urn : RDFURN) :
    normalizePieces [] (splitPath urn.path) = urn.components := by
  by_cases nonempty : urn.components = []
  · -- The root's path is a lone separator, which leaves two empty pieces.
    simp [splitPath, path, nonempty, List.splitOn, String.intercalate, normalizePieces]
  · have pieces : urn.path.toList.splitOn '/' = [] :: urn.components.map String.toList := by
      rw [String.toList, path_data urn nonempty, List.splitOn, List.splitOnP_cons, if_pos (by simp)]
      have free : ∀ chars ∈ urn.components.map String.data, '/' ∉ chars := by
        simpa using fun c member => (urn.valid c member).2.1
      rw [← List.splitOn, List.splitOn_intercalate _ _ free (by simpa using nonempty)]
      rfl
    have strings : (urn.components.map String.toList).map String.mk = urn.components := by
      simp [Function.comp_def]
    rw [splitPath, pieces, List.map_cons, strings, normalizePieces, if_pos (by simp),
      normalizePieces_components [] _ urn.valid]
    simp

/-- Adding a component appends exactly that component. -/
@[simp] theorem add_components_of_valid (urn : RDFURN) {component : String}
    (valid : ValidComponent component) :
    (urn.add component).components = urn.components ++ [component] := by
  -- A component holds no separator, so it is a single piece that normalization keeps.
  have single : splitPath component = [component] := by
    rw [splitPath, List.splitOn, List.splitOnP_eq_single]
    · rfl
    · intro char member same
      exact valid.2.1 (by simpa using (beq_iff_eq.mp same) ▸ member)
  show urn.components ++ normalizePieces [] (splitPath component) = _
  rw [single, normalizePieces_components [] [component] (by simpa using valid)]
  rfl

/-- Adding another URN's path appends that URN's components, which is how subjects nest. -/
@[simp] theorem add_path_components (urn other : RDFURN) :
    (urn.add other.path).components = urn.components ++ other.components := by
  exact congrArg (urn.components ++ ·) (normalizePieces_path other)

/-- Adding below a URN keeps its first component. -/
theorem head?_add {urn : RDFURN} {first : String} (path : String) (head : urn.components.head? = some first) :
    (urn.add path).components.head? = some first := by
  obtain ⟨rest, layout⟩ : ∃ rest, urn.components = first :: rest := by
    cases components : urn.components with
    | nil => simp [components] at head
    | cons second rest => exact ⟨rest, by simpa [components] using head⟩
  show (urn.components ++ _).head? = _
  simp [layout]

/-- Splitting a URN into as many parts as it has components returns its components. -/
theorem split_of_length (urn : RDFURN) {count : Nat}
    (length : urn.components.length = count + 1) :
    urn.split (count + 1) = some urn.components := by
  -- Only the last component is left after the first `count`, and joining it alone is itself.
  have last : urn.components.drop count = [urn.components.getLast?.getD ""] := by
    rw [List.getLast?_eq_getElem?, length]
    apply List.ext_getElem
    · simp [length]
    · intro index _ inside
      have zero : index = 0 := by simp [length] at inside; omega
      subst zero
      simp [length]
  have joined : "/".intercalate (urn.components.drop count) = urn.components.getLast?.getD "" := by
    rw [last]
    rfl
  rw [split, if_neg (by omega), joined, ← last, List.take_append_drop]

/-- Splitting a URN in two separates its first component from the rest. -/
theorem split_two (urn : RDFURN) {first second : String} {rest : List String}
    (layout : urn.components = first :: second :: rest) :
    urn.split 2 = some [first, "/".intercalate (second :: rest)] := by
  simp [split, layout]

end RDFURN

end GrrAcl
