import RouteDoc.Fault
import RouteDoc.Route.Basic
import RouteDoc.Text.Word
/-!
# RouteDoc.Route.Path

**Paths with parameters.** A parameter is a marker in braces, `{id}`, or `{id?}` when it may be
left out.

* `Path.pieces` takes a path apart into characters and markers; `Path.render` puts it together
  again (`render_pieces`).
* `Path.normalize` gives a path one leading slash, `Path.template` also drops the question marks.
* `Path.parameters` describes the markers of a path in order, by their names and by the constraints
  that the route puts on them.
-/

namespace RouteDoc.Path

open RouteDoc.Text

/-- A piece of a path: a character by itself, or a marker. -/
inductive Piece where
  /-- A character. -/
  | plain (c : Char)
  /-- A marker with the name of a parameter; it may be optional. -/
  | marker (name : List Char) (isOptional : Bool)
deriving DecidableEq, Repr

/-- The marker at the front: its name, whether it is optional, and its length. -/
def marker? : List Char → Option (List Char × Bool × Nat)
  | '{' :: rest =>
      let name := rest.takeWhile isWord
      if name.isEmpty then none
      else match rest.dropWhile isWord with
        | '}' :: _ => some (name, false, name.length + 2)
        | '?' :: '}' :: _ => some (name, true, name.length + 3)
        | _ => none
  | _ => none

/-- Take a path apart, passing over as many characters as are said first. -/
def piecesFrom : Nat → List Char → List Piece
  | _, [] => []
  | skip + 1, _ :: rest => piecesFrom skip rest
  | 0, c :: rest => match marker? (c :: rest) with
      | some (name, isOptional, length) =>
          .marker name isOptional :: piecesFrom (length - 1) rest
      | none => .plain c :: piecesFrom 0 rest

/-- Take a path apart. -/
def pieces (path : String) : List Piece := piecesFrom 0 path.toList

/-- A piece as it is written. -/
def Piece.render : Piece → List Char
  | .plain c => [c]
  | .marker name isOptional => '{' :: name ++ (if isOptional then ['?', '}'] else ['}'])

/-- A piece as it is written in a document: there are no optional parameters. -/
def Piece.renderRequired : Piece → List Char
  | .plain c => [c]
  | .marker name _ => '{' :: name ++ ['}']

/-- Put pieces together. -/
def render (ps : List Piece) : String := String.ofList (ps.flatMap Piece.render)

/-- A marker at the front is what it is written as. -/
theorem eq_render_append_of_marker? {cs name : List Char} {isOptional : Bool} {length : Nat}
    (h : marker? cs = some (name, isOptional, length)) :
    0 < length ∧ cs = (Piece.marker name isOptional).render ++ cs.drop length := by
  unfold marker? at h
  split at h
  case h_2 => simp at h
  case h_1 rest =>
    have hsplit := List.takeWhile_append_dropWhile (p := isWord) (l := rest)
    generalize rest.takeWhile isWord = w at h hsplit
    generalize rest.dropWhile isWord = more at h hsplit
    subst hsplit
    simp only at h
    split at h
    case isTrue => simp at h
    case isFalse =>
      split at h <;> simp only [Option.some.injEq, Prod.mk.injEq, reduceCtorEq] at h
      all_goals
        obtain ⟨rfl, rfl, rfl⟩ := h
        simp [Piece.render, List.drop_append]

/-- Nothing is lost between the pieces. -/
theorem flatMap_render_piecesFrom (skip : Nat) (cs : List Char) :
    (piecesFrom skip cs).flatMap Piece.render = cs.drop skip := by
  induction cs generalizing skip with
  | nil => simp [piecesFrom]
  | cons c rest ih =>
    match skip with
    | skip + 1 => simpa [piecesFrom] using ih skip
    | 0 =>
      simp only [piecesFrom]
      split
      · rename_i name isOptional length h
        obtain ⟨hpos, heq⟩ := eq_render_append_of_marker? h
        obtain ⟨n, rfl⟩ : ∃ n, length = n + 1 := ⟨length - 1, by omega⟩
        simp only [List.flatMap_cons, ih, Nat.add_sub_cancel, List.drop_zero]
        exact heq.symm
      · simp [Piece.render, ih]

/-- The pieces of a path make up the path. -/
theorem render_pieces (path : String) : render (pieces path) = path := by
  simp [render, pieces, flatMap_render_piecesFrom]

/-- A path with exactly one slash in front. -/
def normalize (uri : String) : String := "/" ++ trimLeftBy (· = '/') (trim uri)

/-- A path as it stands in a document: one slash in front, every marker without its question
mark. -/
def template (path : String) : String :=
  String.ofList ((pieces (normalize path)).flatMap Piece.renderRequired)

/-- The names of the markers with whether they are optional, in order. -/
def markers (path : String) : List (String × Bool) :=
  (pieces path).filterMap fun p => match p with
    | .marker name isOptional => some (String.ofList name, isOptional)
    | .plain _ => none

/-! ### Schemas of parameters -/

/-- Whether a text occurs in a constraint; fails where nothing can occur in it. -/
def occursIn (part : String) : Value → Except Fault Bool
  | .str s => .ok (contains s part)
  | .arr items => .ok (.str part ∈ items)
  | .obj entries => .ok (Table.has entries part)
  | v => .error (.notContainer v.kind)

/-- The schema that a parameter's name suggests. -/
def schemaOfName (name : String) : Fragment :=
  if endsWith name "_id" || name = "id" then
    [("type", .str "string"), ("format", .str "uuid")]
  else [("type", .str "string")]

/-- The schema of a parameter by its name and the constraint on it, null when there is none. -/
def parameterSchema (name : String) (constraint : Value) : Except Fault Fragment :=
  if constraint = .null then .ok (schemaOfName name)
  else do
    let hex ← occursIn "[a-f0-9]" constraint
    let uuid ← if hex then pure true else occursIn "uuid" constraint
    if uuid then
      return [("type", .str "string"), ("format", .str "uuid"), ("pattern", constraint)]
    else if constraint = .str "\\d+" || constraint = .str "[0-9]+" then
      return [("type", .str "integer"), ("pattern", constraint)]
    else return Table.insert (schemaOfName name) "pattern" constraint

/-- The constraint on a parameter, null when there is none. -/
def constraintOn (constraints : Value) (name : String) : Except Fault Value :=
  if !constraints.isTruthy then .ok .null
  else match constraints with
    | .obj entries => .ok ((Table.get? entries name).getD .null)
    | v => .error (.noOperation v.kind "get")

/-- The parameters of a path, in the order of their markers. -/
def parameters (path : String) (constraints : Value) : Except Fault (List PathParameter) :=
  (markers path).mapM fun (name, isOptional) => do
    let schema ← parameterSchema name (← constraintOn constraints name)
    return { name, required := !isOptional, schema }

end RouteDoc.Path
