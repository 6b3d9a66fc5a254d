import RouteDoc.Number.Binary64
import RouteDoc.Table
/-!
# RouteDoc.Value

**Dynamic values**: what a JSON or YAML text holds, and what a schema fragment is made of.

Schemas, examples and rule parameters are free-form, so one type of values is part of the domain:

* `Value` keeps the entries of an object in order and tells integers from other numbers;
* equality is decidable and looks at the order of entries;
* `Value.kind` names the sort of a value, and `Value.isTruthy` says which values count as set.
-/

namespace RouteDoc

/-- A value of a JSON or YAML document. -/
inductive Value where
  /-- No value. -/
  | null
  /-- True or false. -/
  | bool (b : Bool)
  /-- An integer of any size. -/
  | int (n : Int)
  /-- A number that was written with a fraction or an exponent. -/
  | float (x : Binary64)
  /-- A text. -/
  | str (s : String)
  /-- A list of values. -/
  | arr (items : List Value)
  /-- Named values in order. -/
  | obj (entries : List (String × Value))
deriving Inhabited

/-- A schema, or part of one: an object of the document. -/
abbrev Fragment := Table String Value

namespace Value

/-! ### Equality -/

mutual

/-- Decide the equality of two values. -/
def decEq : (a b : Value) → Decidable (a = b)
  | .null, .null => isTrue rfl
  | .bool a, .bool b => if h : a = b then isTrue (by rw [h]) else isFalse (by simp [h])
  | .int a, .int b => if h : a = b then isTrue (by rw [h]) else isFalse (by simp [h])
  | .float a, .float b => if h : a = b then isTrue (by rw [h]) else isFalse (by simp [h])
  | .str a, .str b => if h : a = b then isTrue (by rw [h]) else isFalse (by simp [h])
  | .arr xs, .arr ys =>
      match decEqItems xs ys with
      | isTrue h => isTrue (by rw [h])
      | isFalse h => isFalse (by simpa using h)
  | .obj xs, .obj ys =>
      match decEqEntries xs ys with
      | isTrue h => isTrue (by rw [h])
      | isFalse h => isFalse (by simpa using h)
  | .null, .bool _ | .null, .int _ | .null, .float _ | .null, .str _ | .null, .arr _
  | .null, .obj _ => isFalse (by simp)
  | .bool _, .null | .bool _, .int _ | .bool _, .float _ | .bool _, .str _ | .bool _, .arr _
  | .bool _, .obj _ => isFalse (by simp)
  | .int _, .null | .int _, .bool _ | .int _, .float _ | .int _, .str _ | .int _, .arr _
  | .int _, .obj _ => isFalse (by simp)
  | .float _, .null | .float _, .bool _ | .float _, .int _ | .float _, .str _ | .float _, .arr _
  | .float _, .obj _ => isFalse (by simp)
  | .str _, .null | .str _, .bool _ | .str _, .int _ | .str _, .float _ | .str _, .arr _
  | .str _, .obj _ => isFalse (by simp)
  | .arr _, .null | .arr _, .bool _ | .arr _, .int _ | .arr _, .float _ | .arr _, .str _
  | .arr _, .obj _ => isFalse (by simp)
  | .obj _, .null | .obj _, .bool _ | .obj _, .int _ | .obj _, .float _ | .obj _, .str _
  | .obj _, .arr _ => isFalse (by simp)

/-- Decide the equality of two lists of values. -/
def decEqItems : (xs ys : List Value) → Decidable (xs = ys)
  | [], [] => isTrue rfl
  | [], _ :: _ => isFalse (by simp)
  | _ :: _, [] => isFalse (by simp)
  | x :: xs, y :: ys =>
      match decEq x y, decEqItems xs ys with
      | isTrue h, isTrue h' => isTrue (by rw [h, h'])
      | isFalse h, _ => isFalse (by simp [h])
      | _, isFalse h => isFalse (by simp [h])

/-- Decide the equality of the entries of two objects. -/
def decEqEntries : (xs ys : List (String × Value)) → Decidable (xs = ys)
  | [], [] => isTrue rfl
  | [], _ :: _ => isFalse (by simp)
  | _ :: _, [] => isFalse (by simp)
  | (j, x) :: xs, (k, y) :: ys =>
      if hk : j = k then
        match decEq x y, decEqEntries xs ys with
        | isTrue h, isTrue h' => isTrue (by rw [hk, h, h'])
        | isFalse h, _ => isFalse (by simp [h])
        | _, isFalse h => isFalse (by simp [h])
      else isFalse (by simp [hk])

end

instance : DecidableEq Value := decEq

/-! ### Looking at a value -/

/-- The entries of an object. -/
def entries? : Value → Option Fragment
  | .obj entries => some entries
  | _ => none

/-- The text of a string value. -/
def str? : Value → Option String
  | .str s => some s
  | _ => none

/-- The entry of an object under a name. -/
def get? (v : Value) (key : String) : Option Value :=
  match v with
  | .obj entries => Table.get? entries key
  | _ => none

/-- A text or nothing. -/
def ofOption : Option String → Value
  | none => .null
  | some s => .str s

/-- A list of texts. -/
def ofStrings (ss : List String) : Value := .arr (ss.map .str)

/-- An integer or nothing. -/
def ofInt? : Option Int → Value
  | none => .null
  | some n => .int n

/-- A truth value or nothing. -/
def ofBool? : Option Bool → Value
  | none => .null
  | some b => .bool b

/-- An object or nothing. -/
def ofFragment? : Option Fragment → Value
  | none => .null
  | some entries => .obj entries

/-- A list of objects. -/
def ofFragments (fs : List Fragment) : Value := .arr (fs.map .obj)

/-- A list or nothing. -/
def ofList? {α : Type} (f : α → Value) : Option (List α) → Value
  | none => .null
  | some as => .arr (as.map f)

/-- A table of texts as an object. -/
def ofTexts (t : Table String String) : Value := .obj (Table.mapValues .str t)

/-- Whether a value counts as set: null, false, zero and whatever is empty do not. -/
def isTruthy : Value → Bool
  | .null => false
  | .bool b => b
  | .int n => n ≠ 0
  | .float x => x.magnitudeBits ≠ 0
  | .str s => s ≠ ""
  | .arr items => !items.isEmpty
  | .obj entries => !entries.isEmpty

/-- The sorts of values. -/
inductive Kind where
  | null | bool | int | float | str | arr | obj
deriving DecidableEq, Repr

/-- The sort of a value. -/
def kind : Value → Kind
  | .null => .null
  | .bool _ => .bool
  | .int _ => .int
  | .float _ => .float
  | .str _ => .str
  | .arr _ => .arr
  | .obj _ => .obj

/-- The name of a sort in messages. -/
def Kind.name : Kind → String
  | .null => "NoneType"
  | .bool => "bool"
  | .int => "int"
  | .float => "float"
  | .str => "str"
  | .arr => "list"
  | .obj => "dict"

end Value

end RouteDoc
