import RouteDoc.Check.Datum
import RouteDoc.Yaml.Node
/-!
# RouteDoc.Yaml.Reader

**Reading YAML.** `Yaml.read?` gives the value of a text, or nothing where the text is malformed.

A scalar without quotes stands for what `Kind.ofPlain` says. Of equal keys of a mapping the first
place and the last value stay; the mappings under a merge key come first, so the entries beside it
win.
-/

namespace RouteDoc.Yaml

open Number Text

/-- The number of groups in base sixty. -/
def ofSixtieths (groups : List (List Char)) : Nat :=
  groups.foldl (fun n g => 60 * n + ofBase 10 g) 0

/-- The magnitude of an unsigned integer. -/
def magnitude (cs : List Char) : Nat :=
  match cs with
  | '0' :: 'b' :: ds => ofBase 2 ds
  | '0' :: 'x' :: ds => ofBase 16 ds
  | '0' :: ds => ofBase 8 ds
  | _ => ofSixtieths (cs.splitOn ':')

/-- The integer of a scalar. -/
def integerOf (cs : List Char) : Int :=
  let n : Int := magnitude (dropSign cs)
  if cs.head? = some '-' then -n else n

/-- The number of a scalar with a fraction. -/
def floatOf (cs : List Char) : Binary64 :=
  let negative := cs.head? = some '-'
  let body := (dropSign cs).filter (· ≠ '_')
  let word := String.ofList (body.map Char.toLower)
  if word = ".inf" then .infinity negative
  else if word = ".nan" then .nan
  else match (body.splitOn ':').reverse with
    | last :: first :: more =>
        let whole := last.takeWhile Char.isDigit
        let fraction := (last.drop whole.length).drop 1
        let minutes := ofSixtieths (first :: more).reverse
        Binary64.ofDecimal negative
          ((60 * minutes + ofDigits whole) * Nat.pow 10 fraction.length + ofDigits fraction)
          (-fraction.length)
    | _ => (readDecimal? negative body).getD .nan

/-- The value of a scalar, and the same as a key. -/
def scalarValue? (plain : Bool) (text : String) : Option Key :=
  if !plain then some (.str text)
  else match Kind.ofPlain text with
    | .null => some .null
    | .bool => some (.bool (text ∈ trueWords))
    | .int => some (.int (integerOf text.toList))
    | .float => some (.float (floatOf text.toList))
    | .timestamp => some (.date text)
    | .text => some (.str text)
    | .merge | .value => none

/-- The key that a node makes. Only scalars can be keys. -/
def keyOf? : Node → Option Key
  | .scalar plain text =>
      if plain && Kind.ofPlain text = .value then some (.str text) else scalarValue? plain text
  | .list _ | .mapping _ => none

/-- Whether a node is the key that merges mappings in. -/
def isMergeKey : Node → Bool
  | .scalar plain text => plain && Kind.ofPlain text = .merge
  | _ => false

/-- What is brought in by merge keys, and the entries beside them. -/
structure Entries where
  /-- Entries of merged mappings, in order. -/
  merged : List (Key × Datum) := []
  /-- Entries of the mapping itself, in order. -/
  own : List (Key × Datum) := []

/-- The entries in the order in which they are written; later ones win. -/
def Entries.all (es : Entries) : List (Key × Datum) := es.merged ++ es.own

mutual

/-- The value of a node. -/
def toDatum? : Node → Option Datum
  | .scalar plain text => (scalarValue? plain text).map Key.toDatum
  | .list items => (toDatums? items).map .arr
  | .mapping entries => (toEntries? entries).map fun es => .map (Table.ofEntries es.all)

/-- The values of nodes. -/
def toDatums? : List Node → Option (List Datum)
  | [] => some []
  | n :: rest => do
      let d ← toDatum? n
      let ds ← toDatums? rest
      some (d :: ds)

/-- The entries of a mapping. -/
def toEntries? : List (Node × Node) → Option Entries
  | [] => some {}
  | (k, v) :: rest => do
      if isMergeKey k then
        let merged ← mergedEntries? v
        let es ← toEntries? rest
        some { es with merged := merged ++ es.merged }
      else
        let key ← keyOf? k
        let d ← toDatum? v
        let es ← toEntries? rest
        some { es with own := (key, d) :: es.own }

/-- The entries that a merge key brings in: those of a mapping, or of the mappings of a list, of
which the first wins. -/
def mergedEntries? : Node → Option (List (Key × Datum))
  | .mapping entries => (toEntries? entries).map Entries.all
  | .list items => mergedLists? items
  | .scalar .. => none

/-- The entries of several mappings, the last one first. -/
def mergedLists? : List Node → Option (List (Key × Datum))
  | [] => some []
  | .mapping entries :: rest => do
      let es ← toEntries? entries
      let more ← mergedLists? rest
      some (more ++ es.all)
  | _ :: _ => none

end

/-- The value of a text. -/
def read? (s : String) : Option Datum := do
  let ts ← tokens s
  let n ← Node.ofTokens? ts
  toDatum? n

end RouteDoc.Yaml
