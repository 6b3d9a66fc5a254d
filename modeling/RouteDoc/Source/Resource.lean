import RouteDoc.Detection
import RouteDoc.Shape.Inference
import RouteDoc.Source.Index
import RouteDoc.Source.Issue
import RouteDoc.Source.Shape
/-!
# RouteDoc.Source.Resource

**Schemas of resources.** The method `toArray` of a resource tells the schema of its response, and the
resources that it refers to become components of the document.

* `SourceIndex.resource` follows references a few levels deep, never back to a resource that it came
  from; what it finds out is kept in a `ResourceCache`.
* A collection stands for a list of the resources that it collects (`SourceIndex.collectedItem?`).
-/

namespace RouteDoc.Source

open RouteDoc.Text

/-- The schema of a resource with the components it refers to. -/
structure ResourceSchema where
  /-- The name of the resource. -/
  name : String
  /-- Its schema. -/
  schema : Fragment
  /-- The schemas of the resources it refers to. -/
  components : Table String Fragment := []
deriving DecidableEq, Inhabited

/-- What is known about resources by their full names. -/
abbrev ResourceCache := Table String ResourceSchema

/-- What is kept between resources. -/
structure ResourceState where
  /-- What is known. -/
  cache : ResourceCache := []
  /-- What could not be understood. -/
  issues : List SourceIssue := []
deriving Inhabited

/-- Analysis of resources. -/
abbrev ResourceM := StateM ResourceState

/-- Note an issue of a resource. -/
def noteResource (issue : SourceIssue) : ResourceM Unit :=
  modify fun s => { s with issues := s.issues ++ [issue] }

/-- Keep what was found out about a resource. -/
def remember (name : String) (r : ResourceSchema) : ResourceM Unit :=
  modify fun s => { s with cache := Table.insert s.cache name r }

/-- How deep references between resources are followed. -/
def maxLevels : Nat := 3

/-! ### One resource by itself -/

/-- What the method of a resource tells by itself. -/
structure OwnShape where
  /-- The schema. -/
  schema : Fragment
  /-- The full names of the resources that are referred to, in the order of their short names. -/
  references : List String
  /-- What has no schema. -/
  diagnostics : List Shape.Diagnostic

/-- What a method that returns responses tells. -/
def SourceFile.ownShape (f : SourceFile) (name : String) (method : MethodSource) : OwnShape :=
  let (nodes, classes) := (f.shapes method.returns).run []
  let (schema, log) :=
    (Shape.infer Schema.componentPrefix { returns := nodes, name := some name }).run {}
  { schema
    references := (Schema.sortedNames log.references).filterMap (Table.get? classes)
    diagnostics := log.diagnostics }

/-- Add a resource that is referred to, with its own components. -/
def addResource (components : Table String Fragment) (r : ResourceSchema) :
    Table String Fragment :=
  r.components.foldl (fun acc e => Table.insertIfNew acc e.1 e.2)
    (Table.insert components r.name r.schema)

namespace SourceIndex

variable (index : SourceIndex)

/-- The schema of a resource; `levels` says how deep references are followed, and `visiting`
holds the resources that lead here. -/
def resource : Nat → List String → String → ResourceM ResourceSchema
  | levels, visiting, name => do
      if let some known := Table.get? (← get).cache name then return known
      let short := ClassName.base name
      let plain : ResourceSchema := { name := short, schema := Shape.unknownSchema }
      match index.class? name with
      | none =>
          noteResource (.missingResource name)
          return plain
      | some (file, found) => match found.method? "toArray" with
          | none =>
              remember name plain
              return plain
          | some method =>
              let own := file.ownShape short method
              own.diagnostics.forM fun d => noteResource (.shape d)
              let components ← match levels with
                | 0 => pure []
                | levels + 1 =>
                    let next := own.references.filter fun r => r ≠ name && r ∉ visiting
                    next.foldlM (fun components r => do
                      let nested ← resource levels (name :: visiting) r
                      return addResource components nested) []
              let result : ResourceSchema := { name := short, schema := own.schema, components }
              remember name result
              return result

/-! ### Collections -/

/-- The class that a collection names at the front of a text: the property for it, an equals sign,
and a class name. -/
def collectedHere? (cs : List Char) : Option String :=
  let mark := "$collects".toList
  if mark.isPrefixOf cs then
    match skipBlank (cs.drop mark.length) with
    | '=' :: rest =>
        let rest := skipBlank rest
        let name := rest.takeWhile isQualifiedChar
        let plain := match name with
          | '\\' :: more => if more.isEmpty then name else more
          | name => name
        if name.isEmpty || !"::class".toList.isPrefixOf (rest.drop name.length) then none
        else some (String.ofList plain)
    | _ => none
  else none

/-- The class that a collection names in its text. -/
def collected? : List Char → Option String
  | [] => none
  | c :: rest => match collectedHere? (c :: rest) with
      | some name => some name
      | none => collected? rest

/-- The ending of the names of collections. -/
def collectionEnding : String := "Collection"

/-- The resource that the items of a collection are; none for what is no collection, and for a
collection that does not tell. -/
def collectedItem? (name : String) : ResourceM (Option String) := do
  match index.class? name with
  | none => return none
  | some (file, found) =>
      if found.parent.map ClassName.base ≠ some "ResourceCollection" then return none
      else if let some item := collected? found.text.toList then return some (file.resolve item)
      else
        let stem := dropEnd collectionEnding.length name
        let candidates :=
          if endsWith name collectionEnding then [stem ++ "Resource", stem] else []
        match candidates.find? fun candidate => (index.class? candidate).isSome with
        | some item => return some item
        | none =>
            noteResource (.unknownItems name)
            return none

/-- The shape of a response that is made from a resource, with the components it refers to. -/
def responseShape (name : String) (isCollection : Bool) :
    ResourceM (ResponseShape × Table String Fragment) := do
  let item ← index.collectedItem? name
  let r ← index.resource maxLevels [] (item.getD name)
  return ({ name := r.name, schema := r.schema, isCollection := isCollection || item.isSome },
    r.components)

end SourceIndex

end RouteDoc.Source
