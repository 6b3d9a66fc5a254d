import RouteDoc.Source.Index
import RouteDoc.Value
/-!
# RouteDoc.Source.QueryParameters

**Query parameters in comments.** The documentation of a request class may hold tags with the
name of a parameter, its type and a description.

White space between the parts may hold line breaks, so the parts of a tag that is cut short are
taken from the next line.
-/

namespace RouteDoc.Source

open RouteDoc.Text

/-- A tag of a parameter. -/
structure QueryTag where
  /-- The name. -/
  name : String
  /-- The word behind the name. -/
  type : Option String
  /-- What follows on the line. -/
  description : Option String
deriving DecidableEq, Repr, Inhabited

/-- The mark of a tag. -/
def tagMark : List Char := "@queryParam".toList

/-- What is behind white space, which must be there. -/
def behindBlank? (cs : List Char) : Option (List Char) :=
  let rest := skipBlank cs
  if rest.length = cs.length then none else some rest

/-- The word behind white space, if there is one, and the rest. -/
def optionalWord (cs : List Char) : Option String × List Char :=
  match wordBehindBlank? cs with
  | some (word, rest) => (some (String.ofList word), rest)
  | none => (none, cs)

/-- The rest of the line behind white space, if there is any, and what follows. -/
def optionalLine (cs : List Char) : Option String × List Char :=
  match behindBlank? cs with
  | some rest =>
      let line := rest.takeWhile (· ≠ '\n')
      (some (String.ofList line), rest.drop line.length)
  | none => (none, cs)

/-- The tag at the front of a text, and the rest. -/
def tag? (cs : List Char) : Option (QueryTag × List Char) :=
  if tagMark.isPrefixOf cs then do
    let rest ← behindBlank? (cs.drop tagMark.length)
    let name := rest.takeWhile fun c => !isBlank c
    if name.isEmpty then none
    else
      let (type, rest) := optionalWord (rest.drop name.length)
      let (description, rest) := optionalLine rest
      some (⟨String.ofList name, type, description⟩, rest)
  else none

/-- The tags of a text from left to right, found in at most so many steps. -/
def tagsFrom : Nat → List Char → List QueryTag
  | 0, _ => []
  | _, [] => []
  | steps + 1, c :: rest => match tag? (c :: rest) with
      | some (a, rest) => a :: tagsFrom steps rest
      | none => tagsFrom steps rest

/-- The tags of a comment. -/
def queryTags (comment : String) : List QueryTag :=
  tagsFrom comment.toList.length comment.toList

/-- The schema types of type words. -/
def queryTypes : Table String String :=
  [ ("int", "integer"), ("integer", "integer"), ("number", "number"), ("float", "number"),
    ("numeric", "number"), ("bool", "boolean"), ("boolean", "boolean"), ("array", "array"),
    ("object", "object") ]

/-- The schema type of a tag; a text when no known type is named. -/
def QueryTag.schemaType (a : QueryTag) : String :=
  (Table.get? queryTypes (lower (a.type.getD "string"))).getD "string"

/-- A description without the end of the comment. -/
def plainDescription (s : String) : String :=
  trim (trimRightBy (fun c => c = '*' || c = '/') (trim s))

/-- The parameter of a tag. -/
def QueryTag.parameter (a : QueryTag) : Fragment :=
  let description := plainDescription (a.description.getD "")
  let named : Fragment :=
    [ ("name", .str a.name), ("required", .bool false),
      ("schema", .obj [("type", .str a.schemaType)]) ]
  if description = "" then named else named ++ [("description", .str description)]

/-- The parameters that a comment documents. -/
def queryParameters (comment : String) : List Fragment :=
  (queryTags comment).map QueryTag.parameter

/-- The parameters that the documentation of a request class lists. -/
def SourceIndex.queryParameters (index : SourceIndex) (name : String) : List Fragment :=
  match index.class? name with
  | some (_, found) => Source.queryParameters (found.comment.getD "")
  | none => []

end RouteDoc.Source
