import RouteDoc.ClassName
import RouteDoc.Config.Basic
import RouteDoc.Route.Path
/-!
# RouteDoc.Operation.Naming

**Names and sentences for operations.** What nobody wrote is made from the route: the identifier
and the summary from controller and action, the tag from the controller or from the path, the
description of success from the action.

* `headline` spaces a name out at the starts of its words and capitalises them.
* `operationId` prefers the name of the route.
* `tags` follows the configuration: controller first, then the path.
-/

namespace RouteDoc

open Text

/-! ### Headlines -/

/-- A capital letter of ASCII. -/
def isCapital (c : Char) : Bool := 'A' ≤ c && c ≤ 'Z'

/-- A small letter of ASCII. -/
def isSmall (c : Char) : Bool := 'a' ≤ c && c ≤ 'z'

/-- Whether a word starts at `c`, which stands behind `before`, with `rest` behind it: at a capital
behind a small letter or a digit, and at the last capital of a row before a small letter. -/
def startsWord (before c : Char) (rest : List Char) : Bool :=
  isCapital c &&
    (isSmall before || before.isDigit || (isCapital before && (rest.head?.map isSmall).getD false))

/-- Put a blank before each start of a word, behind the given character. -/
def spaceOutFrom (before : Char) : List Char → List Char
  | [] => []
  | c :: rest =>
      if startsWord before c rest then ' ' :: c :: spaceOutFrom c rest else c :: spaceOutFrom c rest

/-- Put a blank before each start of a word but the first. -/
def spaceOut : List Char → List Char
  | [] => []
  | c :: rest => c :: spaceOutFrom c rest

/-- A name as a headline: its words, each with a capital, separated by blanks. -/
def headline (name : String) : String :=
  let spaced := swapChars '-' ' ' (swapChars '_' ' ' (spaceOut name.toList))
  String.intercalate " " ((words (String.ofList spaced)).map upperFirst)

namespace Naming

/-! ### Texts from a route -/

/-- The last part of a class name without the word for controllers. -/
def bareController (controller : String) : String :=
  replace "Controller" "" (ClassName.base controller)

/-- What the controller is about. -/
def resourceName (controller : Option String) : String :=
  match filled? controller with
  | none => "Resource"
  | some name => filledOr "Resource" (some (bareController name))

/-- Drop underscores in front. -/
def dropUnderscores (s : String) : String := trimLeftBy (· = '_') s

/-- The identifier of an operation, before others are looked at. -/
def operationId (r : Route) : String :=
  match filled? r.name with
  | some name => swap '.' '_' name
  | none =>
      lowerFirst (bareController (filledOr "Unknown" r.controller))
        ++ upperFirst (dropUnderscores (filledOr "index" r.action))

/-- What an action does to its resource: the words before and behind its name. -/
def summaryFrames : Table String (String × String) :=
  [ ("index", ("List ", "s")),
    ("show", ("Get ", "")),
    ("store", ("Create ", "")),
    ("create", ("Create ", "")),
    ("update", ("Update ", "")),
    ("destroy", ("Delete ", "")),
    ("delete", ("Delete ", "")) ]

/-- The summary of an operation. -/
def summary (r : Route) : String :=
  let action := filledOr "unknown" r.action
  let resource := resourceName r.controller
  match Table.get? summaryFrames action with
  | some (before, after) => before ++ resource ++ after
  | none => upperFirst (dropUnderscores action) ++ " " ++ resource

/-- The status of success. -/
def successStatus (r : Route) : Int :=
  if upper r.method = "POST" ∧ (r.action = some "store" ∨ r.action = some "create") then 201
  else 200

/-- What success means for an action. -/
def successDescriptions : Table String String :=
  [ ("index", "List retrieved successfully"),
    ("show", "Resource retrieved successfully"),
    ("update", "Resource updated successfully"),
    ("destroy", "Resource deleted successfully"),
    ("delete", "Resource deleted successfully") ]

/-- The description of a successful response. -/
def successDescription (status : Int) (action : Option String) : String :=
  if status = 201 then "Resource created successfully"
  else if status = 204 then "No content"
  else (Table.get? successDescriptions (action.getD "")).getD "Successful response"

/-! ### Tags -/

/-- Whether a part of a path names a version: a `v` and decimal digits. -/
def isVersion (part : String) : Bool :=
  match part.toList with
  | 'v' :: rest =>
      let digits := rest.takeWhile isDecimal
      !digits.isEmpty && (rest.dropWhile isDecimal = [] || rest.dropWhile isDecimal = ['\n'])
  | _ => false

/-- The first part of a path that names something. -/
def pathSubject? (path : String) : Option String :=
  let parts := (split '/' (trimBy (· = '/') path)).filter (· ≠ "")
  let parts := match parts with
    | "api" :: rest => rest
    | parts => parts
  (parts.filter fun part => !isVersion part && !startsWith part "\x7b").head?

/-- The tag that the controller gives. -/
def controllerTag? (settings : TagsConfig) (controller : Option String) : Option String :=
  if !settings.fromController then none
  else match filled? controller with
    | none => none
    | some controller =>
        let base := ClassName.base controller
        match Table.get? settings.mappings base with
        | some tag => some tag
        | none => filled? (some (headline (replace "Controller" "" base)))

/-- The tags of a route. -/
def tags (settings : TagsConfig) (r : Route) : List String :=
  match controllerTag? settings r.controller with
  | some tag => [tag]
  | none =>
      if settings.fromPrefix then ((pathSubject? r.path).map headline).toList else []

end Naming

end RouteDoc
