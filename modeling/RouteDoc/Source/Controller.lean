import RouteDoc.Config.Basic
import RouteDoc.Detection
import RouteDoc.Source.Rules
/-!
# RouteDoc.Source.Controller

**Handlers of routes.** The method that handles a route tells the class of its request, the rules that
it checks itself, the resource that it returns and further statuses.

* The request is the first parameter whose class is named like one.
* Rules are the arrays that are given to a validator anywhere in the method.
* Returned expressions are searched from the outside to the inside; the first resource counts, and
  every macro for responses gives its status once.
-/

namespace RouteDoc.Source

open RouteDoc.Text

/-! ### The request -/

/-- Classes of requests without rules. -/
def plainRequests : List String := ["Request", "FormRequest"]

/-- Whether a class is named like a request with rules. -/
def isRequestName (name : String) : Bool :=
  let short := afterLast '\\' name
  endsWith short "Request" && short ∉ plainRequests

/-- The class of the request that a method takes. -/
def MethodSource.requestClass? (m : MethodSource) : Option String :=
  m.parameters.findSome? fun p => if p.isPlain then p.className.filter isRequestName else none

/-! ### Rules inside the method -/

/-- The array of rules that is given to a validator. -/
def validated? (node : Syntax) : Option Syntax :=
  let candidate : Option Syntax := match node with
    | .call false target "validate" _ arguments =>
        let second := match target with
          | .variable "$this" => arguments[1]?
          | _ => none
        second.or arguments.head?
    | .staticCall scope "make" _ arguments =>
        if afterLast '\\' scope = "Validator" then arguments[1]? else none
    | _ => none
  (candidate.map Syntax.unwrap).filter isArray

/-- The arrays of rules that are checked inside a method. -/
def MethodSource.inlineRules (m : MethodSource) : List Syntax := m.nodes.filterMap validated?

/-! ### What is returned -/

/-- Whether a class is named like a resource. -/
def isResourceName (name : String) : Bool :=
  let short := afterLast '\\' name
  contains short "Resource" || contains short "Collection"

/-- The resource that an expression makes, and whether it makes a list of them. -/
def resourceOf? : Syntax → Option (String × Bool)
  | .create name _ _ => if isResourceName name then some (name, false) else none
  | .staticCall scope name _ _ =>
      if (name = "make" || name = "collection") && isResourceName scope then
        some (scope, name = "collection")
      else none
  | _ => none

/-- The macro for responses that an expression calls. -/
def macroOf? : Syntax → Option String
  | .staticCall scope name _ _ => if afterLast '\\' scope = "Response" then some name else none
  | .call false target name _ _ => match target.unwrap with
      | .functionCall "response" _ _ => some name
      | _ => none
  | _ => none

/-- Add the status of a macro, unless that status is there already. -/
def addStatus (macros : Table String ResponseMacro) (done : List StatusResponse) (name : String) :
    List StatusResponse :=
  match Table.get? macros name with
  | none => done
  | some found =>
      if done.any (·.status = found.status) then done
      else done ++ [{ status := found.status, description := found.description }]

/-! ### Findings -/

/-- What the handler of a route tells. -/
structure Findings where
  /-- The class of the request. -/
  requestClass : Option String := none
  /-- The rules that are checked in the handler. -/
  inlineRules : List Rule.RuleMap := []
  /-- The resource that is returned, and whether a list of them is. -/
  resource : Option (String × Bool) := none
  /-- Further statuses. -/
  statusResponses : List StatusResponse := []
  /-- Why the handler was not found. -/
  issues : List SourceIssue := []
deriving Inhabited

/-- What a method of a file tells. -/
def SourceFile.findings (f : SourceFile) (index : SourceIndex)
    (macros : Table String ResponseMacro) (m : MethodSource) : Noting Findings := do
  let inlineRules ← m.inlineRules.mapM (f.rules index)
  let returned := m.returns.flatMap Syntax.nodes
  return {
    requestClass := m.requestClass?.map f.resolve
    inlineRules
    resource := (returned.findSome? resourceOf?).map fun (name, isList) => (f.resolve name, isList)
    statusResponses := (returned.filterMap macroOf?).foldl (addStatus macros) [] }

/-- What the handler of a route tells. -/
def SourceIndex.findings (index : SourceIndex) (macros : Table String ResponseMacro)
    (controller action : String) : Noting Findings := do
  match index.class? controller with
  | none => return { issues := [.missingController controller] }
  | some (file, found) => match found.method? action with
      | none => return { issues := [.missingAction action controller] }
      | some method => file.findings index macros method

end RouteDoc.Source
