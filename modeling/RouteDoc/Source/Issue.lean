import RouteDoc.Rule.Transform
import RouteDoc.Shape.Inference
/-!
# RouteDoc.Source.Issue

**What could not be understood in a source**, with one wording for each cause.
-/

namespace RouteDoc.Source

/-- A cause why something in the sources was not understood. -/
inductive SourceIssue where
  /-- There is no such controller. -/
  | missingController (name : String)
  /-- The controller has no such method. -/
  | missingAction (action controller : String)
  /-- There is no such request class. -/
  | missingRequest (name : String)
  /-- The request class has no method for its rules. -/
  | requestWithoutRules (name : String)
  /-- The rules of a request class are not written down as an array. -/
  | computedRules (name : String)
  /-- An expression of some kind in a file is no rule. -/
  | unsupportedRule (kind file : String)
  /-- There is no such enumeration. -/
  | missingEnum (name : String)
  /-- There is no such resource. -/
  | missingResource (name : String)
  /-- A collection does not say what its items are. -/
  | unknownItems (name : String)
  /-- The rules of a field make no schema. -/
  | rule (d : Rule.Diagnostic)
  /-- A part of a response has no schema. -/
  | shape (d : Shape.Diagnostic)
deriving DecidableEq

/-- The cause in words. -/
def SourceIssue.message : SourceIssue → String
  | .missingController name => "controller " ++ name ++ " not found"
  | .missingAction action controller => "action " ++ action ++ " not found on " ++ controller
  | .missingRequest name => "form request " ++ name ++ " not found"
  | .requestWithoutRules name => "form request " ++ name ++ " has no rules() method"
  | .computedRules name => "rules() of " ++ name ++ " does not return an array literal"
  | .unsupportedRule kind file => "unsupported rule expression " ++ kind ++ " in " ++ file
  | .missingEnum name => "enum " ++ name ++ " not found"
  | .missingResource name => "resource " ++ name ++ " not found"
  | .unknownItems name =>
      "collection " ++ name ++ " does not declare the resource it collects"
  | .rule d => d.message
  | .shape d => d.message

/-- Reading that notes what it could not understand. -/
abbrev Noting := StateM (List SourceIssue)

/-- Note an issue. -/
def note (issue : SourceIssue) : Noting Unit := modify (· ++ [issue])

end RouteDoc.Source
