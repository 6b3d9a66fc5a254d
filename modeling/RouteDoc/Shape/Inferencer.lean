import RouteDoc.Schema.Registry
import RouteDoc.Shape.Inference
/-!
# RouteDoc.Shape.Inferencer

**An inferencer in use.** It describes one subject after the other, and keeps what they referred to
and what had to be left out. References are handed out through a registry when the inferencer is
bound to one: they have the prefix of the registry then, and the registry is told every name.
-/

namespace RouteDoc.Shape

open RouteDoc.Schema

/-- What can be described: the tree of a resource, or one expression that may be missing. -/
inductive Subject where
  | tree (t : Tree)
  | value (node : Option Node)
deriving Inhabited

/-- The schema of a subject. -/
def Subject.infer (base : String) : Subject → Logged Fragment
  | .tree t => Shape.infer base t
  | .value (some node) => Shape.value base node
  | .value none => return unknownSchema

/-- One log behind another. -/
instance : Append Log where
  append log more :=
    ⟨log.references ++ more.references, log.diagnostics ++ more.diagnostics⟩

/-- An inferencer. -/
structure Inferencer where
  /-- The registry that references are handed out through. -/
  registry : Option Registry := none
  /-- What stands before the name in a reference that goes through no registry. -/
  base : String := componentPrefix
  /-- What was referred to and left out so far. -/
  log : Log := {}
deriving Inhabited

namespace Inferencer

/-- What stands before the name in a reference. -/
def prefixInUse (i : Inferencer) : String :=
  match i.registry with
  | some r => r.base
  | none => i.base

/-- Describe a subject. -/
def describe (i : Inferencer) (subject : Subject) : Fragment × Inferencer :=
  let (schema, log) := (subject.infer i.prefixInUse).run {}
  (schema, { i with
    registry := i.registry.map fun r => r.noteNames log.references
    log := i.log ++ log })

end Inferencer

end RouteDoc.Shape
