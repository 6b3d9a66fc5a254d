import RouteDoc.Shape.Inferencer
/-!
# RouteDoc.Proofs.Shape.Logging

**Describing an expression only adds to the log.** `Appends` says that a computation does not look at
the log and writes behind it. So an expression has one schema (`Node.description`) and one part of the
log (`Node.noted`), whatever was described before it (`run_value`).
-/

namespace RouteDoc.Shape

open RouteDoc.Schema

/-! ### Logs behind one another -/

namespace Log

@[simp] theorem references_append (log more : Log) :
    (log ++ more).references = log.references ++ more.references := rfl

theorem append_eq (log more : Log) :
    log ++ more = ⟨log.references ++ more.references, log.diagnostics ++ more.diagnostics⟩ := rfl

@[simp] theorem append_empty (log : Log) : log ++ ({} : Log) = log := by
  rw [append_eq, List.append_nil, List.append_nil]

theorem append_assoc (log more last : Log) : log ++ more ++ last = log ++ (more ++ last) := by
  simp only [append_eq, List.append_assoc]

end Log

/-! ### Computations that only write -/

section

variable {α β : Type}

/-- What a computation gives does not depend on the log, and it writes behind what is there. -/
def Appends (x : Logged α) : Prop := ∀ log, x.run log = ((x.run {}).1, log ++ (x.run {}).2)

theorem run_bind (x : Logged α) (f : α → Logged β) (log : Log) :
    (x >>= f).run log = (f (x.run log).1).run (x.run log).2 := rfl

theorem appends_pure (a : α) : Appends (pure a) := by
  intro log
  exact congrArg (Prod.mk a) (Log.append_empty log).symm

theorem Appends.bind {x : Logged α} {f : α → Logged β} (hx : Appends x)
    (hf : ∀ a, Appends (f a)) : Appends (x >>= f) := by
  intro log
  rw [run_bind, run_bind, hx log]
  dsimp only
  rw [hf _ (log ++ _), hf _ (x.run {}).2, Log.append_assoc]

end

theorem appends_refer (base name : String) : Appends (refer base name) := by
  intro log
  exact congrArg (Prod.mk _) (congrArg (Log.mk _) (List.append_nil _).symm)

theorem appends_orUnknown (kind : String) (schema : Except Fault Fragment) :
    Appends (orUnknown kind schema) := by
  cases schema with
  | ok schema => exact appends_pure schema
  | error fault =>
      intro log
      exact congrArg (Prod.mk _) (congrArg (Log.mk · _) (List.append_nil _).symm)

theorem appends_creationSchema (base : String) (className : Value) :
    Appends (creationSchema base className) := by
  unfold creationSchema
  split
  · exact appends_orUnknown _ _
  · split
    · exact appends_refer base _
    · exact appends_pure _

theorem appends_staticCallSchema (base : String) (className method : Value) :
    Appends (staticCallSchema base className method) := by
  unfold staticCallSchema
  split
  · exact appends_orUnknown _ _
  · dsimp only
    split
    · exact (appends_refer base _).bind fun _ => appends_pure _
    · split
      · exact appends_refer base _
      · exact appends_pure _

/-! ### Expressions -/

mutual

theorem appends_value (base : String) : (node : Node) → Appends (value base node)
  | .string _ | .int _ | .float _ | .bool _ | .null | .array _ => appends_pure _
  | .variable _ | .functionCall .. | .constant .. | .unknown _ => appends_pure _
  | .property _ _ => appends_orUnknown _ _
  | .call _ method arguments => by
      rw [value]
      split
      · exact appends_orUnknown _ _
      · exact appends_argument base method _ arguments
      · exact appends_orUnknown _ _
  | .conditional _ (some node) _ => appends_value base node
  | .conditional _ none (some node) => appends_value base node
  | .conditional _ none none => appends_pure _
  | .coalesce left _ => (appends_value base left).bind fun _ => appends_pure _
  | .create className _ => appends_creationSchema base className
  | .staticCall className method _ => appends_staticCallSchema base className method

theorem appends_argument (base : String) (method : Value) :
    (position : Nat) → (arguments : List Node) → Appends (argument base method position arguments)
  | _, [] => by
      rw [argument]
      exact appends_orUnknown _ _
  | 0, node :: _ => appends_value base node
  | position + 1, _ :: rest => appends_argument base method position rest

end

/-- The schema of an expression. -/
def Node.description (base : String) (node : Node) : Fragment := ((value base node).run {}).1

/-- What an expression adds to the log. -/
def Node.noted (base : String) (node : Node) : Log := ((value base node).run {}).2

theorem run_value (base : String) (node : Node) (log : Log) :
    (value base node).run log = (node.description base, log ++ node.noted base) :=
  appends_value base node log

end RouteDoc.Shape
