import RouteDoc.Proofs.Operation.Assembly
import RouteDoc.Proofs.Schema.Completion
/-!
# RouteDoc.Proofs.Operation.Components

**Known components stay known.** A registry knows a component when there is a schema of its name that
says more than that it is an object (`IsKnown`). Three things write schemas while a document is made:
the shapes of responses, which replace what was there, the schemas that come with them and the
placeholders, which only fill gaps, and the stored records, which complete what is there.

* `Keeps` is what none of them breaks: no name goes, and what is known stays known. All that a
  write has to obey is `keeps_write`: a known schema is not replaced by a plain object.
* `keeps_build` is the completion of a registry, also one that a fault stops; `Assembler.keeps`
  is one operation, also one that fails.
* `keeps_run` is any number of both, by any assemblers, in any order.
-/

namespace RouteDoc

namespace Registry

/-- A schema that says nothing but that it is an object. -/
def plainObject : Fragment := [("type", .str "object")]

/-- A registry has a schema of a name that is not just a plain object. -/
def IsKnown (r : Registry) (name : String) : Prop :=
  ∃ entries, Table.get? r.schemas name = some (.obj entries) ∧ entries ≠ plainObject

/-- What a known component asks of all that is done to its registry. -/
structure Keeps (r r' : Registry) : Prop where
  /-- No schema loses its name. -/
  names : ∀ name, r.has name = true → r'.has name = true
  /-- What is known stays known. -/
  known : ∀ name, r.IsKnown name → r'.IsKnown name

theorem Keeps.refl (r : Registry) : Keeps r r := ⟨fun _ h => h, fun _ h => h⟩

theorem Keeps.trans {r r' r'' : Registry} (h : Keeps r r') (h' : Keeps r' r'') : Keeps r r'' :=
  ⟨fun name hname => h'.names name (h.names name hname),
    fun name hknown => h'.known name (h.known name hknown)⟩

theorem Keeps.foldl {α : Type} {f : Registry → α → Registry} (h : ∀ r x, Keeps r (f r x))
    (xs : List α) (r : Registry) : Keeps r (xs.foldl f r) := by
  induction xs generalizing r with
  | nil => exact Keeps.refl r
  | cons x xs ih => exact (h r x).trans (ih _)

/-! ### Single writes -/

/-- Writing a schema: one that is known may only be replaced by one that is not a plain object. -/
theorem keeps_write {r r' : Registry} {name : String} {v : Value}
    (hschemas : r'.schemas = Table.insert r.schemas name v)
    (hv : r.IsKnown name → ∃ entries, v = .obj entries ∧ entries ≠ plainObject) : Keeps r r' where
  names := by
    intro other hother
    rw [has, Table.has_iff_mem_keys] at hother
    rw [has, hschemas, Table.has_iff_mem_keys, Table.mem_keys_insert]
    exact .inr hother
  known := by
    intro other hknown
    by_cases hname : name = other
    · subst hname
      obtain ⟨entries, rfl, hentries⟩ := hv hknown
      exact ⟨entries, by rw [hschemas, Table.get?_insert_self], hentries⟩
    · obtain ⟨entries, hget, hentries⟩ := hknown
      exact ⟨entries, by rw [hschemas, Table.get?_insert_of_ne _ _ hname, hget], hentries⟩

theorem has_of_isKnown {r : Registry} {name : String} (h : r.IsKnown name) :
    r.has name = true := by
  obtain ⟨entries, hget, _⟩ := h
  rw [has, Table.has, hget, Option.isSome_some]

/-- A schema may be added when it is not a plain object. -/
theorem keeps_add_of_ne (r : Registry) (name : String) {entries : Fragment}
    (h : entries ≠ plainObject) : Keeps r (r.add name (.obj entries)) :=
  keeps_write rfl fun _ => ⟨entries, rfl, h⟩

/-- Anything may be added under a name that is not known. -/
theorem keeps_add_of_not_isKnown {r : Registry} {name : String} (h : ¬ r.IsKnown name) (v : Value) :
    Keeps r (r.add name v) :=
  keeps_write rfl fun hknown => absurd hknown h

theorem keeps_add_of_not_has {r : Registry} {name : String} (h : ¬ r.has name = true) (v : Value) :
    Keeps r (r.add name v) :=
  keeps_add_of_not_isKnown (fun hknown => h (has_of_isKnown hknown)) v

theorem keeps_noteNames (r : Registry) (names : List String) : Keeps r (r.noteNames names) :=
  ⟨fun _ h => h, fun _ h => h⟩

/-! ### Completing -/

/-- Completing never makes a plain object of something else: what it adds is no type. -/
theorem completed_ne_plainObject (record : SchemaRecord) {entries : Fragment}
    (h : entries ≠ plainObject) : completed record entries ≠ plainObject := by
  intro heq
  -- the type was there before
  have htype : Table.has entries "type" = true := by
    have hcompleted : Table.has (completed record entries) "type" = true := by rw [heq]; rfl
    rcases has_completed.1 hcompleted with hold | ⟨hkey, _⟩ | ⟨hkey, _⟩
    · exact hold
    · exact absurd hkey (by decide)
    · exact absurd hkey (by decide)
  -- and so there is no room for anything else
  rw [completed_eq_append, plainObject] at heq
  cases entries with
  | nil => simp [Table.has] at htype
  | cons e rest =>
      obtain ⟨he, hrest⟩ := List.cons.inj heq
      rw [he, (List.append_eq_nil_iff.1 hrest).1] at h
      exact h rfl

theorem keeps_addExternal {r r' : Registry} {record : SchemaRecord}
    (h : r.addExternal record = .ok r') : Keeps r r' := by
  obtain ⟨v, hschemas⟩ := schemas_addExternal h
  refine keeps_write hschemas fun ⟨entries, hget, hentries⟩ => ?_
  -- the record completes the known schema
  have hv := get?_addExternal_of_obj (get?_of_obj hget) h
  rw [hschemas, Table.get?_insert_self, Option.some.injEq] at hv
  exact ⟨completed record entries, hv, completed_ne_plainObject record hentries⟩

/-- Stored records, up to the first one that cannot be laid below. -/
theorem keeps_addExternals (records : List SchemaRecord) (r : Registry) :
    Keeps r (r.addExternals records).1 := by
  induction records generalizing r with
  | nil => exact Keeps.refl r
  | cons record rest ih =>
      rw [addExternals]
      cases hadd : r.addExternal record with
      | error fault => exact Keeps.refl r
      | ok next => exact (keeps_addExternal hadd).trans (ih next)

theorem keeps_addPlaceholders (r : Registry) : Keeps r r.addPlaceholders :=
  Keeps.foldl (fun r name => keeps_add_of_ne r name (by simp [plainObject])) r.unresolved r

/-- Completing a registry, also when a schema that is no object stops it. -/
theorem keeps_build (r : Registry) : Keeps r r.build.1 := by
  have hexternals := keeps_addExternals r.external r
  unfold build
  split
  · rename_i next heq
    rw [heq] at hexternals
    exact hexternals.trans (keeps_addPlaceholders next)
  · rename_i next fault heq
    rw [heq] at hexternals
    exact hexternals

end Registry

/-! ### One operation -/

namespace Assembly

open Registry

/-- The schemas that come with a shape only fill gaps. -/
theorem keeps_fillGaps (components : Table String Fragment) (registry : Registry) :
    Keeps registry (components.foldl (fun registry e =>
      if registry.has e.1 then registry else registry.add e.1 (.obj e.2)) registry) := by
  refine Keeps.foldl (fun r e => ?_) components registry
  split
  · exact Keeps.refl r
  · rename_i hnew
    exact keeps_add_of_not_has hnew _

/-- A shape replaces what is known, unless it is plain itself. -/
theorem keeps_registerShape (registry : Registry) (d : Detection) (shape : ResponseShape) :
    Keeps registry (registerShape registry d shape) := by
  unfold registerShape
  dsimp only
  refine Keeps.trans ?_ (keeps_fillGaps d.componentSchemas _)
  split
  · rename_i hadded
    rcases Bool.or_eq_true_iff.1 hadded with hnew | hmore
    · exact keeps_add_of_not_has (by simpa using hnew) _
    · exact keeps_add_of_ne _ _ (of_decide_eq_true hmore)
  · exact Keeps.refl _

/-- The shape of a response has a schema once it is registered. -/
theorem has_registerShape (registry : Registry) (d : Detection) (shape : ResponseShape) :
    (registerShape registry d shape).has shape.name = true := by
  unfold registerShape
  dsimp only
  refine (keeps_fillGaps d.componentSchemas _).names _ ?_
  split
  · exact (has_add ..).2 (.inl rfl)
  · rename_i hkept
    simp only [Bool.or_eq_true, not_or] at hkept
    simpa using hkept.1

theorem keeps_successSchema (registry : Registry) (d : Detection) :
    Keeps registry (successSchema registry d).2 := by
  unfold successSchema
  cases d.responses with
  | nil => exact Keeps.refl registry
  | cons shape rest => exact (keeps_registerShape registry d shape).trans (keeps_noteNames _ _)

end Assembly

namespace Assembler

open Registry

theorem keeps_registryAfter (a : Assembler) (r : Route) (d : Detection)
    (o : Option OverrideRecord) : Keeps a.registry (a.registryAfter r d o) := by
  unfold registryAfter
  dsimp only
  refine Keeps.trans ?_ (Assembly.keeps_successSchema _ d)
  split
  · exact keeps_noteNames _ _
  · exact Keeps.refl _

/-- One operation, also one that cannot be put together. -/
theorem keeps (config : GeneratorConfig) (a : Assembler) (r : Route) (d : Detection)
    (o : Option OverrideRecord) : Keeps a.registry (assemble config a r d o).2.registry := by
  rw [assemble_eq]
  cases Assembly.parameters config r d o with
  | error issues => exact Keeps.refl _
  | ok ps => exact keeps_registryAfter a r d o

/-- The shape of the successful response has a schema once its operation is there. -/
theorem has_shape {config : GeneratorConfig} {a : Assembler} {r : Route} {d : Detection}
    {o : Option OverrideRecord} {x : Operation} {shape : ResponseShape}
    (h : (assemble config a r d o).1 = .ok x) (hshape : d.responses.head? = some shape) :
    (assemble config a r d o).2.registry.has shape.name = true := by
  obtain ⟨ps, hps, -⟩ := eq_operation_of_assemble h
  obtain ⟨rest, hresponses⟩ := List.head?_eq_some_iff.1 hshape
  rw [assemble_eq, hps]
  dsimp only
  unfold registryAfter Assembly.successSchema
  rw [hresponses]
  exact Assembly.has_registerShape _ d shape

end Assembler

/-! ### Whole documents -/

namespace Registry

/-- What is done to a registry while a document is made. -/
inductive Step where
  /-- An operation is put together, by an assembler that may have handed out identifiers before. -/
  | assemble (config : GeneratorConfig) (ids : OperationIds) (route : Route) (detection : Detection)
      (override : Option OverrideRecord)
  /-- The registry is completed. -/
  | build

/-- The registry after a step, also after one that fails. -/
def step (r : Registry) : Step → Registry
  | .assemble config ids route detection override =>
      (Assembler.assemble config { registry := r, ids } route detection override).2.registry
  | .build => r.build.1

/-- The registry after some steps. -/
def run (r : Registry) (steps : List Step) : Registry := steps.foldl step r

theorem run_append (r : Registry) (before later : List Step) :
    r.run (before ++ later) = (r.run before).run later := List.foldl_append

theorem keeps_step (r : Registry) (s : Step) : Keeps r (r.step s) := by
  cases s with
  | assemble config ids route detection override =>
      exact Assembler.keeps config { registry := r, ids } route detection override
  | build => exact keeps_build r

theorem keeps_run (r : Registry) (steps : List Step) : Keeps r (r.run steps) :=
  Keeps.foldl keeps_step steps r

/-- **Known components stay known.** Whatever a registry held to begin with, and however operations
are put together with it and it is completed: a name that is there stays there, a component that is
known at some point is known at every later one, and the shape of an operation's successful response
is there from that operation on. -/
theorem known_components (r : Registry) (before later : List Step) :
    Keeps (r.run before) (r.run (before ++ later)) ∧
    ∀ config ids route detection override operation shape,
      (Assembler.assemble config { registry := r.run before, ids } route detection override).1 =
        .ok operation →
      detection.responses.head? = some shape →
      (r.run (before ++ .assemble config ids route detection override :: later)).has shape.name =
        true := by
  refine ⟨?_, fun config ids route detection override operation shape hok hshape => ?_⟩
  · rw [run_append]
    exact keeps_run _ later
  · rw [run_append]
    exact (keeps_run _ later).names _ (Assembler.has_shape hok hshape)

/-- A registry that knows users, with a description stored for them. -/
def usersRegistry : Registry :=
  ({ external := [{ name := "UserResource", description := some "A user." }] } : Registry).add
    "UserResource"
    (.obj [("type", .str "object"), ("properties", .obj [("id", .obj [("type", .str "integer")])])])

/-- A response of which no more is known than that it is a user. -/
def plainUser : Detection where
  responses := [{ name := "UserResource", schema := plainObject }]

/-- The plain shape does not replace the users, and neither does the stored record. -/
theorem known_components_users :
    let route : Route := { method := "GET", path := "/api/users/\x7buser\x7d", action := some "show" }
    let steps : List Step := [.assemble {} {} route plainUser none, .build]
    usersRegistry.IsKnown "UserResource" ∧ (usersRegistry.run steps).IsKnown "UserResource" ∧
      (usersRegistry.run steps).has "UserResource" = true := by
  intro route steps
  have hknown : usersRegistry.IsKnown "UserResource" := ⟨_, rfl, by decide⟩
  have hok : ∃ x, (Assembler.assemble {} { registry := usersRegistry } route plainUser none).1 =
      .ok x := by
    rw [Assembler.assemble_eq]
    exact ⟨_, rfl⟩
  obtain ⟨x, hx⟩ := hok
  have hrun := known_components usersRegistry [] steps
  have hshape := (known_components usersRegistry [] [.build]).2 {} {} route plainUser none x
    { name := "UserResource", schema := plainObject } hx rfl
  exact ⟨hknown, hrun.1.known _ hknown, hshape⟩

end Registry

end RouteDoc
