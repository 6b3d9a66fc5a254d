import RouteDoc.Proofs.Operation.Slots
import RouteDoc.Proofs.Outcome
/-!
# RouteDoc.Proofs.Operation.Responses

**The responses of an operation.** They come in layers: success, the statuses that were detected, the
responses of the configuration (`Assembly.layers`). Of the entries of one status the first one counts
(`detectedResponses_eq`), so both the order of the statuses and the response of each are read off the
layers (`keys_firsts`, `get?_firsts`).

What is stored about a route is laid over that. It describes responses that are there and gives
examples to those with a schema (`overlay`), and neither can add a status or change a schema
(`responses_layered`).
-/

namespace RouteDoc

open Text

/-! ### First and last entries -/

namespace Table

section

variable {κ α : Type} [DecidableEq κ]

/-- The first entry of each key, in order. -/
def firsts (entries : List (κ × α)) : Table κ α :=
  entries.foldl (fun t e => insertIfNew t e.1 e.2) []

/-- What the last entry of a key holds. -/
def last? (entries : List (κ × α)) (key : κ) : Option α := get? entries.reverse key

theorem last?_cons (e : κ × α) (rest : List (κ × α)) (key : κ) :
    last? (e :: rest) key = (last? rest key).or (if e.1 = key then some e.2 else none) := by
  rw [last?, List.reverse_cons, get?_append]
  rfl

theorem last?_filter {p : κ → Bool} {key : κ} (h : p key = true) (entries : List (κ × α)) :
    last? (entries.filter fun e => p e.1) key = last? entries key := by
  induction entries with
  | nil => rfl
  | cons e rest ih =>
      rw [List.filter_cons, last?_cons]
      split
      · rw [last?_cons, ih]
      · rename_i hp
        have hne : e.1 ≠ key := fun heq => hp (heq ▸ h)
        rw [ih, if_neg hne, Option.or_none]

/-- Steps that each write under their own key, the last of them over the others. -/
theorem get?_foldl_step {β : Type} {step : Table κ α → κ × β → Table κ α} {f : β → α → α}
    (hstep : ∀ t e k, get? (step t e) k =
      if e.1 = k then (get? t k).map (f e.2) else get? t k)
    (hlast : ∀ v w a, f v (f w a) = f v a) (entries : List (κ × β)) (t : Table κ α) (key : κ) :
    get? (entries.foldl step t) key =
      (get? t key).map fun a => (last? entries key).elim a (f · a) := by
  induction entries generalizing t with
  | nil => simp [last?]
  | cons e rest ih =>
      rw [List.foldl_cons, ih, hstep, last?_cons]
      by_cases h : e.1 = key
      · rw [if_pos h, if_pos h, Option.map_map]
        congr 1
        funext a
        cases last? rest key <;> simp [hlast]
      · simp [h]

theorem get?_foldl_insertIfNew (t : Table κ α) (entries : List (κ × α)) (key : κ) :
    get? (entries.foldl (fun t e => insertIfNew t e.1 e.2) t) key =
      (get? t key).or (get? entries key) := by
  induction entries generalizing t with
  | nil => simp
  | cons e rest ih =>
      obtain ⟨k, v⟩ := e
      rw [List.foldl_cons, ih, get?_insertIfNew, get?]
      by_cases h : k = key
      · subst h
        cases get? t k <;> simp
      · simp [h]

theorem get?_firsts (entries : List (κ × α)) (key : κ) :
    get? (firsts entries) key = get? entries key := by
  rw [firsts, get?_foldl_insertIfNew, get?_nil, Option.none_or]

theorem keys_foldl_insertIfNew (t : Table κ α) (entries : List (κ × α)) :
    keys (entries.foldl (fun t e => insertIfNew t e.1 e.2) t) =
      keys t ++ ((keys entries).removeAll (keys t)).eraseDups := by
  induction entries generalizing t with
  | nil => simp [List.removeAll]
  | cons e rest ih =>
      have hkeys : keys (e :: rest) = e.1 :: keys rest := rfl
      rw [List.foldl_cons, ih, hkeys, List.cons_removeAll, insertIfNew]
      by_cases h : e.1 ∈ keys t
      · rw [if_pos (has_iff_mem_keys.2 h), if_neg (by simpa using h)]
      · rw [if_neg (mt has_iff_mem_keys.1 h), if_pos (by simpa using h), keys_insert_of_not_mem _ h,
          List.eraseDups_cons, List.append_assoc, List.singleton_append]
        -- what is new behind the entry is new to the table, and another key
        congr 3
        rw [List.removeAll, List.removeAll, List.filter_filter]
        refine List.filter_congr fun k _ => ?_
        by_cases hk : k = e.1 <;> simp [hk]

theorem keys_firsts (entries : List (κ × α)) :
    keys (firsts entries) = (keys entries).eraseDups := by
  simp [firsts, keys_foldl_insertIfNew]

theorem nodup_keys_firsts (entries : List (κ × α)) : (keys (firsts entries)).Nodup := by
  unfold firsts
  refine List.foldlRecOn (motive := fun t => (keys t).Nodup) entries _ List.nodup_nil ?_
  intro t ht e _
  exact nodup_keys_insertIfNew e.1 e.2 ht

end

end Table

/-! ### The layers -/

namespace Assembly

/-- The responses that an operation may have, those that come first before the others. -/
def layers (config : GeneratorConfig) (r : Route) (d : Detection) (success : Fragment) :
    List (String × Response) :=
  let headers := RateLimit.headers d.rateLimit
  (Number.intText (Naming.successStatus r),
      { description := Naming.successDescription (Naming.successStatus r) r.action,
        schema := some success, headers := if headers.isEmpty then none else some headers })
    :: (d.statusResponses.map fun s =>
        (Number.intText s.status, { description := filledOr "Response" s.description }))
    ++ config.defaultResponses.map fun e =>
        (Number.intText e.1, { description := e.2.description, schema := some e.2.schema })

/-- The statuses of an operation: the one of success, the detected ones that are not there yet, and
the configured ones that are not there yet. -/
def statusCodes (config : GeneratorConfig) (r : Route) (d : Detection) : List String :=
  ((Naming.successStatus r :: d.statusResponses.map StatusResponse.status
    ++ Table.keys config.defaultResponses).map Number.intText).eraseDups

theorem detectedResponses_eq (config : GeneratorConfig) (r : Route) (d : Detection)
    (success : Fragment) :
    detectedResponses config r d success = Table.firsts (layers config r d success) := by
  unfold detectedResponses Table.firsts layers
  simp only [List.cons_append, List.foldl_cons, List.foldl_append, List.foldl_map]
  rfl

theorem eraseDups_keys_layers (config : GeneratorConfig) (r : Route) (d : Detection)
    (success : Fragment) :
    (Table.keys (layers config r d success)).eraseDups = statusCodes config r d := by
  simp [layers, statusCodes, Table.keys, Function.comp_def]

/-! ### What is stored about responses -/

/-- The stored description of a response. -/
def storedDescription? (o : Option OverrideRecord) (code : String) : Option String :=
  Table.last? ((o.bind OverrideRecord.responseDescriptions).getD []) code

/-- The stored example of a response. -/
def storedExample? (o : Option OverrideRecord) (code : String) : Option Value :=
  Table.last? ((o.bind OverrideRecord.responseExamples).getD []) code

/-- A response with what is stored under its status; without a schema it takes no example. -/
def overlay (o : Option OverrideRecord) (code : String) (response : Response) : Response :=
  { response with
    description := (storedDescription? o code).getD response.description
    sample := if response.schema.isSome then (storedExample? o code).getD response.sample
      else response.sample }

/-- A response with another description. -/
def described (text : String) (r : Response) : Response := { r with description := text }

theorem get?_describe (rs : Table String Response) (e : String × String) (code : String) :
    Table.get? (describe rs e) code =
      if e.1 = code then (Table.get? rs code).map (described e.2) else Table.get? rs code := by
  unfold describe
  by_cases h : e.1 = code
  · subst h
    cases hr : Table.get? rs e.1 <;> simp [described, hr]
  · cases Table.get? rs e.1 <;> simp [Table.get?_insert, h]

/-- A response with an example, if it has a schema. -/
def exemplified (v : Value) (r : Response) : Response :=
  if r.schema.isSome then { r with sample := v } else r

theorem get?_exemplify (rs : Table String Response) (e : String × Value) (code : String) :
    Table.get? (exemplify rs e) code =
      if e.1 = code then (Table.get? rs code).map (exemplified e.2) else Table.get? rs code := by
  unfold exemplify
  by_cases h : e.1 = code
  · subst h
    cases hr : Table.get? rs e.1 with
    | none => simp [hr]
    | some r => cases hschema : r.schema.isSome <;> simp [exemplified, hr, hschema]
  · cases Table.get? rs e.1 with
    | none => simp [h]
    | some r => cases hschema : r.schema.isSome <;> simp [Table.get?_insert, h, hschema]

theorem get?_overrideResponses (o : Option OverrideRecord) (rs : Table String Response)
    (code : String) :
    Table.get? (overrideResponses o rs) code = (Table.get? rs code).map (overlay o code) := by
  unfold overrideResponses
  dsimp only
  have hlast : ∀ v w r, exemplified v (exemplified w r) = exemplified v r := by
    intro v w r
    cases hschema : r.schema.isSome <;> simp [exemplified, hschema]
  rw [Table.get?_foldl_step get?_exemplify hlast, Table.get?_foldl_step get?_describe fun _ _ _ => rfl,
    Option.map_map]
  congr 1
  funext r
  simp only [overlay, storedDescription?, storedExample?, Function.comp_apply]
  -- with or without a schema, a stored text and a stored example
  cases hschema : r.schema.isSome <;>
    cases Table.last? ((o.bind OverrideRecord.responseDescriptions).getD []) code <;>
      cases Table.last? ((o.bind OverrideRecord.responseExamples).getD []) code <;>
        simp [exemplified, described, hschema]

theorem keys_overrideResponses (o : Option OverrideRecord) (rs : Table String Response) :
    Table.keys (overrideResponses o rs) = Table.keys rs := by
  rw [← Table.keys_mapValues (fun r => (r.schema, r.headers)), frame_overrideResponses,
    Table.keys_mapValues]

/-- What a record says about responses that are there, an example for those with a schema. -/
def relevant (ls : List (String × Response)) (record : OverrideRecord) : OverrideRecord :=
  { record with
    responseDescriptions := record.responseDescriptions.map fun texts =>
      texts.filter fun e => Table.has ls e.1
    responseExamples := record.responseExamples.map fun examples =>
      examples.filter fun e => ((Table.get? ls e.1).bind Response.schema).isSome }

/-- What else a record says makes no difference under any status. -/
theorem overlay_relevant {ls : List (String × Response)} {code : String} {response : Response}
    (h : Table.get? ls code = some response) (record : OverrideRecord) :
    overlay (some (relevant ls record)) code response = overlay (some record) code response := by
  have htext : storedDescription? (some (relevant ls record)) code =
      storedDescription? (some record) code := by
    dsimp only [storedDescription?, relevant, Option.bind_some]
    cases record.responseDescriptions with
    | none => rfl
    | some texts =>
        refine Table.last?_filter (p := fun k => Table.has ls k) ?_ texts
        rw [Table.has, h, Option.isSome_some]
  unfold overlay
  rw [htext]
  by_cases hschema : response.schema.isSome
  · have hexample : storedExample? (some (relevant ls record)) code =
        storedExample? (some record) code := by
      dsimp only [storedExample?, relevant, Option.bind_some]
      cases record.responseExamples with
      | none => rfl
      | some examples =>
          refine Table.last?_filter
            (p := fun k => ((Table.get? ls k).bind Response.schema).isSome) ?_ examples
          rwa [h, Option.bind_some]
    rw [hexample]
  · simp [hschema]

theorem overrideResponses_relevant (ls : List (String × Response)) (record : OverrideRecord) :
    overrideResponses (some (relevant ls record)) (Table.firsts ls) =
      overrideResponses (some record) (Table.firsts ls) := by
  refine Table.ext_get? ?_ ?_ fun code => ?_
  · rw [keys_overrideResponses]
    exact Table.nodup_keys_firsts ls
  · rw [keys_overrideResponses, keys_overrideResponses]
  · rw [get?_overrideResponses, get?_overrideResponses, Table.get?_firsts]
    cases h : Table.get? ls code with
    | none => rfl
    | some response => rw [Option.map_some, Option.map_some, overlay_relevant h]

/-- Responses that come from layers and from what is stored. -/
structure Layered (config : GeneratorConfig) (base : String) (r : Route) (d : Detection)
    (o : Option OverrideRecord) (responses : Table String Response) : Prop where
  /-- The statuses are those of the layers, in order. -/
  codes : Table.keys responses = statusCodes config r d
  /-- A response is the first one of its status, with what is stored laid over it. -/
  response : ∀ code, Table.get? responses code =
    (Table.get? (layers config r d (success base d)) code).map (overlay o code)

theorem layered_overrideResponses (config : GeneratorConfig) (base : String) (r : Route)
    (d : Detection) (o : Option OverrideRecord) :
    Layered config base r d o
      (overrideResponses o (detectedResponses config r d (success base d))) where
  codes := by
    rw [keys_overrideResponses, detectedResponses_eq, Table.keys_firsts, eraseDups_keys_layers]
  response code := by
    rw [get?_overrideResponses, detectedResponses_eq, Table.get?_firsts]

end Assembly

/-! ### Whole operations -/

/-- The record with other descriptions and examples of responses. -/
def OverrideRecord.withResponses (record : OverrideRecord)
    (texts : Option (Table String String)) (examples : Option Fragment) : OverrideRecord :=
  { record with responseDescriptions := texts, responseExamples := examples }

/-- An operation but for its responses, with their statuses, schemas and headers. -/
def Operation.frame (x : Operation) :
    Operation × Table String (Option Fragment × Option Fragment) :=
  ({ x with responses := [] }, Table.mapValues (fun r => (r.schema, r.headers)) x.responses)

namespace Assembler

variable (config : GeneratorConfig) (a : Assembler) (r : Route) (d : Detection)

/-- Descriptions and examples of responses are looked at for the responses and nowhere else. -/
theorem assemble_withResponses (record : OverrideRecord) (texts : Option (Table String String))
    (examples : Option Fragment) :
    assemble config a r d (some (record.withResponses texts examples)) =
      let detected := Assembly.detectedResponses config r d (Assembly.success a.registry.base d)
      let responses :=
        Assembly.overrideResponses (some (record.withResponses texts examples)) detected
      ((assemble config a r d (some record)).1.map fun x => { x with responses },
        (assemble config a r d (some record)).2) := by
  have hparameters : Assembly.parameters config r d (some (record.withResponses texts examples)) =
      Assembly.parameters config r d (some record) := rfl
  rw [assemble_eq, assemble_eq, hparameters]
  cases Assembly.parameters config r d (some record) <;> rfl

theorem layered_assemble {o : Option OverrideRecord} {x : Operation}
    (h : (assemble config a r d o).1 = .ok x) :
    Assembly.Layered config a.registry.base r d o x.responses := by
  obtain ⟨ps, -, rfl⟩ := eq_operation_of_assemble h
  exact Assembly.layered_overrideResponses config a.registry.base r d o

theorem frame_withResponses (record : OverrideRecord) (texts : Option (Table String String))
    (examples : Option Fragment) :
    (assemble config a r d (some (record.withResponses texts examples))).1.map Operation.frame =
      (assemble config a r d (some record)).1.map Operation.frame := by
  rw [assemble_withResponses]
  cases hx : (assemble config a r d (some record)).1 with
  | error issues => rfl
  | ok x =>
      obtain ⟨ps, -, rfl⟩ := eq_operation_of_assemble hx
      -- both have the statuses, schemas and headers that were there before
      simp only [Except.map, Operation.frame, operation, Assembly.frame_overrideResponses]

theorem assemble_relevant (record : OverrideRecord) :
    assemble config a r d (some (Assembly.relevant
        (Assembly.layers config r d (Assembly.success a.registry.base d)) record)) =
      assemble config a r d (some record) := by
  have hresponses := Assembly.overrideResponses_relevant
    (Assembly.layers config r d (Assembly.success a.registry.base d)) record
  rw [← Assembly.detectedResponses_eq] at hresponses
  refine (assemble_withResponses config a r d record _ _).trans ?_
  refine Prod.ext ?_ rfl
  cases hx : (assemble config a r d (some record)).1 with
  | error issues => rfl
  | ok x =>
      obtain ⟨ps, -, rfl⟩ := eq_operation_of_assemble hx
      exact congrArg (fun responses => Except.ok
        { operation config a r d (some record) ps with responses }) hresponses

/-- **Responses come in layers, and what is stored does not change their structure.** The statuses
are the one of success, then the detected ones, then the configured ones, each where it comes first;
the response of a status is the first one of the layers, with what is stored laid over it.
Other descriptions and examples leave everything but the texts and examples of the responses as it
is, and what is stored for a status that is not there, or as an example of a response without a
schema, makes no difference at all. -/
theorem responses_layered :
    (∀ o x, (assemble config a r d o).1 = .ok x →
      Assembly.Layered config a.registry.base r d o x.responses) ∧
    (∀ (record : OverrideRecord) texts examples,
      let p := assemble config a r d (some record)
      let q := assemble config a r d (some (record.withResponses texts examples))
      q.1.map Operation.frame = p.1.map Operation.frame ∧ q.2 = p.2) ∧
    ∀ record : OverrideRecord,
      let ls := Assembly.layers config r d (Assembly.success a.registry.base d)
      assemble config a r d (some (Assembly.relevant ls record)) =
        assemble config a r d (some record) := by
  refine ⟨fun o x h => layered_assemble config a r d h, fun record texts examples => ⟨?_, ?_⟩,
    assemble_relevant config a r d⟩
  · exact frame_withResponses config a r d record texts examples
  · rw [assemble_withResponses]

/-- Users, one of whom may be missing. -/
def userDetection : Detection where
  statusResponses := [{ status := 404 }]

/-- A record with texts for a status that is there and one that is not. -/
def userRecord : OverrideRecord where
  httpMethod := "GET"
  uri := "/users"
  responseDescriptions := some [("404", "Nobody."), ("418", "A teapot.")]
  responseExamples := some [("404", .obj [])]

/-- The configured response of the status would have a schema, but the detected one goes before it:
it is described, and takes no example. -/
theorem responses_layered_user :
    ∃ x, (assemble {} {} { method := "GET", path := "/users" } userDetection
        (some userRecord)).1 = .ok x ∧
      (Table.get? x.responses "404" = some { description := "Nobody." } ∧
        Table.get? x.responses "418" = none) ∧
      Assembly.Layered {} Schema.componentPrefix { method := "GET", path := "/users" } userDetection
        (some userRecord) x.responses := by
  have hrun : ∃ x, (assemble {} {} { method := "GET", path := "/users" } userDetection
        (some userRecord)).1 = .ok x ∧
      (Table.get? x.responses "404" = some { description := "Nobody." } ∧
        Table.get? x.responses "418" = none) := by
    decide +kernel
  obtain ⟨x, hx, hresponses⟩ := hrun
  exact ⟨x, hx, hresponses, (responses_layered {} {} _ _).1 _ _ hx⟩

end Assembler

end RouteDoc
