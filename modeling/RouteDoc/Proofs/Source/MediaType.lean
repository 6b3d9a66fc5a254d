import RouteDoc.Proofs.Document.Success
import RouteDoc.Source.Analysis
/-!
# RouteDoc.Proofs.Source.MediaType

**Which media type the body of a request gets.** It is decided twice: the analyzer looks at the
schema that it found (`mediaType_eq`), and putting the operation together looks at the schema that
is used in the end, which may be a stored one. `mediaType_iff` says that the two agree unless a
stored schema without files is used for a found one with files.
-/

namespace RouteDoc

open Text

namespace Assembly

/-- Whether a body of the schema has a file in it. -/
def hasFile (schema : Fragment) : Bool := Schema.containsBinary (.obj schema)

/-- The media type that a schema needs. -/
def typeOf (schema : Fragment) : String :=
  if hasFile schema then "multipart/form-data" else "application/json"

end Assembly

namespace Source

open Assembly

variable (config : GeneratorConfig) (index : SourceIndex)

/-! ### What the analyzer says -/

/-- The analyzer decides on the schema that is used where none is stored. -/
theorem mediaType_eq (d : Detection) :
    mediaType d.requestSchema d.inlineSchemas = typeOf (bodySchema d none) := by
  unfold mediaType bodySchema
  cases d.requestSchema with
  | some schema => rfl
  | none =>
      cases d.inlineSchemas with
      | cons schema rest => rfl
      | nil => rfl

/-- A tag of a comment makes a parameter. -/
theorem queryParameter_tag (a : QueryTag) : ∃ q, queryParameter a.parameter = .valid q := by
  unfold QueryTag.parameter
  dsimp only
  split
  · exact ⟨_, rfl⟩
  · exact ⟨_, rfl⟩

theorem queryParameter_documented (name : String) :
    ∀ p ∈ index.queryParameters name, ∃ q, queryParameter p = .valid q := by
  unfold SourceIndex.queryParameters Source.queryParameters
  intro p hp
  cases hclass : index.class? name with
  | none =>
      rw [hclass] at hp
      exact nomatch hp
  | some found =>
      rw [hclass] at hp
      obtain ⟨a, -, rfl⟩ := List.mem_map.1 hp
      exact queryParameter_tag a

theorem queryParameter_request (parts : AutoDetection) (found : Findings)
    (issues : List SourceIssue) :
    ∀ p ∈ ((index.request parts found).run issues).1.queryParameters,
      ∃ q, queryParameter p = .valid q := by
  unfold SourceIndex.request
  cases found.requestClass.filter fun name => parts.formRequests && name ≠ "" with
  | none => exact fun p hp => nomatch hp
  | some name => exact queryParameter_documented index name

/-- What the analyzer says about a route can be put into an operation, and the media type it says is
that of the schema it found. -/
structure Settled (d : Detection) : Prop where
  /-- The media type. -/
  contentType : d.contentType = typeOf (bodySchema d none)
  /-- The documented parameters. -/
  query : ∀ p ∈ d.queryParameters, ∃ q, queryParameter p = .valid q

theorem settled_detect (controller action : String) (cache : ResourceCache) :
    Settled ((index.detect config controller action).run cache).1 where
  contentType := mediaType_eq ((index.detect config controller action).run cache).1
  query := queryParameter_request index _ _ _

/-- The analyzer always says something about a route. -/
theorem analyzer_settled (r : Route) (cache : ResourceCache) :
    ∃ d, ((analyzer config index r).run cache).1 = .ok d ∧ Settled d := by
  unfold analyzer
  cases filled? r.controller with
  | none => exact ⟨_, rfl, rfl, fun p hp => nomatch hp⟩
  | some controller =>
      cases filled? r.action with
      | none => exact ⟨_, rfl, rfl, fun p hp => nomatch hp⟩
      | some action => exact ⟨_, rfl, settled_detect config index controller action cache⟩

/-! ### What the operation says -/

/-- A body is sent in parts if the schema that it has or the one that was found holds a file. -/
theorem Settled.bodyType_eq {d : Detection} (h : Settled d) (o : Option OverrideRecord) :
    bodyType d (bodySchema d o) =
      if hasFile (bodySchema d o) || hasFile (bodySchema d none) then "multipart/form-data"
      else "application/json" := by
  have hused : bodyType d (bodySchema d o) =
      if hasFile (bodySchema d o) then "multipart/form-data" else d.contentType := rfl
  rw [hused, h.contentType, typeOf]
  cases hasFile (bodySchema d o) <;> simp

/-- A stored schema is the one thing that can stand for the schema that was found. -/
theorem bodySchema_of_stored (d : Detection) (o : Option OverrideRecord) :
    (o.bind OverrideRecord.requestBodySchema = none ∧ bodySchema d o = bodySchema d none) ∨
      o.bind OverrideRecord.requestBodySchema = some (bodySchema d o) := by
  unfold bodySchema
  cases o.bind OverrideRecord.requestBodySchema with
  | none => exact .inl ⟨rfl, rfl⟩
  | some stored => exact .inr rfl

/-- The body has the media type that its schema needs, unless a stored schema without files stands
for a found one with files. -/
theorem Settled.bodyType_eq_typeOf_iff {d : Detection} (h : Settled d)
    (o : Option OverrideRecord) :
    bodyType d (bodySchema d o) = typeOf (bodySchema d o) ↔
      ∀ stored, o.bind OverrideRecord.requestBodySchema = some stored →
        hasFile (bodySchema d none) = true → hasFile stored = true := by
  have htype : bodyType d (bodySchema d o) = typeOf (bodySchema d o) ↔
      (hasFile (bodySchema d none) = true → hasFile (bodySchema d o) = true) := by
    rw [h.bodyType_eq, typeOf]
    cases hasFile (bodySchema d o) <;> cases hasFile (bodySchema d none) <;> simp
  rw [htype]
  rcases bodySchema_of_stored d o with ⟨hnone, hsame⟩ | hstored
  · rw [hnone, hsame]
    simp
  · rw [hstored]
    simp

/-- **Where the media type of a body is that of its schema**, for all sources, configurations,
routes that send a body, and stored records: the operation can be put together, its body is sent in
parts if the schema that is used or the one that was found holds a file, and the first alone decides
unless a stored schema without files stands for a found one with files. -/
theorem mediaType_iff (cache : ResourceCache) (a : Assembler) {r : Route}
    (o : Option OverrideRecord) (hwrites : upper r.method ∈ writeMethods) :
    ∃ d, ((analyzer config index r).run cache).1 = .ok d ∧
      ∃ x, (Assembler.assemble config a r d o).1 = .ok x ∧
        ∃ body, x.requestBody = some body ∧ body.schema = bodySchema d o ∧
          body.contentType =
            (if hasFile body.schema || hasFile (bodySchema d none) then "multipart/form-data"
            else "application/json") ∧
          (body.contentType = typeOf body.schema ↔
            ∀ stored, o.bind OverrideRecord.requestBodySchema = some stored →
              hasFile (bodySchema d none) = true → hasFile stored = true) := by
  obtain ⟨d, hd, hsettled⟩ := analyzer_settled config index r cache
  have hparameters : ∃ ps, Assembly.parameters config r d o = .ok ps :=
    Document.parameters_ok_iff.2 hsettled.query
  obtain ⟨ps, hps⟩ := hparameters
  refine ⟨d, hd, Assembler.operation config a r d o ps, ?_, Assembly.body d o, ?_, rfl,
    hsettled.bodyType_eq o, hsettled.bodyType_eq_typeOf_iff o⟩
  · rw [Assembler.assemble_eq, hps]
  · exact if_pos hwrites

/-- A handler that checks for an uploaded file. -/
def avatars : SourceIndex where
  root := "."
  namespaces := [("", "app")]
  files := ⟨[(["app", "Avatars.php"],
    { nodes := [.classDeclaration "Avatars" none none "" [.method "store" [] [
        .call false (.variable "$request") "validate" [] [.array [
          .item [.string "'avatar'" []] [.string "'file'" []] false]]]]] })]⟩

/-- A stored schema without files for a handler that takes one: the body is sent in parts. -/
theorem mediaType_iff_avatars :
    let r : Route :=
      { method := "POST", path := "/avatars", controller := some "Avatars", action := some "store" }
    let o : OverrideRecord :=
      { httpMethod := "POST", uri := "/avatars", requestBodySchema := some [("type", .str "object")] }
    upper r.method ∈ writeMethods ∧
      ∃ d, ((analyzer {} avatars r).run {}).1 = .ok d ∧
        ∃ x, (Assembler.assemble {} {} r d (some o)).1 = .ok x ∧
          ∃ body, x.requestBody = some body ∧ body.contentType = "multipart/form-data" ∧
            body.contentType ≠ typeOf body.schema := by
  intro r o
  have hwrites : upper r.method ∈ writeMethods := by decide
  have hfound : ∃ d, ((analyzer {} avatars r).run {}).1 = .ok d ∧
      hasFile (bodySchema d none) = true := by decide +kernel
  obtain ⟨d, hd, x, hx, body, hbody, -, htype, hiff⟩ :=
    mediaType_iff {} avatars {} {} (some o) hwrites
  obtain ⟨d', hd', hfile⟩ := hfound
  obtain rfl : d = d' := Except.ok.inj (hd.symm.trans hd')
  refine ⟨hwrites, d, hd, x, hx, body, hbody, ?_, fun heq => ?_⟩
  · rw [htype, hfile, Bool.or_true, if_pos rfl]
  · have hstored := hiff.1 heq [("type", .str "object")] rfl hfile
    exact absurd hstored (by decide)

end Source

end RouteDoc
