import RouteDoc.Security.Middleware
import RouteDoc.Security.Schemes
import RouteDoc.Proofs.Security.Middleware
import RouteDoc.Proofs.Store.Diff
/-!
# RouteDoc.Proofs.Security.Schemes

**Which security schemes a document has.** Three layers are laid on each other: what is stored, what
is configured, and the known schemes that are used. A layer only takes names that are free.

* `mem_keys_layers` says where the names come from, and `get?_build_of_stored` that a stored scheme
  stays what it is.
* `Resolvable` names are those that a route can ask for by its middleware
  (`MiddlewareAnalysis.resolvable_of`). Once they are used, they are there.
-/

namespace RouteDoc

/-- A name that middleware can lead to: of a configured scheme, or of a known one. -/
def Resolvable (configured : Table String SecuritySchemeConfig) (name : String) : Prop :=
  name ∈ Table.keys configured ∨ name ∈ Table.keys SecuritySchemes.known

/-! ### What middleware asks for -/

theorem Middleware.resolvable_of_requirement? {schemes : Table String SecuritySchemeConfig}
    {m : Middleware} {requirement : SecurityRequirement}
    (h : m.requirement? schemes = some requirement) : Resolvable schemes requirement.scheme := by
  unfold requirement? at h
  split at h
  · rename_i name scheme hfind
    obtain rfl := Option.some.inj h
    have hmem := List.mem_of_find?_eq_some hfind
    exact .inl (List.mem_map_of_mem (f := Prod.fst) hmem)
  · split at h
    · -- both schemes that may be inferred are known
      obtain rfl := Option.some.inj h
      refine .inr ?_
      show m.inferredScheme ∈ _
      unfold inferredScheme
      split
      · decide
      · decide
    · exact nomatch h

/-- Everything that the middleware of a route asks for can be there. -/
theorem MiddlewareAnalysis.resolvable_of {schemes : Table String SecuritySchemeConfig}
    {middleware : List String} {a : MiddlewareAnalysis} (h : of schemes middleware = .ok a) :
    ∀ requirement ∈ a.security, Resolvable schemes requirement.scheme := by
  intro requirement hmem
  rw [security_of h] at hmem
  obtain ⟨text, -, hrequirement⟩ := List.mem_filterMap.1 hmem
  exact Middleware.resolvable_of_requirement? hrequirement

/-! ### The layers -/

namespace SecuritySchemes

theorem mem_keys_addKnown {schemes : Table String Fragment} {name k : String} :
    k ∈ Table.keys (addKnown schemes name) ↔
      (k = name ∧ k ∈ Table.keys known) ∨ k ∈ Table.keys schemes := by
  unfold addKnown
  cases hget : Table.get? known name with
  | none =>
      have hunknown := Table.get?_eq_none_iff.1 hget
      constructor
      · exact .inr
      · rintro (⟨rfl, hk⟩ | hk)
        · exact absurd hk hunknown
        · exact hk
  | some scheme =>
      have hknown : name ∈ Table.keys known := Table.mem_keys_iff.2 ⟨scheme, hget⟩
      rw [Table.mem_keys_insertIfNew]
      exact or_congr_left ⟨fun hk => ⟨hk, hk ▸ hknown⟩, And.left⟩

theorem mem_keys_configured {configured : Table String SecuritySchemeConfig}
    {schemes : Table String Fragment} {k : String} :
    k ∈ Table.keys (configured.foldl addConfigured schemes) ↔
      k ∈ Table.keys schemes ∨ k ∈ Table.keys configured := by
  induction configured generalizing schemes with
  | nil => simp
  | cons e rest ih =>
      have hkeys : k ∈ Table.keys (e :: rest) ↔ k = e.1 ∨ k ∈ Table.keys rest := List.mem_cons
      rw [List.foldl_cons, ih, addConfigured, Table.mem_keys_insertIfNew, hkeys, or_assoc,
        or_left_comm]

theorem mem_keys_used {used : List String} {schemes : Table String Fragment} {k : String} :
    k ∈ Table.keys (used.foldl addKnown schemes) ↔
      k ∈ Table.keys schemes ∨ (k ∈ used ∧ k ∈ Table.keys known) := by
  induction used generalizing schemes with
  | nil => simp
  | cons name rest ih =>
      rw [List.foldl_cons, ih, mem_keys_addKnown, List.mem_cons, or_and_right, or_assoc,
        or_left_comm]

/-- All layers, before a document without any scheme gets one. -/
def layers (stored : List SecuritySchemeRecord) (configured : Table String SecuritySchemeConfig)
    (used : List String) : Table String Fragment :=
  used.foldl addKnown (configured.foldl addConfigured
    (Table.ofEntries (stored.map fun r => (r.name, r.toFragment))))

section

variable {stored : List SecuritySchemeRecord} {configured : Table String SecuritySchemeConfig}
  {used : List String} {k : String}

theorem get?_build {scheme : Fragment} (h : Table.get? (layers stored configured used) k = some scheme) :
    Table.get? (build stored configured used) k = some scheme := by
  have hbuild : build stored configured used =
      if (layers stored configured used).isEmpty then
        addKnown (layers stored configured used) "bearerAuth"
      else layers stored configured used := rfl
  rw [hbuild]
  cases hlayers : layers stored configured used with
  | nil => simp [hlayers] at h
  | cons e rest =>
      rw [hlayers] at h
      exact h

theorem mem_keys_layers : k ∈ Table.keys (layers stored configured used) ↔
    ((∃ record ∈ stored, record.name = k) ∨ k ∈ Table.keys configured) ∨
      (k ∈ used ∧ k ∈ Table.keys known) := by
  have hstored : k ∈ Table.keys (Table.ofEntries (stored.map fun r => (r.name, r.toFragment))) ↔
      ∃ record ∈ stored, record.name = k := by
    rw [Table.ofEntries, Table.mem_keys_insertAll]
    simp [Table.keys]
  rw [layers, mem_keys_used, mem_keys_configured, hstored]

/-- What is stored, configured, or known and used, is there. -/
theorem mem_keys_build (h : ((∃ record ∈ stored, record.name = k) ∨ k ∈ Table.keys configured) ∨
    (k ∈ used ∧ k ∈ Table.keys known)) : k ∈ Table.keys (build stored configured used) := by
  obtain ⟨scheme, hscheme⟩ := Table.mem_keys_iff.1 (mem_keys_layers.2 h)
  exact Table.mem_keys_iff.2 ⟨scheme, get?_build hscheme⟩

/-- A resolvable name that is used is there. -/
theorem mem_keys_build_of_resolvable (h : Resolvable configured k) (hused : k ∈ used) :
    k ∈ Table.keys (build stored configured used) := by
  refine mem_keys_build ?_
  rcases h with hconfigured | hknown
  · exact .inl (.inr hconfigured)
  · exact .inr ⟨hused, hknown⟩

/-- **A stored scheme stays what it is**, whatever is configured or known under its name. -/
theorem get?_build_of_stored {record : SecuritySchemeRecord}
    (h : IsLast SecuritySchemeRecord.name stored record) :
    Table.get? (build stored configured used) record.name = some record.toFragment := by
  have hstored : Table.get? (Table.ofEntries (stored.map fun r => (r.name, r.toFragment)))
      record.name = some record.toFragment := by
    have hentries : stored.map (fun r => (r.name, r.toFragment)) =
        Table.mapValues SecuritySchemeRecord.toFragment (stored.map fun r => (r.name, r)) := by
      rw [Table.mapValues, List.map_map]
      rfl
    rw [hentries, ← Table.mapValues_ofEntries, Table.get?_mapValues, get?_index.2 ⟨h, rfl⟩]
    rfl
  have hconfigured : Table.get? (configured.foldl addConfigured
      (Table.ofEntries (stored.map fun r => (r.name, r.toFragment)))) record.name =
        some record.toFragment :=
    List.foldlRecOn configured addConfigured
      (motive := fun schemes => Table.get? schemes record.name = some record.toFragment) hstored
      fun schemes hkept e _ => Table.get?_insertIfNew_of_some hkept e.1 _
  refine get?_build (List.foldlRecOn used addKnown
    (motive := fun schemes => Table.get? schemes record.name = some record.toFragment) hconfigured
    fun schemes hkept name _ => ?_)
  unfold addKnown
  split
  · exact Table.get?_insertIfNew_of_some hkept name _
  · exact hkept

/-- The scheme that is asked for by default is there. -/
theorem mem_keys_of_defaultName? {name : String}
    (h : defaultName? configured (Table.keys (build stored configured used)) = some name) :
    name ∈ Table.keys (build stored configured used) := by
  unfold defaultName? at h
  split at h
  · rename_i e hfind
    obtain rfl := Option.some.inj h
    have hmem := List.mem_of_find?_eq_some hfind
    exact mem_keys_build (.inl (.inr (List.mem_map_of_mem (f := Prod.fst) hmem)))
  · exact List.mem_of_head? h

end

end SecuritySchemes

end RouteDoc
