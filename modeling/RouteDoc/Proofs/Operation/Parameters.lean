import RouteDoc.Proofs.Operation.Assembly
import RouteDoc.Proofs.Route.Inventory
import RouteDoc.Proofs.Route.Path
/-!
# RouteDoc.Proofs.Operation.Parameters

**An operation describes the parameters that its path names.** The parameters of a route come from
the markers of its path; the path of the operation comes from a second look at the same text. Both
see the same markers (`Templated`), for whatever an inventory holds.
-/

namespace RouteDoc

/-! ### Parameters of a path -/

/-- The parameters of a path tell its markers, in order. -/
theorem Path.map_parameters {path : String} {constraints : Value} {ps : List PathParameter}
    (h : Path.parameters path constraints = .ok ps) :
    ps.map (fun p => (p.name, !p.required)) = Path.markers path := by
  refine map_eq_of_mapM_ok (fun m p hm => ?_) h
  obtain ⟨constraint, -, hm⟩ := bind_eq_ok.1 hm
  obtain ⟨schema, -, hm⟩ := bind_eq_ok.1 hm
  obtain rfl := Except.ok.inj hm
  simp

namespace Assembly

theorem map_pathParameters {r : Route} (h : Inventory.Parametrized r) :
    (pathParameters r).map (fun p => (p.name, !p.required)) = Path.markers r.path := by
  obtain ⟨uri, constraints, -, hparameters⟩ := h
  rw [← Path.map_parameters hparameters, pathParameters, List.map_map]
  rfl

theorem prefix_foldl_addCustom (customs : List Fragment) (ps : List Parameter) :
    ps <+: customs.foldl addCustom ps := by
  induction customs generalizing ps with
  | nil => exact List.prefix_rfl
  | cons custom rest ih =>
      have hone : ps <+: addCustom ps custom := by
        unfold addCustom
        split
        · split
          · exact List.prefix_rfl
          · exact List.prefix_append _ _
        · exact List.prefix_rfl
      exact hone.trans (ih _)

/-- The parameters of the path come first. -/
theorem pathParameters_first {config : GeneratorConfig} {r : Route} {d : Detection}
    {record : Option OverrideRecord} {ps : List Parameter}
    (h : parameters config r d record = .ok ps) : pathParameters r <+: ps := by
  unfold parameters at h
  obtain ⟨query, -, h⟩ := bind_eq_ok.1 h
  obtain rfl := Except.ok.inj h
  refine List.IsPrefix.trans ?_ (prefix_foldl_addCustom _ _)
  split
  · exact (List.prefix_append _ _).trans (List.prefix_append _ _)
  · exact List.prefix_append _ _

end Assembly

/-! ### The path of an operation -/

/-- The path of an operation and its parameters say what the path of the route says. -/
structure Templated (r : Route) (o : Operation) : Prop where
  /-- The operation stands under the template of the path. -/
  path : o.path = Path.template r.path
  /-- No optional marker occurs in it. -/
  noneOptional : ∀ name, Path.IsName name →
    ¬(Path.Piece.marker name true).render <:+: o.path.toList
  /-- A marker occurs in it exactly when the route has a parameter of that name. -/
  occurs_iff : ∀ name, Path.IsName name →
    ((Path.Piece.marker name false).render <:+: o.path.toList ↔
      String.ofList name ∈ (Assembly.pathParameters r).map Parameter.name)
  /-- Its markers are the names of the parameters of the path, in order. -/
  names : (Path.markers o.path).map Prod.fst = (Assembly.pathParameters r).map Parameter.name
  /-- A parameter is optional exactly when its marker in the path of the route is. -/
  optional : (Assembly.pathParameters r).map (fun p => (p.name, !p.required)) =
    Path.markers r.path
  /-- The operation has these parameters in front. -/
  first : Assembly.pathParameters r <+: o.parameters

/-- Every operation that is put together for such a route. -/
theorem templated_of_assemble {config : GeneratorConfig} {a : Assembler} {r : Route}
    {d : Detection} {record : Option OverrideRecord} {o : Operation}
    (hr : Inventory.Parametrized r) (ho : (Assembler.assemble config a r d record).1 = .ok o) :
    Templated r o := by
  obtain ⟨ps, hps, rfl⟩ := Assembler.eq_operation_of_assemble ho
  have hmarkers := Assembly.map_pathParameters hr
  have hnames : (Path.markers (Path.template r.path)).map Prod.fst =
      (Assembly.pathParameters r).map Parameter.name := by
    obtain ⟨uri, constraints, hpath, -⟩ := hr
    have hnormal : Path.normalize r.path = r.path := by rw [hpath, Path.normalize_normalize]
    rw [Path.markers_template, hnormal, ← hmarkers, List.map_map, List.map_map]
    rfl
  exact {
    path := rfl
    noneOptional := fun name hname => Path.not_infix_template hname r.path
    occurs_iff := fun name hname => hnames ▸ Path.infix_template_iff hname r.path
    names := hnames
    optional := hmarkers
    first := Assembly.pathParameters_first hps }

/-- **Path parameters match the path**, for every route of every inventory. The path of an operation
is its own template, and comes of the normal path by rewriting optional markers. -/
theorem inventory_templated :
    (∀ engine filters inventory rs, Inventory.routes engine filters inventory = .ok rs → ∀ r ∈ rs,
      ∀ config a d record o, (Assembler.assemble config a r d record).1 = .ok o → Templated r o) ∧
    (∀ uri, Path.template (Path.template uri) = Path.template uri) ∧
    (∀ uri, Path.template uri = String.ofList (Path.rewriteFrom 0 (Path.normalize uri).toList)) ∧
    ∀ uri uri', Path.normalize uri = Path.normalize uri' → Path.template uri = Path.template uri' := by
  refine ⟨fun _ _ _ _ hroutes _ hr _ _ _ _ _ ho => ?_, Path.template_template,
    Path.template_eq_rewriteFrom, fun uri uri' h => ?_⟩
  · exact templated_of_assemble (Inventory.parametrized_of_mem_routes hroutes hr) ho
  · rw [← Path.template_normalize uri, h, Path.template_normalize]

/-- A route that may leave out its parameter. -/
theorem inventory_templated_optional :
    ∃ rs, Inventory.routes Text.Pattern.engine none (.arr [.obj [("uri", .str "users/{id?}"),
        ("action", .str "UserController@show")]]) = .ok rs ∧
      rs.map Route.path = ["/users/{id?}"] ∧
      ∀ r ∈ rs, ∃ o, (Assembler.assemble {} {} r {} none).1 = .ok o ∧ o.path = "/users/{id}" ∧
        Templated r o := by
  have hpaths : (Inventory.routes Text.Pattern.engine none (.arr [.obj
      [("uri", .str "users/{id?}"), ("action", .str "UserController@show")]])).toOption.map
        (List.map Route.path) = some ["/users/{id?}"] := by
    decide +kernel
  -- without detected query parameters and responses nothing stands in the way
  have ho (r : Route) : (Assembler.assemble {} {} r {} none).1 =
      .ok (Assembler.operation {} {} r {} none (Assembly.pathParameters r)) := by
    have hps : Assembly.parameters {} r {} none = .ok (Assembly.pathParameters r) := by
      simp [Assembly.parameters, Assembly.isPaginated, pure, Except.pure, bind, Except.bind]
    rw [Assembler.assemble_eq, hps]
  cases hroutes : Inventory.routes Text.Pattern.engine none (.arr [.obj
      [("uri", .str "users/{id?}"), ("action", .str "UserController@show")]]) with
  | error e =>
      rw [hroutes] at hpaths
      exact nomatch hpaths
  | ok rs =>
      rw [hroutes] at hpaths
      have hrs : rs.map Route.path = ["/users/{id?}"] := Option.some.inj hpaths
      refine ⟨rs, rfl, hrs, fun r hr => ⟨_, ho r, ?_, ?_⟩⟩
      · have hpath : r.path = "/users/{id?}" := by
          have hmem := List.mem_map_of_mem (f := Route.path) hr
          rwa [hrs, List.mem_singleton] at hmem
        have htemplate : Path.template "/users/{id?}" = "/users/{id}" := by decide +kernel
        rw [← htemplate, ← hpath]
        rfl
      · exact inventory_templated.1 _ none _ rs hroutes r hr {} {} {} none _ (ho r)

end RouteDoc
