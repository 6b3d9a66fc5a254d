import Mathlib.Data.List.Nodup
import RouteDoc.Proofs.Operation.Assembly
import RouteDoc.Proofs.Outcome
/-!
# RouteDoc.Proofs.Operation.Distinct

**When an operation lists a parameter twice.** A parameter is told by its name and its place
(`Parameter.key`). Parameters of pages and stored ones are added behind those that are there, each
only if it is new (`AddsNew`). The parameters of the path and the detected ones are taken as they
are, so it depends on these whether the parameters of an operation are distinct
(`parameters_distinct_iff`).
-/

namespace RouteDoc

/-- What tells a parameter: its name and its place. -/
def Parameter.key (p : Parameter) : String × String := (p.name, p.location)

namespace Assembly

theorem any_sameParameter_iff {ps : List Parameter} {p : Parameter} :
    ps.any (sameParameter p) = true ↔ p.key ∈ ps.map Parameter.key := by
  have hsame : ∀ q, sameParameter p q = true ↔ q.key = p.key := by
    intro q
    rw [eq_comm (a := q.key)]
    simp [sameParameter, Parameter.key]
  simp only [List.any_eq_true, List.mem_map, hsame]

/-! ### Adding what is new -/

/-- Parameters stand behind others, and each of them is new. -/
def AddsNew (ps qs : List Parameter) : Prop :=
  ∃ new, qs = ps ++ new ∧ (new.map Parameter.key).Nodup ∧
    ∀ p ∈ new, p.key ∉ ps.map Parameter.key

theorem AddsNew.refl (ps : List Parameter) : AddsNew ps ps :=
  ⟨[], (List.append_nil ps).symm, List.nodup_nil, fun _ hp => nomatch hp⟩

theorem AddsNew.trans {ps qs rs : List Parameter} (h : AddsNew ps qs) (h' : AddsNew qs rs) :
    AddsNew ps rs := by
  obtain ⟨new, rfl, hnew, hout⟩ := h
  obtain ⟨more, rfl, hmore, hout'⟩ := h'
  simp only [List.map_append, List.mem_append, not_or] at hout'
  refine ⟨new ++ more, List.append_assoc .., ?_, fun p hp => ?_⟩
  · rw [List.map_append, List.nodup_append]
    refine ⟨hnew, hmore, fun key hkey other hother heq => ?_⟩
    obtain ⟨p, hp, rfl⟩ := List.mem_map.1 hother
    exact (hout' p hp).2 (heq ▸ hkey)
  · rcases List.mem_append.1 hp with hp | hp
    · exact hout p hp
    · exact (hout' p hp).1

/-- Nothing that is added makes a difference. -/
theorem AddsNew.nodup_iff {ps qs : List Parameter} (h : AddsNew ps qs) :
    (qs.map Parameter.key).Nodup ↔ (ps.map Parameter.key).Nodup := by
  obtain ⟨new, rfl, hnew, hout⟩ := h
  rw [List.map_append, List.nodup_append]
  refine ⟨And.left, fun hps => ⟨hps, hnew, fun key hkey other hother heq => ?_⟩⟩
  obtain ⟨p, hp, rfl⟩ := List.mem_map.1 hother
  exact hout p hp (heq ▸ hkey)

/-- A stored parameter. -/
theorem addsNew_addCustom (ps : List Parameter) (custom : Fragment) :
    AddsNew ps (addCustom ps custom) := by
  unfold addCustom
  split
  · rename_i p _
    split
    · exact AddsNew.refl ps
    · rename_i hany
      rw [any_sameParameter_iff] at hany
      refine ⟨[p], rfl, List.nodup_singleton _, fun q hq => ?_⟩
      rw [List.mem_singleton.1 hq]
      exact hany
  · exact AddsNew.refl ps

/-- Stored parameters are compared with those before them as well. -/
theorem addsNew_foldl_addCustom (customs : List Fragment) (ps : List Parameter) :
    AddsNew ps (customs.foldl addCustom ps) := by
  induction customs generalizing ps with
  | nil => exact AddsNew.refl ps
  | cons custom rest ih => exact (addsNew_addCustom ps custom).trans (ih _)

/-- Parameters that are compared with those before only have to differ among themselves. -/
theorem addsNew_addMissing (ps : List Parameter) {new : List Parameter}
    (h : (new.map Parameter.key).Nodup) : AddsNew ps (addMissing ps new) := by
  have hsublist := (List.filter_sublist (p := fun p => !ps.any (sameParameter p)) (l := new)).map
    Parameter.key
  refine ⟨_, rfl, hsublist.nodup h, fun p hp => ?_⟩
  have hany := (List.mem_filter.1 hp).2
  rw [Bool.not_eq_true', ← Bool.not_eq_true, any_sameParameter_iff] at hany
  exact hany

theorem nodup_pageParameters : (Envelope.pageParameters.map Parameter.key).Nodup := by decide

/-! ### The parameters of an operation -/

section

variable {config : GeneratorConfig} {r : Route} {d : Detection} {record : Option OverrideRecord}

/-- What is added to the parameters of the path and to the detected ones is new. -/
theorem addsNew_parameters {ps : List Parameter} (h : parameters config r d record = .ok ps) :
    ∃ query, d.queryParameters.mapM (fun p => (queryParameter p).toExcept) = .ok query ∧
      AddsNew (pathParameters r ++ query) ps := by
  unfold parameters at h
  obtain ⟨query, hquery, h⟩ := bind_eq_ok.1 h
  obtain rfl := Except.ok.inj h
  refine ⟨query, hquery, AddsNew.trans ?_ (addsNew_foldl_addCustom _ _)⟩
  split
  · exact addsNew_addMissing _ nodup_pageParameters
  · exact AddsNew.refl _

theorem map_key_pathParameters (r : Route) :
    (pathParameters r).map Parameter.key =
      (r.parameters.map PathParameter.name).map fun name => (name, "path") := by
  rw [pathParameters, List.map_map, List.map_map]
  rfl

/-- A detected parameter clashes with one of the path only where it says that it belongs there. -/
theorem nodup_append_query_iff {query : List Parameter} :
    ((pathParameters r ++ query).map Parameter.key).Nodup ↔
      (r.parameters.map PathParameter.name).Nodup ∧ (query.map Parameter.key).Nodup ∧
        ∀ p ∈ query, p.location = "path" → p.name ∉ r.parameters.map PathParameter.name := by
  have hinjective : Function.Injective fun name : String => (name, "path") :=
    fun _ _ heq => (Prod.mk.inj heq).1
  rw [List.map_append, List.nodup_append, map_key_pathParameters, List.nodup_map_iff hinjective]
  refine and_congr_right fun _ => and_congr_right fun _ => ?_
  constructor
  · intro h p hp hplace hname
    exact h (p.name, "path") (List.mem_map_of_mem hname) p.key (List.mem_map_of_mem hp)
      (by rw [Parameter.key, hplace])
  · intro h key hkey other hother heq
    obtain ⟨name, hname, rfl⟩ := List.mem_map.1 hkey
    obtain ⟨p, hp, rfl⟩ := List.mem_map.1 hother
    obtain ⟨rfl, hplace⟩ := Prod.mk.inj heq
    exact h p hp hplace.symm hname

end

/-- **When the parameters of an operation are distinct**, for any configuration, route, detection
and stored record: exactly when the path names no parameter twice, the detected parameters are
distinct, and none of them is placed in the path under a name of the path. What pages and records
add never repeats a parameter, even where the others do. -/
theorem parameters_distinct_iff {config : GeneratorConfig} {a : Assembler} {r : Route}
    {d : Detection} {record : Option OverrideRecord} {o : Operation}
    (h : (Assembler.assemble config a r d record).1 = .ok o) :
    ∃ query, d.queryParameters.mapM (fun p => (queryParameter p).toExcept) = .ok query ∧
      AddsNew (pathParameters r ++ query) o.parameters ∧
      ((o.parameters.map Parameter.key).Nodup ↔
        (r.parameters.map PathParameter.name).Nodup ∧ (query.map Parameter.key).Nodup ∧
          ∀ p ∈ query, p.location = "path" → p.name ∉ r.parameters.map PathParameter.name) := by
  obtain ⟨ps, hps, rfl⟩ := Assembler.eq_operation_of_assemble h
  obtain ⟨query, hquery, hadds⟩ := addsNew_parameters hps
  refine ⟨query, hquery, hadds, ?_⟩
  exact hadds.nodup_iff.trans nodup_append_query_iff

/-- A parameter of the query that is documented twice. -/
theorem parameters_distinct_page_twice :
    let r : Route := { method := "GET", path := "/users" }
    let d : Detection :=
      { queryParameters := [[("name", .str "page")], [("name", .str "page")]] }
    ∃ o, (Assembler.assemble {} {} r d none).1 = .ok o ∧
      ¬ (o.parameters.map Parameter.key).Nodup := by
  intro r d
  have hok : ∃ o, (Assembler.assemble {} {} r d none).1 = .ok o ∧ True := by decide +kernel
  obtain ⟨o, ho, -⟩ := hok
  refine ⟨o, ho, fun hnodup => ?_⟩
  obtain ⟨query, hquery, -, hiff⟩ := parameters_distinct_iff ho
  have hkeys : (d.queryParameters.mapM fun p => (queryParameter p).toExcept).toOption.map
      (List.map Parameter.key) = some [("page", "query"), ("page", "query")] := by
    decide +kernel
  rw [hquery] at hkeys
  have hquery := (hiff.1 hnodup).2.1
  rw [Option.some.inj hkeys] at hquery
  exact absurd hquery (by decide)

end Assembly

end RouteDoc
