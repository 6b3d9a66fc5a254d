import RouteDoc.Proofs.Document.Paths
/-!
# RouteDoc.Proofs.Document.Visibility

**Hidden routes leave no trace.** A build looks at the visible routes only, and which ones these are
does not depend on the hidden ones: to leave hidden routes out before an inventory is indexed or
after comes to the same (`visibleRoutes_eq`), since all routes of a key are hidden or none is. So
every part of a document, every diagnostic, and everything an analyzer is asked, stay as they are
when hidden routes come or go (`build_unhidden`).
-/

namespace RouteDoc

namespace Document

/-- The routes of an inventory that no record hides. -/
def unhidden (snapshot : OverrideSnapshot) (routes : List Route) : List Route :=
  routes.filter fun r => !isHidden snapshot r.key

theorem indexRoutes_unhidden (snapshot : OverrideSnapshot) (routes : List Route) :
    indexRoutes (unhidden snapshot routes) =
      (indexRoutes routes).filter fun e => !isHidden snapshot e.1 := by
  have hentries : (unhidden snapshot routes).map (fun r => (r.key, r)) =
      (routes.map fun r => (r.key, r)).filter fun e => !isHidden snapshot e.1 := by
    rw [List.filter_map]
    rfl
  unfold indexRoutes Table.ofEntries
  rw [hentries, Table.filter_insertAll fun key => !isHidden snapshot key, List.filter_nil]

/-- Hidden routes can be left out before everything else. -/
theorem visibleRoutes_eq (snapshot : OverrideSnapshot) (routes : List Route) :
    visibleRoutes snapshot routes =
      (Table.values (indexRoutes (unhidden snapshot routes))).map fun r =>
        (r, snapshot.forRoute r) := by
  have hkey : ∀ e ∈ indexRoutes routes,
      (!isHidden snapshot e.2.key) = !isHidden snapshot e.1 := by
    intro e he
    have hindexed := mem_index.1 he
    rw [hindexed.2]
  unfold visibleRoutes
  rw [List.filter_map, indexRoutes_unhidden, Table.values, Table.values, List.filter_map]
  refine congrArg (fun t : Table RouteKey Route =>
    (t.map Prod.snd).map fun r => (r, snapshot.forRoute r)) ?_
  exact List.filter_congr hkey

theorem unhidden_unhidden (snapshot : OverrideSnapshot) (routes : List Route) :
    unhidden snapshot (unhidden snapshot routes) = unhidden snapshot routes := by
  unfold unhidden
  rw [List.filter_filter]
  simp only [Bool.and_self]

theorem visibleRoutes_unhidden (snapshot : OverrideSnapshot) (routes : List Route) :
    visibleRoutes snapshot (unhidden snapshot routes) = visibleRoutes snapshot routes := by
  rw [visibleRoutes_eq, unhidden_unhidden, ← visibleRoutes_eq]

/-- **Hidden routes leave no trace.** To build a document from an inventory, or from its visible routes
alone, gives the same result, be it a document with its diagnostics or an error, and asks the
analyzer the same. -/
theorem build_unhidden {σ : Type} (config : GeneratorConfig) (analyze : Analyzer σ)
    (snapshot : OverrideSnapshot) (routes : List Route) (s : σ) :
    (build config analyze snapshot routes).run s =
      (build config analyze snapshot (unhidden snapshot routes)).run s := by
  unfold build
  rw [visibleRoutes_unhidden]

end Document

end RouteDoc
