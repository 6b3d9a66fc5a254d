import Mathlib.Data.List.TakeWhile
import RouteDoc.Proofs.Outcome
import RouteDoc.Route.Inventory
/-!
# RouteDoc.Proofs.Route.Inventory

**What an inventory may hold.** The values of an entry are free-form, and each is worked with before
it is checked. `Workable` says which entries go through: middleware, handler, name, constraints and
methods must have the shape that the work on them needs, and the fields that are copied into routes
must be texts. The work stops at the first entry without a path, so the entries in front of it
decide whether an inventory is answered, by routes or by an error about the inventory as such
(`load_answered_iff`).

Nothing is supposed of the engine that searches names for patterns. A name is searched up to the
first pattern that is found in it, so those in front of that one must be no patterns at all, or be
searched for in a text (`NameFits`).
-/

namespace RouteDoc

open Text

/-- Whether an error is about the inventory as such, and not about a value in it. -/
def InventoryError.isForeseen : InventoryError → Bool
  | .notAList | .malformedEntry _ | .missingFile _ | .unreadableFile _ => true
  | .undecodableFile | .fault _ | .invalidRoute _ => false

/-! ### Values -/

/-- Whether a value has parts to go through, and to look into. -/
def Value.hasParts : Value → Bool
  | .str _ | .arr _ | .obj _ => true
  | _ => false

/-- Whether a value is a text or null. -/
def Value.isTextOrNull : Value → Bool
  | .null | .str _ => true
  | _ => false

theorem Path.occursIn_ok_iff (part : String) {v : Value} :
    (∃ b, Path.occursIn part v = .ok b) ↔ v.hasParts = true := by
  cases v <;> simp [Path.occursIn, Value.hasParts]

/-! ### Parameters -/

namespace Path

theorem parameterSchema_ok_iff {name : String} {constraint : Value} :
    (∃ schema, parameterSchema name constraint = .ok schema) ↔
      constraint = .null ∨ constraint.hasParts = true := by
  unfold parameterSchema
  by_cases hnull : constraint = .null
  · simp [hnull]
  · rw [if_neg hnull, bind_ok_iff]
    simp only [hnull, false_or]
    constructor
    · rintro ⟨hex, hhex, -⟩
      exact (occursIn_ok_iff _).1 ⟨hex, hhex⟩
    · intro hparts
      -- what can be looked into for one text can be looked into for another
      obtain ⟨hex, hhex⟩ := (occursIn_ok_iff "[a-f0-9]").2 hparts
      obtain ⟨uuid, huuid⟩ := (occursIn_ok_iff "uuid").2 hparts
      refine ⟨hex, hhex, ?_⟩
      cases hex with
      | true => exact ⟨_, rfl⟩
      | false =>
          refine bind_ok_iff.2 ⟨uuid, huuid, ?_⟩
          split_ifs <;> exact ⟨_, rfl⟩

/-- The constraints on the parameters of a path can be worked with: nothing, or an object that holds
something with parts for every parameter that it names. -/
def Constraining (path : String) (constraints : Value) : Prop :=
  ∀ m ∈ markers path, constraints.isTruthy = true → ∃ entries, constraints = .obj entries ∧
    ∀ constraint, Table.get? entries m.1 = some constraint →
      constraint = .null ∨ constraint.hasParts = true

theorem constraintOn_ok_iff {constraints : Value} {name : String} {P : Value → Prop}
    (hnull : P .null) :
    (∃ constraint, constraintOn constraints name = .ok constraint ∧ P constraint) ↔
      (constraints.isTruthy = true → ∃ entries, constraints = .obj entries ∧
        ∀ constraint, Table.get? entries name = some constraint → P constraint) := by
  unfold constraintOn
  cases ht : constraints.isTruthy with
  | false => simpa using hnull
  | true =>
      cases constraints with
      | obj entries =>
          cases hget : Table.get? entries name <;> simp [hget, hnull]
      | _ => simp

theorem parameters_ok_iff {path : String} {constraints : Value} :
    (∃ ps, parameters path constraints = .ok ps) ↔ Constraining path constraints := by
  unfold parameters Constraining
  rw [mapM_ok_iff]
  refine forall₂_congr fun m _ => ?_
  rw [bind_ok_iff, ← constraintOn_ok_iff (.inl rfl)]
  refine exists_congr fun constraint => and_congr_right fun _ => ?_
  rw [bind_ok_iff, ← parameterSchema_ok_iff]
  exact exists_congr fun schema => and_iff_left ⟨_, rfl⟩

end Path

/-! ### Handlers, middleware and methods -/

namespace Inventory

/-- A value that can be taken apart as a handler: it is not set, or a text, or a list or an object
that holds a backslash and no at sign. -/
def IsHandler (v : Value) : Prop :=
  v.isTruthy = true → (∃ s, v = .str s) ∨
    Path.occursIn "@" v = .ok false ∧ Path.occursIn "\\" v = .ok true

/-- A text can be taken apart, into texts. -/
theorem parseHandler_text (s : String) :
    ∃ controller action, parseHandler (.str s) = .ok (controller, action) ∧
      controller.isTextOrNull = true ∧ action.isTextOrNull = true := by
  have horNull : ∀ text, (orNull (.str text)).isTextOrNull = true := by
    intro text
    unfold orNull
    split <;> rfl
  unfold parseHandler
  split
  · exact ⟨_, _, rfl, rfl, rfl⟩
  · simp only [Path.occursIn, bind, Except.bind]
    split_ifs
    · exact ⟨_, _, rfl, horNull _, horNull _⟩
    all_goals exact ⟨_, _, rfl, rfl, rfl⟩

/-- Anything else that is set is its own controller, when it holds a backslash and no at sign. -/
theorem parseHandler_eq_ok {v : Value} (hset : v.isTruthy = true) (htext : ∀ s, v ≠ .str s)
    {handler : Value × Value} :
    parseHandler v = .ok handler ↔ Path.occursIn "@" v = .ok false ∧
      Path.occursIn "\\" v = .ok true ∧ handler = (v, .str "__invoke") := by
  have hclosure : v ≠ .str "Closure" := htext _
  unfold parseHandler
  simp only [hset, hclosure, Bool.not_true, decide_false, Bool.or_self, Bool.false_eq_true,
    if_false, bind_eq_ok]
  constructor
  · rintro ⟨holdsAt, hat, h⟩
    cases holdsAt with
    | true => exact nomatch h
    | false =>
        obtain ⟨holdsSlash, hslash, h⟩ := bind_eq_ok.1 h
        cases holdsSlash with
        | false => exact nomatch h
        | true => exact ⟨hat, hslash, (Except.ok.inj h).symm⟩
  · rintro ⟨hat, hslash, rfl⟩
    exact ⟨false, hat, bind_eq_ok.2 ⟨true, hslash, rfl⟩⟩

theorem parseHandler_ok_iff {action : Value} :
    (∃ handler, parseHandler action = .ok handler) ↔ IsHandler action := by
  unfold IsHandler
  cases hset : action.isTruthy with
  | false => simp [parseHandler, hset]
  | true =>
      by_cases htext : ∃ s, action = .str s
      · obtain ⟨s, rfl⟩ := htext
        obtain ⟨controller, method, hok, -⟩ := parseHandler_text s
        simp [hok]
      · rw [not_exists] at htext
        simp only [parseHandler_eq_ok hset htext, htext, exists_false, false_or, forall_const]
        exact ⟨fun ⟨_, hat, hslash, _⟩ => ⟨hat, hslash⟩, fun ⟨hat, hslash⟩ => ⟨_, hat, hslash, rfl⟩⟩

theorem middlewareOf_ok_iff {v : Value} :
    (∃ ms, middlewareOf v = .ok ms) ↔ v = .null ∨ v.hasParts = true := by
  cases v <;> simp [middlewareOf, Value.hasParts, Value.iterate, Except.map]

theorem methodsOf_ok_iff {v : Value} :
    (∃ ms, methodsOf v = .ok ms) ↔ (v.isTruthy = true → v.hasParts = true) := by
  unfold methodsOf
  cases hset : v.isTruthy with
  | false =>
      cases v with
      | str s => exact ⟨fun _ h => (nomatch h), fun _ => ⟨_, rfl⟩⟩
      | _ => simp [hset, bind, Except.bind, pure, Except.pure]
  | true =>
      cases v <;>
        simp [hset, Value.iterate, Value.hasParts, Except.map, bind, Except.bind, pure, Except.pure]

/-! ### Filters -/

section

variable (engine : PatternEngine) (name : Value)

/-- A name can be searched for a pattern: the text is no pattern, or it is one and the name is a
text. -/
def IsSearchable (pattern : String) : Prop :=
  engine (trimBy (· = '/') pattern) = .error .malformed ∨
    ∃ search, engine (trimBy (· = '/') pattern) = .ok search ∧ ∃ s, name = .str s

/-- Whether a pattern is found in a name. -/
def isFound (pattern : String) : Bool :=
  match engine (trimBy (· = '/') pattern), name with
  | .ok search, .str s => search s
  | _, _ => false

/-- A name can be searched for the patterns in front of the first that is found in it. -/
def NameFits (patterns : List String) : Prop :=
  ∀ pattern ∈ patterns.takeWhile fun pattern => !isFound engine name pattern,
    IsSearchable engine name pattern

end

variable {engine : PatternEngine}

theorem matchesName_eq_ok {pattern : String} {name : Value} {b : Bool} :
    RouteFilters.matchesName engine pattern name = .ok b ↔
      IsSearchable engine name pattern ∧ isFound engine name pattern = b := by
  unfold RouteFilters.matchesName IsSearchable isFound
  cases engine (trimBy (· = '/') pattern) with
  | error e => cases e <;> simp
  | ok search => cases name <;> simp

theorem isSearchable_of_isFound {pattern : String} {name : Value}
    (h : isFound engine name pattern = true) : IsSearchable engine name pattern := by
  unfold isFound at h
  cases hread : engine (trimBy (· = '/') pattern) with
  | error e => simp [hread] at h
  | ok search =>
      cases name with
      | str s => exact .inr ⟨search, hread, s, rfl⟩
      | _ => simp [hread] at h

theorem admitsName_ok_iff {patterns : List String} {name : Value} :
    (∃ b, RouteFilters.admitsName engine name patterns = .ok b) ↔
      NameFits engine name patterns := by
  unfold NameFits
  induction patterns with
  | nil => simp [RouteFilters.admitsName]
  | cons pattern rest ih =>
      rw [RouteFilters.admitsName, bind_ok_iff]
      simp only [matchesName_eq_ok]
      cases hfound : isFound engine name pattern with
      | true =>
          rw [List.takeWhile_cons_of_neg (by simp [hfound])]
          refine iff_of_true ⟨true, ⟨isSearchable_of_isFound hfound, rfl⟩, false, rfl⟩ ?_
          exact fun _ hnone => (nomatch hnone)
      | false =>
          rw [List.takeWhile_cons_of_pos (by simp [hfound]), List.forall_mem_cons, ← ih]
          exact ⟨fun ⟨_, ⟨hfirst, hb⟩, hrest⟩ => ⟨hfirst, by subst hb; exact hrest⟩,
            fun ⟨hfirst, hrest⟩ => ⟨false, ⟨hfirst, rfl⟩, hrest⟩⟩

/-- The name of an entry can be searched for the patterns of the filters, as far as it has to. -/
def NameFiltered (engine : PatternEngine) (filters : Option RouteFilters) (uri : String)
    (middleware : List String) (name : Value) : Prop :=
  ∀ f, filters = some f → f.admitsPlace uri middleware = true → name.isTruthy = true →
    NameFits engine name f.excludeNames

theorem admitted_ok_iff {filters : Option RouteFilters} {uri : String} {middleware : List String}
    {name : Value} :
    (∃ b, admitted engine filters uri middleware name = .ok b) ↔
      NameFiltered engine filters uri middleware name := by
  unfold admitted NameFiltered
  cases filters with
  | none => simp
  | some f =>
      simp only [RouteFilters.admits, Option.some.injEq, forall_eq']
      cases f.admitsPlace uri middleware with
      | false => simp
      | true =>
          cases hset : name.isTruthy with
          | false => simp
          | true => simpa using admitsName_ok_iff

/-! ### Routes of an entry -/

theorem optional_text_ok_iff {v : Value} :
    (∃ text, Check.optional Check.text (.ofValue v) = .valid text) ↔ v.isTextOrNull = true := by
  cases v <;> simp [Datum.ofValue, Check.optional, Check.text, Checked.fail, Value.isTextOrNull,
    Functor.map, Checked.map]

/-- The fields that are copied into routes are texts, or null. -/
structure Entry.Copyable (e : Entry) : Prop where
  /-- The name. -/
  name : e.name.isTextOrNull = true
  /-- The controller. -/
  controller : e.controller.isTextOrNull = true
  /-- The method of the controller. -/
  action : e.action.isTextOrNull = true
  /-- The domain. -/
  domain : e.domain.isTextOrNull = true

theorem Entry.route_ok_iff {e : Entry} {method : String} :
    (∃ r, e.route method = .ok r) ↔ e.Copyable := by
  unfold Entry.route
  simp only [Checked.toExcept_ok_iff, Checked.seq_valid_iff, Checked.map_valid_iff,
    Checked.under_valid_iff, optional_text_ok_iff]
  exact ⟨fun ⟨⟨⟨hname, hcontroller⟩, haction⟩, hdomain⟩ => ⟨hname, hcontroller, haction, hdomain⟩,
    fun h => ⟨⟨⟨h.name, h.controller⟩, h.action⟩, h.domain⟩⟩

/-! ### Entries -/

theorem orFault_eq_ok {α : Type} {x : Except Fault α} {a : α} : orFault x = .ok a ↔ x = .ok a := by
  cases x <;> simp [orFault]

theorem mapError_eq_ok {α ε ε' : Type} {f : ε → ε'} {x : Except ε α} {a : α} :
    x.mapError f = .ok a ↔ x = .ok a := by
  cases x <;> simp [Except.mapError]

theorem mapError_ok_iff {α ε ε' : Type} {f : ε → ε'} {x : Except ε α} :
    (∃ a, x.mapError f = .ok a) ↔ ∃ a, x = .ok a :=
  exists_congr fun _ => mapError_eq_ok

section

variable (engine) (filters : Option RouteFilters) (es : Fragment)

/-- The value of a field of an entry, null when there is none. -/
def field (key : String) : Value := (Table.get? es key).getD .null

/-- The path that an entry gives. -/
def uri : String := (field es "uri").text

/-- The middleware of an entry, none when it cannot be read. -/
def middleware : List String := (middlewareOf (field es "middleware")).toOption.getD []

/-- The handler of an entry, nothing when it cannot be taken apart. -/
def handler : Value × Value := (parseHandler (field es "action")).toOption.getD (.null, .null)

/-- What an entry gives as methods. -/
def methodField : Value := (Table.get? es "method").getD (.str "GET")

/-- The methods of an entry, none when they cannot be read. -/
def methods : List String := (methodsOf (methodField es)).toOption.getD []

/-- An entry gives routes: it names a controller, and the filters let it pass. -/
def Kept : Prop :=
  (handler es).1 ≠ .null ∧
    admitted engine filters (uri es) (middleware es) (orNull (field es "name")) = .ok true

/-- The values of an entry can be worked with. -/
structure Workable : Prop where
  /-- The middleware is null, or has parts. -/
  middleware : field es "middleware" = .null ∨ (field es "middleware").hasParts = true
  /-- The handler can be taken apart. -/
  handler : IsHandler (field es "action")
  /-- With a controller, the name can be tried on the patterns of the filters. -/
  name : (Inventory.handler es).1 ≠ .null →
    NameFiltered engine filters (uri es) (Inventory.middleware es) (orNull (field es "name"))
  /-- When the entry is kept, the constraints on its parameters can be worked with. -/
  constraints : Kept engine filters es →
    Path.Constraining (Path.normalize (uri es)) (field es "wheres")
  /-- When the entry is kept, what it gives as methods has parts, if it is set. -/
  methods : Kept engine filters es → (methodField es).isTruthy = true →
    (methodField es).hasParts = true
  /-- When the entry is kept and names a method, name, handler and domain are texts. -/
  texts : Kept engine filters es → Inventory.methods es ≠ [] →
    (orNull (field es "name")).isTextOrNull = true ∧ (field es "action").isTextOrNull = true ∧
      (field es "domain").isTextOrNull = true

end

/-- The routes of an entry that is kept. -/
def keptRoutes (es : Fragment) (middleware : List String) (handler : Value × Value) :
    Except InventoryError (List Route) := do
  let path := Path.normalize (uri es)
  let parameters ← orFault (Path.parameters path (field es "wheres"))
  let methods ← orFault (methodsOf (methodField es))
  let e : Entry :=
    { path, name := orNull (field es "name"), controller := handler.1, action := handler.2,
      middleware, parameters, domain := field es "domain" }
  methods.mapM fun method => (e.route method).mapError .invalidRoute

theorem entryRoutes_eq (filters : Option RouteFilters) {es : Fragment}
    (h : Table.has es "uri" = true) :
    entryRoutes engine filters (.obj es) = (do
      let middleware ← orFault (middlewareOf (field es "middleware"))
      let handler ← orFault (parseHandler (field es "action"))
      if handler.1 = .null then pure []
      else do
        let pass ← orFault (admitted engine filters (uri es) middleware (orNull (field es "name")))
        if pass then keptRoutes es middleware handler else pure []) := by
  obtain ⟨v, hv⟩ := Option.isSome_iff_exists.1 h
  have huri : uri es = v.text := by rw [uri, field, hv, Option.getD_some]
  unfold entryRoutes keptRoutes
  rw [huri]
  simp only [hv]
  refine bind_congr fun middleware => bind_congr fun handler => ?_
  split
  · rfl
  · refine bind_congr fun pass => ?_
    cases pass <;> rfl

theorem middleware_eq {es : Fragment} {ms : List String}
    (h : middlewareOf (field es "middleware") = .ok ms) : middleware es = ms := by
  rw [middleware, h]
  rfl

theorem handler_eq {es : Fragment} {found : Value × Value}
    (h : parseHandler (field es "action") = .ok found) : handler es = found := by
  rw [handler, h]
  rfl

theorem methods_eq {es : Fragment} {ms : List String}
    (h : methodsOf (methodField es) = .ok ms) : methods es = ms := by
  rw [methods, h]
  rfl

/-- A handler is made of texts exactly when it was one. -/
theorem handler_texts_iff {v : Value} {found : Value × Value} (h : parseHandler v = .ok found)
    (hcontroller : found.1 ≠ .null) :
    found.1.isTextOrNull = true ∧ found.2.isTextOrNull = true ↔ v.isTextOrNull = true := by
  by_cases htext : ∃ s, v = .str s
  · obtain ⟨s, rfl⟩ := htext
    obtain ⟨controller, action, hok, htexts⟩ := parseHandler_text s
    obtain rfl := Except.ok.inj (hok.symm.trans h)
    exact ⟨fun _ => rfl, fun _ => htexts⟩
  · have hset : v.isTruthy = true := by
      by_contra hunset
      rw [Bool.not_eq_true] at hunset
      simp only [parseHandler, hunset, Bool.not_false, Bool.true_or, if_true] at h
      exact hcontroller (congrArg Prod.fst (Except.ok.inj h)).symm
    rw [not_exists] at htext
    obtain ⟨-, -, rfl⟩ := (parseHandler_eq_ok hset htext).1 h
    exact ⟨And.left, fun hv => ⟨hv, rfl⟩⟩

theorem keptRoutes_ok_iff {es : Fragment} {ms : List String} {found : Value × Value} :
    (∃ rs, keptRoutes es ms found = .ok rs) ↔
      Path.Constraining (Path.normalize (uri es)) (field es "wheres") ∧
      ((methodField es).isTruthy = true → (methodField es).hasParts = true) ∧
      (methods es ≠ [] → (orNull (field es "name")).isTextOrNull = true ∧
        (found.1.isTextOrNull = true ∧ found.2.isTextOrNull = true) ∧
          (field es "domain").isTextOrNull = true) := by
  unfold keptRoutes
  simp only [bind_ok_iff, orFault_eq_ok, mapM_ok_iff, mapError_ok_iff, Entry.route_ok_iff]
  rw [← Path.parameters_ok_iff, ← methodsOf_ok_iff]
  constructor
  · rintro ⟨ps, hps, methods, hmethods, hroutes⟩
    refine ⟨⟨ps, hps⟩, ⟨methods, hmethods⟩, fun hne => ?_⟩
    rw [methods_eq hmethods] at hne
    obtain ⟨method, hmethod⟩ := List.exists_mem_of_ne_nil _ hne
    have hcopy := hroutes method hmethod
    exact ⟨hcopy.name, ⟨hcopy.controller, hcopy.action⟩, hcopy.domain⟩
  · rintro ⟨⟨ps, hps⟩, ⟨methods, hmethods⟩, htexts⟩
    refine ⟨ps, hps, methods, hmethods, fun method hmethod => ?_⟩
    rw [methods_eq hmethods] at htexts
    obtain ⟨hname, ⟨hcontroller, haction⟩, hdomain⟩ := htexts (List.ne_nil_of_mem hmethod)
    exact ⟨hname, hcontroller, haction, hdomain⟩

/-- **The step**: an entry gives routes exactly when its values can be worked with. -/
theorem entryRoutes_ok_iff {filters : Option RouteFilters} {es : Fragment}
    (h : Table.has es "uri" = true) :
    (∃ rs, entryRoutes engine filters (.obj es) = .ok rs) ↔ Workable engine filters es := by
  rw [entryRoutes_eq filters h, bind_ok_iff]
  constructor
  · rintro ⟨ms, hms, hrest⟩
    obtain ⟨found, hfound, hrest⟩ := bind_ok_iff.1 hrest
    rw [orFault_eq_ok] at hms hfound
    have hmiddleware := middlewareOf_ok_iff.1 ⟨ms, hms⟩
    have hhandler := parseHandler_ok_iff.1 ⟨found, hfound⟩
    obtain rfl := middleware_eq hms
    obtain rfl := handler_eq hfound
    by_cases hnull : (handler es).1 = .null
    · -- without a controller nothing else is looked at
      have hout : ¬Kept engine filters es := fun hkept => hkept.1 hnull
      exact ⟨hmiddleware, hhandler, fun hsome => absurd hnull hsome, fun hkept => absurd hkept hout,
        fun hkept => absurd hkept hout, fun hkept => absurd hkept hout⟩
    · rw [if_neg hnull, bind_ok_iff] at hrest
      obtain ⟨pass, hpass, hrest⟩ := hrest
      rw [orFault_eq_ok] at hpass
      have hroutes (hkept : Kept engine filters es) :
          ∃ rs, keptRoutes es (middleware es) (handler es) = .ok rs := by
        obtain rfl := Except.ok.inj (hpass.symm.trans hkept.2)
        exact hrest
      refine ⟨hmiddleware, hhandler, fun _ => admitted_ok_iff.1 ⟨pass, hpass⟩,
        fun hkept => (keptRoutes_ok_iff.1 (hroutes hkept)).1,
        fun hkept => (keptRoutes_ok_iff.1 (hroutes hkept)).2.1, fun hkept hne => ?_⟩
      obtain ⟨hname, htexts, hdomain⟩ := (keptRoutes_ok_iff.1 (hroutes hkept)).2.2 hne
      exact ⟨hname, (handler_texts_iff hfound hnull).1 htexts, hdomain⟩
  · intro w
    obtain ⟨ms, hms⟩ := middlewareOf_ok_iff.2 w.middleware
    obtain ⟨found, hfound⟩ := parseHandler_ok_iff.2 w.handler
    obtain rfl := middleware_eq hms
    obtain rfl := handler_eq hfound
    refine ⟨_, orFault_eq_ok.2 hms, bind_ok_iff.2 ⟨_, orFault_eq_ok.2 hfound, ?_⟩⟩
    by_cases hnull : (handler es).1 = .null
    · rw [if_pos hnull]
      exact ⟨[], rfl⟩
    · rw [if_neg hnull, bind_ok_iff]
      obtain ⟨pass, hpass⟩ := admitted_ok_iff.2 (w.name hnull)
      refine ⟨pass, orFault_eq_ok.2 hpass, ?_⟩
      cases pass with
      | false => exact ⟨[], rfl⟩
      | true =>
          have hkept : Kept engine filters es := ⟨hnull, hpass⟩
          refine keptRoutes_ok_iff.2 ⟨w.constraints hkept, w.methods hkept, fun hne => ?_⟩
          obtain ⟨hname, haction, hdomain⟩ := w.texts hkept hne
          exact ⟨hname, (handler_texts_iff hfound hnull).2 haction, hdomain⟩

/-- An entry as it is documented: texts, lists of parts, and an object of constraints. -/
structure WellTyped (es : Fragment) : Prop where
  name : (field es "name").isTextOrNull = true
  action : (field es "action").isTextOrNull = true
  domain : (field es "domain").isTextOrNull = true
  middleware : field es "middleware" = .null ∨ (field es "middleware").hasParts = true
  method : (methodField es).hasParts = true
  wheres : field es "wheres" = .null ∨ ∃ entries, field es "wheres" = .obj entries ∧
    ∀ name constraint, Table.get? entries name = some constraint → constraint.hasParts = true

theorem exists_str_of_isTextOrNull {v : Value} (h : v.isTextOrNull = true)
    (hset : v.isTruthy = true) : ∃ s, v = .str s := by
  cases v with
  | str s => exact ⟨s, rfl⟩
  | _ => simp_all [Value.isTextOrNull, Value.isTruthy]

theorem isTextOrNull_orNull {v : Value} (h : v.isTextOrNull = true) :
    (orNull v).isTextOrNull = true := by
  unfold orNull
  split
  · exact h
  · rfl

/-- None of the patterns of filters breaks the reading off. -/
def Readable (engine : PatternEngine) (filters : Option RouteFilters) : Prop :=
  ∀ f, filters = some f → ∀ pattern ∈ f.excludeNames, ∀ fault,
    engine (trimBy (· = '/') pattern) ≠ .error (.fault fault)

/-- A text can be searched for patterns that are readable. -/
theorem Readable.nameFits {filters : Option RouteFilters} (h : Readable engine filters)
    {f : RouteFilters} (hf : filters = some f) (s : String) :
    NameFits engine (.str s) f.excludeNames := by
  intro pattern hpattern
  have hmem : pattern ∈ f.excludeNames := (List.takeWhile_sublist _).subset hpattern
  cases hread : engine (trimBy (· = '/') pattern) with
  | ok search => exact .inr ⟨search, hread, s, rfl⟩
  | error e =>
      cases e with
      | malformed => exact .inl hread
      | fault fault => exact absurd hread (h f hf pattern hmem fault)

/-- Whatever else the filters say, entries as they are documented can be worked with. -/
theorem WellTyped.workable {es : Fragment} (h : WellTyped es) {filters : Option RouteFilters}
    (hfilters : Readable engine filters) : Workable engine filters es where
  middleware := h.middleware
  handler hset := .inl (exists_str_of_isTextOrNull h.action hset)
  name _ f hf _ hset := by
    obtain ⟨s, hs⟩ := exists_str_of_isTextOrNull (isTextOrNull_orNull h.name) hset
    rw [hs]
    exact hfilters.nameFits hf s
  constraints _ m _ hset := by
    rcases h.wheres with hnull | ⟨entries, hentries, hparts⟩
    · rw [hnull] at hset
      exact nomatch hset
    · exact ⟨entries, hentries, fun constraint hget => .inr (hparts _ constraint hget)⟩
  methods _ _ := h.method
  texts _ _ := ⟨isTextOrNull_orNull h.name, h.action, h.domain⟩

/-! ### Whole inventories -/

/-- Whether an entry is an object with a path. -/
def isEntry : Value → Bool
  | .obj es => Table.has es "uri"
  | _ => false

/-- There are routes, or an error about the inventory as such. -/
def Answered {α : Type} (x : Except InventoryError α) : Prop :=
  (∃ a, x = .ok a) ∨ ∃ e, x = .error e ∧ e.isForeseen = true

/-- The entries in front of the first that is none can be worked with. -/
def AllWorkable (engine : PatternEngine) (filters : Option RouteFilters) (entries : List Value) :
    Prop :=
  ∀ entry ∈ entries.takeWhile isEntry, ∀ es, entry = .obj es → Workable engine filters es

theorem exists_of_isEntry {entry : Value} (h : isEntry entry = true) :
    ∃ es, entry = .obj es ∧ Table.has es "uri" = true := by
  cases entry with
  | obj es => exact ⟨es, rfl, h⟩
  | _ => exact nomatch h

theorem entryRoutes_of_not_isEntry {filters : Option RouteFilters} {entry : Value}
    (h : isEntry entry = false) :
    entryRoutes engine filters entry = .error (.malformedEntry entry) := by
  cases entry with
  | obj es =>
      have hnone : Table.get? es "uri" = none := by simpa [isEntry, Table.has] using h
      simp only [entryRoutes, hnone]
  | _ => rfl

/-- If this fails, it is over a value, and not over the inventory as such. -/
def Inner {α : Type} (x : Except InventoryError α) : Prop :=
  ∀ e, x = .error e → e.isForeseen = false

namespace Inner

variable {α β : Type}

theorem ok (a : α) : Inner (.ok a) := nofun

theorem orFault (x : Except Fault α) : Inner (orFault x) := by
  intro e he
  cases x with
  | ok a => exact nomatch he
  | error f =>
      obtain rfl := Except.error.inj he
      rfl

theorem bind {x : Except InventoryError α} {f : α → Except InventoryError β} (hx : Inner x)
    (hf : ∀ a, Inner (f a)) : Inner (x >>= f) := by
  intro e he
  cases x with
  | ok a => exact hf a e he
  | error e' =>
      obtain rfl := Except.error.inj he
      exact hx e' rfl

theorem mapM {f : α → Except InventoryError β} (hf : ∀ a, Inner (f a)) (xs : List α) :
    Inner (xs.mapM f) := by
  induction xs with
  | nil => exact ok _
  | cons x rest ih =>
      rw [List.mapM_cons]
      exact bind (hf x) fun _ => bind ih fun _ => ok _

theorem route (e : Entry) (method : String) :
    Inner ((e.route method).mapError InventoryError.invalidRoute) := by
  intro error herror
  cases hroute : e.route method with
  | ok r => simp [hroute, Except.mapError] at herror
  | error issues =>
      rw [hroute] at herror
      obtain rfl := Except.error.inj herror
      rfl

theorem entryRoutes {filters : Option RouteFilters} {es : Fragment}
    (h : Table.has es "uri" = true) : Inner (entryRoutes engine filters (.obj es)) := by
  have hkept (ms : List String) (found : Value × Value) : Inner (keptRoutes es ms found) :=
    bind (orFault _) fun _ => bind (orFault _) fun _ => mapM (route _) _
  rw [entryRoutes_eq filters h]
  refine bind (orFault _) fun ms => bind (orFault _) fun found => ?_
  split
  · exact ok _
  · refine bind (orFault _) fun pass => ?_
    split
    · exact hkept ms found
    · exact ok _

end Inner

theorem answered_iff_of_inner {α : Type} {x : Except InventoryError α} (h : Inner x) :
    Answered x ↔ ∃ a, x = .ok a := by
  refine ⟨fun hx => hx.resolve_right ?_, .inl⟩
  rintro ⟨e, he, hforeseen⟩
  simp [h e he] at hforeseen

/-- **The run** over the entries. -/
theorem listRoutes_answered_iff (filters : Option RouteFilters) (entries : List Value) :
    Answered (listRoutes engine filters entries) ↔ AllWorkable engine filters entries := by
  induction entries with
  | nil => exact ⟨fun _ entry hentry => (nomatch hentry), fun _ => .inl ⟨[], rfl⟩⟩
  | cons entry rest ih =>
      rw [listRoutes, AllWorkable]
      cases hentry : isEntry entry with
      | false =>
          rw [entryRoutes_of_not_isEntry hentry, List.takeWhile_cons_of_neg (by simp [hentry])]
          exact ⟨fun _ e he => (nomatch he), fun _ => .inr ⟨_, rfl, rfl⟩⟩
      | true =>
          rw [List.takeWhile_cons_of_pos hentry, List.forall_mem_cons]
          obtain ⟨es, rfl, hentry⟩ := exists_of_isEntry hentry
          have hfirst : (∀ es', Value.obj es = .obj es' → Workable engine filters es') ↔
              ∃ rs, entryRoutes engine filters (.obj es) = .ok rs := by
            rw [entryRoutes_ok_iff hentry]
            exact ⟨fun h => h es rfl, fun h es' hes => Value.obj.inj hes ▸ h⟩
          have hinner : Inner (entryRoutes engine filters (.obj es)) := Inner.entryRoutes hentry
          rw [hfirst]
          cases hroutes : entryRoutes engine filters (.obj es) with
          | error e =>
              rw [hroutes] at hinner
              exact (answered_iff_of_inner hinner).trans (by simp)
          | ok routes =>
              have hrest : Answered (listRoutes engine filters rest) ↔ Answered (do
                  let more ← listRoutes engine filters rest
                  return routes ++ more) := by
                cases listRoutes engine filters rest <;>
                  simp [Answered, bind, Except.bind, pure, Except.pure]
              exact hrest.symm.trans (ih.trans (by simp [AllWorkable]))

theorem routes_answered_iff (filters : Option RouteFilters) (v : Value) :
    Answered (routes engine filters v) ↔
      ∀ entries, v = .arr entries → AllWorkable engine filters entries := by
  cases v with
  | arr entries =>
      rw [routes, listRoutes_answered_iff]
      exact ⟨fun h _ hentries => Value.arr.inj hentries ▸ h, fun h => h entries rfl⟩
  | _ => exact ⟨fun _ _ h => (nomatch h), fun _ => .inr ⟨_, rfl, rfl⟩⟩

/-- Entries as they are documented are answered, if the filters hold no pattern that breaks off. -/
theorem routes_answered_of_wellTyped {filters : Option RouteFilters}
    (hfilters : Readable engine filters) {entries : List Value}
    (h : ∀ entry ∈ entries.takeWhile isEntry, ∀ es, entry = .obj es → WellTyped es) :
    Answered (routes engine filters (.arr entries)) := by
  refine (routes_answered_iff filters _).2 fun entries' hentries => ?_
  obtain rfl := Value.arr.inj hentries
  exact fun entry hentry es hes => (h entry hentry es hes).workable hfilters

/-- **An inventory is answered**, by routes or by an error about the inventory as such, exactly when
its file is text, holds no integer that is too long, and its entries can be worked with. That holds
for every engine: what it says of a pattern counts where a name is searched for it. -/
theorem load_answered_iff (engine : PatternEngine) (filters : Option RouteFilters) (path : String)
    (content : Option ByteArray) :
    Answered (load engine filters path content) ↔
      ∀ bytes, content = some bytes → ∃ text, String.fromUTF8? bytes = some text ∧
        (∀ digits, Json.read text ≠ .error (.numeralTooLong digits)) ∧
        ∀ entries, Json.read text = .ok (.arr entries) → AllWorkable engine filters entries := by
  cases content with
  | none => exact ⟨fun _ bytes h => (nomatch h), fun _ => .inr ⟨_, rfl, rfl⟩⟩
  | some bytes =>
      simp only [load, Option.some.injEq, forall_eq']
      cases htext : String.fromUTF8? bytes with
      | none => simp [Answered, InventoryError.isForeseen]
      | some text =>
          simp only [Option.some.injEq, exists_eq_left']
          cases hread : Json.read text with
          | ok v => simpa using routes_answered_iff filters v
          | error e => cases e <;> simp [Answered, InventoryError.isForeseen]

example : load Pattern.engine none "routes.json" (some ⟨#[0xff]⟩) = .error .undecodableFile := by
  rfl

example : entryRoutes Pattern.engine none (.obj [("uri", .str "a"), ("middleware", .int 5)]) =
    .error (.fault (.notIterable "int")) := by rfl

/-- A pattern that is repeated too often breaks off, whatever the name. -/
example : entryRoutes Pattern.engine
    (some { includePrefixes := [], excludeNames := ["a\x7b99999999999\x7d"] })
    (.obj [("uri", .str "a"), ("action", .str "AController"), ("name", .str "x")]) =
      .error (.fault .repetitionTooLarge) := by decide +kernel

/-! ### The parameters of routes -/

theorem Entry.of_route_ok {e : Entry} {method : String} {r : Route} (h : e.route method = .ok r) :
    r.path = e.path ∧ r.parameters = e.parameters := by
  simp only [Entry.route, Checked.toExcept_eq_ok, Checked.seq_eq_valid, Checked.map_eq_valid] at h
  obtain ⟨_, ⟨_, ⟨_, ⟨name, -, rfl⟩, controller, -, rfl⟩, action, -, rfl⟩, domain, -, rfl⟩ := h
  exact ⟨rfl, rfl⟩

/-- A route has a normal path, and the parameters of that path. -/
def Parametrized (r : Route) : Prop :=
  ∃ uri constraints, r.path = Path.normalize uri ∧
    Path.parameters r.path constraints = .ok r.parameters

theorem parametrized_of_mem_keptRoutes {es : Fragment} {ms : List String} {found : Value × Value}
    {rs : List Route} (h : keptRoutes es ms found = .ok rs) {r : Route} (hr : r ∈ rs) :
    Parametrized r := by
  unfold keptRoutes at h
  obtain ⟨ps, hps, h⟩ := bind_eq_ok.1 h
  obtain ⟨methods, -, h⟩ := bind_eq_ok.1 h
  obtain ⟨method, -, hroute⟩ := exists_of_mem_mapM h hr
  obtain ⟨hpath, hparameters⟩ := Entry.of_route_ok (mapError_eq_ok.1 hroute)
  refine ⟨uri es, field es "wheres", hpath, ?_⟩
  rw [hpath, hparameters]
  exact orFault_eq_ok.1 hps

theorem parametrized_of_mem_entryRoutes {filters : Option RouteFilters} {entry : Value}
    {rs : List Route} (h : entryRoutes engine filters entry = .ok rs) {r : Route} (hr : r ∈ rs) :
    Parametrized r := by
  cases hentry : isEntry entry with
  | false =>
      rw [entryRoutes_of_not_isEntry hentry] at h
      exact nomatch h
  | true =>
      obtain ⟨es, rfl, hentry⟩ := exists_of_isEntry hentry
      rw [entryRoutes_eq filters hentry] at h
      obtain ⟨ms, -, h⟩ := bind_eq_ok.1 h
      obtain ⟨found, -, h⟩ := bind_eq_ok.1 h
      split at h
      · obtain rfl := Except.ok.inj h
        exact nomatch hr
      · obtain ⟨pass, -, h⟩ := bind_eq_ok.1 h
        split at h
        · exact parametrized_of_mem_keptRoutes h hr
        · obtain rfl := Except.ok.inj h
          exact nomatch hr

theorem parametrized_of_mem_listRoutes {filters : Option RouteFilters} {entries : List Value}
    {rs : List Route} (h : listRoutes engine filters entries = .ok rs) {r : Route} (hr : r ∈ rs) :
    Parametrized r := by
  induction entries generalizing rs with
  | nil =>
      obtain rfl := Except.ok.inj h
      exact nomatch hr
  | cons entry rest ih =>
      rw [listRoutes] at h
      obtain ⟨first, hfirst, h⟩ := bind_eq_ok.1 h
      obtain ⟨more, hmore, h⟩ := bind_eq_ok.1 h
      obtain rfl := Except.ok.inj h
      rcases List.mem_append.1 hr with hr | hr
      · exact parametrized_of_mem_entryRoutes hfirst hr
      · exact ih hmore hr

/-- Every route of an inventory has a normal path, and the parameters of that path. -/
theorem parametrized_of_mem_routes {filters : Option RouteFilters} {v : Value} {rs : List Route}
    (h : routes engine filters v = .ok rs) {r : Route} (hr : r ∈ rs) : Parametrized r := by
  cases v with
  | arr entries => exact parametrized_of_mem_listRoutes h hr
  | _ => exact nomatch h

end Inventory

end RouteDoc
