import RouteDoc.Record.Override
/-!
# RouteDoc.Store.Diff

**Live routes against stored ones.** `RouteDiff.of` sorts the routes of an inventory and the records
of a store into new, updated, unchanged and removed.

* Both sides are indexed by method and path first, so of several entries with one key the last
  counts, at the place of the first (`indexRoutes`, `indexRecords`).
* A route is unchanged when controller, action and name are those of its record.
-/

namespace RouteDoc

/-- Routes by key; a later route replaces an earlier one in its place. -/
def indexRoutes (routes : List Route) : Table RouteKey Route :=
  Table.ofEntries (routes.map fun r => (r.key, r))

/-- Records by key; a later record replaces an earlier one in its place. -/
def indexRecords (records : List OverrideRecord) : Table RouteKey OverrideRecord :=
  Table.ofEntries (records.map fun r => (r.key, r))

/-- The fields that identify the handler of a route. -/
inductive TrackedField where
  | controller | action | routeName
deriving DecidableEq, Repr

namespace TrackedField

/-- All tracked fields, in order. -/
def all : List TrackedField := [.controller, .action, .routeName]

/-- The name of a field. -/
def name : TrackedField → String
  | .controller => "controller"
  | .action => "action"
  | .routeName => "route_name"

/-- The field of a route. -/
def ofRoute (r : Route) : TrackedField → Option String
  | .controller => r.controller
  | .action => r.action
  | .routeName => r.name

/-- The field of a record. -/
def ofRecord (r : OverrideRecord) : TrackedField → Option String
  | .controller => r.controller
  | .action => r.action
  | .routeName => r.routeName

end TrackedField

/-- The fields in which a route differs from its record. -/
def changedFields (route : Route) (record : OverrideRecord) : List TrackedField :=
  TrackedField.all.filter fun f => f.ofRoute route ≠ f.ofRecord record

/-- A route whose record says something else. -/
structure RouteChange where
  /-- The live route. -/
  route : Route
  /-- The stored record. -/
  record : OverrideRecord
  /-- The fields that differ. -/
  changed : List TrackedField
deriving DecidableEq

/-- Live and stored routes, sorted by what has to be done about them. -/
structure RouteDiff where
  /-- Live routes without a record. -/
  new : List Route := []
  /-- Live routes whose record says something else. -/
  updated : List RouteChange := []
  /-- Records without a live route. -/
  removed : List OverrideRecord := []
  /-- Live routes whose record agrees. -/
  unchanged : List Route := []
deriving DecidableEq

namespace RouteDiff

/-- Put a live route where it belongs. -/
def classify (records : Table RouteKey OverrideRecord) (d : RouteDiff) (e : RouteKey × Route) :
    RouteDiff :=
  match Table.get? records e.1 with
  | none => { d with new := d.new ++ [e.2] }
  | some record =>
      let changed := changedFields e.2 record
      if changed.isEmpty then { d with unchanged := d.unchanged ++ [e.2] }
      else { d with updated := d.updated ++ [⟨e.2, record, changed⟩] }

/-- Compare live routes with stored records. -/
def of (live : List Route) (stored : List OverrideRecord) : RouteDiff :=
  let routes := indexRoutes live
  let records := indexRecords stored
  { routes.foldl (classify records) {} with
    removed := Table.values (records.filter fun e => !Table.has routes e.1) }

/-- Whether anything differs. -/
def hasChanges (d : RouteDiff) : Bool :=
  !d.new.isEmpty || !d.updated.isEmpty || !d.removed.isEmpty

/-- How many routes are of each sort. -/
def counts (d : RouteDiff) : Table String Nat :=
  [("new", d.new.length), ("updated", d.updated.length), ("removed", d.removed.length),
    ("unchanged", d.unchanged.length)]

end RouteDiff

/-- The records of visible routes about which nothing is written. -/
def undocumented (records : List OverrideRecord) : List OverrideRecord :=
  records.filter fun r => !r.isHidden && !r.isDocumented

end RouteDoc
