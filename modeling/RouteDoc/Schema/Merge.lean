import RouteDoc.Value
/-!
# RouteDoc.Schema.Merge

**Merging schema fragments.** `Schema.merge` lays one fragment over another: a later key wins, in
the place of the earlier one, and the `properties` of both are merged property by property as long
as both sides hold objects.
-/

namespace RouteDoc.Schema

mutual

/-- Lay the entries of a fragment over another one. -/
def merge (base : Fragment) : List (String × Value) → Fragment
  | [] => base
  | (key, v) :: rest => merge (mergeEntry base key v) rest
termination_by structural overlay => overlay

/-- Lay one entry over a fragment. -/
def mergeEntry (base : Fragment) (key : String) : Value → Fragment
  | .obj new =>
      match Table.get? base key with
      | some (.obj old) =>
          if key = "properties" then Table.insert base key (.obj (mergeProperties old new))
          else Table.insert base key (.obj new)
      | _ => Table.insert base key (.obj new)
  | v => Table.insert base key v
termination_by structural v => v

/-- Lay properties over others. -/
def mergeProperties (base : Fragment) : List (String × Value) → Fragment
  | [] => base
  | (name, v) :: rest => mergeProperties (mergeProperty base name v) rest
termination_by structural overlay => overlay

/-- Lay one property over others: two fragments are merged, anything else replaces. -/
def mergeProperty (base : Fragment) (name : String) : Value → Fragment
  | .obj new =>
      match Table.get? base name with
      | some (.obj old) => Table.insert base name (.obj (merge old new))
      | _ => Table.insert base name (.obj new)
  | v => Table.insert base name v
termination_by structural v => v

end

end RouteDoc.Schema
