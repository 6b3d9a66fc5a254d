import RouteDoc.Text.Pieces
/-!
# RouteDoc.ClassName

**Names of classes.** A qualified name joins its parts by backslashes; `ClassName.base` is the last
part, with slashes taken as backslashes and separators at the end ignored.
-/

namespace RouteDoc.ClassName

open RouteDoc.Text

/-- The last part of a qualified name. -/
def base (name : String) : String :=
  afterLast '\\' (trimRightBy (· = '\\') (swap '/' '\\' name))

/-- What stands behind the last backslash. -/
def short (name : String) : String := afterLast '\\' name

end RouteDoc.ClassName
