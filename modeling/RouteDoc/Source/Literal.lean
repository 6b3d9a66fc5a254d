import RouteDoc.Number.Numeral
import RouteDoc.Source.Syntax
import RouteDoc.Text.Pieces
import RouteDoc.Value
/-!
# RouteDoc.Source.Literal

**Values of literals.** The value of a text, a number or a truth value that is written in a source.

* `Literal.unquote` takes the quotes and the backslashes before quotes and backslashes away.
* A whole number with a zero in front has no value.
-/

namespace RouteDoc.Source

open RouteDoc.Number RouteDoc.Text

namespace Literal

/-- What is between the quotes: a backslash before the quote goes first, then one of each two
backslashes. -/
def unescape (quote : Char) (body : List Char) : List Char :=
  replaceChars ['\\', '\\'] ['\\'] (replaceChars ['\\', quote] [quote] body)

/-- The value of a text in quotes; anything else stands for itself. -/
def unquoteChars (cs : List Char) : List Char :=
  match cs with
  | quote :: rest =>
      if (quote = '\'' || quote = '"') && rest.getLast? = some quote then
        unescape quote rest.dropLast
      else cs
  | [] => []

/-- The value of a text in quotes; anything else stands for itself. -/
def unquote (text : String) : String := String.ofList (unquoteChars text.toList)

/-- The value of a whole number. -/
def integer? (text : String) : Option Int :=
  let cs := text.toList.filter (· ≠ '_')
  let decimal : Option Int :=
    if cs.head? = some '0' && cs.any (· ≠ '0') || maxDigits < cs.length then none
    else some (ofDigits cs)
  match cs with
  | '0' :: c :: ds =>
      if c = 'x' || c = 'X' then some (ofBase 16 ds)
      else if c = 'b' || c = 'B' then some (ofBase 2 ds)
      else if c = 'o' || c = 'O' then some (ofBase 8 ds)
      else decimal
  | _ => decimal

/-- The value of a number with a point or an exponent. -/
def float? (text : String) : Option Binary64 :=
  readFloat? (String.ofList (text.toList.filter (· ≠ '_')))

end Literal

/-- The value of a literal. -/
def Syntax.literal? (node : Syntax) : Option Value :=
  match node.unwrap with
  | .string text _ => some (.str (Literal.unquote text))
  | .integer text => (Literal.integer? text).map .int
  | .float text => (Literal.float? text).map .float
  | .boolean value => some (.bool value)
  | _ => none

end RouteDoc.Source
