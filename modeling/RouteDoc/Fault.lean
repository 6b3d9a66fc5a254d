import RouteDoc.Text.Quoted
/-!
# RouteDoc.Fault

**Values of the wrong sort.** Inventories, rules and shape trees are free-form, so an operation may
meet a value that it cannot work with. `Fault` lists what can be wrong, `Fault.message` says so in
words, and `Value.iterate` is the first such operation: going through the parts of a value.
-/

namespace RouteDoc

/-- Why an operation cannot work with a value. -/
inductive Fault where
  /-- The value has no parts to go through; `sort` names what it is. -/
  | notIterable (sort : String)
  /-- The value holds nothing that could be looked for. -/
  | notContainer (kind : Value.Kind)
  /-- The value has no such operation. -/
  | noOperation (kind : Value.Kind) (operation : String)
  /-- A text was needed. -/
  | notText (kind : Value.Kind)
  /-- The value cannot be looked up. -/
  | notKey (kind : Value.Kind)
  /-- The value has no size. -/
  | noSize (kind : Value.Kind)
  /-- Nothing can be written into the value. -/
  | notWritable (kind : Value.Kind)
  /-- The text is no integer. -/
  | notInteger (text : String)
  /-- The numeral is too long to be read. -/
  | numeralTooLong (digits : Nat)
  /-- A pattern is to be repeated too often. -/
  | repetitionTooLarge
deriving DecidableEq, Repr

/-- A fault in words. -/
def Fault.message : Fault → String
  | .notIterable sort => "'" ++ sort ++ "' object is not iterable"
  | .notContainer kind => "argument of type '" ++ kind.name ++ "' is not iterable"
  | .noOperation kind operation =>
      "'" ++ kind.name ++ "' object has no attribute '" ++ operation ++ "'"
  | .notText kind => "expected string or bytes-like object, got '" ++ kind.name ++ "'"
  | .notKey kind => "unhashable type: '" ++ kind.name ++ "'"
  | .noSize kind => "object of type '" ++ kind.name ++ "' has no len()"
  | .notWritable .arr => "list indices must be integers or slices, not str"
  | .notWritable kind => "'" ++ kind.name ++ "' object does not support item assignment"
  | .notInteger text => "invalid literal for int() with base 10: " ++ Text.quoted text
  | .numeralTooLong digits =>
      "Exceeds the limit (4300 digits) for integer string conversion: value has "
        ++ Nat.repr digits ++ " digits; use sys.set_int_max_str_digits() to increase the limit"
  | .repetitionTooLarge => "the repetition number is too large"

/-- The parts of a value in order: items, names, or characters. -/
def Value.iterate : Value → Except Fault (List Value)
  | .arr items => .ok items
  | .obj entries => .ok ((Table.keys entries).map .str)
  | .str s => .ok (s.toList.map fun c => .str (String.singleton c))
  | v => .error (.notIterable v.kind.name)

end RouteDoc
