import Locator.Template.Syntax
import Locator.Template.Value

/-! Expansion: what templates, expressions and slots become under bindings. -/

namespace Locator

/-- A text cut to its first characters; lists and pairs are left whole. -/
def Value.shorten (limit : Option UInt64) : Value → Value
  | scalar text =>
    match limit with
    | some length => scalar (.ofList (text.toList.take length.toNat))
    | none => scalar text
  | value => value

namespace Style

/-- A value's text as the operator writes it. -/
def escape (style : Style) (text : String) : List Char :=
  style.escaping.apply text

/-- A key with its text; the key is written as it is. -/
def assign (style : Style) (key text : String) : List Char :=
  key.toList ++ '=' :: style.escape text

/-- Texts with commas between them. -/
def commaList (style : Style) (texts : List String) : List Char :=
  joinFields ',' (texts.map style.escape)

/-- One assignment for each pair. -/
def assignments (style : Style) (entries : List (String × String)) : List Char :=
  joinFields style.separator (entries.map fun (key, text) => style.assign key text)

end Style

/-- Keys and texts in turn. -/
def flattenPairs (entries : List (String × String)) : List String :=
  entries.flatMap fun (key, text) => [key, text]

/-- A value without its name. -/
def Style.expandValue (style : Style) (exploded : Bool) : Value → List Char
  | .scalar text => style.escape text
  | .list items =>
    if exploded then joinFields style.separator (items.map style.escape)
    else style.commaList items
  | .pairs entries =>
    if exploded then style.assignments entries else style.commaList (flattenPairs entries)

/-- A value that is not empty, with its name; exploded pairs bring their own names. -/
def Style.expandNamed (style : Style) (name : String) (exploded : Bool) : Value → List Char
  | .scalar text => style.assign name text
  | .list items =>
    -- Separate items repeat the name, and a list with commas has it once.
    if exploded then joinFields style.separator (items.map (style.assign name))
    else name.toList ++ '=' :: style.commaList items
  | .pairs entries =>
    if exploded then style.assignments entries
    else name.toList ++ '=' :: style.commaList (flattenPairs entries)

/-- One slot under a style, filled with a value. -/
def Slot.expand (style : Style) (slot : Slot) (value : Value) : List Char :=
  -- The cut comes first: a text that is cut to nothing is written as an empty one.
  let kept := value.shorten slot.limit?
  match style.layout with
  | .value => style.expandValue slot.isExploded kept
  | .named =>
    if kept.isEmpty then slot.name.toList else style.expandNamed slot.name slot.isExploded kept
  | .namedEquals =>
    if kept.isEmpty then slot.name.toList ++ ['=']
    else style.expandNamed slot.name slot.isExploded kept

/-- The filled slots of an expression; an unbound variable fills none. -/
def Expression.items (expression : Expression) (bindings : Bindings) : List (List Char) :=
  expression.slots.filterMap fun slot =>
    (bindings.get? slot.name).map (slot.expand expression.operator.style)

/-- An expression under bindings. The operator's leading character stands only before a non-empty
result. -/
def Expression.expand (expression : Expression) (bindings : Bindings) : List Char :=
  let joined := joinFields expression.operator.style.separator (expression.items bindings)
  -- One empty item counts as nothing, but two of them have a separator between them.
  if joined.isEmpty then [] else expression.operator.style.lead.toList ++ joined

/-- A part under bindings; literal text stands as it is. -/
def Part.expand (bindings : Bindings) : Part → List Char
  | literal text => text.toList
  | expression e => e.expand bindings

/-- A template under bindings. -/
def Template.expand (template : Template) (bindings : Bindings) : String :=
  .ofList (template.parts.flatMap (Part.expand bindings))

/-- The expansion of a template text. -/
def expand (text : String) (bindings : Bindings) : String :=
  (Template.read text).expand bindings

end Locator
