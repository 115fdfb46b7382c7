import Locator.Template.Escaping

/-! The operators of template expressions and the fixed style in which each one writes values. -/

namespace Locator

/-- How one variable is laid out. -/
inductive Layout where
  /-- The value alone. -/
  | value
  /-- The name, an equals sign and the value; the bare name for an empty value. -/
  | named
  /-- The name, an equals sign and the value, which may be empty. -/
  | namedEquals
  deriving DecidableEq, Repr

/-- The style in which an operator writes its variables. -/
structure Style where
  /-- What stands once in front of a non-empty result. -/
  lead : Option Char
  /-- What stands between variables. -/
  separator : Char
  /-- How values are escaped. -/
  escaping : Escaping
  /-- How one variable is laid out. -/
  layout : Layout
  deriving DecidableEq, Repr

/-- The operator of an expression. -/
inductive Operator where
  /-- No operator character. -/
  | simple
  /-- `+`, reserved characters kept. -/
  | reserved
  /-- `#`, a fragment. -/
  | fragment
  /-- `.`, dot-separated labels. -/
  | label
  /-- `/`, path segments. -/
  | path
  /-- `;`, path parameters. -/
  | parameter
  /-- `?`, a query. -/
  | query
  /-- `&`, more of a query. -/
  | continuation
  deriving DecidableEq, Repr, Inhabited

namespace Operator

/-- The operator that a character selects; every other character selects none. -/
def ofChar? : Char → Option Operator
  | '+' => some reserved
  | '#' => some fragment
  | '.' => some label
  | '/' => some path
  | ';' => some parameter
  | '?' => some query
  | '&' => some continuation
  | _ => none

/-- The character that selects an operator; the simple one has none. -/
def toChar? : Operator → Option Char
  | simple => none
  | reserved => some '+'
  | fragment => some '#'
  | label => some '.'
  | path => some '/'
  | parameter => some ';'
  | query => some '?'
  | continuation => some '&'

/-- The operator's style. -/
def style : Operator → Style
  | simple => ⟨none, ',', .all, .value⟩
  | reserved => ⟨none, ',', .reserved, .value⟩
  | fragment => ⟨some '#', ',', .reserved, .value⟩
  | label => ⟨some '.', '.', .all, .value⟩
  | path => ⟨some '/', '/', .all, .value⟩
  | parameter => ⟨some ';', ';', .all, .named⟩
  | query => ⟨some '?', '&', .all, .namedEquals⟩
  | continuation => ⟨some '&', '&', .all, .namedEquals⟩

/-- A character selects an operator exactly when it is that operator's character. -/
theorem ofChar?_eq_some_iff {c : Char} {operator : Operator} :
    ofChar? c = some operator ↔ operator.toChar? = some c := by
  -- Seven characters are selected on both sides.
  constructor
  · intro selected
    unfold ofChar? at selected
    split at selected <;> simp_all [toChar?] <;> subst selected <;> rfl
  · intro written
    cases operator <;> simp_all [toChar?] <;> subst written <;> rfl

end Operator

end Locator
