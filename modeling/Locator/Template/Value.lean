/-! The values of template variables, and the bindings that give each name its value. -/

namespace Locator

/-- A value bound to a variable; whoever binds it chooses its shape. -/
inductive Value where
  /-- One text. -/
  | scalar (text : String)
  /-- Texts in order. -/
  | list (items : List String)
  /-- Keys with their texts in order; a key may repeat. -/
  | pairs (entries : List (String × String))
  deriving DecidableEq, Repr

namespace Value

/-- The empty text, no items or no pairs. -/
def isEmpty : Value → Bool
  | scalar text => text.isEmpty
  | list items => items.isEmpty
  | pairs entries => entries.isEmpty

/-- A truth value as the word that spells it. -/
def ofBool (flag : Bool) : Value :=
  scalar (if flag then "true" else "false")

/-- An integer in decimal digits, with a minus sign when negative. -/
def ofInt (n : Int) : Value :=
  scalar (if n < 0 then "-" ++ Nat.repr n.natAbs else Nat.repr n.natAbs)

/-- A character as a text of its own. -/
def ofChar (c : Char) : Value :=
  scalar (.singleton c)

end Value

/-- Names with their values; each name is bound at most once. -/
structure Bindings where
  /-- The bound names and their values. -/
  entries : List (String × Value)
  deriving DecidableEq, Repr

namespace Bindings

/-- Binds nothing. -/
def empty : Bindings :=
  ⟨[]⟩

/-- The value of a name. -/
def get? (bindings : Bindings) (name : String) : Option Value :=
  bindings.entries.lookup name

/-- Binds a name, in place of any value it had. -/
def insert (bindings : Bindings) (name : String) (value : Value) : Bindings :=
  ⟨(name, value) :: bindings.entries.filter (·.1 != name)⟩

/-- Binds every listed name in order, so the last entry of a name stands. -/
def insertAll (bindings : Bindings) (entries : List (String × Value)) : Bindings :=
  entries.foldl (fun known (name, value) => known.insert name value) bindings

/-- The bindings of a list in which the last entry of a name stands. -/
def ofList (entries : List (String × Value)) : Bindings :=
  empty.insertAll entries

/-- Both sets of bindings; where both bind a name, the later value stands. -/
def merge (earlier later : Bindings) : Bindings :=
  earlier.insertAll later.entries

/-- Nothing is bound at first. -/
@[simp]
theorem get?_empty (name : String) : empty.get? name = none := rfl

/-- A look-up after binding sees the new value under that name and the old ones elsewhere. -/
theorem get?_insert (bindings : Bindings) (bound : String) (value : Value) (name : String) :
    (bindings.insert bound value).get? name =
      if name = bound then some value else bindings.get? name := by
  -- Dropping the entries of one name does not disturb the others.
  unfold insert get?
  by_cases same : name = bound
  · simp [same]
  · rw [List.lookup_cons, if_neg same]
    simp only [beq_eq_false_iff_ne.mpr same]
    generalize bindings.entries = known
    induction known with
    | nil => rfl
    | cons entry rest ih =>
      obtain ⟨key, old⟩ := entry
      by_cases dropped : key = bound
      · rw [List.filter_cons_of_neg (by simp [dropped]), ih, List.lookup_cons, dropped,
          beq_eq_false_iff_ne.mpr same]
      · rw [List.filter_cons_of_pos (by simpa using dropped), List.lookup_cons,
          List.lookup_cons, ih]

end Bindings

end Locator
