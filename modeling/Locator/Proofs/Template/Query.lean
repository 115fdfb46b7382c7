import Locator.Proofs.Template.Escaping
import Locator.Proofs.Template.Expansion
import Locator.Proofs.Text.Form

/-! Query expressions: what they expand to, read as form fields, is what they were filled with. -/

namespace Locator

/-- The fields that a slot stands for in a query when it is filled with a value. -/
def Slot.formFields (slot : Slot) : Value → List (String × String)
  | .scalar text =>
    match slot.limit? with
    | some length => [(slot.name, .ofList (text.toList.take length.toNat))]
    | none => [(slot.name, text)]
  | .list items =>
    if items = [] then [(slot.name, "")]
    else if slot.isExploded then items.map fun item => (slot.name, item)
    else [(slot.name, ",".intercalate items)]
  | .pairs entries =>
    if entries = [] then [(slot.name, "")]
    else if slot.isExploded then entries
    else [(slot.name, ",".intercalate (entries.flatMap fun (key, text) => [key, text]))]

/-- The slots of an expression whose names are bound, each with its value. -/
def Expression.filled (expression : Expression) (bindings : Bindings) : List (Slot × Value) :=
  expression.slots.filterMap fun slot => (bindings.get? slot.name).map (slot, ·)

/-- The fields that an expression stands for in a query under bindings. -/
def Expression.formFields (expression : Expression) (bindings : Bindings) :
    List (String × String) :=
  (expression.filled bindings).flatMap fun (slot, value) => slot.formFields value

/-- The style of query expressions, by the character in front. -/
def Style.form (lead : Char) : Style :=
  ⟨some lead, '&', .all, .namedEquals⟩

namespace Style

variable {lead : Char}

/-- A list of texts in one field stands for the texts with commas between them. -/
theorem spells_commaList (style : Style) (texts : List String) :
    Percent.Spells (style.commaList texts) (",".intercalate texts).toList := by
  -- The commas are written as they are.
  have each : ∀ text ∈ texts, Percent.Spells (style.escape text) text.toList :=
    fun text _ => style.escaping.spells_apply text
  have whole : Percent.Spells (style.commaList texts) (joinFields ',' (texts.map String.toList)) :=
    Percent.spells_joinFields (by decide) each
  rwa [String.toList_intercalate]

/-- In the style of queries a value leaves no character that a query gives a meaning. -/
theorem not_mem_escape_form {c : Char} (special : c ∈ ['&', '=', '+']) (text : String) :
    c ∉ (form lead).escape text := by
  -- None of the three characters is unreserved.
  have listed : c = '&' ∨ c = '=' ∨ c = '+' := by simpa using special
  rcases listed with rfl | rfl | rfl
  all_goals exact Escaping.not_mem_apply_all (by decide) (by decide) text

/-- In the style of queries a list in one field leaves no character that a query gives a meaning. -/
theorem not_mem_commaList_form {c : Char} (special : c ∈ ['&', '=', '+']) (texts : List String) :
    c ∉ (form lead).commaList texts := by
  -- Only the commas between the texts are written as they are.
  intro member
  rcases mem_joinFields member with comma | ⟨piece, written, inside⟩
  · subst comma
    simp at special
  · obtain ⟨text, -, rfl⟩ := List.mem_map.mp written
    exact not_mem_escape_form special text inside

/-- A plain key with an escaped text is one field. -/
theorem lists_assign {key : String} (plain : Form.IsPlain key) (text : String) :
    Form.Lists ((form lead).assign key text) [(key, text)] :=
  Form.lists_field plain (not_mem_escape_form (by simp) text) (not_mem_escape_form (by simp) text)
    (Escaping.spells_apply .all text)

/-- A plain key with a list of texts is one field, which holds the texts with commas between. -/
theorem lists_commaList {key : String} (plain : Form.IsPlain key) (texts : List String) :
    Form.Lists (key.toList ++ '=' :: (form lead).commaList texts)
      [(key, ",".intercalate texts)] :=
  Form.lists_field plain (not_mem_commaList_form (by simp) texts)
    (not_mem_commaList_form (by simp) texts) (spells_commaList _ texts)

/-- A plain key with nothing behind the equals sign is one field with an empty text. -/
theorem lists_empty {key : String} (plain : Form.IsPlain key) :
    Form.Lists (key.toList ++ ['=']) [(key, "")] :=
  Form.lists_field plain (by simp) (by simp) .nil

/-- Pairs with plain keys are one field each. -/
theorem lists_assignments {entries : List (String × String)}
    (plain : ∀ entry ∈ entries, Form.IsPlain entry.1) :
    Form.Lists ((form lead).assignments entries) entries := by
  -- The separator of the style is the ampersand between fields.
  have each : ∀ entry ∈ entries, Form.Lists ((form lead).assign entry.1 entry.2) [entry] :=
    fun entry member => lists_assign (plain entry member) entry.2
  have whole := Form.lists_joinFields each (by simp)
  rwa [List.flatMap_singleton'] at whole

end Style

namespace Slot

variable {slot : Slot} {lead : Char}

/-- A filled slot stands for at least one field. -/
theorem formFields_ne_nil (slot : Slot) (value : Value) : slot.formFields value ≠ [] := by
  -- An empty list and empty pairs still bring the name.
  cases value with
  | scalar text =>
    rw [formFields]
    split <;> simp
  | list items =>
    rw [formFields]
    by_cases none : items = []
    · simp [none]
    · rw [if_neg none]
      split <;> simp [none]
  | pairs entries =>
    rw [formFields]
    by_cases none : entries = []
    · simp [none]
    · rw [if_neg none]
      split <;> simp [none]

/-- A text is written with its name, also when it is empty. -/
theorem lists_expand_scalar (plain : Form.IsPlain slot.name) (text : String) :
    Form.Lists (slot.expand (.form lead) (.scalar text)) (slot.formFields (.scalar text)) := by
  have written (kept : String) :
      Form.Lists
        (if kept.isEmpty then slot.name.toList ++ ['=']
        else (Style.form lead).assign slot.name kept)
        [(slot.name, kept)] := by
    split
    · rename_i empty
      rw [String.isEmpty_iff.mp empty]
      exact Style.lists_empty plain
    · exact Style.lists_assign plain kept
  -- What is written is the text as far as the limit lets it through.
  unfold expand formFields
  cases slot.limit? with
  | none => exact written text
  | some length => exact written (.ofList (text.toList.take length.toNat))

/-- A list is written as one field for each item or as one field for all of them. -/
theorem lists_expand_list (plain : Form.IsPlain slot.name) (items : List String) :
    Form.Lists (slot.expand (.form lead) (.list items)) (slot.formFields (.list items)) := by
  by_cases none : items = []
  · -- Nothing but the name and the equals sign is written.
    subst none
    exact Style.lists_empty plain
  · have written : slot.expand (.form lead) (.list items) =
        (Style.form lead).expandNamed slot.name slot.isExploded (.list items) :=
      expand_of_filled (by simp [Style.form]) (by simpa [Value.shorten, Value.isEmpty] using none)
    rw [written, formFields, if_neg none, Style.expandNamed]
    cases slot.isExploded with
    | true =>
      -- Every item becomes a field of the same name.
      have each : ∀ item ∈ items, Form.Lists ((Style.form lead).assign slot.name item)
          [(slot.name, item)] := fun item _ => Style.lists_assign plain item
      have whole := Form.lists_joinFields each (by simp)
      rwa [← List.map_eq_flatMap] at whole
    | false => exact Style.lists_commaList plain items

/-- Pairs are written as one field each, with their own keys, or as one field for all of them. -/
theorem lists_expand_pairs (plain : Form.IsPlain slot.name) {entries : List (String × String)}
    (keys : slot.isExploded → ∀ entry ∈ entries, Form.IsPlain entry.1) :
    Form.Lists (slot.expand (.form lead) (.pairs entries)) (slot.formFields (.pairs entries)) := by
  by_cases none : entries = []
  · subst none
    exact Style.lists_empty plain
  · have written : slot.expand (.form lead) (.pairs entries) =
        (Style.form lead).expandNamed slot.name slot.isExploded (.pairs entries) :=
      expand_of_filled (by simp [Style.form]) (by simpa [Value.shorten, Value.isEmpty] using none)
    rw [written, formFields, if_neg none, Style.expandNamed]
    cases exploded : slot.isExploded with
    | true =>
      -- The pairs bring their own keys, so the name of the slot is not written at all.
      exact Style.lists_assignments (keys exploded)
    | false => exact Style.lists_commaList plain (flattenPairs entries)

/-- A filled slot is written as its fields, when every key that it writes is plain. -/
theorem lists_expand (plain : Form.IsPlain slot.name) {value : Value}
    (keys : slot.isExploded → ∀ entries, value = .pairs entries →
      ∀ entry ∈ entries, Form.IsPlain entry.1) :
    Form.Lists (slot.expand (.form lead) value) (slot.formFields value) := by
  -- The three shapes of values are written in three ways.
  cases value with
  | scalar text => exact lists_expand_scalar plain text
  | list items => exact lists_expand_list plain items
  | pairs entries =>
    exact lists_expand_pairs plain fun exploded => keys exploded entries rfl

end Slot

namespace Expression

variable {expression : Expression} {bindings : Bindings}

/-- An expression writes its filled slots in order. -/
theorem items_eq (expression : Expression) (bindings : Bindings) :
    expression.items bindings =
      (expression.filled bindings).map fun (slot, value) =>
        slot.expand expression.operator.style value := by
  -- Both pass over the slots whose names are not bound.
  rw [items, filled, List.map_filterMap]
  simp only [Option.map_map]
  rfl

/-- A filled slot is a slot of the expression with the value of its name. -/
theorem mem_filled {slot : Slot} {value : Value}
    (member : (slot, value) ∈ expression.filled bindings) :
    slot ∈ expression.slots ∧ bindings.get? slot.name = some value := by
  -- A slot is filled with what its name is bound to.
  obtain ⟨origin, known, bound⟩ := List.mem_filterMap.mp member
  obtain ⟨held, found, same⟩ := Option.map_eq_some_iff.mp bound
  cases same
  exact ⟨known, found⟩

/-- Under the style of queries an expression writes its fields. -/
theorem lists_items {lead : Char} (style : expression.operator.style = .form lead)
    (names : ∀ slot ∈ expression.slots, (bindings.get? slot.name).isSome →
      Form.IsPlain slot.name)
    (keys : ∀ slot ∈ expression.slots, slot.isExploded →
      ∀ entries, bindings.get? slot.name = some (.pairs entries) →
        ∀ entry ∈ entries, Form.IsPlain entry.1) :
    Form.Lists (joinFields '&' (expression.items bindings)) (expression.formFields bindings) := by
  -- Each filled slot writes its own fields, and the separator joins them.
  rw [items_eq, style, formFields]
  refine Form.lists_joinFields ?_ ?_
  · rintro ⟨slot, value⟩ member
    obtain ⟨known, found⟩ := mem_filled member
    have plain := names slot known (by simp [found])
    refine Slot.lists_expand plain ?_
    intro exploded entries same
    exact keys slot known exploded entries (same ▸ found)
  · rintro ⟨slot, value⟩ -
    exact slot.formFields_ne_nil value

/-- A query expression without its leading character is read as the fields that it was filled with,
grouped by key; it is empty exactly when there are none. -/
theorem isGrouping_parseQuery_expand (expression : Expression) (bindings : Bindings)
    (query : expression.operator = .query ∨ expression.operator = .continuation)
    (names : ∀ slot ∈ expression.slots, (bindings.get? slot.name).isSome →
      Form.IsPlain slot.name)
    (keys : ∀ slot ∈ expression.slots, slot.isExploded →
      ∀ entries, bindings.get? slot.name = some (.pairs entries) →
        ∀ entry ∈ entries, Form.IsPlain entry.1) :
    (expression.expand bindings).head? =
        (if expression.formFields bindings = [] then none else expression.operator.toChar?) ∧
      Form.IsGrouping (Form.parseQuery (.ofList ((expression.expand bindings).drop 1)))
        (expression.formFields bindings) := by
  -- Both operators write in the same style behind their own character.
  obtain ⟨lead, style, character⟩ : ∃ lead, expression.operator.style = .form lead ∧
      expression.operator.toChar? = some lead := by
    rcases query with same | same
    · exact ⟨'?', by rw [same]; rfl, by rw [same]; rfl⟩
    · exact ⟨'&', by rw [same]; rfl, by rw [same]; rfl⟩
  -- What is written behind it lists the fields, so it is empty only when there are none.
  have lists := lists_items style names keys
  have written : expression.expand bindings =
      if expression.formFields bindings = [] then []
      else lead :: joinFields '&' (expression.items bindings) := by
    rw [expand, style]
    simp only [Style.form, List.isEmpty_iff, lists.eq_nil_iff]
    rfl
  have grouping := Form.isGrouping_group (expression.formFields bindings)
  by_cases none : expression.formFields bindings = []
  · rw [none] at grouping
    rw [written, if_pos none, if_pos none, none]
    exact ⟨rfl, grouping⟩
  · rw [written, if_neg none, if_neg none, character, Form.parseQuery]
    -- The character in front is dropped, and what follows is read piece by piece.
    refine ⟨rfl, ?_⟩
    rw [List.drop_succ_cons, List.drop_zero, Form.pairs_of_lists lists]
    exact grouping

/-- A cut text, an exploded list with an empty item, a key that comes from two variables, an empty
list, and a name with an equals sign that is not bound. -/
theorem isGrouping_parseQuery_of_repeated_key :
    Form.IsGrouping
      (Form.parseQuery
        "é=%C3%BC%26%3D&tags=a%2Bb&tags=&x=1%20%2541&tags=%26&m=x,1%20%2541,tags,%26&none=")
      [("é", "ü&="), ("tags", "a+b"), ("tags", ""), ("x", "1 %41"), ("tags", "&"),
        ("m", "x,1 %41,tags,&"), ("none", "")] := by
  have read := isGrouping_parseQuery_expand
    ⟨.query, [⟨"é", some (.take 3)⟩, ⟨"tags", some .explode⟩, ⟨"m", some .explode⟩, ⟨"m", none⟩,
      ⟨"none", none⟩, ⟨"unbound=", none⟩]⟩
    ⟨[("é", .scalar "ü&=+%"), ("tags", .list ["a+b", ""]),
      ("m", .pairs [("x", "1 %41"), ("tags", "&")]), ("none", .list [])]⟩
    (.inl rfl) (by decide) (by
      -- Only one slot is exploded and holds pairs.
      intro slot member exploded entries bound
      simp only [List.mem_cons, List.not_mem_nil, or_false] at member
      rcases member with rfl | rfl | rfl | rfl | rfl | rfl <;> cases bound
      · decide
      · cases exploded)
  exact read.2

end Expression

end Locator
