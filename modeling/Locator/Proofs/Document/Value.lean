import Locator.Proofs.Bindings.Json

/-! The shapes of JSON values that are template values: reading accepts just these, and the text of
a scalar is the same wherever it stands. -/

namespace Locator

namespace Json

/-- A value in which every number is an integer of 64 bits, signed or unsigned. -/
inductive IsFloatless : Json → Prop where
  /-- Nothing. -/
  | null : IsFloatless null
  /-- A truth value. -/
  | bool (flag : Bool) : IsFloatless (bool flag)
  /-- An integer in the range of both kinds. -/
  | integer {i : Int} (low : -2 ^ 63 ≤ i) (high : i < 2 ^ 64) : IsFloatless (number (.ofInt i))
  /-- A string. -/
  | string (text : String) : IsFloatless (string text)
  /-- An array of such values. -/
  | array {items : List Json} (each : ∀ item ∈ items, IsFloatless item) : IsFloatless (array items)
  /-- An object of such values. -/
  | object {members : List (String × Json)} (each : ∀ member ∈ members, IsFloatless member.2) :
    IsFloatless (object members)

/-- The text of a scalar: the word for a truth value, the digits of a number, or the string. -/
def scalarText? : Json → Option String
  | bool flag => some (if flag then "true" else "false")
  | number n => some (.ofList n.write)
  | string text => some text
  | _ => none

/-- The two texts of an array of two scalars. -/
def pairTexts? : Json → Option (String × String)
  | array [key, text] => do return (← key.scalarText?, ← text.scalarText?)
  | _ => none

/-- The key of a member and the text of the scalar under it. -/
def memberTexts? (member : String × Json) : Option (String × String) :=
  member.2.scalarText?.map (member.1, ·)

/-- The template value that has the shape of a JSON value: a text for a scalar, a list for scalars
in an array, and pairs for an array of arrays of two scalars or for an object of scalars. Every
other value has no shape. -/
def value? : Json → Option Value
  | array items =>
    ((items.mapM scalarText?).map .list).or ((items.mapM pairTexts?).map .pairs)
  | object members => (members.mapM memberTexts?).map .pairs
  | json => json.scalarText?.map .scalar

/-- A scalar or a pair of scalars, as an element of a list. -/
def element? (json : Json) : Option Document.Element :=
  (json.scalarText?.map .scalar).or (json.pairTexts?.map fun (key, text) => .pair key text)

/-- A value is a scalar element exactly if it is a scalar. -/
theorem element?_eq_scalar_iff {json : Json} {text : String} :
    json.element? = some (.scalar text) ↔ json.scalarText? = some text := by
  -- A pair is only looked for where there is no scalar.
  unfold element?
  cases json.scalarText? <;> simp

/-- A value is a pair exactly if it is an array of two scalars. -/
theorem element?_eq_pair_iff {json : Json} {entry : String × String} :
    json.element? = some (.pair entry.1 entry.2) ↔ json.pairTexts? = some entry := by
  -- An array has no text of its own.
  unfold element?
  cases json with
  | array items =>
    show (Option.or none _ = _) ↔ _
    cases (array items).pairTexts? <;> simp [Prod.ext_iff]
  | _ => simp [scalarText?, pairTexts?]

end Json

namespace Document

/-- The value that elements make up: a list without pairs, or pairs without scalars. -/
def elementsValue? (elements : List Element) : Option Value :=
  match scalarsOf elements, pairsOf elements with
  | scalars, [] => some (.list scalars)
  | [], pairs => some (.pairs pairs)
  | _, _ => none

/-- A scalar with a text is read through. -/
theorem inspect_of_plainText? {node : Document} {text : String}
    (spelled : node.plainText? = some text) (path : List Step) : inspect path node = .ok () := by
  -- Only a scalar has a text, and scalars are never refused.
  cases node with
  | scalar written held => cases held <;> first | rfl | cases spelled
  | _ => cases spelled

/-- What is an element of a list is read through. -/
theorem inspect_of_element? {node : Document} {element : Element}
    (known : node.element? = some element) (path : List Step) : inspect path node = .ok () := by
  unfold element? at known
  split at known
  · rename_i written held
    obtain ⟨text, spelled, -⟩ := Option.map_eq_some_iff.mp known
    exact @inspect_of_plainText? (scalar written held) text spelled path
  · -- Both parts of a pair are scalars with a text.
    rename_i key value
    simp only [Option.bind_eq_bind, Option.bind_eq_some_iff] at known
    obtain ⟨k, first, t, second, -⟩ := known
    rw [inspect, inspectItems, inspect_of_plainText? first, inspectItems,
      inspect_of_plainText? second]
    rfl
  · cases known

/-- The elements of a list are read exactly if every item is one. -/
theorem toOption_elements (path : List Step) (position : Nat) (nodes : List Document) :
    (elements path position nodes).toOption = nodes.mapM element? := by
  induction nodes generalizing position with
  | nil => rfl
  | cons node rest ih =>
    have behind := ih (position + 1)
    rw [elements, List.mapM_cons]
    cases known : node.element? with
    | none =>
      -- The item is refused, at the latest when it has been read through.
      cases inspect (.index position :: path) node <;> rfl
    | some element =>
      rw [inspect_of_element? known]
      simp only [bind, Except.bind, Option.bind_some]
      rw [← behind]
      cases elements path (position + 1) rest <;> rfl

/-- The text of a node is read exactly if it is a scalar with a text. -/
theorem toOption_text (path : List Step) (expected : Expected) (node : Document) :
    (text path expected node).toOption = node.plainText? := by
  -- A mismatch is an error in every case.
  have refused (other : Document) :
      (mismatch path expected other : Except ReadError String).toOption = none := by
    cases result : (mismatch path expected other : Except ReadError String) with
    | error cause => rfl
    | ok found => exact absurd result mismatch_ne_ok
  -- A scalar may hold something without a text, and any other document has none.
  unfold text
  split
  · rename_i written held
    show _ = scalarText? held
    split
    · rename_i spelled
      rw [spelled]
      rfl
    · rename_i silent
      rw [refused, silent]
  · rename_i other
    rw [refused]
    cases node with
    | scalar written held => exact absurd rfl (other written held)
    | _ => rfl

/-- The texts of the key and the value of an entry. -/
def entryTexts? (entry : Option String × Document × Document) : Option (String × String) := do
  return (← entry.2.1.plainText?, ← entry.2.2.plainText?)

/-- The entries of a mapping are read exactly if all keys and values are scalars with texts. -/
theorem toOption_textEntries (path : List Step)
    (entries : List (Option String × Document × Document)) :
    (textEntries path entries).toOption = entries.mapM entryTexts? := by
  -- By induction on the entries; the first text that is missing makes all of them missing.
  induction entries with
  | nil => rfl
  | cons entry rest ih =>
    obtain ⟨label, key, value⟩ := entry
    rw [textEntries, List.mapM_cons, ← ih]
    dsimp only [entryTexts?]
    rw [← toOption_text path .text key, ← toOption_text (.label label :: path) .text value]
    cases text path .text key with
    | error cause => rfl
    | ok k =>
      cases text (.label label :: path) .text value with
      | error cause => rfl
      | ok t => cases textEntries path rest <;> rfl

/-- A list is a value exactly if its elements make up one. -/
theorem toOption_value_sequence (path : List Step) (nodes : List Document) :
    (value path (sequence nodes)).toOption = (nodes.mapM element?).bind elementsValue? := by
  rw [value, ← toOption_elements path 0 nodes]
  -- An element that is missing makes the list missing; else the elements are sorted by their kinds.
  cases elements path 0 nodes with
  | error cause => rfl
  | ok found =>
    show Except.toOption (match scalarsOf found, pairsOf found with
      | scalars, [] => return .list scalars
      | [], pairs => return .pairs pairs
      | _, _ => refuse path .mixedList) = elementsValue? found
    unfold elementsValue?
    split <;> rfl

/-- Elements without pairs are all scalars. -/
theorem eq_map_scalar {elements : List Element} (unpaired : pairsOf elements = []) :
    elements = (scalarsOf elements).map .scalar := by
  -- By induction on the elements; a pair among them would be found.
  induction elements with
  | nil => rfl
  | cons element more ih =>
    cases element with
    | scalar text =>
      have rest := ih (by simpa [pairsOf] using unpaired)
      conv_lhs => rw [rest]
      simp [scalarsOf]
    | pair key text => simp [pairsOf] at unpaired

/-- Elements without scalars are all pairs. -/
theorem eq_map_pair {elements : List Element} (paired : scalarsOf elements = []) :
    elements = (pairsOf elements).map fun entry => .pair entry.1 entry.2 := by
  -- By induction on the elements; a scalar among them would be found.
  induction elements with
  | nil => rfl
  | cons element more ih =>
    cases element with
    | scalar text => simp [scalarsOf] at paired
    | pair key text =>
      have rest := ih (by simpa [scalarsOf] using paired)
      conv_lhs => rw [rest]
      simp [pairsOf]

/-- The elements of an array make up a value exactly if all are scalars or all are pairs. -/
theorem bind_elementsValue? (items : List Json) :
    (items.mapM Json.element?).bind elementsValue? = (Json.array items).value? := by
  -- Which elements are all scalars, and which all pairs, is known of the items themselves.
  have scalars {texts : List String} : items.mapM Json.element? = some (texts.map .scalar) ↔
      items.mapM Json.scalarText? = some texts :=
    mapM_eq_some_map_iff fun _ _ => Json.element?_eq_scalar_iff
  have pairs {entries : List (String × String)} :
      items.mapM Json.element? = some (entries.map fun entry => .pair entry.1 entry.2) ↔
        items.mapM Json.pairTexts? = some entries :=
    mapM_eq_some_map_iff fun _ _ => Json.element?_eq_pair_iff
  rw [Json.value?]
  cases texts : items.mapM Json.scalarText? with
  | some found =>
    -- Scalars alone are a list, also when there are none.
    obtain ⟨all, none⟩ := scalarsOf_map_scalar found
    rw [scalars.mpr texts, Option.bind_some, elementsValue?, all, none]
    rfl
  | none =>
    cases entries : items.mapM Json.pairTexts? with
    | some found =>
      -- Pairs alone are pairs; there is one at least, since no items would be a list.
      obtain ⟨none, all⟩ := pairsOf_map_pair found
      cases found with
      | nil =>
        rw [eq_nil_of_mapM entries] at texts
        cases texts
      | cons entry more =>
        rw [pairs.mpr entries, Option.bind_some, elementsValue?, none, all]
        rfl
    | none =>
      -- Whatever the elements are, there is a scalar and a pair among them.
      cases known : items.mapM Json.element? with
      | none => rfl
      | some found =>
        have paired : pairsOf found ≠ [] := by
          intro none
          rw [eq_map_scalar none] at known
          simp [scalars.mp known] at texts
        have single : scalarsOf found ≠ [] := by
          intro none
          rw [eq_map_pair none] at known
          simp [pairs.mp known] at entries
        rw [Option.bind_some, elementsValue?]
        split
        · exact absurd ‹_› paired
        · exact absurd ‹_› single
        · rfl

/-- The items of an array are read one by one. -/
theorem ofDrafts_itemDrafts (depth : Nat) (items : List Json) :
    ofDrafts depth (Json.itemDrafts items) = items.map fun item => ofDraft depth item.draft := by
  -- By induction on the items.
  induction items with
  | nil => rfl
  | cons item items ih => rw [Json.itemDrafts, ofDrafts, ih, List.map_cons]

/-- The members of an object are read one by one, each with its key as a string. -/
theorem ofMembers_memberDrafts (depth : Nat) (members : List (String × Json)) :
    ofMembers depth (Json.memberDrafts members) =
      members.map fun (key, json) =>
        (some key, scalar (some key) (.text key), ofDraft depth json.draft) := by
  -- By induction on the members; a key is labelled by its own text.
  induction members with
  | nil => rfl
  | cons member members ih =>
    obtain ⟨key, json⟩ := member
    rw [Json.memberDrafts, ofMembers, ih, List.map_cons]
    rfl

/-- The text of an integer is its digits. -/
theorem scalarText?_integer (i : Int) :
    scalarText? (.integer i) = some (.ofList (JsonNumber.ofInt i).write) := by
  -- The sign is written in front of the digits in both texts.
  rw [JsonNumber.write_ofInt, scalarText?]
  by_cases negative : i < 0
  · rw [if_pos negative, if_pos negative, Option.some.injEq, ← String.toList_inj]
    simp [Nat.repr]
  · simp [negative, Nat.repr]

/-- A JSON value is read as a scalar with the text that it has. -/
theorem plainText?_draft {json : Json} (floatless : json.IsFloatless) (depth : Nat) :
    (ofDraft depth json.draft).plainText? = json.scalarText? := by
  -- The kinds of values are gone through; lists and objects have no text at any depth.
  cases floatless with
  | null | bool | string => rfl
  | integer low high =>
    rw [Json.draft, ofDraft, ofJsonNumber, JsonNumber.scalar?_integer low high]
    exact scalarText?_integer _
  | array | object => cases depth <;> rfl

/-- A JSON value is read as the element that it is, where one more collection may stand. -/
theorem element?_draft {json : Json} (floatless : json.IsFloatless) (depth : Nat) :
    (ofDraft (depth + 1) json.draft).element? = json.element? := by
  cases floatless with
  | null | bool | string => rfl
  | @integer i low high =>
    -- The integer is a scalar in its own spelling.
    rw [Json.draft, ofDraft, ofJsonNumber, JsonNumber.scalar?_integer low high]
    show (scalarText? (.integer i)).map Element.scalar = _
    rw [scalarText?_integer]
    rfl
  | @array items each =>
    rw [Json.draft, ofDraft_array, ofDrafts_itemDrafts]
    -- Only two items can be a pair.
    rcases items with _ | ⟨key, _ | ⟨text, _ | ⟨other, more⟩⟩⟩
    · rfl
    · rfl
    · -- A pair is read where both of its texts are.
      show (do return Element.pair (← plainText? _) (← plainText? _)) = _
      rw [plainText?_draft (each key (by simp)), plainText?_draft (each text (by simp)),
        Json.element?]
      show _ = (Json.pairTexts? (.array [key, text])).map _
      rw [Json.pairTexts?]
      cases key.scalarText? <;> cases text.scalarText? <;> rfl
    · rfl
  | object => rfl

/-- A JSON value is read as the template value whose shape it has, and refused if it has none. -/
theorem toOption_value_draft {json : Json} (floatless : json.IsFloatless) (depth : Nat)
    (path : List Step) : (value path (ofDraft (depth + 2) json.draft)).toOption = json.value? := by
  -- What is no collection is a text or nothing.
  have alone (node : Document) :
      (do return Value.scalar (← text path .value node) : Except ReadError Value).toOption =
        node.plainText?.map .scalar := by
    rw [← toOption_text path .value node]
    cases text path .value node <;> rfl
  cases floatless with
  | null => rfl
  | bool flag => rfl
  | string text => rfl
  | integer low high =>
    -- An integer within the bounds is spelled as it stands in both readings.
    have text := plainText?_draft (.integer low high) (depth + 2)
    rw [Json.draft, ofDraft, ofJsonNumber, JsonNumber.scalar?_integer low high] at text ⊢
    show (do return Value.scalar (← Document.text path .value _) :
      Except ReadError Value).toOption = _
    rw [alone, text]
    rfl
  | @array items each =>
    -- The elements are read one by one, and what they make up is the same.
    have elements : (items.map fun item => ofDraft (depth + 1) item.draft).mapM element? =
        items.mapM Json.element? :=
      mapM_map_congr fun item member => element?_draft (each item member) depth
    calc
      (value path (ofDraft (depth + 2) (Json.array items).draft)).toOption =
          ((items.map fun item => ofDraft (depth + 1) item.draft).mapM element?).bind
            elementsValue? := by
        rw [Json.draft, ofDraft_array, toOption_value_sequence, ofDrafts_itemDrafts]
      _ = (items.mapM Json.element?).bind elementsValue? := by rw [elements]
      _ = (Json.array items).value? := by rw [bind_elementsValue?]
  | @object members each =>
    -- The members are read with their keys, and one without a text refuses them all.
    have entries := toOption_textEntries path
      (ofMembers (depth + 1) (Json.memberDrafts members))
    rw [ofMembers_memberDrafts] at entries
    have texts : (members.map fun (key, json) =>
        (some key, scalar (some key) (.text key), ofDraft (depth + 1) json.draft)).mapM
          entryTexts? = members.mapM Json.memberTexts? := by
      refine mapM_map_congr ?_
      intro member inside
      -- A key is a string, and so its own text.
      have text := plainText?_draft (each member inside) (depth + 1)
      show (do return (member.1, ← plainText? (ofDraft (depth + 1) member.2.draft))) = _
      rw [text, Json.memberTexts?]
      cases member.2.scalarText? <;> rfl
    rw [texts] at entries
    rw [Json.draft, ofDraft_object, value, ofMembers_memberDrafts, Json.value?, ← entries]
    cases textEntries path _ <;> rfl

/-- What the text of a JSON value means is what the value means. -/
theorem readJson_eq_of_layout {α : Type} (interpret : Document → Except ReadError α) {json : Json}
    {text : String} (layout : JsonToken.Layout json.tokens text.toList) :
    readJson interpret text = interpret (ofDraft jsonDepth json.draft) := by
  -- No token follows the value.
  rw [readJson, JsonDraft.read_of_layout layout]
  dsimp only
  cases interpret (ofDraft jsonDepth json.draft) <;> rfl

end Document

namespace Value

/-- A JSON text without floats, however it is laid out, is read as the template value whose shape
its value has, and refused exactly if it has no such shape. -/
theorem toOption_ofJson_of_layout {json : Json} {text : String} (floatless : json.IsFloatless)
    (layout : JsonToken.Layout json.tokens text.toList) :
    (ofJson text).toOption = json.value? := by
  -- The outermost value may hold two collections inside one another and many more.
  rw [ofJson, Document.readJson_eq_of_layout _ layout]
  exact Document.toOption_value_draft floatless 125 []

/-- Pairs of scalars of every kind with both ends of the integers, and an array that has a pair
beside a scalar. -/
theorem toOption_ofJson_of_pairs :
    (ofJson "[[-9223372036854775808,true],[\"a\",18446744073709551615]]").toOption =
        some (.pairs [("-9223372036854775808", "true"), ("a", "18446744073709551615")]) ∧
      (ofJson "[\"a\",[\"k\",\"v\"]]").toOption = none := by
  let pairs : Json := .array [.array [.number (.ofInt (-9223372036854775808)), .bool true],
    .array [.string "a", .number (.ofInt 18446744073709551615)]]
  let mixed : Json := .array [.string "a", .array [.string "k", .string "v"]]
  have pairsText : "[[-9223372036854775808,true],[\"a\",18446744073709551615]]" =
      String.ofList pairs.compact := by decide +kernel
  have mixedText : "[\"a\",[\"k\",\"v\"]]" = String.ofList mixed.compact := by decide +kernel
  -- The bounds themselves are still integers.
  have least : Json.IsFloatless (.number (.ofInt (-9223372036854775808))) :=
    .integer (by decide) (by decide)
  have greatest : Json.IsFloatless (.number (.ofInt 18446744073709551615)) :=
    .integer (by decide) (by decide)
  -- The texts are the values on one line.
  constructor
  · have floatless : pairs.IsFloatless := by
      refine .array ?_
      simp only [List.forall_mem_cons, List.not_mem_nil, false_implies, implies_true, and_true]
      exact ⟨.array (by simp [least, Json.IsFloatless.bool]),
        .array (by simp [greatest, Json.IsFloatless.string])⟩
    rw [pairsText, toOption_ofJson_of_layout floatless
      (by rw [String.toList_ofList]; exact Json.layout_compact pairs)]
    decide +kernel
  · have floatless : mixed.IsFloatless := by
      refine .array ?_
      simp only [List.forall_mem_cons, List.not_mem_nil, false_implies, implies_true, and_true]
      exact ⟨.string "a", .array (by simp [Json.IsFloatless.string])⟩
    rw [mixedText, toOption_ofJson_of_layout floatless
      (by rw [String.toList_ofList]; exact Json.layout_compact mixed)]
    decide +kernel

end Value

end Locator
