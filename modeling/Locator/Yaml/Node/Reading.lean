import Locator.Yaml.Node
import Locator.Yaml.Stream

/-! Reading the tree of nodes off the tokens of a YAML text. -/

namespace Locator

namespace YamlNode

/-- Something read off the front of tokens, and the fewer tokens that follow. -/
abbrev Taken (α : Type) (tokens : List YamlToken) :=
  Option (α × { rest : List YamlToken // rest.length < tokens.length })

/-- Something that may be missing in front of tokens, and the tokens that follow. -/
abbrev Offered (α : Type) (tokens : List YamlToken) :=
  Option (α × { rest : List YamlToken // rest.length ≤ tokens.length })

/-- The node that stands where none is written. -/
def missing (properties : NodeProperties) : YamlNode :=
  scalar properties [] true

/-- The tokens that end an item of a block sequence. -/
def endsBlockItem : YamlToken → Bool
  | .blockEntry | .closeBlock => true
  | _ => false

/-- The tokens that end a key or a value of a block mapping. -/
def endsBlockMember : YamlToken → Bool
  | .key | .value | .closeBlock => true
  | _ => false

/-- The tokens that end an item of a sequence that is not indented. -/
def endsBareItem (token : YamlToken) : Bool :=
  endsBlockItem token || endsBlockMember token

/-- The tokens that end an item of a flow sequence. -/
def endsFlowItem : YamlToken → Bool
  | .flowEntry | .closeFlowSequence => true
  | _ => false

/-- The tokens that end a value of a flow mapping. -/
def endsFlowValue : YamlToken → Bool
  | .flowEntry | .closeFlowMapping => true
  | _ => false

/-- The tokens that end a key of a flow mapping. -/
def endsFlowKey (token : YamlToken) : Bool :=
  token = .value || endsFlowValue token

mutual

/-- A node. Collections by indentation stand only in blocks, and a sequence that is not indented
only as a key or a value there. A node of properties alone is an empty scalar. -/
def node? (shorthands : Shorthands) (inBlock bare : Bool) (tokens : List YamlToken) :
    Taken YamlNode tokens :=
  match tokens with
  -- A reference is a node by itself and takes neither an anchor nor a tag.
  | .reference number :: rest => some (reference number, ⟨rest, by simp⟩)
  | tokens => do
    let (properties, ⟨rest, bound⟩) ← NodeProperties.read? shorthands tokens
    match rest, bound, inBlock, bare with
    | .scalar text plain :: after, bound, _, _ =>
      some (scalar properties text plain, ⟨after, by simp only [List.length_cons] at bound; omega⟩)
    | .openFlowSequence :: after, bound, _, _ =>
      let (items, ⟨past, less⟩) ← flowItems? shorthands true after
      some (sequence properties items, ⟨past, by simp only [List.length_cons] at bound; omega⟩)
    | .openFlowMapping :: after, bound, _, _ =>
      let (entries, ⟨past, less⟩) ← flowEntries? shorthands true after
      some (mapping properties entries, ⟨past, by simp only [List.length_cons] at bound; omega⟩)
    -- Inside a flow collection the layout opens no blocks, so these need no case there.
    | .openBlockSequence :: after, bound, true, _ =>
      let (items, ⟨past, less⟩) ← blockItems? shorthands after
      some (sequence properties items, ⟨past, by simp only [List.length_cons] at bound; omega⟩)
    | .openBlockMapping :: after, bound, true, _ =>
      let (entries, ⟨past, less⟩) ← blockEntries? shorthands after
      some (mapping properties entries, ⟨past, by simp only [List.length_cons] at bound; omega⟩)
    -- An entry that opens no block is the first item of a sequence at its parent's column.
    | .blockEntry :: after, bound, _, true =>
      let (item, ⟨next, close⟩) ← optional? shorthands true false endsBareItem after
      have shorter : next.length < tokens.length := by
        simp only [List.length_cons] at bound
        omega
      let (items, ⟨past, less⟩) ← bareItems? shorthands next
      some (sequence properties (item :: items), ⟨past, Nat.lt_of_le_of_lt less shorter⟩)
    -- Nothing of a node follows; that is an empty scalar only after an anchor or a tag.
    | rest, _, _, _ =>
      if less : rest.length < tokens.length then some (missing properties, ⟨rest, less⟩) else none
termination_by 4 * tokens.length
decreasing_by
  all_goals
    simp only [List.length_cons] at *
    omega

/-- A node, or nothing where a token ends its place at once. -/
def optional? (shorthands : Shorthands) (inBlock bare : Bool) (ends : YamlToken → Bool)
    (tokens : List YamlToken) : Offered YamlNode tokens :=
  if tokens.head?.any ends then some (missing .none, ⟨tokens, Nat.le_refl _⟩)
  else do
    let (node, ⟨rest, less⟩) ← node? shorthands inBlock bare tokens
    some (node, ⟨rest, Nat.le_of_lt less⟩)
termination_by 4 * tokens.length + 1
decreasing_by omega

/-- The value that follows a key, or nothing. -/
def value? (shorthands : Shorthands) (inBlock : Bool) (ends : YamlToken → Bool)
    (tokens : List YamlToken) : Offered YamlNode tokens :=
  match tokens with
  | .value :: rest => do
    let (node, ⟨past, close⟩) ← optional? shorthands inBlock inBlock ends rest
    some (node, ⟨past, by simp only [List.length_cons]; omega⟩)
  | tokens => some (missing .none, ⟨tokens, Nat.le_refl _⟩)
termination_by 4 * tokens.length + 2
decreasing_by
  all_goals
    simp only [List.length_cons] at *
    omega

/-- The items of a block sequence to its end. -/
def blockItems? (shorthands : Shorthands) (tokens : List YamlToken) :
    Taken (List YamlNode) tokens :=
  match tokens with
  | .closeBlock :: rest => some ([], ⟨rest, by simp⟩)
  | .blockEntry :: rest => do
    let (item, ⟨after, close⟩) ← optional? shorthands true false endsBlockItem rest
    let (items, ⟨past, less⟩) ← blockItems? shorthands after
    some (item :: items, ⟨past, by simp only [List.length_cons]; omega⟩)
  | _ => none
termination_by 4 * tokens.length
decreasing_by
  all_goals
    simp only [List.length_cons] at *
    omega

/-- The items of a sequence that is not indented. -/
def bareItems? (shorthands : Shorthands) (tokens : List YamlToken) :
    Offered (List YamlNode) tokens :=
  match tokens with
  | .blockEntry :: rest => do
    let (item, ⟨after, close⟩) ← optional? shorthands true false endsBareItem rest
    let (items, ⟨past, less⟩) ← bareItems? shorthands after
    some (item :: items, ⟨past, by simp only [List.length_cons]; omega⟩)
  | tokens => some ([], ⟨tokens, Nat.le_refl _⟩)
termination_by 4 * tokens.length
decreasing_by
  all_goals
    simp only [List.length_cons] at *
    omega

/-- The entries of a block mapping to its end. -/
def blockEntries? (shorthands : Shorthands) (tokens : List YamlToken) :
    Taken (List (YamlNode × YamlNode)) tokens :=
  match tokens with
  | .closeBlock :: rest => some ([], ⟨rest, by simp⟩)
  | .key :: rest => do
    let (key, ⟨after, close⟩) ← optional? shorthands true true endsBlockMember rest
    let (value, ⟨next, near⟩) ← value? shorthands true endsBlockMember after
    let (entries, ⟨past, less⟩) ← blockEntries? shorthands next
    some ((key, value) :: entries, ⟨past, by simp only [List.length_cons]; omega⟩)
  | _ => none
termination_by 4 * tokens.length
decreasing_by
  all_goals
    simp only [List.length_cons] at *
    omega

/-- The items of a flow sequence to its end, with a comma in front of each but the first. A comma
may stand before the end. -/
def flowItems? (shorthands : Shorthands) (first : Bool) (tokens : List YamlToken) :
    Taken (List YamlNode) tokens :=
  match first, tokens with
  | _, .closeFlowSequence :: rest => some ([], ⟨rest, by simp⟩)
  -- The first item has no comma in front.
  | true, tokens => do
    let (item, ⟨after, close⟩) ← flowItem? shorthands tokens
    let (items, ⟨past, less⟩) ← flowItems? shorthands false after
    some (item :: items, ⟨past, by omega⟩)
  -- A comma before the end holds no item.
  | false, .flowEntry :: .closeFlowSequence :: rest =>
    some ([], ⟨rest, by simp only [List.length_cons]; omega⟩)
  | false, .flowEntry :: rest => do
    let (item, ⟨after, close⟩) ← flowItem? shorthands rest
    let (items, ⟨past, less⟩) ← flowItems? shorthands false after
    some (item :: items, ⟨past, by simp only [List.length_cons]; omega⟩)
  | false, _ => none
termination_by 4 * tokens.length + 3
decreasing_by
  · omega
  · omega
  · simp only [List.length_cons] at *
    omega
  · simp only [List.length_cons] at *
    omega

/-- An item of a flow sequence: a node, or a mapping of one entry that has a key. What ends the
place of a missing key is skipped with it. -/
def flowItem? (shorthands : Shorthands) (tokens : List YamlToken) : Taken YamlNode tokens :=
  match tokens with
  | .key :: token :: rest =>
    -- Without a key the entry starts with what stands in its place.
    if token = .value ∨ endsFlowItem token then do
      let (value, ⟨past, close⟩) ← value? shorthands false endsFlowItem rest
      some (mapping .none [(missing .none, value)],
        ⟨past, by simp only [List.length_cons]; omega⟩)
    else do
      let (key, ⟨after, less⟩) ← node? shorthands false false (token :: rest)
      have shorter : after.length < (YamlToken.key :: token :: rest).length :=
        Nat.lt_trans less (Nat.lt_succ_self _)
      let (value, ⟨past, close⟩) ← value? shorthands false endsFlowItem after
      some (mapping .none [(key, value)], ⟨past, Nat.lt_of_le_of_lt close shorter⟩)
  | tokens => node? shorthands false false tokens
termination_by 4 * tokens.length + 2
decreasing_by
  · simp only [List.length_cons] at *
    omega
  · simp only [List.length_cons] at *
    omega
  · simp only [List.length_cons] at *
    omega
  · omega

/-- The entries of a flow mapping to its end, with a comma in front of each but the first. A comma
may stand before the end. -/
def flowEntries? (shorthands : Shorthands) (first : Bool) (tokens : List YamlToken) :
    Taken (List (YamlNode × YamlNode)) tokens :=
  match first, tokens with
  | _, .closeFlowMapping :: rest => some ([], ⟨rest, by simp⟩)
  -- The first entry has no comma in front.
  | true, tokens => do
    let (entry, ⟨after, close⟩) ← flowEntry? shorthands tokens
    let (entries, ⟨past, less⟩) ← flowEntries? shorthands false after
    some (entry :: entries, ⟨past, by omega⟩)
  -- A comma before the end holds no entry.
  | false, .flowEntry :: .closeFlowMapping :: rest =>
    some ([], ⟨rest, by simp only [List.length_cons]; omega⟩)
  | false, .flowEntry :: rest => do
    let (entry, ⟨after, close⟩) ← flowEntry? shorthands rest
    let (entries, ⟨past, less⟩) ← flowEntries? shorthands false after
    some (entry :: entries, ⟨past, by simp only [List.length_cons]; omega⟩)
  | false, _ => none
termination_by 4 * tokens.length + 3
decreasing_by
  · omega
  · omega
  · simp only [List.length_cons] at *
    omega
  · simp only [List.length_cons] at *
    omega

/-- An entry of a flow mapping. A node without a mark of a key has no value. -/
def flowEntry? (shorthands : Shorthands) (tokens : List YamlToken) :
    Taken (YamlNode × YamlNode) tokens :=
  match tokens with
  | .key :: rest => do
    let (key, ⟨after, close⟩) ← optional? shorthands false false endsFlowKey rest
    let (value, ⟨past, near⟩) ← value? shorthands false endsFlowValue after
    some ((key, value), ⟨past, by simp only [List.length_cons]; omega⟩)
  | tokens => do
    let (key, ⟨past, less⟩) ← node? shorthands false false tokens
    some ((key, missing .none), ⟨past, less⟩)
termination_by 4 * tokens.length + 2
decreasing_by
  · simp only [List.length_cons] at *
    omega
  · simp only [List.length_cons] at *
    omega
  · omega

end

/-- The version directive and the tag shorthands in front of a document, and the tokens that follow.
There is one version at most, 1.1 or 1.2, and no handle is given twice. -/
def readDirectives? (versioned : Bool) (shorthands : Shorthands) :
    List YamlToken → Option (Shorthands × List YamlToken)
  | .version major minor :: rest =>
    if versioned ∨ major ≠ 1 ∨ (minor ≠ 1 ∧ minor ≠ 2) then none
    else readDirectives? true shorthands rest
  | .shorthand handle meaning :: rest =>
    if (shorthands.lookup handle).isSome then none
    else readDirectives? versioned ((handle, meaning) :: shorthands) rest
  | rest => some (shorthands, rest)

/-- The handles that every document knows unless it says otherwise. -/
def standardShorthands : Shorthands :=
  [("!".toList, "!".toList), ("!!".toList, "tag:yaml.org,2002:".toList)]

/-- The tokens that leave an explicit document empty. -/
def endsDocument : YamlToken → Bool
  | .version _ _ | .shorthand _ _ | .documentStart | .documentEnd => true
  | _ => false

/-- The root that opens a text: after directives and a marker it may be missing, otherwise it has to
be there. -/
def root? (tokens : List YamlToken) : Option (YamlNode × List YamlToken) :=
  match readDirectives? false [] tokens with
  | none => none
  | some (shorthands, .documentStart :: rest) =>
    -- The text's own shorthands come first, so that they win over the standard ones.
    if rest.head?.all endsDocument then some (missing .none, rest)
    else (node? (shorthands ++ standardShorthands) true false rest).map fun (node, rest) =>
      (node, rest.val)
  -- Without a marker a directive is left in front, where no node can start.
  | some _ =>
    (node? standardShorthands true false tokens).map fun (node, rest) => (node, rest.val)

/-- The root of the only document of tokens, none where there is no document. After the root only
end markers may stand. The outer option is none when the tokens form no such thing. -/
def ofTokens? (tokens : List YamlToken) : Option (Option YamlNode) :=
  if tokens.isEmpty then some none
  else
    match root? tokens with
    | none => none
    | some (root, rest) => if rest.all (· = .documentEnd) then some (some root) else none

/-- The root of the only document of a text, none where there is no document. -/
def ofText? (text : String) : Option (Option YamlNode) :=
  (YamlToken.ofText? text).bind ofTokens?

end YamlNode

end Locator
