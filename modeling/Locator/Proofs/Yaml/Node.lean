import Locator.Proofs.Yaml.Json
import Locator.Yaml.Node.Reading

/-! JSON values as YAML nodes: the tokens that a value may be read as inside flow collections are
read back as its node. -/

namespace Locator

namespace YamlNode

/-- Whether a token opens the value of a JSON text. -/
def opensValue : YamlToken → Bool
  | .scalar _ _ | .openFlowSequence | .openFlowMapping => true
  | _ => false

/-- The tokens of a value open with one that can. -/
theorem exists_flowTokens {json : Json} {node : YamlNode} (reads : json.ReadsAs node) :
    ∃ token more, node.flowTokens = token :: more ∧ opensValue token := by
  -- The kinds of nodes are gone through.
  cases reads <;> exact ⟨_, _, rfl, rfl⟩

/-- The tokens of items open with the first one. -/
theorem exists_flowItemTokens {json : Json} {node : YamlNode} (reads : json.ReadsAs node)
    (nodes : List YamlNode) :
    ∃ token more, flowItemTokens (node :: nodes) = token :: more ∧ opensValue token := by
  -- The first item opens the list, whether others follow or not.
  obtain ⟨token, more, front, opens⟩ := exists_flowTokens reads
  cases nodes with
  | nil => exact ⟨token, _, by rw [flowItemTokens, front, List.cons_append], opens⟩
  | cons following nodes =>
    exact ⟨token, more ++ .flowEntry :: flowItemTokens (following :: nodes),
      by simp [flowItemTokens, front], opens⟩

/-- The tokens of entries open with the mark of a key. -/
theorem exists_flowEntryTokens (entry : YamlNode × YamlNode)
    (entries : List (YamlNode × YamlNode)) :
    ∃ more, flowEntryTokens (entry :: entries) = .key :: more := by
  -- An entry opens with its key, whether others follow or not.
  cases entries <;> exact ⟨_, rfl⟩

section Reading

variable (shorthands : Shorthands)

/-- A scalar is a node. -/
theorem node?_scalar (inBlock bare : Bool) (text : List Char) (plain : Bool)
    (rest : List YamlToken) :
    node? shorthands inBlock bare (.scalar text plain :: rest) =
      some (.scalar .none text plain, ⟨rest, Nat.lt_succ_self rest.length⟩) := by
  -- A scalar is one token, without properties in front.
  rw [node?.eq_def]
  rfl

variable {shorthands} {tokens rest after : List YamlToken}

/-- A sequence is a node. -/
theorem exists_node?_sequence (inBlock bare : Bool) {items : List YamlNode}
    (read : ∃ less, flowItems? shorthands true tokens = some (items, ⟨rest, less⟩)) :
    ∃ less, node? shorthands inBlock bare (.openFlowSequence :: tokens) =
      some (.sequence .none items, ⟨rest, less⟩) := by
  -- Behind the bracket there are the items.
  obtain ⟨less, read⟩ := read
  refine ⟨Nat.lt_succ_of_lt less, ?_⟩
  rw [node?.eq_def]
  simp [NodeProperties.read?, read]

/-- A mapping is a node. -/
theorem exists_node?_mapping (inBlock bare : Bool) {entries : List (YamlNode × YamlNode)}
    (read : ∃ less, flowEntries? shorthands true tokens = some (entries, ⟨rest, less⟩)) :
    ∃ less, node? shorthands inBlock bare (.openFlowMapping :: tokens) =
      some (.mapping .none entries, ⟨rest, less⟩) := by
  -- Behind the brace there are the entries.
  obtain ⟨less, read⟩ := read
  refine ⟨Nat.lt_succ_of_lt less, ?_⟩
  rw [node?.eq_def]
  simp [NodeProperties.read?, read]

/-- A node that a value opens is an item. -/
theorem exists_flowItems?_cons {token : YamlToken} (opens : opensValue token) {item : YamlNode}
    {items : List YamlNode}
    (read : ∃ less, node? shorthands false false (token :: tokens) = some (item, ⟨after, less⟩))
    (others : ∃ less, flowItems? shorthands false after = some (items, ⟨rest, less⟩)) :
    ∃ less, flowItems? shorthands true (token :: tokens) = some (item :: items, ⟨rest, less⟩) := by
  obtain ⟨close, read⟩ := read
  obtain ⟨less, others⟩ := others
  refine ⟨Nat.lt_trans less close, ?_⟩
  -- The token neither closes the sequence nor marks a key, so that a node is read.
  rw [flowItems?.eq_2, flowItem?.eq_2, read]
  · simp [others]
  · rintro _ _ ⟨⟩
    cases opens
  · rintro _ ⟨⟩
    cases opens

/-- Behind a comma items go on as if they were the first ones. -/
theorem exists_flowItems?_comma {token : YamlToken} (opens : opensValue token)
    {items : List YamlNode}
    (read : ∃ less, flowItems? shorthands true (token :: tokens) = some (items, ⟨rest, less⟩)) :
    ∃ less, flowItems? shorthands false (.flowEntry :: token :: tokens) =
      some (items, ⟨rest, less⟩) := by
  obtain ⟨less, read⟩ := read
  refine ⟨Nat.lt_succ_of_lt less, ?_⟩
  -- Something has to follow a comma, and it is no closing bracket.
  have notClosed : ∀ rest, token :: tokens = .closeFlowSequence :: rest → False := by
    rintro _ ⟨⟩
    cases opens
  rw [flowItems?.eq_2 _ _ notClosed] at read
  rw [flowItems?.eq_4 _ _ notClosed]
  simp only [Option.bind_eq_bind, Option.bind_eq_some_iff] at read ⊢
  obtain ⟨⟨item, after, close⟩, first, ⟨others, past, further⟩, more, same⟩ := read
  refine ⟨⟨item, after, close⟩, first, ⟨others, past, further⟩, more, ?_⟩
  cases same
  rfl

/-- A key and a value that can open one are an entry. -/
theorem exists_flowEntries?_cons {token : YamlToken} (opens : opensValue token) {key : List Char}
    {node : YamlNode} {entries : List (YamlNode × YamlNode)}
    (read : ∃ less, node? shorthands false false (token :: tokens) = some (node, ⟨after, less⟩))
    (others : ∃ less, flowEntries? shorthands false after = some (entries, ⟨rest, less⟩)) :
    ∃ less, flowEntries? shorthands true (.key :: .scalar key false :: .value :: token :: tokens) =
      some ((.scalar .none key false, node) :: entries, ⟨rest, less⟩) := by
  obtain ⟨close, read⟩ := read
  obtain ⟨less, others⟩ := others
  have further : rest.length <
      (.key :: .scalar key false :: .value :: token :: tokens : List YamlToken).length := by
    simp only [List.length_cons] at close ⊢
    omega
  refine ⟨further, ?_⟩
  -- A key and a value stand behind their marks, so that neither is left out.
  have keyStays : endsFlowKey (.scalar key false) = false := rfl
  have valueStays : endsFlowValue token = false := by
    cases token <;> first | rfl | cases opens
  rw [flowEntries?.eq_2 _ _ (by rintro _ ⟨⟩), flowEntry?.eq_1, optional?.eq_1, node?_scalar]
  simp [keyStays, value?.eq_1, optional?.eq_1, valueStays, read, others]

/-- Behind a comma entries go on as if they were the first ones. -/
theorem exists_flowEntries?_comma {entries : List (YamlNode × YamlNode)}
    (read : ∃ less, flowEntries? shorthands true (.key :: tokens) = some (entries, ⟨rest, less⟩)) :
    ∃ less, flowEntries? shorthands false (.flowEntry :: .key :: tokens) =
      some (entries, ⟨rest, less⟩) := by
  -- Behind a comma the entries are read as they are at the front.
  obtain ⟨less, read⟩ := read
  refine ⟨Nat.lt_succ_of_lt less, ?_⟩
  rw [flowEntries?.eq_2 _ _ (by rintro _ ⟨⟩)] at read
  rw [flowEntries?.eq_4 _ _ (by rintro _ ⟨⟩)]
  simp only [Option.bind_eq_bind, Option.bind_eq_some_iff] at read ⊢
  obtain ⟨⟨entry, after, close⟩, first, ⟨others, past, further⟩, more, same⟩ := read
  refine ⟨⟨entry, after, close⟩, first, ⟨others, past, further⟩, more, ?_⟩
  cases same
  rfl

end Reading

mutual

/-- The tokens of a value are read as its node. -/
theorem exists_node?_flowTokens (shorthands : Shorthands) (inBlock bare : Bool) (json : Json)
    {node : YamlNode} (reads : json.ReadsAs node) (rest : List YamlToken) :
    ∃ less, node? shorthands inBlock bare (node.flowTokens ++ rest) =
      some (node, ⟨rest, less⟩) := by
  -- The induction is on the value; the containers leave it to their items and members.
  cases json with
  | null | bool | number | string =>
    cases reads
    exact ⟨_, node?_scalar shorthands inBlock bare _ _ rest⟩
  | array items =>
    cases reads with
    | array parts =>
      exact exists_node?_sequence inBlock bare
        (exists_flowItems?_flowItemTokens shorthands items parts rest)
  | object members =>
    cases reads with
    | object parts =>
      exact exists_node?_mapping inBlock bare
        (exists_flowEntries?_flowEntryTokens shorthands members parts rest)

/-- The tokens of array items are read as their nodes. -/
theorem exists_flowItems?_flowItemTokens (shorthands : Shorthands) (items : List Json)
    {nodes : List YamlNode} (reads : Json.ItemsReadAs items nodes) (rest : List YamlToken) :
    ∃ less, flowItems? shorthands true (flowItemTokens nodes ++ rest) =
      some (nodes, ⟨rest, less⟩) := by
  cases items with
  | nil =>
    -- No items are read from the closing bracket alone.
    cases reads
    exact ⟨_, flowItems?.eq_1 shorthands true rest⟩
  | cons item items =>
    cases reads with
    | @cons _ _ node nodes first others =>
      -- The item opens with a token that does not close the sequence.
      obtain ⟨token, more, front, opens⟩ := exists_flowTokens first
      cases others with
      | nil =>
        -- The closing bracket follows the only item.
        have read :=
          exists_node?_flowTokens shorthands false false item first (.closeFlowSequence :: rest)
        have whole : flowItemTokens [node] ++ rest =
            token :: (more ++ .closeFlowSequence :: rest) := by
          simp [flowItemTokens, front]
        rw [front, List.cons_append] at read
        rw [whole]
        exact exists_flowItems?_cons opens read ⟨_, flowItems?.eq_1 shorthands false rest⟩
      | @cons following items next nodes second others =>
        -- The item ends at the comma, and the others follow it.
        have read := exists_node?_flowTokens shorthands false false item first
          (.flowEntry :: (flowItemTokens (next :: nodes) ++ rest))
        have behind := exists_flowItems?_flowItemTokens shorthands (following :: items)
          (.cons second others) rest
        obtain ⟨token', more', front', opens'⟩ := exists_flowItemTokens second nodes
        have whole : flowItemTokens (node :: next :: nodes) ++ rest =
            token :: (more ++ .flowEntry :: (flowItemTokens (next :: nodes) ++ rest)) := by
          simp [flowItemTokens, front]
        rw [front, List.cons_append] at read
        rw [whole]
        refine exists_flowItems?_cons opens read ?_
        rw [front', List.cons_append] at behind ⊢
        exact exists_flowItems?_comma opens' behind

/-- The tokens of object members are read as their nodes. -/
theorem exists_flowEntries?_flowEntryTokens (shorthands : Shorthands)
    (members : List (String × Json)) {entries : List (YamlNode × YamlNode)}
    (reads : Json.MembersReadAs members entries) (rest : List YamlToken) :
    ∃ less, flowEntries? shorthands true (flowEntryTokens entries ++ rest) =
      some (entries, ⟨rest, less⟩) := by
  -- The recursion is on the members, which the entries follow one by one.
  cases members with
  | nil =>
    cases reads
    exact ⟨_, flowEntries?.eq_1 shorthands true rest⟩
  | cons member members =>
    cases reads with
    | @cons key value _ node entries first others =>
      -- The node behind the key opens with a token that may start a value.
      obtain ⟨token, more, front, opens⟩ := exists_flowTokens first
      cases others with
      | nil =>
        -- Behind the last entry the brace closes the mapping.
        have read :=
          exists_node?_flowTokens shorthands false false value first (.closeFlowMapping :: rest)
        have whole : flowEntryTokens [(.scalar .none key.toList false, node)] ++ rest =
            .key :: .scalar key.toList false :: .value ::
              token :: (more ++ .closeFlowMapping :: rest) :=
          calc
            flowEntryTokens [(.scalar .none key.toList false, node)] ++ rest =
                .key :: .scalar key.toList false :: .value ::
                  (node.flowTokens ++ .closeFlowMapping :: rest) := by
              simp [flowEntryTokens, flowTokens]
            _ = _ := by rw [front, List.cons_append]
        rw [front, List.cons_append] at read
        rw [whole]
        exact exists_flowEntries?_cons opens read ⟨_, flowEntries?.eq_1 shorthands false rest⟩
      | @cons key' value' members node' entries second others =>
        -- Behind any other entry there is a comma, and then the other entries in the same way.
        have read := exists_node?_flowTokens shorthands false false value first (.flowEntry ::
          (flowEntryTokens ((.scalar .none key'.toList false, node') :: entries) ++ rest))
        have behind := exists_flowEntries?_flowEntryTokens shorthands ((key', value') :: members)
          (.cons second others) rest
        obtain ⟨more', front'⟩ :=
          exists_flowEntryTokens (.scalar .none key'.toList false, node') entries
        have whole : flowEntryTokens ((.scalar .none key.toList false, node) ::
              (.scalar .none key'.toList false, node') :: entries) ++ rest =
            .key :: .scalar key.toList false :: .value :: token :: (more ++ .flowEntry ::
              (flowEntryTokens ((.scalar .none key'.toList false, node') :: entries) ++ rest)) :=
          calc
            flowEntryTokens ((.scalar .none key.toList false, node) ::
                (.scalar .none key'.toList false, node') :: entries) ++ rest =
                .key :: .scalar key.toList false :: .value :: (node.flowTokens ++ .flowEntry ::
                  (flowEntryTokens ((.scalar .none key'.toList false, node') :: entries) ++
                    rest)) := by
              simp [flowEntryTokens, flowTokens]
            _ = _ := by rw [front, List.cons_append]
        rw [front, List.cons_append] at read
        rw [whole]
        refine exists_flowEntries?_cons opens read ?_
        -- The other entries open with a key, which is what a comma has to be followed by.
        rw [front', List.cons_append] at behind ⊢
        exact exists_flowEntries?_comma behind

end

/-- The tokens of an object are the only document of a text. -/
theorem ofTokens?_flowTokens {members : List (String × Json)} {node : YamlNode}
    (reads : (Json.object members).ReadsAs node) :
    ofTokens? node.flowTokens = some (some node) := by
  cases reads with
  | @object _ entries parts =>
    have inner := exists_flowEntries?_flowEntryTokens standardShorthands members parts []
    rw [List.append_nil] at inner
    obtain ⟨less, read⟩ := exists_node?_mapping true false inner
    -- No directives stand in front of the root, and no second document follows it.
    have front : readDirectives? false [] (.openFlowMapping :: flowEntryTokens entries) =
        some ([], .openFlowMapping :: flowEntryTokens entries) := rfl
    have root : root? (.openFlowMapping :: flowEntryTokens entries) =
        some (.mapping .none entries, []) := by
      rw [root?, front]
      simp [read]
    rw [flowTokens, ofTokens?, root]
    rfl

end YamlNode

end Locator
