import Locator.Proofs.Document.Yaml
import Mathlib.Control.Monad.Basic

/-! Bindings in JSON are bindings in YAML wherever both notations read the text alike. -/

namespace Locator

/-- An integer of 64 bits is spelled alike in both notations. -/
theorem JsonToken.spellsAlike_ofInt {i : Int} (low : -2 ^ 63 ≤ i) (high : i < 2 ^ 64) :
    SpellsAlike (.number (.ofInt i)) (JsonNumber.ofInt i).write :=
  .number (JsonNumber.readNumber_write _) (JsonNumber.scalar?_ofInt low high)

namespace Document

/-- The document of an object that JSON can read to its end is its document in YAML too, but for the
spelling of numbers. -/
theorem unwritten_ofYaml_of_layout {members : List (String × Json)} {text : String}
    (laid : JsonToken.FlowLayout (Json.object members).tokens text.toList)
    (untabbed : '\t' ∉ text.toList.takeWhile JsonToken.isBlank)
    (sound : (ofDraft jsonDepth (Json.object members).draft).isSound) :
    (ofYaml text).unwritten = (ofDraft jsonDepth (Json.object members).draft).unwritten := by
  -- The tokens make up one node, and the node expands without following any reference.
  obtain ⟨node, reads, tokens⟩ := YamlToken.ofText?_of_layout laid untabbed
  have found : YamlNode.ofText? text = some (some node) := by
    rw [YamlNode.ofText?, tokens, Option.bind_some, YamlNode.ofTokens?_flowTokens reads]
  obtain ⟨document, expanded, alike⟩ := YamlNode.exists_expand node.anchored.reverse
    (.object members) jsonDepth sound reads (yamlRepetition * node.weight)
  rw [ofYaml, found, ← alike]
  exact congrArg (fun result => result.1.unwritten) expanded

/-- A JSON value that holds bindings is an object. -/
theorem exists_object_of_bindings {json : Json} {depth : Nat} {bindings : Bindings}
    (held : (ofDraft depth json.draft).bindings = .ok bindings) :
    ∃ members, json = .object members := by
  cases json with
  | object members => exact ⟨members, rfl⟩
  | null | bool | string => exact absurd held mismatch_ne_ok
  | number n =>
    -- A number is a scalar or, beyond all floats, a fault.
    rw [Json.draft, ofDraft, ofJsonNumber] at held
    split at held <;> exact absurd held mismatch_ne_ok
  | array items =>
    cases depth <;> exact absurd held mismatch_ne_ok

end Document

namespace Bindings

open JsonToken (FlowLayout)

/-- Bindings that are read from a JSON text which is laid out so that YAML finds the same in it are
read from a file with that text too. -/
theorem ofYaml_of_ofJson {json : Json} {text : String} {bindings : Bindings}
    (laid : FlowLayout json.tokens text.toList)
    (untabbed : '\t' ∉ text.toList.takeWhile JsonToken.isBlank)
    (read : ofJson text = .ok bindings) :
    ofYaml text = .ok bindings ∧
      ∀ (files : Files) (path : String), files.text path = .ok text →
        load files path = .ok bindings := by
  have held := (Document.exists_of_readJson read).2
  rw [JsonDraft.read_of_layout laid.layout] at held
  obtain ⟨members, rfl⟩ := Document.exists_object_of_bindings held
  -- Bindings are read from a document without faults, which YAML expands to its end as well.
  have document :=
    Document.unwritten_ofYaml_of_layout laid untabbed (Document.isSound_of_bindings held)
  rw [Json.draft, Document.jsonDepth, Document.ofDraft_object] at document held
  have visible : text.toList.all isBlank = false := by
    -- The opening brace is no blank.
    have brace : isBlank '\x7b' = false := by decide
    rw [Json.tokens] at laid
    generalize text.toList = chars at laid
    cases laid with
    | cons _ spelled =>
      cases spelled with
      | fixed spelled =>
        cases spelled
        simp [brace]
  -- The spelling of numbers is all that differs, and bindings do not depend on it.
  have yaml : ofYaml text = .ok bindings := by
    rw [ofYaml, visible, if_neg Bool.false_ne_true, Document.bindings_of_unwritten document, held]
  refine ⟨yaml, fun files path found => ?_⟩
  rw [load_of_text found, yaml]
  rfl

/-- Two lines with a number in scientific form, an escape by code, a list with an integer, and a tab
behind. -/
theorem ofYaml_of_ofJson_of_lines :
    ∃ text bindings, text = "\x7b\"n\": 1E2,\n\"l\": [\"\\u0041\",-7]\x7d\t\n" ∧
      bindings = ⟨[("l", .list ["A", "-7"]), ("n", .scalar "100")]⟩ ∧
      ofJson text = .ok bindings ∧ ofYaml text = .ok bindings ∧
      load (fun _ => .ok (Utf8.encode text.toList)) "v.json" = .ok bindings := by
  -- The text is laid out from its end on.
  have ends : FlowLayout [.closeArray, .closeObject] [']', '\x7d', '\t', '\n'] :=
    @FlowLayout.cons _ _ [] [']'] _ rfl (.fixed .closeArray rfl) nofun
      (@FlowLayout.cons _ _ [] ['\x7d'] _ rfl (.fixed .closeObject rfl) nofun
        (@FlowLayout.nil ['\t'] ['\n'] rfl rfl (by decide)))
  have integer := @FlowLayout.cons _ _ [] _ _ rfl
    (JsonToken.spellsAlike_ofInt (by decide : (-2 ^ 63 : Int) ≤ -7) (by decide))
    (fun _ c first => by cases first; rfl) ends
  have letter : JsonToken.SpellsTextAlike "A".toList ['\\', 'u', '0', '0', '4', '1'] :=
    @JsonToken.SpellsTextAlike.cons 'A' _ [] [] (.code rfl) (by decide) (by decide) .nil
  have list := @FlowLayout.cons _ _ [' '] ['['] _ rfl (.fixed .openArray rfl) nofun
    (@FlowLayout.cons _ _ [] _ _ rfl (.string letter) nofun
      (@FlowLayout.cons _ _ [] [','] _ rfl (.fixed .comma rfl) nofun integer))
  have member := @FlowLayout.key "l" _ ['\n'] ['l'] [] _ rfl
    (JsonToken.spellsTextAlike_self (by decide)) rfl (by decide) list
  have number := @FlowLayout.cons (.number ⟨false, 1, [], some 2⟩) _ [' '] ['1', 'E', '2'] _ rfl
    (.number rfl (by decide +kernel)) (fun _ c first => by cases first; rfl)
    (@FlowLayout.cons _ _ [] [','] _ rfl (.fixed .comma rfl) nofun member)
  have laid : FlowLayout
      (Json.object [("n", .number ⟨false, 1, [], some 2⟩),
        ("l", .array [.string "A", .number (.ofInt (-7))])]).tokens
      "\x7b\"n\": 1E2,\n\"l\": [\"\\u0041\",-7]\x7d\t\n".toList :=
    @FlowLayout.cons _ _ [] ['\x7b'] _ rfl (.fixed .openObject rfl) nofun
      (@FlowLayout.key "n" _ [] ['n'] [] _ rfl
        (JsonToken.spellsTextAlike_self (by decide)) rfl (by decide) number)
  have read : ofJson "\x7b\"n\": 1E2,\n\"l\": [\"\\u0041\",-7]\x7d\t\n" =
      .ok ⟨[("l", .list ["A", "-7"]), ("n", .scalar "100")]⟩ := by
    decide +kernel
  obtain ⟨yaml, loaded⟩ := ofYaml_of_ofJson laid (by decide) read
  exact ⟨_, _, rfl, rfl, read, yaml, loaded _ _ (by decide +kernel)⟩

/-- A character that JSON spells as two halves is refused in YAML. -/
theorem ofYaml_refuses_surrogate_pair :
    ofJson "\x7b\"a\": \"\\ud83d\\ude00\"\x7d" = .ok ⟨[("a", .scalar "😀")]⟩ ∧
      ofYaml "\x7b\"a\": \"\\ud83d\\ude00\"\x7d" = .error ⟨[], .fault .malformed⟩ := by
  -- Both readers are run on the text.
  decide +kernel

end Bindings

end Locator
