import Locator.Proofs.Json.Writing

/-! The indented form of a JSON value is a layout of its tokens, so that it is read back as the one
on a single line is. -/

namespace Locator

namespace JsonToken

/-- Blanks in front of a layout make a layout of the same tokens. -/
theorem Layout.append_blank {tokens : List JsonToken} {text blanks : List Char}
    (blank : blanks.all isBlank) (layout : Layout tokens text) : Layout tokens (blanks ++ text) := by
  -- They join the blanks in front of the first token.
  cases layout with
  | nil others => exact .nil (by simp [blank, others])
  | cons others spelled ends behind =>
    rw [← List.append_assoc]
    exact .cons (by rw [List.all_append, blank, others]; rfl) spelled ends behind

end JsonToken

namespace Json

open JsonToken

/-- A new line with its indentation is blank. -/
theorem all_isBlank_newLine (level : Nat) : (newLine level).all JsonToken.isBlank := by
  -- A new line is a line feed and spaces.
  simp [newLine, JsonToken.isBlank]

/-- A new line ends a number. -/
theorem endsNumber_newLine (level : Nat) (rest : List Char) :
    endsNumber (newLine level ++ rest) := by
  -- A line feed continues no number.
  simp [endsNumber, newLine, continuesNumber]

mutual

/-- An indented value is a layout of its tokens, at every level and whatever they are followed by.
-/
theorem layout_pretty_append (json : Json) (level : Nat) {tokens : List JsonToken}
    {rest : List Char} (ends : endsNumber rest) (others : Layout tokens rest) :
    Layout (json.tokens ++ tokens) (json.pretty level ++ rest) := by
  -- The induction is on the value; the containers leave it to their items and members.
  cases json with
  | null => exact layout_cons .null nofun others
  | bool flag =>
    cases flag with
    | true => exact layout_cons (.bool true) nofun others
    | false => exact layout_cons (.bool false) nofun others
  | number n => exact layout_cons (.number (JsonNumber.readNumber_write n)) (fun _ => ends) others
  | string text => exact layout_cons (spells_quote text) nofun others
  | array items =>
    cases items with
    | nil =>
      -- Brackets with nothing between them stay on one line.
      rw [Json.tokens, itemTokens, pretty]
      show Layout (.openArray :: .closeArray :: tokens) (['['] ++ ([']'] ++ rest))
      exact layout_cons .openArray nofun (layout_cons .closeArray nofun others)
    | cons item items =>
      rw [Json.tokens, pretty, List.cons_append, List.cons_append]
      · exact layout_cons .openArray nofun (layout_prettyItems (item :: items) level others)
      · exact List.cons_ne_nil _ _
  | object members =>
    cases members with
    | nil =>
      -- So do braces.
      rw [Json.tokens, memberTokens, pretty]
      show Layout (.openObject :: .closeObject :: tokens) (['\x7b'] ++ (['\x7d'] ++ rest))
      exact layout_cons .openObject nofun (layout_cons .closeObject nofun others)
    | cons member members =>
      rw [Json.tokens, pretty, List.cons_append, List.cons_append]
      · exact layout_cons .openObject nofun (layout_prettyMembers (member :: members) level others)
      · exact List.cons_ne_nil _ _

/-- Indented array items are a layout of their tokens. -/
theorem layout_prettyItems (items : List Json) (level : Nat) {tokens : List JsonToken}
    {rest : List Char} (others : Layout tokens rest) :
    Layout (itemTokens items ++ tokens) (prettyItems level items ++ rest) := by
  -- The closing bracket stands on a line of its own.
  have closed : Layout (.closeArray :: tokens) (newLine level ++ ([']'] ++ rest)) :=
    (layout_cons .closeArray nofun others).append_blank (all_isBlank_newLine level)
  cases items with
  | nil =>
    rw [itemTokens, prettyItems, List.append_assoc]
    exact closed
  | cons item items =>
    cases items with
    | nil =>
      rw [itemTokens, prettyItems]
      simp only [List.append_assoc]
      -- The new line in front of the closing bracket ends a number.
      refine Layout.append_blank (all_isBlank_newLine _) ?_
      exact layout_pretty_append item _ (endsNumber_newLine level _) closed
    | cons next items =>
      have behind := layout_prettyItems (next :: items) level others
      rw [itemTokens, prettyItems]
      · simp only [List.append_assoc, List.cons_append]
        -- A comma ends a number.
        refine Layout.append_blank (all_isBlank_newLine _) ?_
        refine layout_pretty_append item _ ?_ (layout_cons .comma nofun behind)
        simp [endsNumber, continuesNumber]
      all_goals exact List.cons_ne_nil _ _

/-- Indented object members are a layout of their tokens. -/
theorem layout_prettyMembers (members : List (String × Json)) (level : Nat)
    {tokens : List JsonToken} {rest : List Char} (others : Layout tokens rest) :
    Layout (memberTokens members ++ tokens) (prettyMembers level members ++ rest) := by
  -- The closing brace stands on a line of its own.
  have closed : Layout (.closeObject :: tokens) (newLine level ++ (['\x7d'] ++ rest)) :=
    (layout_cons .closeObject nofun others).append_blank (all_isBlank_newLine level)
  cases members with
  | nil =>
    rw [memberTokens, prettyMembers, List.append_assoc]
    exact closed
  | cons member members =>
    obtain ⟨key, value⟩ := member
    -- One blank stands between the colon and the value.
    have space : [' '].all JsonToken.isBlank := rfl
    cases members with
    | nil =>
      rw [memberTokens, prettyMembers]
      simp only [List.append_assoc, List.cons_append, List.nil_append]
      -- The only member stands on a line of its own, in front of the brace.
      refine Layout.append_blank (all_isBlank_newLine _) ?_
      refine layout_cons (spells_quote key) nofun (layout_cons .colon nofun ?_)
      refine Layout.append_blank space ?_
      exact layout_pretty_append value _ (endsNumber_newLine level _) closed
    | cons next members =>
      -- A comma stands between the member and the next one, which ends a number too.
      have behind := layout_prettyMembers (next :: members) level others
      rw [memberTokens, prettyMembers]
      · simp only [List.append_assoc, List.cons_append]
        refine Layout.append_blank (all_isBlank_newLine _) ?_
        refine layout_cons (spells_quote key) nofun (layout_cons .colon nofun ?_)
        refine Layout.append_blank space ?_
        refine layout_pretty_append value _ ?_ (layout_cons .comma nofun behind)
        simp [endsNumber, continuesNumber]
      all_goals exact List.cons_ne_nil _ _

end

/-- An indented value is a layout of its tokens. -/
theorem layout_pretty (json : Json) (level : Nat) : Layout json.tokens (json.pretty level) := by
  -- Nothing follows the whole value.
  have whole := @layout_pretty_append json level [] [] nofun (.nil rfl)
  rwa [List.append_nil, List.append_nil] at whole

end Json

end Locator
