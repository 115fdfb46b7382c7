import Locator.Document.Json
import Locator.Document.Scalar
import Locator.Proofs.Json.Reading
import Locator.Proofs.Yaml.Flow
import Locator.Yaml.Node

/-! JSON texts as YAML texts: a layout that YAML reads alike has the tokens of the same value there,
with a mark in front of every key. -/

namespace Locator

namespace JsonToken

/-- Whether a token has one spelling only; colons are left to their keys. -/
def isFixed : JsonToken → Bool
  | openArray | closeArray | openObject | closeObject | comma | null | bool _ => true
  | _ => false

/-- Whether a token is a word or a number, which has no quotes. -/
def isPlain : JsonToken → Bool
  | null | bool _ | number _ => true
  | _ => false

/-- Whether a token may follow a value inside a collection. -/
def endsValue : JsonToken → Bool
  | comma | closeArray | closeObject => true
  | _ => false

/-- The spellings of a token that both notations read alike. -/
inductive SpellsAlike : JsonToken → List Char → Prop where
  /-- The only spelling. -/
  | fixed {token : JsonToken} {spelling : List Char} (spelled : Spells token spelling)
    (only : token.isFixed) : SpellsAlike token spelling
  /-- A number whose spelling holds the same in both notations. -/
  | number {n : JsonNumber} {spelling : List Char} (spelled : readNumber spelling = some (n, []))
    (alike : n.scalar? = some (.ofPlain spelling)) : SpellsAlike (number n) spelling
  /-- A text between quotes. -/
  | string {text : String} {body : List Char} (spelled : SpellsTextAlike text.toList body) :
    SpellsAlike (string (some text)) ('"' :: (body ++ ['"']))

/-- The texts that tokens can be laid out as so that YAML finds the same tokens: a colon stands in
the line of its key and close to its start, and no tab stands in a line behind the last token. -/
inductive FlowLayout : List JsonToken → List Char → Prop where
  /-- No tokens, and blanks only; tabs among them end the last line with a token. -/
  | nil {line blanks : List Char} (spacing : line.all Place.isSpacing)
    (blank : blanks.all isBlank) (untabbed : '\t' ∉ blanks) : FlowLayout [] (line ++ blanks)
  /-- Blanks and a spelling of the first token, which the rest does not lengthen. -/
  | cons {token : JsonToken} {tokens : List JsonToken} {blanks spelling rest : List Char}
    (blank : blanks.all isBlank) (spelled : SpellsAlike token spelling)
    (ends : token.isNumber → endsNumber rest) (others : FlowLayout tokens rest) :
    FlowLayout (token :: tokens) (blanks ++ (spelling ++ rest))
  /-- Blanks, a key and the colon behind it. -/
  | key {text : String} {tokens : List JsonToken} {blanks body gap rest : List Char}
    (blank : blanks.all isBlank) (spelled : SpellsTextAlike text.toList body)
    (sameLine : gap.all Place.isSpacing)
    (near : byteCount ('"' :: (body ++ '"' :: gap)) ≤ 1024) (others : FlowLayout tokens rest) :
    FlowLayout (string (some text) :: colon :: tokens)
      (blanks ++ ('"' :: (body ++ '"' :: (gap ++ ':' :: rest))))

end JsonToken

mutual

/-- The YAML nodes that a value may be read as; the nodes of numbers keep their spelling. -/
inductive Json.ReadsAs : Json → YamlNode → Prop where
  /-- The word for nothing. -/
  | null : ReadsAs .null (.scalar .none "null".toList true)
  /-- The word for a truth value. -/
  | bool (flag : Bool) :
    ReadsAs (.bool flag) (.scalar .none (if flag then "true".toList else "false".toList) true)
  /-- A number that holds the same in both notations. -/
  | number {n : JsonNumber} {spelling : List Char} (alike : n.scalar? = some (.ofPlain spelling)) :
    ReadsAs (.number n) (.scalar .none spelling true)
  /-- A text. -/
  | string (text : String) : ReadsAs (.string text) (.scalar .none text.toList false)
  /-- A sequence. -/
  | array {items : List Json} {nodes : List YamlNode} (parts : Json.ItemsReadAs items nodes) :
    ReadsAs (.array items) (.sequence .none nodes)
  /-- A mapping. -/
  | object {members : List (String × Json)} {entries : List (YamlNode × YamlNode)}
    (parts : Json.MembersReadAs members entries) :
    ReadsAs (.object members) (.mapping .none entries)

/-- The YAML nodes that array items may be read as. -/
inductive Json.ItemsReadAs : List Json → List YamlNode → Prop where
  /-- No items. -/
  | nil : ItemsReadAs [] []
  /-- The first item and the others. -/
  | cons {item : Json} {items : List Json} {node : YamlNode} {nodes : List YamlNode}
    (first : Json.ReadsAs item node) (rest : ItemsReadAs items nodes) :
    ItemsReadAs (item :: items) (node :: nodes)

/-- The entries of YAML nodes that object members may be read as. -/
inductive Json.MembersReadAs : List (String × Json) → List (YamlNode × YamlNode) → Prop where
  /-- No members. -/
  | nil : MembersReadAs [] []
  /-- The first member and the others. -/
  | cons {key : String} {value : Json} {members : List (String × Json)} {node : YamlNode}
    {entries : List (YamlNode × YamlNode)} (first : Json.ReadsAs value node)
    (rest : MembersReadAs members entries) :
    MembersReadAs ((key, value) :: members) ((.scalar .none key.toList false, node) :: entries)

end

namespace YamlNode

mutual

/-- The tokens of a node in flow collections, its anchors and tags apart. -/
def flowTokens : YamlNode → List YamlToken
  | scalar _ text plain => [.scalar text plain]
  | sequence _ items => .openFlowSequence :: flowItemTokens items
  | mapping _ entries => .openFlowMapping :: flowEntryTokens entries
  | reference number => [.reference number]

/-- The tokens of items in a flow collection, up to the closing bracket. -/
def flowItemTokens : List YamlNode → List YamlToken
  | [] => [.closeFlowSequence]
  | [item] => item.flowTokens ++ [.closeFlowSequence]
  | item :: rest => item.flowTokens ++ .flowEntry :: flowItemTokens rest

/-- The tokens of entries in a flow collection, up to the closing brace. -/
def flowEntryTokens : List (YamlNode × YamlNode) → List YamlToken
  | [] => [.closeFlowMapping]
  | [(key, value)] =>
    .key :: (key.flowTokens ++ .value :: (value.flowTokens ++ [.closeFlowMapping]))
  | (key, value) :: rest =>
    .key :: (key.flowTokens ++ .value :: (value.flowTokens ++ .flowEntry :: flowEntryTokens rest))

end

end YamlNode

namespace YamlLayout

open JsonToken (FlowLayout SpellsAlike SpellsTextAlike)

/-- Reading on leads into so many flow collections with the given tokens, in front of a text in
which the other tokens are laid out. Whether a key may start there is as the flag says, if it says
so. -/
def Advances (layout : YamlLayout) (places : List Place) (depth : Nat) (tokens : List YamlToken)
    (others : List JsonToken) (keys : Option Bool) : Prop :=
  ∃ (next : YamlLayout) (index line column : Nat) (rest : List Char),
    layout.run? places = next.run? (Place.listFrom index line column rest) ∧
      next.IsFlow depth tokens ∧ (∀ allowed ∈ keys, next.keyAllowed = allowed) ∧
      FlowLayout others rest

/-- Reading on and on. -/
theorem Advances.after {layout next : YamlLayout} {places places' : List Place} {depth : Nat}
    {tokens : List YamlToken} {others : List JsonToken} {keys : Option Bool}
    (behind : next.Advances places' depth tokens others keys)
    (run : layout.run? places = next.run? places') :
    layout.Advances places depth tokens others keys := by
  -- The earlier run goes on as the later one.
  obtain ⟨last, index, line, column, rest, found, facts⟩ := behind
  exact ⟨last, index, line, column, rest, run.trans found, facts⟩

/-- Whether a key may start can be left open. -/
theorem Advances.open {layout : YamlLayout} {places : List Place} {depth : Nat}
    {tokens : List YamlToken} {others : List JsonToken} {keys : Option Bool}
    (found : layout.Advances places depth tokens others keys) :
    layout.Advances places depth tokens others none := by
  -- What is known about keys is forgotten.
  obtain ⟨next, index, line, column, rest, run, flow, -, laid⟩ := found
  exact ⟨next, index, line, column, rest, run, flow, nofun, laid⟩

section Steps

variable {layout : YamlLayout} {depth : Nat} {tokens : List YamlToken} {text : List Char}
  {others : List JsonToken} (index line column : Nat)

/-- A token of one character is read as what its indicator adds. -/
theorem advances_of_indicator {token : JsonToken} {c : Char} {depth' : Nat}
    {tokens' : List YamlToken} {keys : Option Bool} (flow : layout.IsFlow depth tokens)
    (laid : FlowLayout (token :: others) text)
    (skips : depth ≠ 0 ∨ layout.keyAllowed ∧ '\t' ∉ text.takeWhile JsonToken.isBlank)
    (fixed : token.isFixed) (only : ∀ spelling, token.Spells spelling → spelling = [c])
    (indicator : c ∈ "[]\x7b\x7d,".toList)
    (added : ∀ (fresh : YamlLayout) (place : Place) (rest : List Place), place.char = c →
      fresh.IsFlow depth tokens → ∃ next : YamlLayout,
        fresh.addIndicated? place rest = some (next, rest) ∧ next.IsFlow depth' tokens' ∧
          (∀ allowed ∈ keys, next.keyAllowed = allowed)) :
    layout.Advances (Place.listFrom index line column text) depth' tokens' others keys := by
  cases laid with
  | key => cases fixed
  | @cons _ _ blanks spelling rest blank spelled ends others =>
    -- The spelling is one character, since the token has no other.
    have single : spelling = [c] := by
      cases spelled with
      | fixed spelled => exact only spelling spelled
      | number | string => cases fixed
    subst single
    -- An indicator is a visible character that stays on its line.
    have facts : ∀ c ∈ "[]\x7b\x7d,".toList, Place.isInline c ∧ c ≠ '\n' ∧
        JsonToken.isBlank c = false ∧ c ∈ "[]\x7b\x7d,\"".toList :=
      forall_mem_of_all (by decide)
    obtain ⟨inline, noFeed, visible, listed⟩ := facts c indicator
    have noFirst : '\n' ∉ ([c] ++ rest).head? := by
      simpa using noFeed
    -- The blanks in front are a gap, which is skipped.
    obtain ⟨gap, index', line', column', found, gaps⟩ :=
      Place.exists_gap blank noFirst index line column
    have leading : (blanks ++ ([c] ++ rest)).takeWhile JsonToken.isBlank = blanks := by
      rw [List.takeWhile_append_of_pos (List.all_eq_true.mp blank)]
      simp [visible]
    rw [leading] at skips
    rw [found, List.singleton_append, Place.listFrom_cons inline]
    -- Outside collections a tab in front would end the reading.
    have untabbed : ∀ place ∈ gap, place.isGap ∧ (place.char = '\t' → depth ≠ 0) := by
      intro place member
      refine ⟨(gaps place member).1, fun tab => ?_⟩
      exact skips.resolve_right fun start => start.2 ((gaps place member).2 tab)
    obtain ⟨fresh, freshFlow, -, -, run⟩ :=
      @exists_run?_indicated _ _ _ flow _ ⟨c, index', line', column'⟩ untabbed
        (skips.imp_right And.left) (.inl listed)
        (Place.listFrom (index' + c.utf8Size) line' (column' + 1) rest)
    -- The indicator itself is added as the hypothesis has it.
    obtain ⟨next, step, nextFlow, allowed⟩ :=
      added fresh ⟨c, index', line', column'⟩ _ rfl freshFlow
    exact ⟨next, _, _, _, rest, run (Nat.le_refl _) step, nextFlow, allowed, others⟩

/-- An opening bracket or brace opens its collection, in which a key may start. -/
theorem advances_open {token : JsonToken} {opening : YamlToken}
    (kind : token = .openArray ∧ opening = .openFlowSequence ∨
      token = .openObject ∧ opening = .openFlowMapping)
    (flow : layout.IsFlow depth tokens) (laid : FlowLayout (token :: others) text)
    (skips : depth ≠ 0 ∨ layout.keyAllowed ∧ '\t' ∉ text.takeWhile JsonToken.isBlank) :
    layout.Advances (Place.listFrom index line column text) (depth + 1) (tokens ++ [opening]) others
      (some true) := by
  rcases kind with ⟨rfl, rfl⟩ | ⟨rfl, rfl⟩
  all_goals
    -- Brackets and braces differ in their tokens only.
    refine advances_of_indicator index line column flow laid skips rfl
      (fun _ spelled => by cases spelled; rfl) (by decide) fun fresh place rest same freshFlow => ?_
    obtain ⟨next, opened, nextFlow, allowed⟩ := exists_openFlow? freshFlow place _
    exact ⟨next, by simp [addIndicated?, same, opened], nextFlow, by simp [allowed]⟩

/-- A closing bracket or brace closes its collection, and no key may start behind it. -/
theorem advances_close {token : JsonToken} {closing : YamlToken}
    (kind : token = .closeArray ∧ closing = .closeFlowSequence ∨
      token = .closeObject ∧ closing = .closeFlowMapping)
    (flow : layout.IsFlow (depth + 1) tokens) (laid : FlowLayout (token :: others) text) :
    layout.Advances (Place.listFrom index line column text) depth (tokens ++ [closing]) others
      (some false) := by
  -- The two kinds of collections are closed alike.
  rcases kind with ⟨rfl, rfl⟩ | ⟨rfl, rfl⟩
  all_goals
    refine advances_of_indicator index line column flow laid (.inl (Nat.succ_ne_zero depth)) rfl
      (fun _ spelled => by cases spelled; rfl) (by decide) fun fresh place rest same freshFlow => ?_
    obtain ⟨next, closed, nextFlow, denied⟩ := exists_closeFlow? freshFlow _
    exact ⟨next, by simp [addIndicated?, same, closed], nextFlow, by simp [denied]⟩

/-- Behind a comma a key may start. -/
theorem advances_comma (flow : layout.IsFlow (depth + 1) tokens)
    (laid : FlowLayout (.comma :: others) text) :
    layout.Advances (Place.listFrom index line column text) (depth + 1) (tokens ++ [.flowEntry])
      others (some true) := by
  -- A comma stands for itself and makes room for a key.
  refine advances_of_indicator index line column flow laid (.inl (Nat.succ_ne_zero depth)) rfl
    (fun _ spelled => by cases spelled; rfl) (by decide) fun fresh place rest same freshFlow => ?_
  refine ⟨_, by simp only [addIndicated?, same, freshFlow.dropKey?, Option.map_some],
    (freshFlow.withoutKey.allowKey true).push .flowEntry, by simp [push, allowKey]⟩

/-- A text between quotes is a scalar, which is a pending key where a key may start. -/
theorem exists_run?_quoted {blanks body held rest : List Char}
    (flow : layout.IsFlow (depth + 1) tokens) (blank : blanks.all JsonToken.isBlank)
    (spelled : SpellsTextAlike held body) :
    ∃ (next : YamlLayout) (start line' column' : Nat),
      layout.run? (Place.listFrom index line column (blanks ++ ('"' :: (body ++ '"' :: rest)))) =
        next.run? (Place.listFrom (start + 1 + byteCount body + 1) line'
          (column' + 1 + body.length + 1) rest) ∧
      next.IsFlow (depth + 1) (tokens ++ [.scalar held false]) ∧
      (layout.keyAllowed →
        next.key = some ⟨false, tokens.length, ⟨'"', start, line', column'⟩⟩) := by
  -- The opening quote stands behind a gap, and its place is that of a pending key.
  obtain ⟨gap, start, line', column', found, gaps⟩ :=
    @Place.exists_gap _ ('"' :: (body ++ '"' :: rest)) blank (by simp) index line column
  have size : '"'.utf8Size = 1 := rfl
  have quote : '"' ∈ "[]\x7b\x7d,\"".toList := by decide
  rw [found, Place.listFrom_cons (by decide), size]
  obtain ⟨fresh, freshFlow, allowed, -, run⟩ :=
    @exists_run?_indicated _ _ _ flow gap ⟨'"', start, line', column'⟩
      (fun place member => ⟨(gaps place member).1, fun _ => Nat.succ_ne_zero depth⟩)
      (.inl (Nat.succ_ne_zero depth)) (.inl quote)
      (Place.listFrom (start + 1) line' (column' + 1) (body ++ '"' :: rest))
  obtain ⟨next, added, nextFlow, key⟩ :=
    exists_addNode? freshFlow ⟨'"', start, line', column'⟩ (.scalar held false)
  -- The text between the quotes is read without the gap in front of them.
  have read : QuotedScalar.readDouble? .empty
      (Place.listFrom (start + 1) line' (column' + 1) (body ++ '"' :: rest)) =
      some (held, Place.listFrom (start + 1 + byteCount body + 1) line'
        (column' + 1 + body.length + 1) rest) :=
    QuotedScalar.readDouble?_text spelled (Nat.succ_ne_zero column') []
  refine ⟨next, start, line', column', run ?_ ?_, nextFlow, fun may => key (allowed.trans may)⟩
  · rw [Place.listFrom_append spelled.inline, Place.listFrom_cons (by decide), size]
    simp only [List.length_append, List.length_cons]
    omega
  · simp [addIndicated?, read, added]

/-- A text between quotes is a scalar. -/
theorem advances_string {held : String} (flow : layout.IsFlow (depth + 1) tokens)
    (laid : FlowLayout (.string (some held) :: others) text)
    (noColon : others.head? ≠ some .colon) :
    layout.Advances (Place.listFrom index line column text) (depth + 1)
      (tokens ++ [.scalar held.toList false]) others none := by
  -- A text that is no key is a quoted scalar in either layout.
  cases laid with
  | key => exact absurd rfl noColon
  | cons blank spelled ends laid =>
    cases spelled with
    | fixed _ fixed => cases fixed
    | string spelled =>
      obtain ⟨next, start, line', column', run, nextFlow, -⟩ :=
        exists_run?_quoted index line column flow blank spelled
      rw [List.cons_append, List.append_assoc, List.singleton_append]
      exact ⟨next, _, _, _, _, run, nextFlow, nofun, laid⟩

/-- A text between quotes and a colon are a key. -/
theorem advances_key {held : String} (flow : layout.IsFlow (depth + 1) tokens)
    (allowed : layout.keyAllowed)
    (laid : FlowLayout (.string (some held) :: .colon :: others) text) :
    layout.Advances (Place.listFrom index line column text) (depth + 1)
      (tokens ++ [.key, .scalar held.toList false, .value]) others none := by
  cases laid with
  | cons _ _ _ laid =>
    -- A colon has no spelling of its own.
    cases laid with
    | cons _ spelled =>
      cases spelled with
      | fixed _ fixed => cases fixed
  | @key _ _ blanks body gap rest blank spelled sameLine near laid =>
    obtain ⟨next, start, line', column', run, nextFlow, key⟩ :=
      @exists_run?_quoted _ _ _ index line column _ _ _ (gap ++ ':' :: rest) flow blank spelled
    have inline : gap.all Place.isInline := by
      rw [List.all_eq_true] at sameLine ⊢
      exact fun c member => Place.isInline_of_isSpacing (sameLine c member)
    have quote : '"'.utf8Size = 1 := rfl
    rw [byteCount_cons, byteCount_append, byteCount_cons, quote] at near
    let colon : Place := ⟨':', start + 1 + byteCount body + 1 + byteCount gap, line',
      column' + 1 + body.length + 1 + gap.length⟩
    rw [Place.listFrom_append inline, Place.listFrom_cons (by decide)] at run
    have gaps : ∀ place ∈ Place.listFrom (start + 1 + byteCount body + 1) line'
        (column' + 1 + body.length + 1) gap, place.isGap ∧ (place.char = '\t' → depth + 1 ≠ 0) := by
      intro place member
      refine ⟨?_, fun _ => Nat.succ_ne_zero depth⟩
      rw [Place.isGap, Place.isBlank_of_mem_listFrom sameLine member, Bool.true_or]
    -- The colon stands in the line of the key and not too far behind its start.
    have fresh : PendingKey.isStale ⟨false, tokens.length, ⟨'"', start, line', column'⟩⟩ colon =
        false := by
      simp only [PendingKey.isStale, colon, Nat.lt_irrefl, decide_false, Bool.false_or,
        decide_eq_false_iff_not]
      omega
    -- So the key is still pending where the colon is read.
    obtain ⟨kept, keptFlow, -, keeps, step⟩ :=
      @exists_run?_indicated _ _ _ nextFlow _ colon gaps (.inl (Nat.succ_ne_zero depth))
        (.inr ⟨rfl, Nat.succ_ne_zero depth⟩) (Place.listFrom (colon.index + ':'.utf8Size) line'
          (colon.column + 1) rest)
    obtain ⟨last, valued, lastFlow⟩ :=
      exists_valueEntry? keptFlow (keeps _ (key allowed) fresh) colon
    refine ⟨last, _, _, _, rest, run.trans (step (Nat.le_refl _) ?_), lastFlow, by simp, laid⟩
    simp [addIndicated?, colon, valued]

/-- What may follow a value is one character, which ends a word in YAML. -/
theorem exists_of_endsValue {token : JsonToken} {spelling : List Char} (ends : token.endsValue)
    (spelled : SpellsAlike token spelling) :
    ∃ c, spelling = [c] ∧ PlainScalar.isFlowIndicator c ∧ Place.isInline c ∧ c ≠ '\n' := by
  -- A comma and the closing brackets are one character each.
  cases spelled with
  | fixed spelled =>
    cases spelled with
    | comma | closeArray | closeObject => exact ⟨_, rfl, by decide⟩
    | _ => cases ends
  | number | string => cases ends

/-- A word or a number is spelled as plain scalars may be. -/
theorem opensWord_of_isPlain {token : JsonToken} {spelling : List Char} (plain : token.isPlain)
    (spelled : SpellsAlike token spelling) :
    PlainScalar.opensWord spelling ∧ spelling.all PlainScalar.isWord := by
  -- The tokens without quotes are the three words and the numbers.
  cases spelled with
  | number spelled => exact JsonToken.opensWord_of_readNumber spelled
  | string => cases plain
  | fixed spelled =>
    cases spelled with
    | null => exact ⟨.inl (by decide), by decide⟩
    | bool flag => cases flag <;> exact ⟨.inl (by decide), by decide⟩
    | number spelled => exact JsonToken.opensWord_of_readNumber spelled
    | _ => cases plain

/-- A word or a number is a plain scalar. -/
theorem advances_word {token : JsonToken} (flow : layout.IsFlow (depth + 1) tokens)
    (laid : FlowLayout (token :: others) text) (plain : token.isPlain)
    (ends : ∃ next ∈ others.head?, next.endsValue) :
    ∃ word, SpellsAlike token word ∧
      layout.Advances (Place.listFrom index line column text) (depth + 1)
        (tokens ++ [.scalar word true]) others none := by
  obtain ⟨following, first, ends⟩ := ends
  cases laid with
  | key => cases first; cases ends
  | @cons _ _ blanks spelling rest blank spelled _ laid =>
    obtain ⟨opens, all⟩ := opensWord_of_isPlain plain spelled
    refine ⟨spelling, spelled, ?_⟩
    -- A token follows the word, which is neither a key nor the end of the text.
    cases laid with
    | nil => cases first
    | key => cases first; cases ends
    | @cons _ _ blanks' spelling' rest blank' spelled' ends' laid =>
      cases first
      -- What follows a value ends the word in YAML too, behind the blanks in front of it.
      obtain ⟨c, rfl, indicator, inline, noFeed⟩ := exists_of_endsValue ends spelled'
      -- No character of the word breaks a line, and neither does what follows the blanks.
      have inlines : spelling.all Place.isInline := by
        rw [List.all_eq_true] at all ⊢
        exact fun c member => PlainScalar.isInline_of_isWord (all c member)
      have noFirst : '\n' ∉ (spelling ++ (blanks' ++ ([c] ++ rest))).head? := by
        cases spelling with
        | nil => exact opens.elim
        | cons first spelling =>
          rintro ⟨⟩
          simp at all
          exact absurd all.1 (by decide)
      have noNext : '\n' ∉ ([c] ++ rest).head? := by
        simpa using noFeed
      -- The blanks in front of the word and behind it are gaps.
      obtain ⟨gap, start, line', column', found, gaps⟩ :=
        Place.exists_gap blank noFirst index line column
      obtain ⟨gap', start', line'', column'', found', gaps'⟩ :=
        Place.exists_gap blank' noNext (start + byteCount spelling) line'
          (column' + spelling.length)
      rw [found, Place.listFrom_append inlines, found', List.singleton_append,
        Place.listFrom_cons inline]
      obtain ⟨next, run, nextFlow⟩ := @exists_run?_word _ _ _ flow gap gap'
        (fun place member => (gaps place member).1) _ opens all start line' column'
        (fun place member => (gaps' place member).1) ⟨c, start', line'', column''⟩ indicator
        (Place.listFrom (start' + c.utf8Size) line'' (column'' + 1) rest)
      refine ⟨next, start', line'', column'', c :: rest, ?_, nextFlow, nofun, ?_⟩
      · rw [run, Place.listFrom_cons inline]
      · exact @FlowLayout.cons _ _ [] _ _ rfl spelled' ends' laid

end Steps

section Values

mutual

/-- Reading leads over a value, with the tokens of a node for it added. -/
theorem advances_value (json : Json) {others : List JsonToken} {text : List Char}
    (laid : FlowLayout (json.tokens ++ others) text)
    (ends : ∃ next ∈ others.head?, next.endsValue) {layout : YamlLayout} {depth : Nat}
    {tokens : List YamlToken} (flow : layout.IsFlow (depth + 1) tokens) (index line column : Nat) :
    ∃ node, json.ReadsAs node ∧
      layout.Advances (Place.listFrom index line column text) (depth + 1)
        (tokens ++ node.flowTokens) others none := by
  -- The induction is on the value; the containers leave it to their items and members.
  cases json with
  | null =>
    obtain ⟨word, spelled, found⟩ := advances_word index line column flow laid rfl ends
    cases spelled with
    | fixed spelled =>
      cases spelled
      exact ⟨_, .null, found⟩
  | bool flag =>
    obtain ⟨word, spelled, found⟩ := advances_word index line column flow laid rfl ends
    cases spelled with
    | fixed spelled =>
      cases spelled
      exact ⟨_, .bool flag, found⟩
  | number n =>
    -- A number is one word, spelled as the text has it.
    obtain ⟨word, spelled, found⟩ := advances_word index line column flow laid rfl ends
    cases spelled with
    | fixed _ fixed => cases fixed
    | number _ alike => exact ⟨_, .number alike, found⟩
  | string held =>
    -- A string is a key only in front of a colon, and a colon ends no value.
    refine ⟨_, .string held, advances_string index line column flow laid ?_⟩
    obtain ⟨next, first, isEnd⟩ := ends
    rw [Option.mem_def.mp first]
    rintro ⟨⟩
    cases isEnd
  | array items =>
    -- The opening bracket is read, and then the items with their end.
    rw [Json.tokens, List.cons_append] at laid
    obtain ⟨next, index, line, column, rest, run, nextFlow, -, laid⟩ :=
      advances_open index line column (.inl ⟨rfl, rfl⟩) flow laid (.inl (Nat.succ_ne_zero depth))
    obtain ⟨nodes, parts, found⟩ := advances_items items laid nextFlow index line column
    refine ⟨.sequence .none nodes, .array parts, ?_⟩
    rw [List.append_assoc, List.singleton_append] at found
    exact (found.after run).open
  | object members =>
    -- Behind the opening brace a key may start.
    rw [Json.tokens, List.cons_append] at laid
    obtain ⟨next, index, line, column, rest, run, nextFlow, keys, laid⟩ :=
      advances_open index line column (.inr ⟨rfl, rfl⟩) flow laid (.inl (Nat.succ_ne_zero depth))
    obtain ⟨entries, parts, found⟩ :=
      advances_members members laid nextFlow (keys true rfl) index line column
    refine ⟨.mapping .none entries, .object parts, ?_⟩
    rw [List.append_assoc, List.singleton_append] at found
    exact (found.after run).open

/-- Reading leads over the items of an array and its end. -/
theorem advances_items (items : List Json) {others : List JsonToken} {text : List Char}
    (laid : FlowLayout (Json.itemTokens items ++ others) text) {layout : YamlLayout} {depth : Nat}
    {tokens : List YamlToken} (flow : layout.IsFlow (depth + 1) tokens) (index line column : Nat) :
    ∃ nodes, Json.ItemsReadAs items nodes ∧
      layout.Advances (Place.listFrom index line column text) depth
        (tokens ++ YamlNode.flowItemTokens nodes) others (some false) := by
  cases items with
  -- An empty array is closed at once.
  | nil => exact ⟨[], .nil, advances_close index line column (.inl ⟨rfl, rfl⟩) flow laid⟩
  | cons item items =>
    cases items with
    | nil =>
      rw [Json.itemTokens, List.append_assoc, List.singleton_append] at laid
      obtain ⟨node, first, next, index, line, column, rest, run, nextFlow, -, laid⟩ :=
        advances_value item laid ⟨_, rfl, rfl⟩ flow index line column
      refine ⟨[node], .cons first .nil, ?_⟩
      -- The last item is followed by the end of the array.
      have behind := advances_close index line column (.inl ⟨rfl, rfl⟩) nextFlow laid
      rw [List.append_assoc, ← YamlNode.flowItemTokens] at behind
      exact behind.after run
    | cons following items =>
      rw [Json.itemTokens, List.append_assoc, List.cons_append] at laid
      · -- A comma parts the item from those behind it.
        obtain ⟨node, first, next, index, line, column, rest, run, nextFlow, -, laid⟩ :=
          advances_value item laid ⟨_, rfl, rfl⟩ flow index line column
        obtain ⟨last, index, line, column, rest, step, lastFlow, -, laid⟩ :=
          advances_comma index line column nextFlow laid
        obtain ⟨nodes, others, behind⟩ :=
          advances_items (following :: items) laid lastFlow index line column
        refine ⟨node :: nodes, .cons first others, ?_⟩
        cases others with
        | cons second others =>
          -- The steps follow each other: the item, the comma and the others.
          rw [YamlNode.flowItemTokens]
          · simpa only [List.append_assoc, List.singleton_append] using
              behind.after (run.trans step)
          · exact List.cons_ne_nil _ _
      · exact List.cons_ne_nil _ _

/-- Reading leads over the members of an object and its end. -/
theorem advances_members (members : List (String × Json)) {others : List JsonToken}
    {text : List Char} (laid : FlowLayout (Json.memberTokens members ++ others) text)
    {layout : YamlLayout} {depth : Nat} {tokens : List YamlToken}
    (flow : layout.IsFlow (depth + 1) tokens) (allowed : layout.keyAllowed)
    (index line column : Nat) :
    ∃ entries, Json.MembersReadAs members entries ∧
      layout.Advances (Place.listFrom index line column text) depth
        (tokens ++ YamlNode.flowEntryTokens entries) others (some false) := by
  cases members with
  -- An empty object is closed at once.
  | nil => exact ⟨[], .nil, advances_close index line column (.inr ⟨rfl, rfl⟩) flow laid⟩
  | cons member members =>
    obtain ⟨key, value⟩ := member
    cases members with
    | nil =>
      rw [Json.memberTokens, List.cons_append, List.cons_append, List.append_assoc,
        List.singleton_append] at laid
      -- The key is read with its colon, and the value follows.
      obtain ⟨opened, index, line, column, rest, step, openedFlow, -, laid⟩ :=
        advances_key index line column flow allowed laid
      obtain ⟨node, first, next, index, line, column, rest, run, nextFlow, -, laid⟩ :=
        advances_value value laid ⟨_, rfl, rfl⟩ openedFlow index line column
      refine ⟨[(.scalar .none key.toList false, node)], .cons first .nil, ?_⟩
      -- The last value is followed by the end of the object.
      have behind := advances_close index line column (.inr ⟨rfl, rfl⟩) nextFlow laid
      rw [YamlNode.flowEntryTokens, YamlNode.flowTokens]
      simpa only [List.append_assoc, List.cons_append, List.nil_append] using
        behind.after (step.trans run)
    | cons following members =>
      rw [Json.memberTokens, List.cons_append, List.cons_append, List.append_assoc,
        List.cons_append] at laid
      · obtain ⟨opened, index, line, column, rest, step, openedFlow, -, laid⟩ :=
          advances_key index line column flow allowed laid
        obtain ⟨node, first, next, index, line, column, rest, run, nextFlow, -, laid⟩ :=
          advances_value value laid ⟨_, rfl, rfl⟩ openedFlow index line column
        -- Behind the comma a key may start again.
        obtain ⟨last, index, line, column, rest, parted, lastFlow, keys, laid⟩ :=
          advances_comma index line column nextFlow laid
        obtain ⟨entries, others, behind⟩ :=
          advances_members (following :: members) laid lastFlow (keys true rfl) index line column
        refine ⟨(.scalar .none key.toList false, node) :: entries, .cons first others, ?_⟩
        cases others with
        | cons second others =>
          -- The steps follow each other: the key, the value, the comma and the others.
          rw [YamlNode.flowEntryTokens, YamlNode.flowTokens]
          · simpa only [List.append_assoc, List.cons_append, List.nil_append] using
              behind.after (step.trans (run.trans parted))
          · exact List.cons_ne_nil _ _
      · exact List.cons_ne_nil _ _

end

end Values

end YamlLayout

namespace JsonToken

/-- A token that both notations read alike is spelled in characters of its line. -/
theorem SpellsAlike.inline {token : JsonToken} {spelling : List Char}
    (spelled : SpellsAlike token spelling) : spelling.all Place.isInline := by
  -- Fixed spellings are gone through, a number is made of word characters, and a text keeps to its
  -- line.
  cases spelled with
  | fixed spelled fixed =>
    cases spelled with
    | number | string => cases fixed
    | bool flag => cases flag <;> decide
    | _ => decide
  | number spelled =>
    have all := (opensWord_of_readNumber spelled).2
    rw [List.all_eq_true] at all ⊢
    exact fun c member => PlainScalar.isInline_of_isWord (all c member)
  | string spelled =>
    simp only [List.all_cons, List.all_append, spelled.inline, List.all_nil]
    decide

/-- Spaces and tabs are blanks. -/
theorem all_isBlank_of_isSpacing {gap : List Char} (spacing : gap.all Place.isSpacing) :
    gap.all isBlank := by
  -- Spaces and tabs are blanks of the other language too.
  rw [List.all_eq_true] at spacing ⊢
  exact fun c member => Place.isBlank_of_isSpacing (spacing c member)

/-- YAML allows all characters of a text that it reads alike. -/
theorem FlowLayout.allowed {tokens : List JsonToken} {text : List Char}
    (laid : FlowLayout tokens text) : text.all Place.isAllowed := by
  -- What keeps to a line is allowed, by its definition.
  have inlines : ∀ {part : List Char}, part.all Place.isInline → part.all Place.isAllowed := by
    intro part inline
    rw [List.all_eq_true] at inline ⊢
    intro c member
    have single := inline c member
    simp only [Place.isInline, Bool.and_eq_true] at single
    exact single.1.1.1.1.1
  -- The four blanks are allowed, line ends among them.
  have blanks : ∀ {part : List Char}, part.all isBlank → part.all Place.isAllowed := by
    intro part blank
    rw [List.all_eq_true] at blank ⊢
    intro c member
    have single := blank c member
    simp only [isBlank, Bool.or_eq_true, decide_eq_true_eq] at single
    obtain ((rfl | rfl) | rfl) | rfl := single <;> decide
  have marks : Place.isAllowed '"' ∧ Place.isAllowed ':' := by decide
  -- The induction is on the layout: blanks and tokens in turn, and a key with its colon.
  induction laid with
  | nil spacing blank =>
    rw [List.all_append, blanks (all_isBlank_of_isSpacing spacing), blanks blank, Bool.and_self]
  | cons blank spelled _ _ ih =>
    simp only [List.all_append, blanks blank, inlines spelled.inline, ih, Bool.and_self]
  | key blank spelled sameLine _ _ ih =>
    have gap := blanks (all_isBlank_of_isSpacing sameLine)
    simp only [List.all_append, List.all_cons, blanks blank, inlines spelled.inline, gap, marks, ih,
      Bool.and_self]

/-- The tokens that YAML finds are those of JSON. -/
theorem FlowLayout.layout {tokens : List JsonToken} {text : List Char}
    (laid : FlowLayout tokens text) : Layout tokens text := by
  induction laid with
  | nil spacing blank =>
    exact .nil (by rw [List.all_append, all_isBlank_of_isSpacing spacing, blank, Bool.and_self])
  | cons blank spelled ends _ ih =>
    refine .cons blank ?_ ends ih
    cases spelled with
    | fixed spelled => exact spelled
    | number spelled => exact .number spelled
    | string spelled => exact .string spelled.spellsText
  | key blank spelled sameLine _ _ ih =>
    -- The blanks between a key and its colon stand in front of the colon.
    have whole := Layout.cons blank (.string spelled.spellsText) nofun
      (.cons (all_isBlank_of_isSpacing sameLine) .colon nofun ih)
    simpa only [List.append_assoc, List.cons_append, List.nil_append] using whole

end JsonToken

/-- The text of an object that YAML reads alike has the tokens of a node for the object. -/
theorem YamlToken.ofText?_of_layout {members : List (String × Json)} {text : String}
    (laid : JsonToken.FlowLayout (Json.object members).tokens text.toList)
    (untabbed : '\t' ∉ text.toList.takeWhile JsonToken.isBlank) :
    ∃ node, (Json.object members).ReadsAs node ∧
      YamlToken.ofText? text = some node.flowTokens := by
  have allowed := laid.allowed
  rw [Json.tokens] at laid
  -- The opening brace is read first, behind blanks without a tab.
  obtain ⟨next, index, line, column, rest, run, flow, keys, laid⟩ :=
    YamlLayout.advances_open 0 0 0 (.inr ⟨rfl, rfl⟩) YamlLayout.isFlow_empty laid
      (.inr ⟨rfl, untabbed⟩)
  rw [← List.append_nil (Json.memberTokens members)] at laid
  -- Then come the members with their closing brace.
  obtain ⟨entries, parts, last, index', line', column', rest', step, lastFlow, denied, ended⟩ :=
    YamlLayout.advances_members members laid flow (keys true rfl) index line column
  refine ⟨.mapping .none entries, .object parts, ?_⟩
  rw [YamlToken.ofText?, Place.ofText?, allowed, if_pos rfl, Option.bind_some, run, step]
  cases ended with
  | @nil spacing blanks isSpacing blank noTab =>
    -- Behind the closing brace its line may go on with tabs, and the lines after it with none.
    have inline : spacing.all Place.isInline := by
      rw [List.all_eq_true] at isSpacing ⊢
      exact fun c member => Place.isInline_of_isSpacing (isSpacing c member)
    obtain ⟨gap, _, _, _, found, gaps⟩ := @Place.exists_gap _ [] blank (by simp)
      (index' + byteCount spacing) line' (column' + spacing.length)
    rw [List.append_nil, Place.listFrom.eq_1, List.append_nil] at found
    rw [Place.listFrom_append inline, found]
    exact YamlLayout.run?_end lastFlow (denied false rfl)
      (fun place member => Place.isBlank_of_mem_listFrom isSpacing member) fun place member =>
        ⟨(gaps place member).1, fun tab => noTab ((gaps place member).2 tab)⟩

end Locator
