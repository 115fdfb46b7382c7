import Locator.Proofs.Yaml.Scalar
import Locator.Yaml.Stream

/-! The layout of a YAML text inside flow collections, where indentation does not matter: what each
token of JSON adds to it. -/

namespace Locator

namespace YamlLayout

/-- A layout with the given tokens inside so many flow collections and no blocks, in which no
pending key has to be a key. -/
structure IsFlow (layout : YamlLayout) (depth : Nat) (tokens : List YamlToken) : Prop where
  /-- The tokens. -/
  tokens : layout.tokens = tokens.reverse
  /-- The open flow collections. -/
  depth : layout.outer.length = depth
  /-- Indentation has opened no block. -/
  blocks : layout.blocks = []
  /-- The pending key may be none. -/
  key : ∀ key ∈ layout.key, key.required = false
  /-- The pending keys around the open collections may be none. -/
  outer : ∀ pending ∈ layout.outer, ∀ key ∈ pending, PendingKey.required key = false

variable {layout : YamlLayout} {depth : Nat} {tokens : List YamlToken}

/-- The layout of an empty text has no tokens. -/
theorem isFlow_empty : empty.IsFlow 0 [] :=
  ⟨rfl, rfl, rfl, nofun, nofun⟩

namespace IsFlow

/-- Inside a collection the text is in flow. -/
theorem inFlow (flow : layout.IsFlow depth tokens) : layout.inFlow = (depth != 0) := by
  -- The outer collections are counted.
  rw [YamlLayout.inFlow, ← flow.depth]
  cases layout.outer <;> rfl

/-- Where no block is open none is closed. -/
theorem closeFrom (flow : layout.IsFlow depth tokens) (column : Nat) :
    layout.closeFrom column = layout := by
  -- With no open blocks nothing is taken away and nothing is added.
  have blocks := flow.blocks
  obtain ⟨_, _, _, _, _, _⟩ := layout
  subst blocks
  unfold YamlLayout.closeFrom
  split <;> rfl

/-- A pending key may always be given up. -/
theorem dropKey? (flow : layout.IsFlow depth tokens) :
    layout.dropKey? = some { layout with key := none } := by
  -- In flow style no key is required, so none is missed.
  have free : layout.key.any (·.required) = false := by
    cases key : layout.key with
    | none => rfl
    | some pending => simpa using flow.key pending key
  rw [YamlLayout.dropKey?, free, if_neg Bool.false_ne_true]

/-- A layout without its pending key. -/
theorem withoutKey (flow : layout.IsFlow depth tokens) :
    IsFlow { layout with key := none } depth tokens :=
  ⟨flow.tokens, flow.depth, flow.blocks, nofun, flow.outer⟩

/-- One more token. -/
theorem push (flow : layout.IsFlow depth tokens) (token : YamlToken) :
    (layout.push token).IsFlow depth (tokens ++ [token]) :=
  ⟨by simp [YamlLayout.push, flow.tokens], flow.depth, flow.blocks, flow.key, flow.outer⟩

/-- Whether a key may start next does not matter here. -/
theorem allowKey (flow : layout.IsFlow depth tokens) (allowed : Bool) :
    (layout.allowKey allowed).IsFlow depth tokens :=
  ⟨flow.tokens, flow.depth, flow.blocks, flow.key, flow.outer⟩

end IsFlow

/-- A key that may be none is kept unless it is stale. -/
theorem keep?_of_free {pending : Option PendingKey} (free : ∀ key ∈ pending, key.required = false)
    (place : Place) :
    PendingKey.keep? place pending = some (pending.filter fun key => !key.isStale place) := by
  -- A stale key is only missed when it is required.
  cases pending with
  | none => rfl
  | some key =>
    cases stale : key.isStale place with
    | true => simp [PendingKey.keep?, stale, free key rfl, Option.filter]
    | false => simp [PendingKey.keep?, stale, Option.filter]

/-- Stale keys go, and nothing else changes. -/
theorem exists_dropStale? (flow : layout.IsFlow depth tokens) (place : Place) :
    ∃ fresh, layout.dropStale? place = some fresh ∧ fresh.IsFlow depth tokens ∧
      fresh.keyAllowed = layout.keyAllowed ∧
      ∀ key ∈ layout.key, key.isStale place = false → fresh.key = some key := by
  -- The pending keys around the open collections are kept or dropped one by one.
  have outer : layout.outer.mapM (PendingKey.keep? place) =
      some (layout.outer.map fun pending => pending.filter fun key => !key.isStale place) := by
    have free := flow.outer
    generalize layout.outer = outer at free
    induction outer with
    | nil => rfl
    | cons pending outer ih =>
      rw [List.mapM_cons, keep?_of_free (free pending List.mem_cons_self),
        ih fun other member => free other (List.mem_cons_of_mem _ member)]
      rfl
  refine ⟨{ layout with
    key := layout.key.filter fun key => !key.isStale place
    outer := layout.outer.map fun pending => pending.filter fun key => !key.isStale place },
    by rw [dropStale?, keep?_of_free flow.key, outer]; rfl, ?_, rfl, ?_⟩
  · -- Keys that are kept were pending before, so none of them is required.
    refine ⟨flow.tokens, by simpa using flow.depth, flow.blocks, ?_, ?_⟩
    · intro key member
      exact flow.key key (Option.mem_filter_iff.mp member).1
    · intro pending member key kept
      obtain ⟨before, earlier, rfl⟩ := List.mem_map.mp member
      exact flow.outer before earlier key (Option.mem_filter_iff.mp kept).1
  · -- A key that is not stale is kept.
    intro key member fresh
    exact Option.mem_filter_iff.mpr ⟨member, by simp [fresh]⟩

/-- The start of a node changes the pending key only. -/
theorem exists_startNode? (flow : layout.IsFlow depth tokens) (place : Place) :
    ∃ noted, layout.startNode? place = some noted ∧ noted.IsFlow depth tokens ∧
      (layout.keyAllowed → noted.key = some ⟨false, tokens.length, place⟩) := by
  unfold startNode?
  split
  · -- Where a key may start, the node is a pending key; it has to be one in blocks only.
    rename_i allowed
    refine ⟨_, by rw [flow.dropKey?]; rfl, ?_, ?_⟩
    · refine ⟨flow.tokens, flow.depth, flow.blocks, ?_, flow.outer⟩
      rintro key ⟨⟩
      simp [flow.blocks]
    · simp [flow.blocks, flow.tokens]
  · -- Elsewhere nothing is noted.
    rename_i denied
    exact ⟨layout, rfl, flow, fun allowed => absurd allowed denied⟩

/-- Blanks in front of a visible character are skipped: inside collections all of them, and where a
key may start all but tabs. -/
theorem skipGap_append {inFlow keyAllowed : Bool} {gap : List Place} {place : Place}
    (gaps : ∀ blank ∈ gap, blank.isGap ∧ (blank.char = '\t' → inFlow))
    (skips : inFlow ∨ keyAllowed) (visible : place.isGap = false)
    (noComment : place.char ≠ '#') (noMark : place.char ≠ Place.byteOrderMark) (rest : List Place) :
    skipGap inFlow false keyAllowed (gap ++ place :: rest) = (keyAllowed, place :: rest) := by
  induction gap with
  | nil =>
    -- A visible character ends the gap.
    simp only [Place.isGap, Place.isBlank, Bool.or_eq_false_iff, decide_eq_false_iff_not] at visible
    simp [skipGap, visible, noComment, noMark]
  | cons blank gap ih =>
    have others := ih fun blank member => gaps blank (List.mem_cons_of_mem _ member)
    obtain ⟨isGap, tabbed⟩ := gaps blank List.mem_cons_self
    rw [List.cons_append, skipGap]
    by_cases ends : blank.isBreak
    · -- A line end allows a key in a block, where it is allowed already.
      have same : (keyAllowed || !inFlow) = keyAllowed := by
        rcases skips with flow | allowed
        · simp [flow]
        · simp [allowed]
      rw [if_pos ends, same, others]
    · have blankChar : blank.char = ' ' ∨ blank.char = '\t' := by
        simpa [Place.isGap, Place.isBlank, ends] using isGap
      rw [if_neg ends, if_neg Bool.false_ne_true]
      rcases blankChar with space | tab
      · rw [if_neg (by simp [space]), if_pos space, others]
      · rw [if_neg (by simp [tab]), if_neg (by simp [tab]), if_pos (by simp [tab, tabbed tab]),
          others]

/-- Where no key may start, blanks are skipped up to the end of their line. -/
theorem skipGap_line {inFlow : Bool} {gap : List Place} (blank : ∀ place ∈ gap, place.isBlank)
    (rest : List Place) :
    skipGap inFlow false false (gap ++ rest) = skipGap inFlow false false rest := by
  -- By induction on the gap; a tab does not matter here, nor does a space.
  induction gap with
  | nil => rfl
  | cons place gap ih =>
    have others := ih fun place member => blank place (List.mem_cons_of_mem _ member)
    have isBlank := blank place List.mem_cons_self
    simp only [Place.isBlank, Bool.or_eq_true, decide_eq_true_eq] at isBlank
    rw [List.cons_append, skipGap]
    rcases isBlank with space | tab
    · simp [Place.isBreak, space, others]
    · simp [Place.isBreak, tab, others]

/-- Blanks without tabs are skipped to the end of the text. -/
theorem skipGap_end {inFlow keyAllowed : Bool} {gap : List Place}
    (gaps : ∀ blank ∈ gap, blank.isGap ∧ blank.char ≠ '\t') :
    (skipGap inFlow false keyAllowed gap).2 = [] := by
  -- By induction on the gap; behind a line end, whether a key is allowed may change.
  induction gap generalizing keyAllowed with
  | nil => rfl
  | cons blank gap ih =>
    have others := fun allowed =>
      @ih allowed fun blank member => gaps blank (List.mem_cons_of_mem _ member)
    obtain ⟨isGap, untabbed⟩ := gaps blank List.mem_cons_self
    rw [skipGap]
    by_cases ends : blank.isBreak
    · rw [if_pos ends, others]
    · have space : blank.char = ' ' := by
        simpa [Place.isGap, Place.isBlank, ends, untabbed] using isGap
      rw [if_neg ends, if_neg Bool.false_ne_true, if_neg (by simp [space]), if_pos space, others]

/-- A token that takes up text brings the reading to what follows it. -/
theorem run?_step {next : YamlLayout} {gap rest after : List Place} {place : Place}
    (skipped : skipGap layout.inFlow false layout.keyAllowed (gap ++ place :: rest) =
      (layout.keyAllowed, place :: rest))
    (step : layout.step? place rest = some (next, after)) (shorter : after.length ≤ rest.length) :
    layout.run? (gap ++ place :: rest) = next.run? after := by
  have unchanged : layout.allowKey layout.keyAllowed = layout := rfl
  -- What is left is shorter, so that the reading goes on.
  have less : after.length < (gap ++ place :: rest).length := by
    simp only [List.length_append, List.length_cons]
    omega
  rw [run?, skipped]
  simp only [unchanged, step, if_pos less]

/-- Where no marker and no directive stands, stale keys are dropped and a scalar or an indicator is
added. -/
theorem exists_step? (flow : layout.IsFlow depth tokens) {place : Place} {rest : List Place}
    (noPercent : place.char ≠ '%') (noMarker : Place.marker? (place :: rest) = none) :
    ∃ fresh : YamlLayout, fresh.IsFlow depth tokens ∧ fresh.keyAllowed = layout.keyAllowed ∧
      (∀ key ∈ layout.key, key.isStale place = false → fresh.key = some key) ∧
      layout.step? place rest =
        if PlainScalar.starts (depth != 0) place rest then fresh.addPlainScalar? place rest
        else fresh.addIndicated? place rest := by
  -- Indentation closes no blocks here, because there are none.
  obtain ⟨fresh, dropped, freshFlow, allowed, kept⟩ := exists_dropStale? flow place
  refine ⟨fresh, freshFlow, allowed, kept, ?_⟩
  rw [step?, dropped]
  simp only [Option.bind_eq_bind, Option.bind_some, freshFlow.closeFrom, noPercent, and_false,
    if_false, noMarker, freshFlow.inFlow]

/-- An indicator of JSON adds what it stands for, after stale keys are dropped. -/
theorem exists_step?_indicated (flow : layout.IsFlow depth tokens) {place : Place}
    (indicator : place.char ∈ "[]\x7b\x7d,\"".toList ∨ place.char = ':' ∧ depth ≠ 0)
    (rest : List Place) :
    ∃ fresh : YamlLayout, fresh.IsFlow depth tokens ∧ fresh.keyAllowed = layout.keyAllowed ∧
      (∀ key ∈ layout.key, key.isStale place = false → fresh.key = some key) ∧
      layout.step? place rest = fresh.addIndicated? place rest := by
  have facts : place.char ≠ '%' ∧ place.char ≠ '-' ∧ place.char ≠ '.' ∧
      PlainScalar.starts (depth != 0) place rest = false := by
    rcases indicator with listed | ⟨colon, inside⟩
    · have known : ∀ c ∈ "[]\x7b\x7d,\"".toList, c ≠ '%' ∧ c ≠ '-' ∧ c ≠ '.' ∧ c ≠ '?' ∧ c ≠ ':' ∧
          PlainScalar.isIndicator c :=
        forall_mem_of_all (by decide)
      obtain ⟨noPercent, noHyphen, noStop, noMark, noColon, isIndicator⟩ := known _ listed
      refine ⟨noPercent, noHyphen, noStop, ?_⟩
      simp [PlainScalar.starts, isIndicator, noHyphen, noMark, noColon]
    · -- Inside a collection a colon starts no scalar.
      refine ⟨by simp [colon], by simp [colon], by simp [colon], ?_⟩
      simp [PlainScalar.starts, PlainScalar.isIndicator, colon, inside]
  obtain ⟨noPercent, noHyphen, noStop, noPlain⟩ := facts
  obtain ⟨fresh, freshFlow, allowed, kept, step⟩ :=
    exists_step? flow noPercent (Place.marker?_of_char noHyphen noStop rest)
  refine ⟨fresh, freshFlow, allowed, kept, ?_⟩
  rw [step, noPlain, if_neg Bool.false_ne_true]

section Indicators

/-- An opening bracket opens a collection, in which a key may start. -/
theorem exists_openFlow? (flow : layout.IsFlow depth tokens) (place : Place) (token : YamlToken) :
    ∃ next : YamlLayout, layout.openFlow? place token = some next ∧
      next.IsFlow (depth + 1) (tokens ++ [token]) ∧ next.keyAllowed := by
  obtain ⟨noted, started, notedFlow, -⟩ := exists_startNode? flow place
  refine ⟨{ noted.push token with
    key := none, outer := noted.key :: noted.outer, keyAllowed := true },
    by rw [openFlow?, started]; rfl, ?_, rfl⟩
  have pushed := notedFlow.push token
  refine ⟨pushed.tokens, by simp [notedFlow.depth], pushed.blocks, nofun, ?_⟩
  -- The key that was pending now stands around the new collection.
  intro pending member
  rcases List.mem_cons.mp member with rfl | earlier
  · exact notedFlow.key
  · exact notedFlow.outer pending earlier

/-- A closing bracket closes the innermost collection, and no key may start behind it. -/
theorem exists_closeFlow? (flow : layout.IsFlow (depth + 1) tokens) (token : YamlToken) :
    ∃ next : YamlLayout, layout.closeFlow? token = some next ∧
      next.IsFlow depth (tokens ++ [token]) ∧ next.keyAllowed = false := by
  have filled := flow.depth
  cases around : layout.outer with
  | nil => simp [around] at filled
  | cons key outer =>
    -- The key that stood around the collection is pending again.
    have free := flow.outer
    rw [around] at filled free
    refine ⟨{ layout.push token with key, outer, keyAllowed := false },
      by rw [closeFlow?, flow.dropKey?]; simp [around, push], ?_, rfl⟩
    have pushed := flow.push token
    exact ⟨pushed.tokens, by simpa using filled, pushed.blocks, free key List.mem_cons_self,
      fun pending member => free pending (List.mem_cons_of_mem _ member)⟩

/-- A node that is a single token is a pending key where a key may start. -/
theorem exists_addNode? (flow : layout.IsFlow depth tokens) (place : Place) (token : YamlToken) :
    ∃ next : YamlLayout, layout.addNode? place token = some next ∧
      next.IsFlow depth (tokens ++ [token]) ∧
      (layout.keyAllowed → next.key = some ⟨false, tokens.length, place⟩) := by
  -- The key is noted first, then the token is added.
  obtain ⟨noted, started, notedFlow, key⟩ := exists_startNode? flow place
  exact ⟨(noted.allowKey false).push token, by rw [addNode?, started]; rfl,
    (notedFlow.allowKey false).push token, key⟩

/-- A colon marks the pending key as a key and announces its value. -/
theorem exists_valueEntry? {scalar : YamlToken}
    (flow : layout.IsFlow (depth + 1) (tokens ++ [scalar])) {start : Place}
    (key : layout.key = some ⟨false, tokens.length, start⟩) (place : Place) :
    ∃ next : YamlLayout, layout.valueEntry? place = some next ∧
      next.IsFlow (depth + 1) (tokens ++ [.key, scalar, .value]) := by
  -- Inside a collection a key opens no block.
  have noBlock : layout.opensBlock start.column = false := by
    simp [opensBlock, flow.inFlow]
  have listed : layout.tokens = scalar :: tokens.reverse := by
    rw [flow.tokens, List.reverse_append]
    rfl
  refine ⟨({ layout with key := none, keyAllowed := false }.insertAt tokens.length [.key]).push
    .value, ?_, ?_⟩
  · unfold valueEntry?
    simp [key, noBlock]
  · refine ⟨?_, flow.depth, flow.blocks, nofun, flow.outer⟩
    -- Exactly the key itself stands behind the mark.
    simp [push, insertAt, listed]

end Indicators

/-- An indicator of JSON behind a gap is added, after stale keys are dropped. -/
theorem exists_run?_indicated (flow : layout.IsFlow depth tokens) {gap : List Place} {place : Place}
    (gaps : ∀ blank ∈ gap, blank.isGap ∧ (blank.char = '\t' → depth ≠ 0))
    (skips : depth ≠ 0 ∨ layout.keyAllowed)
    (indicator : place.char ∈ "[]\x7b\x7d,\"".toList ∨ place.char = ':' ∧ depth ≠ 0)
    (rest : List Place) :
    ∃ fresh : YamlLayout, fresh.IsFlow depth tokens ∧ fresh.keyAllowed = layout.keyAllowed ∧
      (∀ key ∈ layout.key, key.isStale place = false → fresh.key = some key) ∧
      ∀ {next : YamlLayout} {after : List Place}, after.length ≤ rest.length →
        fresh.addIndicated? place rest = some (next, after) →
        layout.run? (gap ++ place :: rest) = next.run? after := by
  -- One step is taken at the indicator, which is neither a gap nor the start of a comment.
  obtain ⟨fresh, freshFlow, allowed, kept, step⟩ := exists_step?_indicated flow indicator rest
  refine ⟨fresh, freshFlow, allowed, kept, fun shorter added => ?_⟩
  have known : place.isGap = false ∧ place.char ≠ '#' ∧ place.char ≠ Place.byteOrderMark := by
    have facts : ∀ c ∈ "[]\x7b\x7d,\":".toList, c ≠ ' ' ∧ c ≠ '\t' ∧ c ≠ '\n' ∧ c ≠ '\u2028' ∧
        c ≠ '\u2029' ∧ c ≠ '#' ∧ c ≠ Place.byteOrderMark :=
      forall_mem_of_all (by decide)
    have listed : place.char ∈ "[]\x7b\x7d,\":".toList := by
      rcases indicator with listed | ⟨colon, -⟩
      · exact List.mem_append_left [':'] listed
      · rw [colon]
        decide
    obtain ⟨noSpace, noTab, noFeed, noLine, noParagraph, others⟩ := facts _ listed
    exact ⟨by simp [Place.isGap, Place.isBlank, Place.isBreak, *], others⟩
  -- So the gap ends at the indicator, and the step is taken there.
  refine run?_step (skipGap_append ?_ ?_ known.1 known.2.1 known.2.2 rest) (step.trans added)
    shorter
  · simpa [flow.inFlow] using gaps
  · simpa [flow.inFlow] using skips

/-- A word in front of a comma or a closing bracket is added as a plain scalar. -/
theorem exists_run?_word (flow : layout.IsFlow (depth + 1) tokens) {gap blanks : List Place}
    (gaps : ∀ blank ∈ gap, blank.isGap) {word : List Char} (opens : PlainScalar.opensWord word)
    (all : word.all PlainScalar.isWord) (index line column : Nat)
    (behind : ∀ blank ∈ blanks, blank.isGap) {place : Place}
    (ends : PlainScalar.isFlowIndicator place.char) (rest : List Place) :
    ∃ next : YamlLayout,
      layout.run? (gap ++ (Place.listFrom index line column word ++ (blanks ++ place :: rest))) =
        next.run? (place :: rest) ∧
      next.IsFlow (depth + 1) (tokens ++ [.scalar word true]) := by
  cases word with
  | nil => exact opens.elim
  | cons c word =>
    -- The scalar ends where the indicator stands, and it is kept in one piece.
    obtain ⟨broken, read⟩ :=
      PlainScalar.read?_word_end all index line column behind ends rest
    obtain ⟨starts, noMarker⟩ := PlainScalar.starts_of_opensWord opens index line column
      (blanks ++ place :: rest) rfl
    -- The first character is neither an indicator nor a gap nor a comment.
    have isWord : PlainScalar.isWord c := by
      rw [List.all_cons, Bool.and_eq_true] at all
      exact all.1
    have differs : ∀ other, PlainScalar.isWord other = false → c ≠ other :=
      fun _ => ne_of_class isWord
    have inline := PlainScalar.isInline_of_isWord isWord
    rw [Place.listFrom_cons inline, List.cons_append] at read ⊢
    -- The step drops stale keys, notes where the node starts and adds the scalar.
    obtain ⟨fresh, freshFlow, -, -, step⟩ :=
      @exists_step? _ _ _ flow ⟨c, index, line, column⟩ _ (differs '%' rfl) noMarker
    obtain ⟨noted, started, notedFlow, -⟩ := exists_startNode? freshFlow ⟨c, index, line, column⟩
    have noBlock : fresh.floor = 0 := by
      simp [floor, freshFlow.blocks]
    refine ⟨(noted.allowKey broken).push (.scalar (c :: word) true), ?_,
      (notedFlow.allowKey broken).push _⟩
    have inFlow : (depth + 1 != 0) = true := rfl
    rw [inFlow, starts, if_pos rfl, addPlainScalar?, started, freshFlow.inFlow, inFlow, noBlock]
      at step
    simp only [Option.bind_eq_bind, Option.bind_some, read] at step
    have noGap := Place.isGap_mk inline (differs ' ' rfl) (differs '\t' rfl) index line column
    -- The gap in front is skipped, and the step leaves less to read.
    refine run?_step (skipGap_append ?_ ?_ noGap (differs '#' rfl) (differs _ rfl) _) step ?_
    · exact fun blank member => ⟨gaps blank member, fun _ => flow.inFlow⟩
    · exact .inl flow.inFlow
    · simp only [List.length_append, List.length_cons]
      omega

/-- Outside all collections the tokens are complete where only blanks follow, if no tab opens a
line. -/
theorem run?_end (flow : layout.IsFlow 0 tokens) (denied : layout.keyAllowed = false)
    {line gap : List Place} (blank : ∀ place ∈ line, place.isBlank)
    (gaps : ∀ place ∈ gap, place.isGap ∧ place.char ≠ '\t') :
    layout.run? (line ++ gap) = some tokens := by
  have ended := @skipGap_end layout.inFlow false gap gaps
  rw [run?, denied, skipGap_line blank]
  -- No block is left to be closed, and no pending key has to be one.
  split
  · rw [flow.closeFrom, flow.dropKey?, Option.map_some, flow.tokens, List.reverse_reverse]
  · rename_i same
    rw [same] at ended
    cases ended

end YamlLayout

end Locator
