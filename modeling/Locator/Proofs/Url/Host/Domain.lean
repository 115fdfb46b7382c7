import Locator.Proofs.Url.Host.Label
import Locator.Url.Host

/-! Domains: what a domain is read as is read as itself again, unless a label is in Punycode. -/

namespace Locator

namespace Host

/-- A domain that is its own reading. -/
structure IsPlainDomain (domain : List Char) : Prop where
  /-- It lies within ASCII. -/
  ascii : ∀ c ∈ domain, c.toNat < 0x80
  /-- It has no capitals. -/
  small : ∀ c ∈ domain, c.toLower = c
  /-- It holds nothing that is forbidden. -/
  allowed : ∀ c ∈ domain, isForbiddenInDomain c = false
  /-- None of its labels is marked as Punycode. -/
  unmarked : ∀ label ∈ fields '.' domain, ¬ Label.punycodeMark <+: label

/-- A domain is written from the labels that its folded text spells, when none of its characters is
forbidden. -/
theorem exists_of_domainToAscii? {bytes : List UInt8} {domain : List Char}
    (read : domainToAscii? bytes = some domain) :
    ∃ text folded labels, Utf8.decode? bytes = some text ∧ Label.fold? text = some folded ∧
      (fields '.' folded).mapM Label.read? = some labels ∧
      domain = joinFields '.' (labels.map Label.write) ∧
      (∀ c ∈ domain, isForbiddenInDomain c = false) ∧ Label.areAligned labels := by
  simp only [domainToAscii?, Option.bind_eq_bind, Option.bind_eq_some_iff] at read
  obtain ⟨text, decoded, folded, meant, labels, spelled, checked⟩ := read
  -- The written labels are checked last, and a domain that fails is none.
  split at checked
  · cases checked
  · rename_i passed
    cases checked
    simp only [Bool.or_eq_true, not_or, Bool.not_eq_true] at passed
    refine ⟨text, folded, labels, decoded, meant, spelled, rfl, ?_, by simpa using passed.2⟩
    intro c member
    simpa using List.any_eq_false.mp passed.1 c member

/-- What a domain is read as is its own reading, if it has no label in Punycode. -/
theorem isPlainDomain_of_domainToAscii? {bytes : List UInt8} {domain : List Char}
    (read : domainToAscii? bytes = some domain)
    (unmarked : ∀ label ∈ fields '.' domain, ¬ Label.punycodeMark <+: label) :
    IsPlainDomain domain := by
  obtain ⟨text, folded, labels, -, -, spelled, rfl, allowed, -⟩ := exists_of_domainToAscii? read
  -- A domain without labels is empty.
  by_cases none : labels = []
  · subst none
    exact ⟨by simp, by simp, by simp, unmarked⟩
  -- A label beyond ASCII would be written with the mark in front.
  have ascii : ∀ label ∈ labels, Label.isAscii label := by
    intro label member
    refine Decidable.byContradiction fun beyond => ?_
    have starts : Label.punycodeMark <+: Label.write label := by
      rw [Label.write, if_neg (by simpa using beyond)]
      exact List.prefix_append _ _
    obtain ⟨piece, inside, marked⟩ := exists_mem_fields_of_isPrefix starts (by decide : '.' ∉ _)
    refine unmarked piece ?_ marked
    rw [fields_joinFields_eq_flatMap (by simpa using none)]
    exact List.mem_flatMap.mpr ⟨_, List.mem_map_of_mem member, inside⟩
  -- So every label is written as it was read, and no label has capitals.
  have written : labels.map Label.write = labels.map id := by
    refine List.map_congr_left ?_
    intro label member
    exact if_pos (ascii label member)
  rw [List.map_id] at written
  rw [written] at allowed unmarked ⊢
  have small : ∀ label ∈ labels, ∀ c ∈ label, c.toLower = c := by
    intro label member
    obtain ⟨piece, -, found⟩ := exists_of_mem_mapM spelled member
    exact Label.toLower_of_mem_read? found
  -- What holds in each label holds in the joined domain.
  exact ⟨forall_mem_joinFields (by decide) fun label member =>
      Label.isAscii_iff.mp (ascii label member),
    forall_mem_joinFields (by decide) small, allowed, unmarked⟩

namespace IsPlainDomain

variable {domain : List Char}

/-- A plain domain is read as it stands. -/
theorem domainToAscii?_encode (plain : IsPlainDomain domain) :
    domainToAscii? (Utf8.encode domain) = some domain := by
  have lowered : domain.map Char.toLower = domain.map id :=
    List.map_congr_left plain.small
  -- In small letters of ASCII no character of the domain is mapped.
  have ascii : ∀ label ∈ fields '.' domain, Label.isAscii label := fun label member =>
    Label.isAscii_iff.mpr fun c inside => plain.ascii c (mem_of_mem_fields member inside)
  have small : ∀ label ∈ fields '.' domain, ∀ c ∈ label, c.toLower = c :=
    fun label member c inside => plain.small c (mem_of_mem_fields member inside)
  have folded : Label.fold? domain = some (domain.map Char.toLower) :=
    if_pos (Label.isAscii_iff.mpr plain.ascii)
  -- Every label is read and written as it stands.
  have spelled : ((fields '.' domain).map id).mapM Label.read? = some (fields '.' domain) :=
    mapM_map_eq_some fun label member =>
      Label.read?_of_isAscii (ascii label member) (small label member) (plain.unmarked label member)
  have written : (fields '.' domain).map Label.write = (fields '.' domain).map id :=
    List.map_congr_left fun label member => if_pos (ascii label member)
  -- What is written is the domain, in which nothing is forbidden.
  have allowed : domain.any isForbiddenInDomain = false := by
    rw [List.any_eq_false]
    intro c member
    simp [plain.allowed c member]
  rw [List.map_id] at lowered spelled written
  simp only [domainToAscii?, Utf8.decode?_encode, Option.bind_eq_bind, Option.bind_some, folded,
    lowered, spelled, written, joinFields_fields, allowed, Label.areAligned_of_isAscii ascii]
  rfl

/-- A plain domain holds nothing that is forbidden. -/
theorem not_mem (plain : IsPlainDomain domain) {c : Char} (forbidden : isForbiddenInDomain c) :
    c ∉ domain := by
  -- All characters of the domain are allowed.
  intro member
  simp [plain.allowed c member] at forbidden

/-- A plain domain has nothing to decode. -/
theorem decode_eq (plain : IsPlainDomain domain) : Percent.decode domain = Utf8.encode domain :=
  (Percent.Spells.of_not_mem (plain.not_mem (by decide))).decode_eq

/-- A plain domain is not taken for an address in brackets. -/
theorem head?_ne (plain : IsPlainDomain domain) : domain.head? ≠ some '[' :=
  fun bracket => plain.not_mem (by decide) (List.mem_of_head? bracket)

end IsPlainDomain

/-- A label that is a plain domain of its own. -/
structure IsPlainLabel (label : List Char) : Prop where
  /-- It is a plain domain. -/
  plain : IsPlainDomain label
  /-- It holds no dot. -/
  whole : '.' ∉ label

/-- The labels of a plain domain are plain. -/
theorem IsPlainDomain.isPlainLabel {domain label : List Char} (plain : IsPlainDomain domain)
    (member : label ∈ fields '.' domain) : IsPlainLabel label := by
  have inside : ∀ c ∈ label, c ∈ domain := fun c => mem_of_mem_fields member
  have whole := not_mem_of_mem_fields member
  -- A label is made of characters of the domain, and is the only piece of itself.
  refine ⟨⟨fun c known => plain.ascii c (inside c known),
    fun c known => plain.small c (inside c known),
    fun c known => plain.allowed c (inside c known), ?_⟩, whole⟩
  rw [fields_of_not_mem whole, List.forall_mem_singleton]
  exact plain.unmarked label member

/-- Plain labels with dots between them make a plain domain. -/
theorem isPlainDomain_joinFields {labels : List (List Char)} (filled : labels ≠ [])
    (each : ∀ label ∈ labels, IsPlainLabel label) : IsPlainDomain (joinFields '.' labels) := by
  -- The dot has each property too, and the labels of the join are the given ones.
  refine ⟨forall_mem_joinFields (by decide) fun label member => (each label member).plain.ascii,
    forall_mem_joinFields (by decide) fun label member => (each label member).plain.small,
    forall_mem_joinFields (by decide) fun label member => (each label member).plain.allowed, ?_⟩
  rw [fields_joinFields filled fun label member => (each label member).whole]
  intro label member
  refine (each label member).plain.unmarked label ?_
  simp [fields_of_not_mem (each label member).whole]

/-- A word of small letters and digits is a plain label. -/
theorem isPlainLabel_of_word {label : List Char} (word : ∀ c ∈ label, c.isLower ∨ c.isDigit) :
    IsPlainLabel label := by
  have every : ∀ c : Char, c.toNat < 128 → c.isLower ∨ c.isDigit →
      c.toLower = c ∧ isForbiddenInDomain c = false ∧ c ≠ '.' ∧ c ≠ '-' :=
    Ascii.forall_of_lt (by decide)
  have ascii : ∀ c ∈ label, c.toNat < 128 := by
    intro c member
    have known : ((c.isUpper || c.isLower) || c.isDigit) = true := by
      rcases word c member with letter | digit <;> simp [*]
    exact Ascii.toNat_lt_of_isAlphanum known
  have each : ∀ c ∈ label, _ := fun c member => every c (ascii c member) (word c member)
  have whole : '.' ∉ label := fun dot => (each '.' dot).2.2.1 rfl
  refine ⟨⟨ascii, fun c member => (each c member).1, fun c member => (each c member).2.1, ?_⟩, whole⟩
  -- The mark of Punycode holds hyphens.
  rw [fields_of_not_mem whole, List.forall_mem_singleton]
  exact fun starts => (each '-' (starts.subset (by decide))).2.2.2 rfl

namespace IsPlainLabel

variable {label : List Char} (plain : IsPlainLabel label)

include plain

/-- A plain label has nothing to decode. -/
theorem decodeText?_eq : Percent.decodeText? label = some label := by
  -- Its bytes are its characters, and these come back from UTF-8.
  rw [Percent.decodeText?, plain.plain.decode_eq, Utf8.decode?_encode]

/-- A plain label is in small letters. -/
theorem map_toLower : label.map Char.toLower = label := by
  -- No character has a smaller one.
  rw [List.map_congr_left (g := id) plain.plain.small, List.map_id]

/-- A plain label lies within ASCII. -/
theorem isAscii : Label.isAscii label = true :=
  Label.isAscii_iff.mpr plain.plain.ascii

/-- A plain label is read as it stands. -/
theorem read?_eq : Label.read? label = some label := by
  -- A label without a dot is the only label of itself, and no label of it is marked.
  refine Label.read?_of_isAscii plain.isAscii plain.plain.small (plain.plain.unmarked label ?_)
  simp [fields_of_not_mem plain.whole]

/-- A plain label is written as it stands. -/
theorem write_eq : Label.write label = label :=
  if_pos plain.isAscii

end IsPlainLabel

/-- Plain labels stay around whatever the text between them is read as. -/
theorem exists_fields_of_domainToAscii? {before after : List (List Char)} {text domain : List Char}
    (plain : ∀ label ∈ before ++ after, IsPlainLabel label)
    (read : domainToAscii? (Percent.decode (joinFields '.' (before ++ [text] ++ after))) =
      some domain) :
    ∃ middle, middle ≠ [] ∧ fields '.' domain = before ++ middle ++ after := by
  obtain ⟨decodedText, folded, labels, decoded, meant, spelled, rfl, -, -⟩ :=
    exists_of_domainToAscii? read
  have whole : ∀ label ∈ before ++ after, '.' ∉ label := fun label member =>
    (plain label member).whole
  -- The dots between the labels are still there when the text is decoded and folded.
  rw [← Percent.decodeText?, Percent.decodeText?_joinFields (by decide) (by decide) (by decide)
    (by simp), Option.map_eq_some_iff] at decoded
  obtain ⟨pieces, found, rfl⟩ := decoded
  -- The plain labels have nothing to decode, so what was decoded is the text between them.
  obtain ⟨value, -, rfl⟩ :=
    exists_of_mapM_around (fun label member => (plain label member).decodeText?_eq) found
  obtain ⟨middle, rfl⟩ := Label.exists_of_fold?_joinFields
    (fun label member => (plain label member).isAscii)
    (fun label member => (plain label member).map_toLower) meant
  rw [fields_joinFields_around whole (by simp)] at spelled
  -- Then the labels are read and written one by one.
  obtain ⟨inner, between, rfl⟩ :=
    (mapM_around_eq_some_iff fun label member => (plain label member).read?_eq).mp spelled
  rw [map_around fun label member => (plain label member).write_eq]
  -- The text has at least one piece, so at least one label comes of it.
  have filled : inner ≠ [] := by
    rintro rfl
    obtain ⟨first, more, cut⟩ :=
      List.exists_cons_of_ne_nil (fields_ne_nil '.' middle)
    simp [cut, List.mapM_cons, Option.bind_eq_some_iff] at between
  refine ⟨(inner.map Label.write).flatMap (fields '.'), ?_, ?_⟩
  · obtain ⟨label, more, rfl⟩ := List.exists_cons_of_ne_nil filled
    simp [fields_ne_nil]
  · rw [fields_joinFields_around whole (by simpa using filled)]

end Host

end Locator
