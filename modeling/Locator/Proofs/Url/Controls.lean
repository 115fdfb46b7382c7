import Locator.Proofs.Url.Path.File
import Locator.Proofs.Url.Settled

/-! Controls in URLs: whatever a text holds, no component of the URL that is read from it has a
character below the space, under any scheme. So every component fits on a line. -/

namespace Locator

/-- A text without controls, which are the characters below the space. -/
def HasNoControl (text : List Char) : Prop :=
  ∀ c ∈ text, 0x20 ≤ c.toNat

/-- A text without controls has no line feed. -/
theorem HasNoControl.newline_not_mem {text : List Char} (free : HasNoControl text) :
    '\n' ∉ text := by
  -- A line feed is a control.
  intro member
  exact absurd (free '\n' member) (by decide)

/-- Decimal digits are no controls. -/
theorem le_toNat_of_isDigit {c : Char} (digit : c.isDigit) : 0x20 ≤ c.toNat := by
  -- A digit is one of the first 128 characters, which are checked one by one.
  have ascii := Ascii.toNat_lt_of_isAlphanum (c := c) (by simp [Char.isAlphanum, digit])
  have every : ∀ c : Char, c.toNat < 128 → c.isDigit → 0x20 ≤ c.toNat :=
    Ascii.forall_of_lt (by decide)
  exact every c ascii digit

/-- A number is written without controls. -/
theorem hasNoControl_repr (n : Nat) : HasNoControl (Nat.repr n).toList := by
  -- A number is written in digits.
  intro c member
  rw [Nat.repr, String.toList_ofList] at member
  exact le_toNat_of_isDigit (Ascii.isDigit_of_mem_toDigits member)

namespace Component

/-- Plain characters are no controls. -/
theorem hasNoControl_of_isPlain {text : List Char} (plain : ∀ c ∈ text, isPlain c) :
    HasNoControl text := by
  -- The visible characters of ASCII start behind the space.
  intro c member
  have range := plain c member
  simp only [isPlain, Bool.and_eq_true, decide_eq_true_eq] at range
  exact range.1

/-- What a fragment keeps is plain. -/
theorem isPlain_of_inFragment {c : Char} (kept : inFragment c) : isPlain c := by
  -- What a fragment keeps is visible, and more is asked of it.
  rw [inFragment, Bool.and_eq_true] at kept
  exact kept.1

/-- What a query keeps is plain, under any scheme. -/
theorem isPlain_of_inQuery {special : Bool} {c : Char} (kept : inQuery special c) : isPlain c := by
  -- What a query keeps is visible, and more is asked of it.
  rw [inQuery, Bool.and_eq_true, Bool.and_eq_true] at kept
  exact kept.1.1

/-- What a path keeps is plain. -/
theorem isPlain_of_inPath {c : Char} (kept : inPath c) : isPlain c :=
  isPlain_of_inFragment (inFragment_of_inPath kept)

end Component

namespace Path

/-- Every character of every piece is one that paths keep. -/
def Draft.IsKept (draft : Draft) : Prop :=
  ∀ piece ∈ draft.pieces, ∀ c ∈ piece, Component.inPath c

namespace Draft

variable {draft : Draft}

/-- An empty piece at the end has no characters. -/
theorem IsKept.closeBefore (kept : draft.IsKept) (rest : List (List Char)) :
    (draft.closeBefore rest).IsKept := by
  -- At most an empty segment is added.
  unfold Draft.closeBefore
  split
  · exact List.forall_mem_cons.mpr ⟨by simp, kept⟩
  · exact kept

/-- Outside files a segment is added in its encoded form. -/
theorem IsKept.add (kept : draft.IsKept) (segment : List Char) :
    (draft.add false segment).IsKept := by
  have encoded : ∀ c ∈ (Component.encode Component.inPath (Component.strip segment)).toList,
      Component.inPath c := Component.kept_of_mem_encode (by decide) (by decide)
  rw [Component.encode, String.toList_ofList] at encoded
  -- Neither a cut nor a drive letter is looked for.
  exact List.forall_mem_cons.mpr ⟨encoded, kept⟩

/-- Resolving a path outside files leaves characters that paths keep, whatever the segments hold. -/
theorem IsKept.resolve (kept : draft.IsKept) (segments : List (List Char)) :
    (draft.resolve false segments).IsKept := by
  -- The induction is on the segments to come, for all drafts that they may meet.
  induction segments generalizing draft with
  | nil => exact kept
  | cons segment rest ih =>
    rw [Draft.resolve]
    split
    · -- Two dots take a piece away, and may leave an empty one at the end.
      refine ih (IsKept.closeBefore ?_ rest)
      exact fun piece member => kept piece (mem_of_mem_ascend member)
    · split
      · exact ih (kept.closeBefore rest)
      · exact ih (kept.add segment)

end Draft

/-- A path whose segments hold nothing but what paths keep has no controls. -/
theorem hasNoControl_segmented {segments : List (List Char)}
    (kept : ∀ segment ∈ segments, ∀ c ∈ segment, Component.inPath c) :
    HasNoControl (segmented (segments.map .ofList)).text.toList := by
  intro c member
  simp only [text, String.toList_ofList, List.mem_flatMap, List.mem_map] at member
  obtain ⟨_, ⟨segment, listed, rfl⟩, inside⟩ := member
  -- Beside the segments there are the slashes in front of them.
  rcases List.mem_cons.mp inside with same | character
  · exact same ▸ (by decide)
  · rw [String.toList_ofList] at character
    exact Component.hasNoControl_of_isPlain
      (fun d held => Component.isPlain_of_inPath (kept segment listed d held)) c character

/-- Outside files, what a text spells as a path has no controls. -/
theorem hasNoControl_read (special : Bool) (text : List Char) :
    HasNoControl (read special text).text.toList := by
  -- The root has one piece, which is empty.
  have root : Draft.root.IsKept := by simp [Draft.IsKept, Draft.root]
  refine hasNoControl_segmented ?_
  intro segment member
  -- The pieces of a draft stand with the last one first, and the root is left out.
  exact root.resolve _ segment (List.mem_reverse.mp (List.mem_of_mem_drop member))

/-- What a text spells as a file path has no controls. -/
theorem hasNoControl_ofFile_readFile (rooted : Bool) (text : List Char) :
    HasNoControl (ofFile (readFile rooted text)).text.toList := by
  -- The path is made of encoded segments.
  obtain ⟨segments, -, encoded, same⟩ := isSegmented_ofFile_readFile rooted text
  rw [same]
  exact hasNoControl_segmented fun segment member => (encoded segment member).kept

end Path

namespace Host

/-- The written form of an IPv6 address has no controls. -/
theorem hasNoControl_ipv6 (address : Ipv6) : HasNoControl (ipv6 address).text.toList := by
  have every : ∀ c : Char, c.toNat < 128 → Ascii.isHexDigit c → 0x20 ≤ c.toNat :=
    Ascii.forall_of_lt (by decide)
  intro c member
  simp only [text, String.toList_ofList, List.cons_append, List.mem_cons, List.mem_append,
    List.not_mem_nil, or_false] at member
  -- Between two brackets there are hexadecimal digits and colons.
  rcases member with rfl | inside | rfl
  · decide
  · rcases Ipv6.mem_text inside with digit | rfl
    · exact every c (Ascii.toNat_lt_of_isHexDigit digit) digit
    · decide
  · decide

/-- The written form of an IPv4 address has no controls. -/
theorem hasNoControl_ipv4 (address : Ipv4) : HasNoControl (ipv4 address).text.toList := by
  intro c member
  rw [text, String.toList_ofList] at member
  -- There are decimal digits and dots.
  rcases Ipv4.mem_text member with digit | rfl
  · exact le_toNat_of_isDigit digit
  · decide

/-- A host of a special scheme has no controls. -/
theorem hasNoControl_of_readSpecial {text : List Char} {host : Host}
    (read : readSpecial text = .ok host) : HasNoControl host.text.toList := by
  cases host with
  | ipv4 address => exact hasNoControl_ipv4 address
  | ipv6 address => exact hasNoControl_ipv6 address
  | name written =>
    -- Controls are forbidden in domains, also where a triplet has stood for one.
    obtain ⟨spelled, -, -⟩ := domainToAscii?_of_readSpecial read
    obtain ⟨_, _, _, -, -, -, -, allowed, -⟩ := exists_of_domainToAscii? spelled
    intro c member
    have passed := allowed c member
    simp only [isForbiddenInDomain, Bool.or_eq_false_iff, decide_eq_false_iff_not] at passed
    omega

/-- A host of any other scheme has no controls. -/
theorem hasNoControl_of_readOther {text : List Char} {host : Host}
    (read : readOther text = .ok (some host)) : HasNoControl host.text.toList := by
  unfold readOther at read
  split at read
  · -- Brackets hold an address.
    cases inner : readBracketed text with
    | error fault =>
      rw [inner] at read
      cases read
    | ok found =>
      rw [inner] at read
      cases read
      obtain ⟨-, address, rfl⟩ := exists_of_readBracketed inner
      exact hasNoControl_ipv6 address
  · split at read
    · cases read
    · split at read
      · cases read
      · -- Any other name is encoded.
        cases read
        exact Component.hasNoControl_of_isPlain
          (Component.kept_of_mem_encode (by decide) (by decide))

/-- A host has no controls, under whatever scheme it was read. -/
theorem hasNoControl_of_read {special : Bool} {text : List Char} {host : Option Host}
    (found : read special text = .ok host) : ∀ named ∈ host, HasNoControl named.text.toList := by
  -- The two kinds of schemes read their hosts in different ways.
  rintro named rfl
  cases special with
  | true =>
    obtain ⟨own, same, inner⟩ := exists_of_read found
    cases same
    exact hasNoControl_of_readSpecial inner
  | false => exact hasNoControl_of_readOther found

end Host

/-- A scheme is spelled in letters, digits and three marks, so it has no controls. -/
theorem Scheme.hasNoControl_of_split? {scheme : String} {text : List Char}
    (spelled : split? text = some (scheme, none)) : HasNoControl scheme.toList := by
  -- All of them lie within ASCII, where every small letter can be checked.
  have every : ∀ c : Char, c.toNat < 128 → isCharacter c → 0x20 ≤ c.toLower.toNat :=
    Ascii.forall_of_lt (by decide)
  have ascii {c : Char} (known : isCharacter c) : c.toNat < 128 := by
    simp only [isCharacter, Bool.or_eq_true, decide_eq_true_eq] at known
    rcases known with ((letter | rfl) | rfl) | rfl
    · exact Ascii.toNat_lt_of_isAlphanum letter
    all_goals decide
  obtain ⟨known, rfl⟩ := eq_of_split? spelled
  intro c member
  rw [String.toList_ofList] at member
  obtain ⟨origin, inside, rfl⟩ := List.mem_map.mp member
  exact every origin (ascii (known origin inside)) (known origin inside)

namespace Url

/-- A URL none of whose components has a control. -/
structure HasNoControls (url : Url) : Prop where
  /-- The scheme. -/
  scheme : HasNoControl url.scheme.toList
  /-- The host, if there is one. -/
  host : ∀ host ∈ url.host?, HasNoControl host.text.toList
  /-- The path. -/
  path : HasNoControl url.pathText.toList
  /-- The query, if there is one. -/
  query : ∀ text ∈ url.query, HasNoControl text.toList
  /-- The fragment, if there is one. -/
  fragment : ∀ text ∈ url.fragment, HasNoControl text.toList

/-- An encoded query has no controls. -/
theorem hasNoControl_encodeQuery (scheme : String) (text : List Char) :
    HasNoControl (encodeQuery scheme text).toList := by
  -- What a query keeps depends on the scheme, but it is visible under both kinds.
  unfold encodeQuery
  cases Scheme.isSpecial scheme <;>
    exact Component.hasNoControl_of_isPlain fun c member =>
      Component.isPlain_of_inQuery (Component.kept_of_mem_encode (by decide) (by decide) c member)

/-- An encoded fragment has no controls. -/
theorem hasNoControl_encodeFragment (text : List Char) :
    HasNoControl (encodeFragment text).toList :=
  Component.hasNoControl_of_isPlain fun c member =>
    Component.isPlain_of_inFragment (inFragment_of_mem_encodeFragment c member)

/-- What may be left out has no controls when all that is written for it has none. -/
theorem hasNoControl_of_mem_map {part : Option (List Char)} {write : List Char → String}
    (free : ∀ text, HasNoControl (write text).toList) :
    ∀ written ∈ part.map write, HasNoControl written.toList := by
  -- A component that is there was written.
  intro written member
  obtain ⟨text, -, rfl⟩ := Option.map_eq_some_iff.mp member
  exact free text

variable {scheme : String} {text : List Char} {url : Url}

/-- No component that is read behind two slashes has a control. -/
theorem hasNoControls_of_readWithAuthority (named : HasNoControl scheme.toList)
    (read : readWithAuthority scheme text = .ok url) : url.HasNoControls := by
  obtain ⟨authority, after, front, rfl⟩ := exists_of_readWithAuthority read
  obtain ⟨_, _, _, -, -, host, -⟩ := Authority.exists_of_read front
  refine ⟨named, Host.hasNoControl_of_read host, ?_,
    hasNoControl_of_mem_map (hasNoControl_encodeQuery scheme),
    hasNoControl_of_mem_map hasNoControl_encodeFragment⟩
  -- The path may be empty, and nothing is written for it then.
  simp only [pathText, pathAfterAuthority]
  split
  · simp [HasNoControl, Path.text]
  · exact Path.hasNoControl_read _ _

/-- No component of a file URL has a control. -/
theorem hasNoControls_of_readFile (read : readFile text = .ok url) : url.HasNoControls := by
  -- The scheme is fixed, and each other component was encoded or read as a host.
  obtain ⟨_, after, host, rooted, path, -, -, hosts, rfl⟩ := exists_of_readFile read
  have scheme : HasNoControl "file".toList := by simp [HasNoControl]
  refine ⟨scheme, ?_, Path.hasNoControl_ofFile_readFile rooted path,
    hasNoControl_of_mem_map fun query => hasNoControl_encodeQuery "file" _,
    hasNoControl_of_mem_map fun fragment => hasNoControl_encodeFragment _⟩
  intro own member
  obtain ⟨part, spelled⟩ := hosts own member
  exact Host.hasNoControl_of_readSpecial spelled

/-- No component of a URL without an authority has a control. -/
theorem hasNoControls_readPlain (named : HasNoControl scheme.toList) (text : List Char) :
    (readPlain scheme text).HasNoControls := by
  refine ⟨named, by simp [readPlain, host?], ?_,
    hasNoControl_of_mem_map (hasNoControl_encodeQuery scheme),
    hasNoControl_of_mem_map hasNoControl_encodeFragment⟩
  -- The path has segments, or it is one encoded text.
  simp only [pathText, readPlain]
  split
  · exact Path.hasNoControl_read false _
  · exact Component.hasNoControl_of_isPlain
      (Component.kept_of_mem_encode (by decide) (by decide))

/-- No component of a URL that is read from a text has a control, whatever the text holds. -/
theorem hasNoControls_of_parse {text : String} (read : Url.parse text = .ok url) :
    url.HasNoControls := by
  -- Behind the scheme there is a file, an authority, or neither.
  obtain ⟨name, rest, scheme, -, spelled, behind⟩ := exists_of_parse read
  have named := Scheme.hasNoControl_of_split? spelled
  rcases cases_of_readAfterScheme behind with ⟨-, file⟩ | ⟨-, _, _, -, -, authority⟩ | ⟨-, rfl⟩
  · exact hasNoControls_of_readFile file
  · exact hasNoControls_of_readWithAuthority named authority
  · exact hasNoControls_readPlain named _

end Url

end Locator
