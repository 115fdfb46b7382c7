import Locator.Proofs.Url.Host.Domain
import Locator.Proofs.Url.Host.Ipv4
import Locator.Proofs.Url.Host.Ipv6
import Locator.Url.Reading

/-! Hosts of special schemes: the written form of what was read is read as the same host, wherever
it stands in front of a port or the end of its authority. -/

namespace Locator

namespace Authority

/-- A host without colons goes up to the colon of the port. -/
theorem splitHost_append {host rest : List Char} (colon : ':' ∉ host) (bracket : '[' ∉ host)
    (ends : ∀ c ∈ rest.head?, c = ':') : splitHost false (host ++ rest) = (host, rest) := by
  -- No bracket is opened on the way, so the first colon is the end.
  induction host with
  | nil =>
    cases rest with
    | nil => rfl
    | cons c more =>
      rw [ends c rfl]
      rfl
  | cons c more ih =>
    have noColon : c ≠ ':' := fun same => colon (same ▸ List.mem_cons_self)
    have noBracket : c ≠ '[' := fun same => bracket (same ▸ List.mem_cons_self)
    have inner := ih (fun member => colon (List.mem_cons_of_mem _ member))
      fun member => bracket (List.mem_cons_of_mem _ member)
    rw [List.cons_append, splitHost, if_neg (by simp [noColon])]
    simp [noBracket, inner]

/-- Between brackets colons belong to the host. -/
theorem splitHost_brackets {address rest : List Char} (closed : ']' ∉ address)
    (ends : ∀ c ∈ rest.head?, c = ':') :
    splitHost false ('[' :: address ++ [']'] ++ rest) = ('[' :: address ++ [']'], rest) := by
  -- The brackets stay open up to the first closing one.
  have inside : splitHost true (address ++ ']' :: rest) = (address ++ [']'], rest) := by
    induction address with
    | nil =>
      have outside := splitHost_append List.not_mem_nil List.not_mem_nil ends
      rw [List.nil_append] at outside
      simp [splitHost, outside]
    | cons c more ih =>
      have other : c ≠ ']' := fun same => closed (same ▸ List.mem_cons_self)
      have inner := ih fun member => closed (List.mem_cons_of_mem _ member)
      have stays : (decide (c = '[') || (true && c != ']')) = true := by simp [other]
      rw [List.cons_append, splitHost, if_neg (by simp), stays, inner]
      rfl
  rw [List.append_assoc, List.singleton_append, List.cons_append, splitHost, if_neg (by decide)]
  simp [inside]

end Authority

/-- A host that is read back from its written form under a special scheme. -/
structure Host.IsReadBack (host : Host) : Prop where
  /-- There is a written form. -/
  filled : host.text.toList ≠ []
  /-- It is visible, ends no authority and holds no at sign. -/
  free : ∀ c ∈ host.text.toList,
    Ascii.isControlOrSpace c = false ∧ Url.endsAuthority true c = false ∧ c ≠ '@'
  /-- It goes up to the colon of a port. -/
  split : ∀ rest, (∀ c ∈ rest.head?, c = ':') →
    Authority.splitHost false (host.text.toList ++ rest) = (host.text.toList, rest)
  /-- It is read as the host. -/
  read : Host.readSpecial host.text.toList = .ok host

namespace Host

/-- The characters of a plain domain separate nothing. -/
theorem IsPlainDomain.free {domain : List Char} (plain : IsPlainDomain domain) {c : Char}
    (member : c ∈ domain) :
    Ascii.isControlOrSpace c = false ∧ Url.endsAuthority true c = false ∧ c ∉ ['@', ':', '['] := by
  -- Whatever would separate something is forbidden in domains.
  have every : ∀ c : Char, c.toNat < 128 → isForbiddenInDomain c = false →
      Ascii.isControlOrSpace c = false ∧ Url.endsAuthority true c = false ∧
        c ∉ ['@', ':', '['] := Ascii.forall_of_lt (by decide)
  exact every c (plain.ascii c member) (plain.allowed c member)

/-- A host whose written form is a plain domain is read back when the domain is read as it. -/
theorem isReadBack_of_isPlainDomain {host : Host} {domain : List Char}
    (written : host.text.toList = domain) (plain : IsPlainDomain domain) (filled : domain ≠ [])
    (read : readSpecial domain = .ok host) : host.IsReadBack := by
  subst written
  -- A plain domain holds none of the characters that an authority is cut at.
  refine ⟨filled, ?_, ?_, read⟩
  · intro c member
    obtain ⟨visible, inner, other⟩ := plain.free member
    simp only [List.mem_cons, not_or] at other
    exact ⟨visible, inner, other.1⟩
  · intro rest ends
    refine Authority.splitHost_append ?_ ?_ ends
    · exact fun member => (plain.free member).2.2 (by simp)
    · exact fun member => (plain.free member).2.2 (by simp)

/-- A domain that is no number is read back. -/
theorem isReadBack_name {domain : List Char} (plain : IsPlainDomain domain) (filled : domain ≠ [])
    (word : Ipv4.endsInNumber domain = false) : (name (.ofList domain)).IsReadBack := by
  -- A plain domain is read as it stands; it is neither empty nor an address.
  refine isReadBack_of_isPlainDomain String.toList_ofList plain filled ?_
  rw [readSpecial, if_neg plain.head?_ne, plain.decode_eq, plain.domainToAscii?_encode]
  simp [filled, word]

/-- The four bytes of an address make a plain domain. -/
theorem isPlainDomain_text (address : Ipv4) : IsPlainDomain address.text := by
  have every : ∀ c : Char, c.toNat < 128 → c.isDigit ∨ c = '.' →
      c.toLower = c ∧ isForbiddenInDomain c = false := Ascii.forall_of_lt (by decide)
  have ascii : ∀ c ∈ address.text, c.toNat < 128 := by
    intro c member
    rcases Ipv4.mem_text member with digit | same
    · exact Ascii.toNat_lt_of_isAlphanum (by simp [Char.isAlphanum, digit])
    · rw [same]
      decide
  refine ⟨ascii, ?_, ?_, ?_⟩
  · exact fun c member => (every c (ascii c member) (Ipv4.mem_text member)).1
  · exact fun c member => (every c (ascii c member) (Ipv4.mem_text member)).2
  · -- The mark of Punycode starts with a letter.
    intro label member starts
    have letter : 'x' ∈ address.text := mem_of_mem_fields member (starts.subset (by decide))
    exact absurd (Ipv4.mem_text letter) (by decide)

/-- An IPv4 address is read back. -/
theorem isReadBack_ipv4 (address : Ipv4) : (ipv4 address).IsReadBack := by
  have plain := isPlainDomain_text address
  -- The address is read as a domain first, and only then as a number.
  have filled : address.text ≠ [] := by
    intro empty
    have pieces := Ipv4.fields_text address
    simp [empty, fields, Ipv4.bytes] at pieces
  refine isReadBack_of_isPlainDomain String.toList_ofList plain filled ?_
  rw [readSpecial, if_neg plain.head?_ne, plain.decode_eq, plain.domainToAscii?_encode]
  simp [filled, Ipv4.endsInNumber_text, Ipv4.read?_text]

/-- An IPv6 address is read back. -/
theorem isReadBack_ipv6 (address : Ipv6) : (ipv6 address).IsReadBack := by
  have written : (ipv6 address).text.toList = '[' :: address.text ++ [']'] := String.toList_ofList
  -- Between the brackets there are digits and colons only.
  have every : ∀ c : Char, c.toNat < 128 → Ascii.isHexDigit c ∨ c = ':' ∨ c = '[' ∨ c = ']' →
      Ascii.isControlOrSpace c = false ∧ Url.endsAuthority true c = false ∧ c ≠ '@' :=
    Ascii.forall_of_lt (by decide)
  have closed : ']' ∉ address.text := by
    intro member
    exact absurd (Ipv6.mem_text member) (by decide)
  refine ⟨by simp [written], ?_, ?_, ?_⟩
  · -- Each of these characters stands within an authority and does not end it.
    intro c member
    have kinds : Ascii.isHexDigit c ∨ c = ':' ∨ c = '[' ∨ c = ']' := by
      rw [written] at member
      simp only [List.cons_append, List.mem_cons, List.mem_append, List.not_mem_nil, or_false]
        at member
      rcases member with opening | inside | closing
      · exact .inr (.inr (.inl opening))
      · exact (Ipv6.mem_text inside).imp_right .inl
      · exact .inr (.inr (.inr closing))
    have ascii : c.toNat < 128 := by
      rcases kinds with digit | same | same | same
      · exact Ascii.toNat_lt_of_isHexDigit digit
      all_goals
        rw [same]
        decide
    exact every c ascii kinds
  · -- The closing bracket ends the host, whatever follows.
    intro rest ends
    rw [written]
    exact Authority.splitHost_brackets closed ends
  · -- The text between the brackets is read back as the address.
    have inner : (('[' :: address.text ++ [']']).drop 1).dropLast = address.text := by simp
    have closes : ('[' :: address.text ++ [']']).getLast? = some ']' := List.getLast?_concat
    rw [written, readSpecial, if_pos (by simp), readBracketed, if_pos ⟨closes, by simp⟩, inner,
      Ipv6.read?_text]

/-- Under a special scheme there always is a host. -/
theorem exists_of_read {text : List Char} {host : Option Host} (found : read true text = .ok host) :
    ∃ named, host = some named ∧ readSpecial text = .ok named := by
  -- Under a special scheme there is always a host.
  rw [read, if_pos rfl] at found
  cases inner : readSpecial text with
  | error fault => simp [inner, Except.map] at found
  | ok named =>
    rw [inner] at found
    exact ⟨named, (Except.ok.inj found).symm, rfl⟩

/-- What is read from brackets is an IPv6 address, and the closing bracket ends the text. -/
theorem exists_of_readBracketed {text : List Char} {host : Host}
    (read : readBracketed text = .ok host) :
    text.getLast? = some ']' ∧ ∃ address, host = ipv6 address := by
  -- Without the closing bracket, or without an address in front of it, there is no host.
  unfold readBracketed at read
  split at read
  · rename_i closed
    split at read
    · rename_i address _
      cases read
      exact ⟨closed.1, address, rfl⟩
    · cases read
  · cases read

/-- Only a domain that is no number is read as a name. -/
theorem domainToAscii?_of_readSpecial {text : List Char} {written : String}
    (read : readSpecial text = .ok (name written)) :
    domainToAscii? (Percent.decode text) = some written.toList ∧ written.toList ≠ [] ∧
      Ipv4.endsInNumber written.toList = false := by
  unfold readSpecial at read
  split at read
  · -- Brackets hold an address.
    obtain ⟨-, address, same⟩ := exists_of_readBracketed read
    cases same
  · split at read
    · cases read
    · rename_i domain spelled
      split at read
      · cases read
      · rename_i filled
        split at read
        · split at read <;> cases read
        · rename_i word
          cases read
          rw [String.toList_ofList]
          exact ⟨spelled, filled, by simpa using word⟩

/-- A host in brackets is read from brackets. -/
theorem brackets_of_readSpecial {text : List Char} {address : Ipv6}
    (read : readSpecial text = .ok (ipv6 address)) :
    text.head? = some '[' ∧ text.getLast? = some ']' := by
  unfold readSpecial at read
  split at read
  · rename_i opened
    exact ⟨opened, (exists_of_readBracketed read).1⟩
  · -- Without brackets the host is a domain or an IPv4 address.
    split at read
    · cases read
    · split at read
      · cases read
      · split at read
        · split at read <;> cases read
        · cases read

/-- Plain labels stay labels of the host that they are read as together with any text between them,
unless it is an IPv4 address. -/
theorem exists_fields_of_readSpecial {before after : List (List Char)} {text : List Char}
    {host : Host} (plain : ∀ label ∈ before ++ after, IsPlainLabel label)
    (read : readSpecial (joinFields '.' (before ++ [text] ++ after)) = .ok host)
    (word : ∀ address, host ≠ .ipv4 address) :
    ∃ middle, middle ≠ [] ∧ fields '.' host.text.toList = before ++ middle ++ after := by
  cases host with
  | name written => exact exists_fields_of_domainToAscii? plain (domainToAscii?_of_readSpecial read).1
  | ipv4 address => exact absurd rfl (word address)
  | ipv6 address =>
    -- A plain label at either end stands outside the brackets, so there is none.
    obtain ⟨opened, closed⟩ := brackets_of_readSpecial read
    have front : before = [] := Decidable.byContradiction fun filled =>
      head?_joinFields_ne (by decide) filled (fun label member =>
        (plain label (List.mem_append_left after member)).plain.not_mem (by decide)) opened
    have back : after = [] := Decidable.byContradiction fun filled =>
      getLast?_joinFields_ne (by decide) filled (fun label member =>
        (plain label (List.mem_append_right before member)).plain.not_mem (by decide)) closed
    subst front back
    exact ⟨_, fields_ne_nil '.' (ipv6 address).text.toList, by simp⟩

/-- What a text is read as under a special scheme is read back, if it has no label in Punycode. -/
theorem isReadBack_of_readSpecial {text : List Char} {host : Host}
    (read : readSpecial text = .ok host)
    (unmarked : ∀ label ∈ fields '.' host.text.toList, ¬ Label.punycodeMark <+: label) :
    host.IsReadBack := by
  -- Addresses have one written form each; a domain is plain when none of its labels is marked.
  cases host with
  | ipv4 address => exact isReadBack_ipv4 address
  | ipv6 address => exact isReadBack_ipv6 address
  | name written =>
    obtain ⟨spelled, filled, word⟩ := domainToAscii?_of_readSpecial read
    have back := isReadBack_name (isPlainDomain_of_domainToAscii? spelled unmarked) filled word
    rwa [String.ofList_toList] at back

end Host

end Locator
