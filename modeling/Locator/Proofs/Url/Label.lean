import Locator.Proofs.Url.Reachable

/-! Replacing one label of a host. The labels are joined and the whole text is read as a host again:
a plain label only takes the place of another, and any other text keeps the labels beside it as long
as it neither ends the host early nor makes an address of it. -/

namespace Locator

namespace Url

/-- Two URLs that agree on scheme, port, path, query and fragment, whatever their hosts are. -/
structure AgreeBesideHost (first second : Url) : Prop where
  /-- The scheme. -/
  scheme : first.scheme = second.scheme
  /-- The port. -/
  port : first.port? = second.port?
  /-- The path. -/
  path : first.pathText = second.pathText
  /-- The query. -/
  query : first.query = second.query
  /-- The fragment. -/
  fragment : first.fragment = second.fragment

/-- A host is named by a whole text or by the part of it up to a colon. -/
theorem cases_of_hostPart? {text part : List Char} (found : hostPart? text = some part) :
    part = text ∨ ∃ rest, splitFirst ':' text = some (part, rest) := by
  unfold hostPart? at found
  split at found
  · exact .inl (Option.some.inj found).symm
  -- Outside of brackets the first colon ends the host, unless it is in front.
  · split at found
    · exact .inl (Option.some.inj found).symm
    · cases found
    · rename_i host rest _ split
      cases found
      exact .inr ⟨rest, split⟩

section Joined

variable {before after : List (List Char)} {text : List Char}
  (plain : ∀ label ∈ before ++ after, Host.IsPlainLabel label)

include plain

/-- Plain labels bring no colon into a host. -/
theorem colon_not_mem_joinFields (absent : ':' ∉ text) :
    ':' ∉ joinFields '.' (before ++ [text] ++ after) := by
  -- A colon would have to stand in the text or in a plain label.
  have each : ∀ label ∈ before ++ after, ':' ∉ label := fun label member =>
    (plain label member).plain.not_mem (by decide)
  intro member
  rcases mem_joinFields member with same | ⟨piece, known, inside⟩
  · exact absurd same (by decide)
  · simp only [List.mem_append, List.mem_singleton] at each known
    rcases known with (front | rfl) | back
    · exact each piece (.inl front) inside
    · exact absent inside
    · exact each piece (.inr back) inside

/-- A colon ends a host within the last label. -/
theorem exists_of_hostPart?_joinFields {part : List Char} (last : ':' ∈ text → after = [])
    (found : hostPart? (joinFields '.' (before ++ [text] ++ after)) = some part) :
    ∃ cut, part = joinFields '.' (before ++ [cut] ++ after) := by
  rcases cases_of_hostPart? found with same | ⟨rest, split⟩
  · exact ⟨text, same⟩
  -- The colon comes from the text, as the labels bring none.
  have colon : ':' ∈ text := Decidable.byContradiction fun absent => by
    rw [splitFirst_eq_none_iff.mpr (colon_not_mem_joinFields plain absent)] at split
    cases split
  obtain ⟨cut, more, absent, rfl⟩ : ∃ cut more, ':' ∉ cut ∧ text = cut ++ ':' :: more :=
    List.eq_append_cons_of_mem colon |>.imp fun cut ⟨more, whole, absent⟩ => ⟨more, absent, whole⟩
  -- So nothing stands behind the text, and the host ends where the text is cut.
  obtain rfl := last colon
  have whole := colon_not_mem_joinFields plain absent
  rw [List.append_nil] at whole split
  rw [joinFields_append_last, splitFirst_append more whole] at split
  cases split
  exact ⟨cut, by rw [List.append_nil]⟩

end Joined

variable {url next : Url} {index : Nat} {text written : String}

/-- A text is taken as the host of a regular URL exactly if the part of it that names a host is read
as one. -/
theorem IsRegular.withHost_eq_ok_iff (regular : url.IsRegular) {authority : Authority}
    (named : url.authority = some authority) :
    url.withHost text = .ok next ↔ ∃ part host, hostPart? text.toList = some part ∧
      Host.readSpecial part = .ok host ∧
      next = { url with authority := some { authority with host := some host } } := by
  constructor
  · intro changed
    obtain ⟨part, found, whole, read, rfl⟩ := exists_of_withHost changed
    rw [regular.special] at read
    obtain ⟨host, rfl, spelled⟩ := Host.exists_of_read read
    exact ⟨part, host, whole, spelled, by rw [named]; rfl⟩
  · rintro ⟨part, host, found, read, rfl⟩
    obtain ⟨segments, -, -, path⟩ := regular.path
    -- An empty text is no host anyway.
    have filled : ¬ (Scheme.needsHost url.scheme ∧ text.isEmpty) := by
      rintro ⟨-, empty⟩
      rw [String.isEmpty_iff.mp empty] at found
      cases found
      cases read
    simp only [Url.withHost, path, regular.special, Host.read, if_true, named]
    rw [if_neg filled, found]
    simp [read, Except.map]

/-- A plain domain that is no number is taken as the host of a regular URL as it stands, and nothing
else changes. -/
theorem IsRegular.exists_withHost (regular : url.IsRegular) {domain : List Char}
    (plain : Host.IsPlainDomain domain) (filled : domain ≠ [])
    (word : Ipv4.endsInNumber domain = false) :
    ∃ next, url.withHost (.ofList domain) = .ok next ∧
      next.host? = some (.name (.ofList domain)) ∧ next.AgreeBesideHost url := by
  -- A domain without colons and brackets is taken whole, and plain domains are read as they stand.
  obtain ⟨authority, named, -⟩ := regular.authority
  have colon : ':' ∉ domain := plain.not_mem (by decide)
  have part : hostPart? domain = some domain := by
    rw [hostPart?, if_neg fun brackets => plain.head?_ne brackets.1,
      splitFirst_eq_none_iff.mpr colon]
  have read := (Host.isReadBack_name plain filled word).read
  rw [Host.text, String.toList_ofList] at read
  refine ⟨_, (regular.withHost_eq_ok_iff named).mpr ⟨domain, _, ?_, read, rfl⟩, rfl,
    ⟨rfl, ?_, rfl, rfl, rfl⟩⟩
  · rw [String.toList_ofList, part]
  · simp [port?, named]

/-- The domain of a regular URL is plain if none of its labels is in Punycode, and it is no number.
-/
theorem IsRegular.isPlainDomain (regular : url.IsRegular)
    (named : url.host? = some (.name written))
    (unmarked : ∀ label ∈ url.labels, ¬ Label.punycodeMark <+: label.toList) :
    Host.IsPlainDomain written.toList ∧ Ipv4.endsInNumber written.toList = false := by
  -- The host was read from some text, and domains that are read are plain without marked labels.
  obtain ⟨authority, held, read⟩ := regular.authority
  have hosted : authority.host = some (.name written) := by simpa [host?, held] using named
  obtain ⟨text, found⟩ := read (.name written) (by simp [hosted])
  obtain ⟨spelled, filled, word⟩ := Host.domainToAscii?_of_readSpecial found
  have told : url.hostText? = some (Host.name written).text := by simp [hostText?, named]
  exact ⟨Host.isPlainDomain_of_domainToAscii? spelled (unmarked_of_labels told unmarked), word⟩

/-- The labels of a URL are the pieces of its host. -/
theorem labels_eq {host : Host} (named : url.host? = some host) :
    url.labels = (fields '.' host.text.toList).map .ofList := by
  -- The labels are what stands between the dots of the host.
  simp [labels, hostText?, named]

/-- The characters of the labels are those of the pieces. -/
theorem map_labels_eq {host : Host} (named : url.host? = some host) :
    url.labels.map String.toList = fields '.' host.text.toList := by
  -- The labels are what stands between the dots of the host.
  simp [labels_eq named, Function.comp_def]

/-- The labels of a regular URL with a domain are plain if none of them is in Punycode. -/
theorem IsRegular.isPlainLabel (regular : url.IsRegular)
    (named : url.host? = some (.name written))
    (unmarked : ∀ label ∈ url.labels, ¬ Label.punycodeMark <+: label.toList) :
    ∀ label ∈ url.labels.map String.toList, Host.IsPlainLabel label := by
  -- The labels of a plain domain are plain.
  intro label member
  rw [map_labels_eq named] at member
  exact (regular.isPlainDomain named unmarked).1.isPlainLabel member

/-- A label is replaced between the others. -/
theorem map_set_labels (inside : index < url.labels.length) (text : String) :
    (url.labels.set index text).map String.toList =
      (url.labels.map String.toList).take index ++ [text.toList] ++
        (url.labels.map String.toList).drop (index + 1) := by
  -- The list is taken apart at the index.
  simp only [List.set_eq_take_append_cons_drop, inside, if_true, List.map_append, List.map_cons,
    List.map_take, List.map_drop, List.append_assoc, List.singleton_append]

/-- The labels beside the one that is replaced stay where they are: behind what stood before it and
in front of what stood behind it there is something else. The text may hold a colon only in the last
label, as the host ends there, and may make an IPv4 address of the host only if it spells it as it
is written. -/
theorem withLabel_keeps_other_labels (reachable : url.IsReachable)
    (known : url.scheme ∈ ["http", "https", "ws", "wss", "ftp"])
    (named : url.host? = some (.name written))
    (unmarked : ∀ label ∈ url.labels, ¬ "xn--".toList <+: label.toList)
    (inside : index < url.labels.length) (changed : url.withLabel index text = .ok next)
    (last : ':' ∈ text.toList → index + 1 = url.labels.length)
    (spelled : ∀ address, next.host? = some (.ipv4 address) →
      joinFields '.' ((url.labels.set index text).map String.toList) = address.text) :
    ∃ middle, middle ≠ [] ∧
      next.labels = url.labels.take index ++ middle ++ url.labels.drop (index + 1) := by
  have regular := reachable.isRegular_of_mem known
  obtain ⟨authority, held, -⟩ := regular.authority
  simp only [withLabel, inside, if_true, regular.withHost_eq_ok_iff held, String.toList_ofList,
    map_set_labels inside] at changed
  obtain ⟨part, host, found, read, rfl⟩ := changed
  -- The labels on both sides were read with the URL, so they are plain.
  have plain : ∀ label ∈ (url.labels.map String.toList).take index ++
      (url.labels.map String.toList).drop (index + 1), Host.IsPlainLabel label := by
    intro label member
    refine regular.isPlainLabel named unmarked label ?_
    rcases List.mem_append.mp member with front | back
    · exact List.mem_of_mem_take front
    · exact List.mem_of_mem_drop back
  obtain ⟨middle, filled, pieces⟩ : ∃ middle, middle ≠ [] ∧ fields '.' host.text.toList =
      (url.labels.map String.toList).take index ++ middle ++
        (url.labels.map String.toList).drop (index + 1) := by
    by_cases number : ∃ address, host = .ipv4 address
    · -- The written form of the address is the text with the labels in it.
      obtain ⟨address, rfl⟩ := number
      have same := spelled address rfl
      refine ⟨fields '.' text.toList, fields_ne_nil '.' text.toList, ?_⟩
      rw [Host.text, String.toList_ofList, ← same, map_set_labels inside,
        fields_joinFields_around (fun label member => (plain label member).whole) (by simp),
        List.flatMap_singleton]
    · -- Any other host is the text that was read, up to a colon in the last label.
      have ends : ':' ∈ text.toList → (url.labels.map String.toList).drop (index + 1) = [] :=
        fun colon => by simp [last colon]
      obtain ⟨cut, rfl⟩ := exists_of_hostPart?_joinFields plain ends found
      exact Host.exists_fields_of_readSpecial plain read fun address same => number ⟨address, same⟩
  refine ⟨middle.map .ofList, by simpa using filled, ?_⟩
  rw [labels_eq rfl, pieces]
  simp [Function.comp_def]

/-- A last label may become several, and what stands behind a colon in it is dropped. -/
theorem withLabel_keeps_other_labels_of_last :
    ∃ url next middle, Url.parse "http://www.google.com/search" = .ok url ∧
      url.withLabel 2 "%43o.uk:80" = .ok next ∧ middle ≠ [] ∧
      next.labels = ["www", "google"] ++ middle ++ [] := by
  -- The value spells a letter by a triplet, holds a dot, and ends in a port that is dropped.
  have read : Url.parse "http://www.google.com/search" =
      .ok ⟨"http", some (.ofHost (some (.name "www.google.com"))), false, .segmented ["search"], none,
        none⟩ := rfl
  have changed : Url.withLabel ⟨"http", some (.ofHost (some (.name "www.google.com"))), false,
        .segmented ["search"], none, none⟩ 2 "%43o.uk:80" =
      .ok ⟨"http", some (.ofHost (some (.name "www.google.co.uk"))), false, .segmented ["search"],
        none, none⟩ := rfl
  obtain ⟨middle, filled, labels⟩ := withLabel_keeps_other_labels ⟨_, _, [], read, rfl⟩
    (by decide) rfl (by decide) (by decide) changed (by decide) nofun
  exact ⟨_, _, middle, read, changed, filled, labels⟩

/-- A colon in front of other labels cuts them off, and a number in the place of the last label
makes an address of all of them, which is written anew. -/
theorem withLabel_loses_other_labels :
    (∃ url next, Url.parse "http://www.google.com/" = .ok url ∧
      url.labels = ["www", "google", "com"] ∧ url.withLabel 0 "evil:80" = .ok next ∧
      next.labels = ["evil"]) ∧
    ∃ url next, Url.parse "http://0x1.2.3.com/" = .ok url ∧
      url.labels = ["0x1", "2", "3", "com"] ∧ url.withLabel 3 "4" = .ok next ∧
      next.labels = ["1", "2", "3", "4"] :=
  ⟨⟨_, _, rfl, by decide, rfl, by decide⟩, _, _, rfl, by decide, rfl, by decide⟩

/-- A label that starts with a letter makes no address of a domain. -/
theorem IsRegular.endsInNumber_set_eq_false (regular : url.IsRegular)
    (named : url.host? = some (.name written))
    (unmarked : ∀ label ∈ url.labels, ¬ Label.punycodeMark <+: label.toList)
    (inside : index < url.labels.length) {first : Char} {rest : List Char}
    (spelled : text.toList = first :: rest) (letter : first.isLower) (whole : '.' ∉ text.toList) :
    Ipv4.endsInNumber (joinFields '.' ((url.labels.set index text).map String.toList)) = false := by
  -- The domain as it was is the same list of labels with the old one in the middle.
  have within : index < (url.labels.map String.toList).length := by rwa [List.length_map]
  have around : (url.labels.map String.toList).take index ++
      [(url.labels.map String.toList)[index]] ++ (url.labels.map String.toList).drop (index + 1) =
      url.labels.map String.toList := by
    rw [List.take_append_getElem, List.take_append_drop]
  have each : ∀ label ∈ (url.labels.map String.toList).take index ++
      [(url.labels.map String.toList)[index]] ++ (url.labels.map String.toList).drop (index + 1),
      '.' ∉ label := by
    intro label member
    rw [around] at member
    exact (regular.isPlainLabel named unmarked label member).whole
  have word : Ipv4.endsInNumber (joinFields '.' ((url.labels.map String.toList).take index ++
      [(url.labels.map String.toList)[index]] ++
      (url.labels.map String.toList).drop (index + 1))) = false := by
    rw [around, map_labels_eq named, Host.text, joinFields_fields]
    exact (regular.isPlainDomain named unmarked).2
  -- Only the last label that is not empty decides, and it is either an old one or the word.
  rw [map_set_labels inside, spelled]
  refine Ipv4.endsInNumber_replace ?_ letter word
  rw [← spelled]
  simp only [List.forall_mem_append, List.forall_mem_cons] at each ⊢
  exact ⟨⟨each.1.1, each.1.2.1, whole, nofun⟩, each.2⟩

/-- A label that is a word takes the place of another in the domain of a web URL, and nothing else
changes. -/
theorem withLabel_sets {first : Char} {rest : List Char} (reachable : url.IsReachable)
    (known : url.scheme ∈ ["http", "https", "ws", "wss", "ftp"])
    (named : url.host? = some (.name written))
    (unmarked : ∀ label ∈ url.labels, ¬ "xn--".toList <+: label.toList)
    (spelled : text.toList = first :: rest) (letter : first.isLower)
    (word : ∀ c ∈ rest, c.isLower ∨ c.isDigit) :
    (index < url.labels.length → ∃ next, url.withLabel index text = .ok next ∧
      next.labels = url.labels.set index text ∧ next.AgreeBesideHost url) ∧
    (url.labels.length ≤ index →
      url.withLabel index text = .error (.noLabel index url.labels.length)) := by
  refine ⟨fun inside => ?_, fun beyond => ?_⟩
  · have regular := reachable.isRegular_of_mem known
    have new : Host.IsPlainLabel text.toList := Host.isPlainLabel_of_word (by
      rw [spelled, List.forall_mem_cons]
      exact ⟨.inl letter, word⟩)
    -- With the new one in its place all labels are plain again, and so is the domain.
    have plain : ∀ label ∈ (url.labels.set index text).map String.toList,
        Host.IsPlainLabel label := by
      intro label member
      rw [List.map_set] at member
      rcases List.mem_or_eq_of_mem_set member with old | rfl
      · exact regular.isPlainLabel named unmarked label old
      · exact new
    have listed : text.toList ∈ (url.labels.set index text).map String.toList :=
      List.mem_map_of_mem (List.mem_set inside text)
    obtain ⟨next, taken, hosted, agree⟩ := regular.exists_withHost
      (Host.isPlainDomain_joinFields (List.ne_nil_of_mem listed) plain)
      (joinFields_ne_nil listed (by simp [spelled]))
      (regular.endsInNumber_set_eq_false named unmarked inside spelled letter new.whole)
    -- No label holds a dot, so the new domain falls into the same labels.
    refine ⟨next, ?_, ?_, agree⟩
    · simp only [withLabel, inside, if_true, taken]
    · rw [labels_eq hosted, Host.text, String.toList_ofList,
        fields_joinFields (List.ne_nil_of_mem listed) fun label member => (plain label member).whole]
      simp [Function.comp_def]
  · rw [withLabel]
    exact if_neg (Nat.not_lt.mpr beyond)

/-- A word takes the place of the label in front of an empty last one, and there is no fourth label
to replace. -/
theorem withLabel_sets_in_front_of_dot :
    ∃ url next, Url.parse "ws://u@Www.b3.:8080/p?q" = .ok url ∧
      url.withLabel 1 "c4" = .ok next ∧ next.labels = ["www", "c4", ""] ∧
      next.AgreeBesideHost url ∧ url.withLabel 3 "c4" = .error (.noLabel 3 3) := by
  -- The host was given in capitals and ends in a dot, so that its last label is empty.
  have read : Url.parse "ws://u@Www.b3.:8080/p?q" =
      .ok ⟨"ws", some ⟨"u", "", some (.name "www.b3."), some 8080⟩, false, .segmented ["p"],
        some "q", none⟩ := rfl
  have all (index : Nat) := @withLabel_sets _ index "c4" _ 'c' ['4'] ⟨_, _, [], read, rfl⟩
    (by decide) rfl (by decide) rfl (by decide) (by simp)
  obtain ⟨next, changed, labels, agree⟩ := (all 1).1 (by decide)
  exact ⟨_, next, read, changed, labels, agree, (all 3).2 (by decide)⟩

end Url

end Locator
