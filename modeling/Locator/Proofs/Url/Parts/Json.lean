import Locator.Proofs.Document.Json
import Locator.Proofs.Json.Indentation
import Locator.Url.Parts

/-! The JSON form of the parts of a URL is read back as the parts, however it is laid out, in
whatever order its members stand, and whatever members of other names stand among them. -/

namespace Locator

namespace UrlParts

/-- The members of the JSON form. -/
def members (parts : UrlParts) : List (String × Json) :=
  [("scheme", .string parts.scheme), ("host", .string parts.host)]
    ++ optional "port" (parts.port.map fun port => .number (.ofInt port.toNat))
    ++ [("path", .string parts.path)]
    ++ optional "query" (parts.query.map .string)
    ++ optional "fragment" (parts.fragment.map .string)

/-- The names of the members; three of these may be missing. -/
def names : List String :=
  ["scheme", "host", "port", "path", "query", "fragment"]

/-- What is known of parts as soon as their members of the given names are read. -/
def knownOf (parts : UrlParts) (keys : List String) : Known where
  scheme := if "scheme" ∈ keys then some parts.scheme else none
  host := if "host" ∈ keys then some parts.host else none
  port := if "port" ∈ keys then some parts.port else none
  path := if "path" ∈ keys then some parts.path else none
  query := if "query" ∈ keys then some parts.query else none
  fragment := if "fragment" ∈ keys then some parts.fragment else none

variable (parts : UrlParts)

/-- The JSON form is an object. -/
theorem toJson_eq : parts.toJson = .object parts.members := rfl

/-- What holds of every member holds of the member of each part that is there. -/
theorem forall_mem_members_iff {holds : String × Json → Prop} :
    (∀ member ∈ parts.members, holds member) ↔
      holds ("scheme", .string parts.scheme) ∧ holds ("host", .string parts.host) ∧
      (∀ port ∈ parts.port, holds ("port", .number (.ofInt port.toNat))) ∧
      holds ("path", .string parts.path) ∧
      (∀ query ∈ parts.query, holds ("query", .string query)) ∧
      ∀ fragment ∈ parts.fragment, holds ("fragment", .string fragment) := by
  obtain ⟨scheme, host, port, path, query, fragment⟩ := parts
  -- Each of the three parts that may be missing is there or not.
  cases port <;> cases query <;> cases fragment <;> simp [members, optional]

/-- No two members have the same name. -/
theorem nodup_members : (parts.members.map Prod.fst).Nodup := by
  obtain ⟨scheme, host, port, path, query, fragment⟩ := parts
  -- Each of the three parts that may be missing is there or not.
  cases port <;> cases query <;> cases fragment <;> simp [members, optional]

/-- A port is read back from the number that is written for it. -/
theorem readPort_ofInt (port : UInt16) :
    readPort (.number (.ofInt port.toNat)) = .ok port := by
  -- The number is a natural one, and small enough for a port.
  have small := port.toNat_lt
  have held : (JsonNumber.ofInt port.toNat).scalar? = some (.integer port.toNat) :=
    JsonNumber.scalar?_integer (by omega) (by omega)
  rw [readPort]
  simp only [held]
  rw [if_pos (by omega), Int.toNat_natCast, UInt16.ofNat_toNat]

variable {parts}

/-- A member that was not read before is read as the part that it was written for. -/
theorem readMember_of_mem {keys : List String} :
    ∀ member ∈ parts.members, member.1 ∉ keys →
      readMember (parts.knownOf keys) member.1 member.2.draft =
        .ok (parts.knownOf (member.1 :: keys)) := by
  -- The name of a member decides what is read, and where it is kept.
  refine (forall_mem_members_iff parts).mpr ⟨?scheme, ?host, ?port, ?path, ?query, ?fragment⟩
  case scheme | host | path =>
    -- A part that is always there is a string.
    intro fresh
    simp [readMember, readField, readString, Json.draft, knownOf, fresh, bind, Except.bind, pure,
      Except.pure]
  case port =>
    -- A port is a number, which is not null.
    intro port held fresh
    have read : readOptional readPort (.number (.ofInt port.toNat)) = .ok (some port) := by
      rw [readOptional, readPort_ofInt]
      · rfl
      · exact nofun
    simp [readMember, readField, Json.draft, read, knownOf, fresh, Option.mem_def.mp held, bind,
      Except.bind, pure, Except.pure]
  case query | fragment =>
    -- The others may be null, but a string is not.
    intro text held fresh
    simp [readMember, readField, readOptional, readString, Json.draft, knownOf, fresh,
      Option.mem_def.mp held, bind, Except.bind, pure, Except.pure, Except.map]

/-- A member of another name is passed over; it only has to be JSON. -/
theorem readMember_of_not_mem_names {known : Known} {key : String} {draft : JsonDraft}
    (other : key ∉ names) (whole : draft.isWhole) : readMember known key draft = .ok known := by
  unfold readMember
  -- Every branch but the last one is for a name of the record.
  split
  case h_7 => exact if_pos whole
  all_goals exact absurd (by simp [names]) other

/-- What is known of parts does not change with another name. -/
theorem knownOf_cons_of_not_mem_names {key : String} (other : key ∉ names) (keys : List String) :
    parts.knownOf (key :: keys) = parts.knownOf keys := by
  -- Each member is looked up by a name that is not the key.
  have distinct : ∀ name ∈ names, name ≠ key := fun _ named same => other (same ▸ named)
  simp only [names, List.forall_mem_cons] at distinct
  simp [knownOf, distinct]

/-- A member is read as its part when it has one of the names, which must not be read before, and
changes nothing otherwise; either way its name is read from then on. -/
theorem readMember_draft {keys : List String} {key : String} {json : Json}
    (own : key ∈ names → (key, json) ∈ parts.members) (fresh : key ∈ names → key ∉ keys) :
    readMember (parts.knownOf keys) key json.draft = .ok (parts.knownOf (key :: keys)) := by
  by_cases named : key ∈ names
  · exact readMember_of_mem (key, json) (own named) (fresh named)
  · -- A value is JSON to its end, which is all that is asked of it.
    rw [knownOf_cons_of_not_mem_names named]
    exact readMember_of_not_mem_names named (JsonDraft.isWhole_draft json)

/-- Members are read as the parts that they were written for, in whatever order they stand, if none
of the names stands twice; members of other names, which may stand twice, are passed over. -/
theorem readMembers_of_count_le_one {keys : List String} {entries : List (String × Json)}
    (own : ∀ entry ∈ entries, entry.1 ∈ names → entry ∈ parts.members)
    (once : ∀ name ∈ names, ((entries.map Prod.fst).reverse ++ keys).count name ≤ 1) :
    readMembers (parts.knownOf keys) (Json.memberDrafts entries) =
      .ok (parts.knownOf ((entries.map Prod.fst).reverse ++ keys)) := by
  -- The induction is on the members to come, for all names that are read before them.
  induction entries generalizing keys with
  | nil => rfl
  | cons entry entries ih =>
    obtain ⟨key, json⟩ := entry
    rw [List.forall_mem_cons] at own
    rw [List.map_cons, List.reverse_cons, List.append_assoc, List.singleton_append] at once ⊢
    -- The one time that the name may stand is this one.
    have fresh : key ∈ names → key ∉ keys := by
      intro named
      have one := once key named
      rw [List.count_append, List.count_cons_self] at one
      exact List.count_eq_zero.mp (by omega)
    have here := readMember_draft own.1 fresh
    have behind := ih own.2 once
    rw [Json.memberDrafts, readMembers, here]
    exact behind

/-- A part that may be missing is known when its member is read, and none when it has no member. -/
theorem getD_of_read {α : Type} {key : String} {keys : List String} {part : Option α}
    (listed : ∀ held ∈ part, key ∈ keys) :
    (if key ∈ keys then some part else none).getD none = part := by
  -- What was not read was not listed.
  split
  · rfl
  · cases part with
    | none => rfl
    | some held => exact absurd (listed held rfl) ‹_›

/-- Parts all of whose members are read are known. -/
theorem ofKnown_knownOf {keys : List String} (all : ∀ member ∈ parts.members, member.1 ∈ keys) :
    ofKnown (parts.knownOf keys) = .ok parts := by
  -- All members of the parts are known, and those that are not there are left out.
  obtain ⟨scheme, host, port, path, query, fragment⟩ := (forall_mem_members_iff parts).mp all
  simp only [ofKnown, knownOf, required, scheme, host, path, if_true, getD_of_read port,
    getD_of_read query, getD_of_read fragment]
  rfl

/-- However the members of parts are laid out as an object, in whatever order, and whatever members
of other names stand among them, the parts are read back. -/
theorem readJson_of_perm_append {entries further : List (String × Json)} {text : String}
    (same : entries.Perm (parts.members ++ further)) (other : ∀ member ∈ further, member.1 ∉ names)
    (layout : JsonToken.Layout (Json.object entries).tokens text.toList) :
    readJson text = .ok parts := by
  have own : ∀ entry ∈ entries, entry.1 ∈ names → entry ∈ parts.members := by
    intro entry listed named
    exact (List.mem_append.mp (same.subset listed)).resolve_right fun beyond =>
      other entry beyond named
  -- No name is known at first, and no two members of the parts have the same one.
  have once : ∀ name ∈ names, ((entries.map Prod.fst).reverse ++ []).count name ≤ 1 := by
    intro name named
    have absent : name ∉ further.map Prod.fst := by
      intro listed
      obtain ⟨member, beyond, rfl⟩ := List.mem_map.mp listed
      exact other member beyond named
    calc
      ((entries.map Prod.fst).reverse ++ []).count name = (entries.map Prod.fst).count name := by
        rw [List.append_nil, List.count_reverse]
      _ = (parts.members.map Prod.fst).count name := by
        rw [(same.map Prod.fst).count_eq, List.map_append, List.count_append,
          List.count_eq_zero_of_not_mem absent, Nat.add_zero]
      _ ≤ 1 := List.nodup_iff_count.mp (nodup_members parts) name
  have read := readMembers_of_count_le_one own once
  -- Every part that is there has been read in the end.
  have all : ∀ member ∈ parts.members, member.1 ∈ (entries.map Prod.fst).reverse ++ [] := by
    intro member listed
    simpa using ⟨member.2, same.symm.subset (List.mem_append_left further listed)⟩
  have start : parts.knownOf [] = ⟨none, none, none, none, none, none⟩ := by simp [knownOf]
  rw [start] at read
  rw [readJson, JsonDraft.read_of_layout layout, Json.draft]
  simp only [ofDraft, read, bind, Except.bind, ofKnown_knownOf all]
  rfl

/-- However the members of parts are laid out as an object, and in whatever order, the parts are
read back. -/
theorem readJson_of_perm_members {entries : List (String × Json)} {text : String}
    (same : entries.Perm parts.members)
    (layout : JsonToken.Layout (Json.object entries).tokens text.toList) :
    readJson text = .ok parts := by
  -- There may be no further members.
  rw [← List.append_nil parts.members] at same
  exact readJson_of_perm_append same (List.forall_mem_nil _) layout

/-- Parts are read back from both written forms of their JSON. They are read back as well from every
text of an object that has the same members in whatever order and, anywhere among them, members of
other names; it does not matter what these hold, how deep it is nested and whether their names are
repeated. -/
theorem readJson_restores_parts (parts : UrlParts) :
    readJson (.ofList parts.toJson.compact) = .ok parts ∧
      readJson (.ofList (parts.toJson.pretty 0)) = .ok parts ∧
      ∀ (entries further : List (String × Json)) (text : String),
        entries.Perm (parts.members ++ further) → (∀ member ∈ further, member.1 ∉ names) →
        JsonToken.Layout (Json.object entries).tokens text.toList → readJson text = .ok parts := by
  -- Both written forms are layouts of the object with the members in their own order.
  have written : ∀ chars, JsonToken.Layout (Json.object parts.members).tokens chars →
      readJson (.ofList chars) = .ok parts := by
    intro chars layout
    refine readJson_of_perm_members (.refl _) ?_
    rwa [String.toList_ofList]
  rw [toJson_eq]
  exact ⟨written _ (Json.layout_compact _), written _ (Json.layout_pretty _ 0),
    fun _ _ _ => readJson_of_perm_append⟩

/-- An empty query and no fragment, texts with a quote, a backslash and a line feed, and the members
backwards. Among them stand a number beyond all floats, a name of the record inside a value, and
another name twice. -/
theorem readJson_restores_parts_among_others :
    readJson ("\x7b\"query\":\"\",\"x\":[1e999,\x7b\"host\":null\x7d],\"path\":\"\\n\"," ++
        "\"port\":65535,\"host\":\"é\\\\\",\"x\":\"\",\"scheme\":\"\\\"\"\x7d") =
      .ok ⟨"\"", "é\\", some 65535, "\n", some "", none⟩ := by
  let parts : UrlParts := ⟨"\"", "é\\", some 65535, "\n", some "", none⟩
  let nested : String × Json :=
    ("x", .array [.number ⟨false, 1, [], some 999⟩, .object [("host", .null)]])
  let again : String × Json := ("x", .string "")
  let front : List (String × Json) := [("query", .string "")]
  let middle : List (String × Json) :=
    [("path", .string "\n"), ("port", .number (.ofInt 65535)), ("host", .string "é\\")]
  let back : List (String × Json) := [("scheme", .string "\"")]
  let entries := front ++ nested :: (middle ++ again :: back)
  -- The two others are taken out, and what remains are the members backwards.
  have same : entries.Perm (parts.members ++ [nested, again]) := by
    have first : entries.Perm (nested :: (front ++ (middle ++ again :: back))) := List.perm_middle
    have second : (front ++ middle ++ again :: back).Perm (again :: parts.members.reverse) :=
      List.perm_middle
    rw [← List.append_assoc] at first
    exact (first.trans (second.cons nested)).trans
      (((List.reverse_perm _).append_left [nested, again]).trans List.perm_append_comm)
  have other : ∀ member ∈ [nested, again], member.1 ∉ names := by
    simp [nested, again, names]
  refine (readJson_restores_parts parts).2.2 entries [nested, again] _ same other ?_
  -- The text is the object on one line.
  refine (congrArg (JsonToken.Layout (Json.object entries).tokens) ?_).mpr
    (Json.layout_compact (.object entries))
  decide +kernel

end UrlParts

end Locator
