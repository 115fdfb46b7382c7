import Locator.Command.Run
import Locator.Proofs.Json.Indentation
import Locator.Proofs.Url.Controls
import Locator.Proofs.Url.Parts.Json

/-! The two answers of the URL command tell the same: the parts of the URL are read back from its
lines as well as from its JSON. -/

namespace Locator

namespace UrlParts

/-- The labels of the lines. -/
def labels : List String :=
  ["scheme", "host", "port", "path", "query", "fragment"]

/-- The text of each part that is there, behind its label. -/
def labelled (parts : UrlParts) : List (String × String) :=
  [("scheme", parts.scheme), ("host", parts.host)]
    ++ (parts.port.map fun port => ("port", Nat.repr port.toNat)).toList
    ++ [("path", parts.path)]
    ++ (parts.query.map ("query", ·)).toList
    ++ (parts.fragment.map ("fragment", ·)).toList

/-- The line of a labelled text. -/
def line (told : String × String) : String :=
  told.1 ++ ": " ++ told.2

/-- The labelled text of a line, which stands behind the first colon and one blank. -/
def readLine? (line : List Char) : Option (String × String) :=
  match splitFirst ':' line with
  | some (label, ' ' :: text) => some (.ofList label, .ofList text)
  | _ => none

/-- The port that decimal digits spell. -/
def readDigits? (text : String) : Option UInt16 :=
  if text ≠ "" ∧ text.toList.all Char.isDigit ∧ Ascii.decimalValue text.toList < 2 ^ 16 then
    some (.ofNat (Ascii.decimalValue text.toList))
  else none

/-- The parts that labelled texts tell. -/
def ofLabelled? (told : List (String × String)) : Option UrlParts := do
  let scheme ← told.lookup "scheme"
  let host ← told.lookup "host"
  let port ← match told.lookup "port" with
    | none => some none
    | some digits => (readDigits? digits).map some
  let path ← told.lookup "path"
  return ⟨scheme, host, port, path, told.lookup "query", told.lookup "fragment"⟩

/-- The parts that lines tell. -/
def ofLines? (lines : List (List Char)) : Option UrlParts :=
  (lines.mapM readLine?).bind ofLabelled?

variable {parts : UrlParts}

/-- What holds of every labelled text holds of the text of each part that is there. -/
theorem forall_mem_labelled_iff {holds : String × String → Prop} :
    (∀ told ∈ parts.labelled, holds told) ↔
      holds ("scheme", parts.scheme) ∧ holds ("host", parts.host) ∧
      (∀ port ∈ parts.port, holds ("port", Nat.repr port.toNat)) ∧
      holds ("path", parts.path) ∧ (∀ query ∈ parts.query, holds ("query", query)) ∧
      ∀ fragment ∈ parts.fragment, holds ("fragment", fragment) := by
  obtain ⟨scheme, host, port, path, query, fragment⟩ := parts
  -- Each of the three parts that may be missing is there or not.
  cases port <;> cases query <;> cases fragment <;> simp [labelled]

/-- Every text is told behind one of the labels. -/
theorem fst_mem_labels {told : String × String} (member : told ∈ parts.labelled) :
    told.1 ∈ labels := by
  -- The six parts are gone through.
  have every : ∀ told ∈ parts.labelled, told.1 ∈ labels :=
    forall_mem_labelled_iff.mpr (by simp [labels])
  exact every told member

/-- Labels have neither a colon nor a control. -/
theorem colon_not_mem_and_hasNoControl_of_mem_labels :
    ∀ label ∈ labels, ':' ∉ label.toList ∧ HasNoControl label.toList := by
  -- The six labels are gone through.
  simp [labels, HasNoControl]

/-- The characters of a line. -/
theorem toList_line (told : String × String) :
    (line told).toList = told.1.toList ++ ':' :: ' ' :: told.2.toList := by
  -- A line is put together from its label, a colon, a space and its text.
  simp [line]

/-- A line is read back, whatever its text holds. -/
theorem readLine?_line {told : String × String} (member : told ∈ parts.labelled) :
    readLine? (line told).toList = some told := by
  have absent := (colon_not_mem_and_hasNoControl_of_mem_labels _ (fst_mem_labels member)).1
  -- The colon behind the label is the first one.
  rw [toList_line, readLine?, splitFirst_append _ absent]
  simp

/-- A port is read back from its digits. -/
theorem readDigits?_repr (port : UInt16) : readDigits? (Nat.repr port.toNat) = some port := by
  have small := port.toNat_lt
  have digits : (Nat.repr port.toNat).toList = Nat.toDigits 10 port.toNat := by
    simp [Nat.repr]
  have value := Ascii.decimalValue_toDigits port.toNat
  -- There is at least one digit, also for zero.
  have filled : Nat.repr port.toNat ≠ "" := by
    intro same
    rw [same] at digits
    exact Nat.toDigits_ne_nil digits.symm
  have all : (Nat.toDigits 10 port.toNat).all Char.isDigit :=
    List.all_eq_true.mpr fun _ member => Ascii.isDigit_of_mem_toDigits member
  rw [readDigits?, digits, value, if_pos ⟨filled, all, by omega⟩, UInt16.ofNat_toNat]

/-- The parts are read back from their labelled texts. -/
theorem ofLabelled?_labelled (parts : UrlParts) : ofLabelled? parts.labelled = some parts := by
  obtain ⟨scheme, host, port, path, query, fragment⟩ := parts
  -- Each of the three parts that may be missing is there or not.
  cases port <;> cases query <;> cases fragment <;>
    simp [ofLabelled?, labelled, List.lookup_cons, readDigits?_repr]

/-- The parts are read back from their lines. -/
theorem ofLines?_map_line (parts : UrlParts) :
    ofLines? (parts.labelled.map fun told => (line told).toList) = some parts := by
  -- Each line is read back as what it tells, and the parts as what all lines tell.
  rw [ofLines?, mapM_map_eq_some fun _ member => readLine?_line member]
  exact ofLabelled?_labelled parts

end UrlParts

namespace Url

open UrlParts

variable {url : Url}

/-- A URL is described by the lines of its parts. -/
theorem description_eq (url : Url) : url.description = url.parts.labelled.map line := by
  -- The components of the URL and its parts are told in the same order, and the missing ones left
  -- out.
  simp only [labelled, parts, List.map_append, List.map_cons, List.map_nil, ← Option.toList_map,
    Option.map_map]
  rfl

/-- The texts that tell the parts of a URL without controls have none. -/
theorem HasNoControls.snd_of_mem_labelled (free : url.HasNoControls) :
    ∀ told ∈ url.parts.labelled, HasNoControl told.2.toList := by
  refine forall_mem_labelled_iff.mpr ⟨free.scheme, ?_, fun port _ => hasNoControl_repr port.toNat,
    free.path, free.query, free.fragment⟩
  -- A host that is missing is told as the empty text.
  cases named : url.host? with
  | none => simp [parts, hostText?, named, HasNoControl]
  | some host => simpa [parts, hostText?, named] using free.host host named

/-- No line of a URL without controls has a line feed. -/
theorem HasNoControls.newline_not_mem_line (free : url.HasNoControls) {told : String × String}
    (member : told ∈ url.parts.labelled) : '\n' ∉ (line told).toList := by
  have label := (colon_not_mem_and_hasNoControl_of_mem_labels _ (fst_mem_labels member)).2
  have text := free.snd_of_mem_labelled told member
  -- Between the two there are a colon and a blank.
  simp [toList_line, label.newline_not_mem, text.newline_not_mem]

/-- The description of a URL without controls is split into the lines of its parts. -/
theorem HasNoControls.fields_description (free : url.HasNoControls) :
    fields '\n' ("\n".intercalate url.description).toList =
      url.parts.labelled.map fun told => (line told).toList := by
  have joined : ("\n".intercalate url.description).toList =
      joinFields '\n' (url.parts.labelled.map fun told => (line told).toList) := by
    rw [description_eq, String.toList_intercalate, List.map_map]
    rfl
  -- There is always a line, and none is split further.
  rw [joined]
  refine fields_joinFields (by simp [labelled]) ?_
  intro piece listed
  obtain ⟨told, member, rfl⟩ := List.mem_map.mp listed
  exact free.newline_not_mem_line member

end Url

namespace Command

open UrlParts

/-- A text that is read as a URL is answered in two ways. The plain answer is split at its line
feeds into one line for each part that is there, in order and with its label, and the parts are read
back from these lines; they are read back from the JSON answer as well. -/
theorem run_url_tells_parts {files : Files} {text : String} {url : Url}
    (accepted : Url.parse text = .ok url) :
    ∃ plain json, run files (.url text false) = .ok plain ∧ run files (.url text true) = .ok json ∧
      fields '\n' plain.toList = (url.parts.labelled.map fun told => (line told).toList) ∧
      ofLines? (fields '\n' plain.toList) = some url.parts ∧
      readJson json = .ok url.parts := by
  -- No component holds a line feed, so the lines are those that were joined.
  have split := (Url.hasNoControls_of_parse accepted).fields_description
  -- The JSON answer is the indented form of an object with the members in their own order.
  have layout : JsonToken.Layout (Json.object url.parts.members).tokens
      (String.ofList (url.parts.toJson.pretty 0)).toList := by
    rw [String.toList_ofList, toJson_eq]
    exact Json.layout_pretty _ 0
  refine ⟨"\n".intercalate url.description, .ofList (url.parts.toJson.pretty 0), ?_, ?_, split, ?_,
    readJson_of_perm_members (List.Perm.refl _) layout⟩
  · rw [run, accepted]
    rfl
  · rw [run, accepted]
    rfl
  · rw [split]
    exact ofLines?_map_line url.parts

/-- A URL of an unknown scheme, from a text with a line feed, a control and a backslash, with a port
and an empty fragment. -/
theorem run_url_tells_parts_of_controls :
    ∃ (files : Files) (plain json : String),
      run files (.url "Foo://h:7/a\\: \n\x01?q: \"%0A\"#" false) = .ok plain ∧
      run files (.url "Foo://h:7/a\\: \n\x01?q: \"%0A\"#" true) = .ok json ∧
      fields '\n' plain.toList =
        ["scheme: foo", "host: h", "port: 7", "path: /a\\:%20%01", "query: q:%20%22%0A%22",
          "fragment: "].map String.toList ∧
      readJson json = .ok ⟨"foo", "h", some 7, "/a\\:%20%01", some "q:%20%22%0A%22", some ""⟩ := by
  -- The argument has a line feed and another control, and texts that look like the labels of
  -- lines.
  have accepted : Url.parse "Foo://h:7/a\\: \n\x01?q: \"%0A\"#" =
      .ok ⟨"foo", some ⟨"", "", some (.name "h"), some 7⟩, false, .segmented ["a\\:%20%01"],
        some "q:%20%22%0A%22", some ""⟩ := rfl
  obtain ⟨plain, json, told, written, lines, -, read⟩ :=
    @run_url_tells_parts (fun _ => .ok []) _ _ accepted
  exact ⟨_, plain, json, told, written, lines.trans rfl, read⟩

end Command

end Locator
