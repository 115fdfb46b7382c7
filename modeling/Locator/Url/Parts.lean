import Locator.Document.Json
import Locator.Url.Update

/-! The parts of a URL as a record of texts: taking a URL apart, putting one together, and the JSON
form of the record. -/

namespace Locator

/-- The parts of a URL. -/
structure UrlParts where
  /-- The scheme. -/
  scheme : String
  /-- The host. -/
  host : String
  /-- The port. -/
  port : Option UInt16
  /-- The path. -/
  path : String
  /-- The query. -/
  query : Option String
  /-- The fragment. -/
  fragment : Option String
  deriving DecidableEq, Repr

namespace UrlParts

/-- A host under `http` with the root as its path and nothing else. -/
def ofHost (host : String) : UrlParts :=
  ⟨"http", host, none, "/", none, none⟩

/-- The URL of the parts: its scheme and host first, then one part after another. -/
def toUrl (parts : UrlParts) : Except UrlError Url := do
  let start ← Url.parse (parts.scheme ++ "://" ++ parts.host)
  -- Behind the host only the port can be refused; the other parts are encoded as they come.
  let url ← match parts.port with
    | none => pure start
    | some port => start.withPort port
  let url := url.withPath parts.path
  let url := match parts.query with
    | none => url
    | some query => url.withQuery query
  return match parts.fragment with
    | none => url
    | some fragment => url.withFragment fragment

/-- A member of the JSON form that may be missing. -/
def optional (key : String) (value : Option Json) : List (String × Json) :=
  value.toList.map (key, ·)

/-- The JSON form: an object without the parts that are missing. -/
def toJson (parts : UrlParts) : Json :=
  .object ([("scheme", .string parts.scheme), ("host", .string parts.host)]
    ++ optional "port" (parts.port.map fun port => .number (.ofInt port.toNat))
    ++ [("path", .string parts.path)]
    ++ optional "query" (parts.query.map .string)
    ++ optional "fragment" (parts.fragment.map .string))

/-- Parts of which some may not be known yet; an optional part is known also when it is null. -/
structure Known where
  /-- The scheme. -/
  scheme : Option String
  /-- The host. -/
  host : Option String
  /-- The port. -/
  port : Option (Option UInt16)
  /-- The path. -/
  path : Option String
  /-- The query. -/
  query : Option (Option String)
  /-- The fragment. -/
  fragment : Option (Option String)

/-- Stops reading the parts. -/
def refuse {α : Type} (cause : Misread) : Except ReadError α :=
  .error ⟨[], cause⟩

/-- Refuses a JSON value that is not what is expected. -/
def mismatch {α : Type} (expected : Expected) (draft : JsonDraft) : Except ReadError α :=
  match Document.ofDraft 1 draft with
  | .fault fault => refuse (.fault fault)
  | node => refuse (.wrongType node.found expected)

/-- The text of a JSON string. -/
def readString (draft : JsonDraft) : Except ReadError String :=
  match draft with
  | .string (some text) => .ok text
  | _ => mismatch .string draft

/-- The port that a JSON number spells. -/
def readPort (draft : JsonDraft) : Except ReadError UInt16 :=
  match draft with
  | .number number =>
    match number.scalar? with
    | some (.integer n) =>
      if 0 ≤ n ∧ n < 2 ^ 16 then .ok (.ofNat n.toNat) else refuse (.outOfRange n .port)
    | _ => mismatch .port draft
  | _ => mismatch .port draft

/-- A part that may be null. -/
def readOptional {α : Type} (read : JsonDraft → Except ReadError α) (draft : JsonDraft) :
    Except ReadError (Option α) :=
  match draft with
  | .null => .ok none
  | _ => (read draft).map some

/-- Reads a member that must not be known yet. -/
def readField {α : Type} (name : String) (known : Option α) (read : Except ReadError α) :
    Except ReadError α :=
  if known.isSome then refuse (.duplicateField name) else read

/-- Reads one member of the object; a member of another name only has to be JSON. -/
def readMember (known : Known) (key : String) (draft : JsonDraft) : Except ReadError Known :=
  match key with
  | "scheme" => do
    return { known with scheme := some (← readField key known.scheme (readString draft)) }
  | "host" => do
    return { known with host := some (← readField key known.host (readString draft)) }
  | "port" => do
    return { known with port := some (← readField key known.port (readOptional readPort draft)) }
  | "path" => do
    return { known with path := some (← readField key known.path (readString draft)) }
  | "query" => do
    return { known with
      query := some (← readField key known.query (readOptional readString draft)) }
  | "fragment" => do
    return { known with
      fragment := some (← readField key known.fragment (readOptional readString draft)) }
  | _ => if draft.isWhole then .ok known else refuse (.fault .malformed)

/-- Reads the members of the object in order. -/
def readMembers (known : Known) :
    List (Option String × JsonDraft) → Except ReadError Known
  | [] => .ok known
  | (none, _) :: _ => refuse (.fault .malformed)
  | (some key, draft) :: rest => do readMembers (← readMember known key draft) rest

/-- A part that has to be known. -/
def required (name : String) (known : Option String) : Except ReadError String :=
  match known with
  | some text => .ok text
  | none => refuse (.missingField name)

/-- The parts of an object whose members are read. -/
def ofKnown (known : Known) : Except ReadError UrlParts := do
  let scheme ← required "scheme" known.scheme
  let host ← required "host" known.host
  let path ← required "path" known.path
  return ⟨scheme, host, known.port.getD none, path, known.query.getD none, known.fragment.getD none⟩

/-- The parts of an array, in the order of the record; it holds six. -/
def ofItems (items : List JsonDraft) : Except ReadError UrlParts := do
  let item {α : Type} (position : Nat) (read : JsonDraft → Except ReadError α) :
      Except ReadError α :=
    match items[position]? with
    | some draft => read draft
    | none => refuse (.fewParts position)
  let scheme ← item 0 readString
  let host ← item 1 readString
  let port ← item 2 (readOptional readPort)
  let path ← item 3 readString
  let query ← item 4 (readOptional readString)
  let fragment ← item 5 (readOptional readString)
  -- A missing part is told by its position, and a seventh one is bad JSON.
  if items.length = 6 then return ⟨scheme, host, port, path, query, fragment⟩
  else refuse (.fault .malformed)

/-- The parts that a JSON value holds. -/
def ofDraft (draft : JsonDraft) : Except ReadError UrlParts :=
  match draft with
  | .object members => do ofKnown (← readMembers ⟨none, none, none, none, none, none⟩ members)
  | .array items => ofItems items
  | _ => mismatch .parts draft

/-- The parts that a JSON text holds. -/
def readJson (text : String) : Except ReadError UrlParts := do
  let (draft, rest) := JsonDraft.read text
  let parts ← ofDraft draft
  if rest.isEmpty then return parts else refuse (.fault .malformed)

end UrlParts

namespace Url

/-- The parts of a URL; a missing host is empty, and the port is the default one where there is no
other. -/
def parts (url : Url) : UrlParts :=
  ⟨url.scheme, url.hostText?.getD "", url.port?, url.pathText, url.query, url.fragment⟩

end Url

end Locator
