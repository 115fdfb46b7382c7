import Locator.Json.Token

/-! What a JSON text holds up to the point where it stops being JSON. -/

namespace Locator

/-- A JSON value as far as its text can be read. -/
inductive JsonDraft where
  /-- `null` -/
  | null
  /-- `true` or `false` -/
  | bool (flag : Bool)
  /-- A number. -/
  | number (number : JsonNumber)
  /-- A string; none when it holds half of a surrogate pair. -/
  | string (text : Option String)
  /-- An array. -/
  | array (items : List JsonDraft)
  /-- An object. -/
  | object (members : List (Option String × JsonDraft))
  /-- From here on the text is not JSON; nothing follows. -/
  | cut
  deriving Repr

namespace JsonDraft

/-- An array or object that is still open, with what stands in it already. -/
inductive Frame where
  /-- An array with its items, the last one first. -/
  | items (before : List JsonDraft)
  /-- An object with its members, the last one first, and the key whose value is due. -/
  | members (before : List (Option String × JsonDraft)) (key : Option String)
  deriving Repr

/-- What is due next. -/
inductive Due where
  /-- A value. -/
  | value
  /-- The first item of an array, or its end. -/
  | firstItem
  /-- The first key of an object, or its end. -/
  | firstKey
  /-- A key of an object that has the given members, the last one first. -/
  | key (before : List (Option String × JsonDraft))
  /-- The colon after a key. -/
  | colon
  /-- Whatever may follow a finished value. -/
  | next (finished : JsonDraft)
  deriving Repr

/-- The container that a frame becomes when it ends with the given value. -/
def Frame.close (last : JsonDraft) : Frame → JsonDraft
  | items before => array (before.reverse ++ [last])
  | members before key => object (before.reverse ++ [(key, last)])

/-- The value of a text that stops being JSON inside the open frames, innermost first. -/
def abandon (due : Due) (frames : List Frame) : JsonDraft :=
  match due with
  -- Where a key is due, the object ends in a member without one.
  | .key before =>
    frames.foldl Frame.close (object (before.reverse ++ [(none, cut)]))
  | .firstKey => frames.foldl Frame.close (object [(none, cut)])
  | .firstItem => frames.foldl Frame.close (array [cut])
  -- A finished value keeps its place, and the cut stands where the next one would.
  | .next finished =>
    match frames with
    | [] => finished
    | .items before :: outer => outer.foldl Frame.close (array (before.reverse ++ [finished, cut]))
    | .members before key :: outer =>
      outer.foldl Frame.close (object (before.reverse ++ [(key, finished), (none, cut)]))
  | _ => frames.foldl Frame.close cut

/-- Reads tokens until the outermost value is finished: one step for each token, with the open
containers innermost first. The answer is the value with the tokens after it. -/
def run : List JsonToken → Due → List Frame → JsonDraft × List JsonToken
  -- The outermost value is finished, so the remaining tokens are not looked at.
  | tokens, .next finished, [] => (finished, tokens)
  | [], due, frames => (abandon due frames, [])
  -- After an item or a member its container goes on or ends.
  | token :: rest, .next finished, .items before :: outer =>
    match token with
    | .comma => run rest .value (.items (finished :: before) :: outer)
    | .closeArray => run rest (.next (array (before.reverse ++ [finished]))) outer
    | _ => (abandon (.next finished) (.items before :: outer), [])
  | token :: rest, .next finished, .members before key :: outer =>
    match token with
    | .comma => run rest (.key ((key, finished) :: before)) outer
    | .closeObject => run rest (.next (object (before.reverse ++ [(key, finished)]))) outer
    | _ => (abandon (.next finished) (.members before key :: outer), [])
  -- Keys: an object may end before its first one, but not after a comma.
  | token :: rest, .firstKey, frames =>
    match token with
    | .string key => run rest .colon (.members [] key :: frames)
    | .closeObject => run rest (.next (object [])) frames
    | _ => (abandon .firstKey frames, [])
  | token :: rest, .key before, frames =>
    match token with
    | .string key => run rest .colon (.members before key :: frames)
    | _ => (abandon (.key before) frames, [])
  | token :: rest, .colon, frames =>
    match token with
    | .colon => run rest .value frames
    | _ => (abandon .colon frames, [])
  -- Values: an array may end before its first item, which otherwise opens the frame.
  | token :: rest, .firstItem, frames =>
    match token with
    | .closeArray => run rest (.next (array [])) frames
    | .null => run rest (.next null) (.items [] :: frames)
    | .bool flag => run rest (.next (bool flag)) (.items [] :: frames)
    | .number n => run rest (.next (number n)) (.items [] :: frames)
    | .string text => run rest (.next (string text)) (.items [] :: frames)
    | .openArray => run rest .firstItem (.items [] :: frames)
    | .openObject => run rest .firstKey (.items [] :: frames)
    | _ => (abandon .firstItem frames, [])
  | token :: rest, .value, frames =>
    match token with
    | .null => run rest (.next null) frames
    | .bool flag => run rest (.next (bool flag)) frames
    | .number n => run rest (.next (number n)) frames
    | .string text => run rest (.next (string text)) frames
    | .openArray => run rest .firstItem frames
    | .openObject => run rest .firstKey frames
    | _ => (abandon .value frames, [])

/-- The value at the front of a text, and the tokens after it. -/
def read (text : String) : JsonDraft × List JsonToken :=
  run (JsonToken.ofText text.toList) .value []

mutual

/-- Whether the text of a value is JSON to its end. -/
def isWhole : JsonDraft → Bool
  | cut => false
  | array items => areWhole items
  | object members => membersAreWhole members
  | _ => true

/-- Whether the text of every item is JSON to its end. -/
def areWhole : List JsonDraft → Bool
  | [] => true
  | item :: rest => item.isWhole && areWhole rest

/-- Whether the text of every member is JSON to its end. -/
def membersAreWhole : List (Option String × JsonDraft) → Bool
  | [] => true
  | (_, value) :: rest => value.isWhole && membersAreWhole rest

end

end JsonDraft

end Locator
