import Locator.Template.Basic
import Locator.Text.Fields

/-! The written form of templates: reading, which never fails, and writing. -/

namespace Locator

/-- The greatest length a prefix modifier can hold; longer digit runs mean the same. -/
def Modifier.maxLength : Nat := 2 ^ 64 - 1

/-- The modifier that the text after a colon spells; no text spells none. -/
def Modifier.ofSuffix? (text : List Char) : Option Modifier :=
  if text.isEmpty then none
  else if text.all Char.isDigit then
    some (.take (.ofNat (min (Ascii.decimalValue text) Modifier.maxLength)))
  else some (.other (.ofList text))

/-- The slot that a word spells. A final `*` wins over a colon and leaves it in the name; else the
text between the first two colons is the modifier and what follows is dropped. -/
def Slot.read (word : List Char) : Slot :=
  if word.getLast? = some '*' then ⟨.ofList word.dropLast, some .explode⟩
  else match fields ':' word with
    | name :: suffix :: _ => ⟨.ofList name, Modifier.ofSuffix? suffix⟩
    | _ => ⟨.ofList word, none⟩

/-- The expression that the text between braces spells. -/
def Expression.read (body : List Char) : Expression :=
  match body with
  | [] => ⟨.simple, [Slot.read []]⟩
  | c :: rest =>
    match Operator.ofChar? c with
    | some operator => ⟨operator, (fields ',' rest).map Slot.read⟩
    | none => ⟨.simple, (fields ',' body).map Slot.read⟩

/-- A stretch of template text: a literal, or a span between braces. -/
inductive Segment where
  /-- Text that stands for itself. -/
  | literal (text : List Char)
  /-- The text between an opening brace and the first closing one. -/
  | span (body : List Char)
  deriving DecidableEq, Repr

namespace Segment

/-- The part that a segment spells. -/
def toPart : Segment → Part
  | literal text => .literal (.ofList text)
  | span body => .expression (Expression.read body)

/-- Puts a character in front, in the first literal or in a new one. -/
def addLiteral (c : Char) : List Segment → List Segment
  | literal text :: more => literal (c :: text) :: more
  | segments => literal [c] :: segments

end Segment

/-- What follows a found separator is shorter than the text. -/
theorem splitFirst_after_lt {separator : Char} {text before after : List Char}
    (found : splitFirst separator text = some (before, after)) : after.length < text.length := by
  -- At least the separator itself is gone.
  induction text generalizing before with
  | nil => simp [splitFirst] at found
  | cons c rest ih =>
    rw [splitFirst] at found
    split at found
    · cases found
      simp
    · obtain ⟨⟨b, a⟩, inner, same⟩ := Option.map_eq_some_iff.mp found
      cases same
      have := ih inner
      simp only [List.length_cons]
      omega

/-- Cuts a template text into segments. An opening brace that nothing closes, and one that is closed
at once, stand for themselves. -/
def Segment.cut (text : List Char) : List Segment :=
  match text with
  | [] => []
  | c :: rest =>
    if c = '{' then
      match _ : splitFirst '}' rest with
      | none => [.literal (c :: rest)]
      | some ([], _) => addLiteral c (cut rest)
      | some (b :: body, after) => .span (b :: body) :: cut after
    else addLiteral c (cut rest)
termination_by text.length
decreasing_by
  · simp
  · have := splitFirst_after_lt ‹_›
    simp only [List.length_cons]
    omega
  · simp

/-- The template that a text spells. -/
def Template.read (text : String) : Template :=
  ⟨(Segment.cut text.toList).map Segment.toPart⟩

/-- The written form of a slot. A colon ends a name without a modifier, so that a final `*` of the
name stays one, and a second colon ends a modifier without effect. -/
def Slot.write (slot : Slot) : List Char :=
  match slot.modifier with
  | none => slot.name.toList ++ [':']
  | some .explode => slot.name.toList ++ ['*']
  | some (.take length) => slot.name.toList ++ ':' :: Nat.toDigits 10 length.toNat
  | some (.other text) => slot.name.toList ++ ':' :: text.toList ++ [':']

/-- The written form of what stands between an expression's braces. -/
def Expression.write (expression : Expression) : List Char :=
  expression.operator.toChar?.toList ++ joinFields ',' (expression.slots.map Slot.write)

/-- The written form of a part. -/
def Part.write : Part → List Char
  | literal text => text.toList
  | expression e => '{' :: e.write ++ ['}']

/-- The written form of a template. -/
def Template.write (template : Template) : String :=
  .ofList (template.parts.flatMap Part.write)

end Locator
