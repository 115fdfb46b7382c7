import Locator.Text.Ascii
import Locator.Text.Fields

/-! JSON values and their two written forms, on one line and indented. -/

namespace Locator

/-- A JSON number as it is written. -/
structure JsonNumber where
  /-- Whether a minus sign stands in front. -/
  negative : Bool
  /-- The digits before the point, without leading zeros. -/
  whole : Nat
  /-- The digits after the point; no digit means no point. -/
  fraction : List (Fin 10)
  /-- The exponent, when one is written. -/
  exponent : Option Int
  deriving DecidableEq, Repr

/-- A JSON value; objects keep the order of their members and may repeat a key. -/
inductive Json where
  /-- `null` -/
  | null
  /-- `true` or `false` -/
  | bool (flag : Bool)
  /-- A number. -/
  | number (number : JsonNumber)
  /-- A string. -/
  | string (text : String)
  /-- An array. -/
  | array (items : List Json)
  /-- An object. -/
  | object (members : List (String × Json))
  deriving Repr

namespace JsonNumber

/-- An integer. -/
def ofInt (n : Int) : JsonNumber :=
  ⟨n < 0, n.natAbs, [], none⟩

/-- An integer's decimal digits with its sign. -/
def writeExponent (exponent : Int) : List Char :=
  if exponent < 0 then '-' :: Nat.toDigits 10 exponent.natAbs
  else Nat.toDigits 10 exponent.natAbs

/-- The written form. -/
def write (number : JsonNumber) : List Char :=
  (if number.negative then ['-'] else []) ++ Nat.toDigits 10 number.whole
    ++ (if number.fraction.isEmpty then []
        else '.' :: number.fraction.map fun digit => Nat.digitChar digit.val)
    ++ match number.exponent with
      | none => []
      | some exponent => 'e' :: writeExponent exponent

end JsonNumber

namespace Json

/-- One character inside a JSON string. Quotes, backslashes and controls are escaped, five of the
controls by a letter; everything else stands as it is. -/
def escapeChar (c : Char) : List Char :=
  match c with
  | '"' => ['\\', '"']
  | '\\' => ['\\', '\\']
  | '\x08' => ['\\', 'b']
  | '\t' => ['\\', 't']
  | '\n' => ['\\', 'n']
  | '\x0c' => ['\\', 'f']
  | '\r' => ['\\', 'r']
  | _ =>
    -- The other controls have four digits, of which the first two are always zeros.
    if c.toNat < 0x20 then
      ['\\', 'u', '0', '0', Nat.digitChar (c.toNat / 16), Nat.digitChar (c.toNat % 16)]
    else [c]

/-- A text as a JSON string. -/
def quote (text : String) : List Char :=
  '"' :: text.toList.flatMap escapeChar ++ ['"']

mutual

/-- A value on one line, without blanks. -/
def compact : Json → List Char
  | null => "null".toList
  | bool true => "true".toList
  | bool false => "false".toList
  | number n => n.write
  | string text => quote text
  | array items => '[' :: compactItems items
  | object members => '{' :: compactMembers members

/-- Array items up to the closing bracket. -/
def compactItems : List Json → List Char
  | [] => [']']
  | [item] => item.compact ++ [']']
  | item :: rest => item.compact ++ ',' :: compactItems rest

/-- Object members up to the closing brace. -/
def compactMembers : List (String × Json) → List Char
  | [] => ['}']
  | [(key, value)] => quote key ++ ':' :: value.compact ++ ['}']
  | (key, value) :: rest => quote key ++ ':' :: value.compact ++ ',' :: compactMembers rest

end

/-- A new line, indented by two blanks for each level. -/
def newLine (level : Nat) : List Char :=
  '\n' :: List.replicate (2 * level) ' '

mutual

/-- A value with every item and member on a line of its own, at a level of indentation. -/
def pretty (level : Nat) : Json → List Char
  | null => "null".toList
  | bool true => "true".toList
  | bool false => "false".toList
  | number n => n.write
  | string text => quote text
  | array [] => ['[', ']']
  | array items => '[' :: prettyItems level items
  | object [] => ['{', '}']
  | object members => '{' :: prettyMembers level members

/-- The items of an array that is not empty, up to the closing bracket. -/
def prettyItems (level : Nat) : List Json → List Char
  | [] => newLine level ++ [']']
  -- The closing bracket stands one level further out than the items.
  | [item] => newLine (level + 1) ++ item.pretty (level + 1) ++ newLine level ++ [']']
  | item :: rest => newLine (level + 1) ++ item.pretty (level + 1) ++ ',' :: prettyItems level rest

/-- The members of an object that is not empty, up to the closing brace. -/
def prettyMembers (level : Nat) : List (String × Json) → List Char
  | [] => newLine level ++ ['}']
  | [(key, value)] =>
    newLine (level + 1) ++ quote key ++ ':' :: ' ' :: value.pretty (level + 1)
      ++ newLine level ++ ['}']
  | (key, value) :: rest =>
    newLine (level + 1) ++ quote key ++ ':' :: ' ' :: value.pretty (level + 1)
      ++ ',' :: prettyMembers level rest

end

end Json

end Locator
