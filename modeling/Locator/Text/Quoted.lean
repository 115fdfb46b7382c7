import Locator.Text.Invisible

/-! Texts in quotes, as error texts show them. -/

namespace Locator

namespace Quoted

/-- One character between the quotes. Quotes, backslashes and four controls are escaped by a sign,
every other character without a visible form by its code point. -/
def escapeChar (c : Char) : List Char :=
  match c with
  | '"' => ['\\', '"']
  | '\\' => ['\\', '\\']
  | '\x00' => ['\\', '0']
  | '\t' => ['\\', 't']
  | '\n' => ['\\', 'n']
  | '\r' => ['\\', 'r']
  | _ =>
    if isInvisible c then "\\u".toList ++ '\x7b' :: Nat.toDigits 16 c.toNat ++ ['\x7d'] else [c]

/-- A text between quotes. -/
def quote (text : String) : String :=
  .ofList ('"' :: text.toList.flatMap escapeChar ++ ['"'])

end Quoted

end Locator
