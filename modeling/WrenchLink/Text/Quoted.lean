/-
The quoted form in which a message shows a text that it refuses.

The text stands between double quotes.  A backslash marks the quote, the backslash and
four controls; every other character that could not be seen where it stands, because it
has no visible form or clings to the character before it, is written by its code point
as a backslash, `u` and the lower-case hexadecimal number in braces.  All else stands
as it is.
-/
import WrenchLink.Text.GraphemeExtend
import WrenchLink.Text.Unprintable

namespace WrenchLink
namespace Text

/-- Lower-case hexadecimal digits, with no leading zeros. -/
def hexadecimal (n : Nat) : String :=
  String.ofList (Nat.toDigits 16 n)

/-- The character clings to the one before it.  Of all that extend a grapheme only the
halfwidth voicing marks do not: they are letters, each in a cell of its own. -/
def isClinging (c : Char) : Bool := isGraphemeExtend c && c != '\uff9e' && c != '\uff9f'

/-- How one character is written between the quotes. -/
def quotedChar (c : Char) : String :=
  match c with
  | '\x00' => "\\0"
  | '\t' => "\\t"
  | '\r' => "\\r"
  | '\n' => "\\n"
  | '\\' => "\\\\"
  | '"' => "\\\""
  | c =>
    if isClinging c || isUnprintable c then
      "\\u\x7b" ++ hexadecimal c.toNat ++ "\x7d"
    else
      c.toString

def quoted (text : String) : String :=
  "\"" ++ String.join (text.toList.map quotedChar) ++ "\""

end Text
end WrenchLink
