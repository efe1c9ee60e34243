import TypedChannel.Text.Printable
/-!
# TypedChannel.Text.Quoted

Text in double quotes with every character visible on one line.

1. A quote, a backslash, a tab, a carriage return, a line feed and a NUL have
   a two-character escape.
2. Any other character that is not printable, and any combining mark, is
   written as its code point in braces.
3. All else, the apostrophe included, stands for itself.
-/

namespace TypedChannel.Text

/-- A number in lower-case hexadecimal, without leading zeros. -/
def hexadecimal (n : Nat) : String := String.ofList (Nat.toDigits 16 n)

/-- How one character is written between double quotes. -/
def quotedChar (c : Char) : String :=
  match c with
  | '"' => "\\\""
  | '\\' => "\\\\"
  | '\t' => "\\t"
  | '\r' => "\\r"
  | '\n' => "\\n"
  | '\x00' => "\\0"
  | _ =>
    if extendsGrapheme c || !isPrintable c then "\\u\x7b" ++ hexadecimal c.toNat ++ "\x7d"
    else c.toString

/-- A text in double quotes. -/
def quoted (s : String) : String :=
  "\"" ++ String.join (s.toList.map quotedChar) ++ "\""

end TypedChannel.Text
