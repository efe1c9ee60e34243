import TypedChannel.Text.Quoted
/-!
# TypedChannel.Text.Json

JSON objects on one line.

1. In a string, a quote and a backslash are escaped, and so is every control
   character below the blank: five of them by a letter, the others by four
   hexadecimal digits. All else stands for itself.
2. Members stand in the order they are given, without blanks.
-/

namespace TypedChannel.Text.Json

/-- A member's value. -/
inductive Value where
  | string (s : String)
  | number (n : Int)
  | null
  | object (members : List (String × Value))

/-- How one character is written in a string. -/
def stringChar (c : Char) : String :=
  match c with
  | '"' => "\\\""
  | '\\' => "\\\\"
  | '\x08' => "\\b"
  | '\t' => "\\t"
  | '\n' => "\\n"
  | '\x0c' => "\\f"
  | '\r' => "\\r"
  | _ =>
    if c.toNat < 0x20 then
      let digits := hexadecimal c.toNat
      "\\u" ++ String.ofList (List.replicate (4 - digits.length) '0') ++ digits
    else c.toString

/-- A string. -/
def string (s : String) : String := "\"" ++ String.join (s.toList.map stringChar) ++ "\""

mutual

/-- The text of a value. -/
def Value.text : Value → String
  | .string s => Json.string s
  | .number n => toString n
  | .null => "null"
  | .object members => "\x7b" ++ membersText members ++ "\x7d"

/-- The text of an object's members. -/
def membersText : List (String × Value) → String
  | [] => ""
  | [(name, value)] => Json.string name ++ ":" ++ value.text
  | (name, value) :: rest => Json.string name ++ ":" ++ value.text ++ "," ++ membersText rest

end

/-- The text of an object. -/
def object (members : List (String × Value)) : String := (Value.object members).text

end TypedChannel.Text.Json
