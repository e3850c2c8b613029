/-
Module: ServiceLifecycle.Value.Printer
Purpose: The one-line text of a configuration value.
Main exports: Value.render, renderTable
-/
import ServiceLifecycle.Value.Basic
import ServiceLifecycle.Decimal.Notation
import ServiceLifecycle.Text.Quoted

namespace ServiceLifecycle

/-!
Values are written as JSON without blanks.  Only quotation marks, backslashes
and the controls below the space are escaped; all else stands for itself.
-/

namespace Value

/-- A number below 65536 as four hexadecimal digits. -/
def fourHexDigits (n : Nat) : String :=
  let digits := Text.hexDigits n
  String.ofList (List.replicate (4 - digits.length) '0') ++ digits

/-- One character inside a JSON text. -/
def escapeChar (c : Char) : String :=
  match c with
  | '"' => "\\\""
  | '\\' => "\\\\"
  | '\x08' => "\\b"
  | '\x0c' => "\\f"
  | '\n' => "\\n"
  | '\r' => "\\r"
  | '\t' => "\\t"
  | c => if c.toNat < 0x20 then "\\u" ++ fourHexDigits c.toNat else c.toString

/-- A text as a JSON string. -/
def renderText (text : String) : String :=
  "\"" ++ String.join (text.toList.map escapeChar) ++ "\""

mutual

/-- The JSON text of a value. -/
def render : Value → String
  | .null => "null"
  | .bool value => if value then "true" else "false"
  | .int value => toString value
  | .float value => Decimal.settingLayout.text value
  | .text value => renderText value
  | .list items => "[" ++ ",".intercalate (renderItems items) ++ "]"
  | .table entries => "\x7b" ++ ",".intercalate (renderEntries entries) ++ "\x7d"

/-- The texts of the items of a list. -/
def renderItems : List Value → List String
  | [] => []
  | item :: rest => item.render :: renderItems rest

/-- The texts of the entries of a table, key and value. -/
def renderEntries : List (String × Value) → List String
  | [] => []
  | (key, value) :: rest => (renderText key ++ ":" ++ value.render) :: renderEntries rest
end

end Value

end ServiceLifecycle
