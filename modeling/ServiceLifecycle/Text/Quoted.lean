/-
Module: ServiceLifecycle.Text.Quoted
Purpose: Quoted texts in messages and reports, one line each, unambiguous.
Main exports: hexDigits, quoteChar, quote, quotePair
-/
import ServiceLifecycle.Text.Shown

namespace ServiceLifecycle.Text

/-!
Messages that repeat a text from outside put it between quotation marks and
escape whatever would hide, break the line or end the quotation.  Unlike JSON
text, a quoted text writes *every* character that is not shown by its number.
-/

/-- The digits of a number in base 16, lower case, without leading zeros. -/
def hexDigits (n : Nat) : String :=
  String.ofList (Nat.toDigits 16 n)

/-- One character of a quoted text. -/
def quoteChar (c : Char) : String :=
  match c with
  | '"' => "\\\""
  | '\\' => "\\\\"
  | '\n' => "\\n"
  | '\r' => "\\r"
  | '\t' => "\\t"
  | '\x00' => "\\0"
  | c => if isShown c then c.toString else "\\u\x7b" ++ hexDigits c.toNat ++ "\x7d"

/-- The text between quotation marks. -/
def quote (text : String) : String :=
  "\"" ++ String.join (text.toList.map quoteChar) ++ "\""

/-- A list of quoted texts between square brackets. -/
def quoteList (texts : List String) : String :=
  "[" ++ ", ".intercalate (texts.map quote) ++ "]"

/-- A quoted pair between parentheses. -/
def quotePair (pair : String × String) : String :=
  "(" ++ quote pair.1 ++ ", " ++ quote pair.2 ++ ")"

example : quote "a'b\"c" = "\"a'b\\\"c\"" := by cbv

end ServiceLifecycle.Text
