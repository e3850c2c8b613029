/-
Module: ServiceLifecycle.Logging.Directive
Purpose: The directives that a log filter is written in.
Main exports: FieldTest, Directive, Directive.Flaw, Directive.read, Directive.readList
-/
import ServiceLifecycle.Configuration.Basic
import ServiceLifecycle.Logging.Threshold
import ServiceLifecycle.Pattern.Group
import ServiceLifecycle.Text.Alphanumeric
import ServiceLifecycle.Text.Blank
import ServiceLifecycle.Text.Bytes

namespace ServiceLifecycle

/-!
A directive sets a threshold.  It is written `target[span\x7bfield=value\x7d]=level`, of
which every part may be missing: a level alone is for everything, and without a level
everything passes.

Blanks around a directive are no part of it, but the places where its parts begin and
end are counted from its first visible character and then applied to the whole text.
Blanks in front therefore shift every part: ` app` is about the target ` app`, and
` app=info` is not well formed.
-/

/-- A field has to exist, or to have a value that matches a pattern. -/
structure FieldTest where
  name : String
  value : Option String := none
deriving Repr, Inhabited, DecidableEq

/-- A threshold, and what it is for. -/
structure Directive where
  target : Option String := none
  span : Option String := none
  fields : List FieldTest := []
  threshold : Threshold
deriving Repr, Inhabited, DecidableEq

namespace Directive

/-- Why a text is no directive. -/
inductive Flaw where
  | malformed
  /-- A part would begin or end inside a character, which stops the program. -/
  | cut
deriving Repr, Inhabited, DecidableEq

/-- A directive without a span begins with a letter or a digit, or with one of `-`, `:`
and `_`. -/
def canStart (c : Char) : Bool :=
  Text.isAlphanumeric c || c == '-' || c == ':' || c == '_'

/-- The part of a text between two places. -/
def part (whole : List Char) (first last : Nat) : Except Flaw String :=
  match Text.betweenBytes? first last whole with
  | some chars => .ok (String.ofList chars)
  | none => .error .cut

/-- A level alone, or else a target alone. -/
def ofWord (text : String) : Directive :=
  match Threshold.ofText? text with
  | some threshold => { threshold }
  | none => { target := some text, threshold := some .trace }

/-- Read what follows the equals sign at a place: a level, or nothing for all levels,
and perhaps a comma at the end. -/
def readThreshold (whole : List Char) (place : Nat) (rest : List Char) :
    Except Flaw Threshold := do
  let word := rest.takeWhile (· != ',')
  let after := rest.drop word.length
  let last := if after.isEmpty then Text.byteLength whole else place + Text.byteLength word
  let text ← part whole place last
  match if text = "" then some (some Level.trace) else Threshold.ofText? text with
  | some threshold => if 1 < after.length then throw .malformed else return threshold
  | none => throw .malformed

/-- Read what follows a span. -/
def readEnd (whole : List Char) (place : Nat) : List Char → Except Flaw Threshold
  | [] => .ok (some .trace)
  | '=' :: rest => readThreshold whole (place + 1) rest
  | _ => .error .malformed

/-- The text is a number, which may be infinite or none at all. -/
def isNumber (text : String) : Bool :=
  let (_, unsigned) := Decimal.splitSign text.toList
  (Decimal.parse? text.toList).isSome ||
    ["inf", "infinity", "nan"].contains (String.ofList (unsigned.map Char.toLower))

/-- Read a test on a field: its name, and perhaps a number or a pattern for its value. -/
def readField (text : String) : Except Flaw FieldTest :=
  match text.splitOn "=" with
  | name :: value :: _ =>
      if text = "" || !(isNumber value || Pattern.isWellFormed value) then .error .malformed
      else .ok { name, value := some value }
  | _ => if text = "" then .error .malformed else .ok { name := text }

/-- Read tests on fields up to the curly bracket that ends them.  The number and the
characters returned are the place behind the bracket and what stands there; `fuel`
bounds the number of tests. -/
def readFields (whole : List Char) :
    Nat → Nat → List Char → Except Flaw (List FieldTest × Nat × List Char)
  | 0, _, _ => .error .malformed
  | fuel + 1, place, rest =>
      let word := rest.takeWhile fun c => c != '\x7d' && c != ','
      let last := place + Text.byteLength word
      match rest.drop word.length with
      | [] => .error .malformed
      | mark :: after => do
          let field ← readField (← part whole place last)
          if mark = ',' then
            let (fields, next) ← readFields whole fuel (last + 1) after
            return (field :: fields, next)
          else
            return ([field], last + 1, after)

/-- Read a span, of which the opening bracket has been read, and what follows it. -/
def readSpan (whole : List Char) (target : Option String) (place : Nat) (rest : List Char) :
    Except Flaw Directive := do
  let word := rest.takeWhile fun c => c != ']' && c != '\x7b'
  let last := place + Text.byteLength word
  match rest.drop word.length with
  | [] => throw .malformed
  | ']' :: after =>
      let name ← part whole place last
      return { target, span := some name, threshold := ← readEnd whole (last + 1) after }
  | _ :: after =>
      let name ← part whole place last
      let (fields, place, after) ← readFields whole (after.length + 1) (last + 1) after
      match after with
      | ']' :: after =>
          let span := if name = "" then none else some name
          return { target, span, fields, threshold := ← readEnd whole (place + 1) after }
      | _ => throw .malformed

/-- Read a directive. -/
def read (text : String) : Except Flaw Directive := do
  let whole := text.toList
  match Text.trimRight (Text.trimLeft whole) with
  | [] => throw .malformed
  | '[' :: rest => readSpan whole none 1 rest
  | c :: more =>
      if !canStart c then throw .malformed
      let visible := c :: more
      let word := visible.takeWhile fun c => c != '=' && c != ',' && c != '['
      let last := Text.byteLength word
      match visible.drop word.length with
      | [] | [','] => return ofWord text
      | '=' :: rest =>
          let target ← part whole 0 last
          return { target := some target, threshold := ← readThreshold whole (last + 1) rest }
      | '[' :: rest =>
          let target ← part whole 0 last
          readSpan whole (some target) (last + 1) rest
      | _ => throw .malformed

/-- Read directives between commas, up to the first that is none.  Nothing between two
commas is passed over. -/
def readList (text : String) : Except Flaw (List Directive) :=
  ((text.splitOn ",").filter (· != "")).mapM read

end Directive

end ServiceLifecycle
