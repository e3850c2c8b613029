/-
Module: ServiceLifecycle.Value.Decoding
Purpose: Typed data from configuration values, and what is said when it fails.
Main exports: DecodeFault, DecodeFault.message, decodeText, decodeFlag,
  decodeOptional, decodeList, decodeVariant, decodeRecord
-/
import ServiceLifecycle.Value.Basic
import ServiceLifecycle.Decimal.Notation
import ServiceLifecycle.Text.Quoted

namespace ServiceLifecycle

/-!
A decoder stops at the first value that does not fit.  Records are tables or,
where all fields have defaults, lists of their fields in declaration order; the
entries of a table are decoded by ascending key, so the first offending key in
that order decides the message.
-/

/-- Why a value does not fit. -/
inductive DecodeFault where
  /-- A value of another type was wanted. -/
  | wrongType (found : Value) (wanted : String)
  /-- The name is none of the known ones. -/
  | unknownVariant (name : String) (known : List String)
  /-- A field without default is absent. -/
  | missingField (name : String)
  /-- A list has more items than the record has fields. -/
  | tooLong (length : Nat)
  /-- A variant given as a table has not exactly one key. -/
  | severalVariants
deriving Repr, Inhabited

/-- What a value is, in a message. -/
def Value.description : Value → String
  | .null => "null"
  | .bool value => "boolean `" ++ (if value then "true" else "false") ++ "`"
  | .int value => "integer `" ++ toString value ++ "`"
  | .float value => "floating point `" ++ Decimal.settingLayout.text value ++ "`"
  | .text value => "string " ++ Text.quote value
  | .list _ => "sequence"
  | .table _ => "map"

/-- The message of a decoding fault. -/
def DecodeFault.message : DecodeFault → String
  | wrongType found wanted => "invalid type: " ++ found.description ++ ", expected " ++ wanted
  | unknownVariant name known =>
      "unknown variant `" ++ name ++ "`, expected one of " ++
        ", ".intercalate (known.map fun variant => "`" ++ variant ++ "`")
  | missingField name => "missing field `" ++ name ++ "`"
  | tooLong length =>
      "invalid length " ++ toString length ++ ", expected fewer elements in array"
  | severalVariants => "invalid value: map, expected map with a single key"

/-- The result of decoding. -/
abbrev Decoded (α : Type) := Except DecodeFault α

/-- A text; `wanted` says what kind of text. -/
def decodeText (wanted : String) : Value → Decoded String
  | .text value => .ok value
  | found => .error (.wrongType found wanted)

/-- A Boolean. -/
def decodeFlag : Value → Decoded Bool
  | .bool value => .ok value
  | found => .error (.wrongType found "a boolean")

/-- A value or null. -/
def decodeOptional {α : Type} (decode : Value → Decoded α) : Value → Decoded (Option α)
  | .null => .ok none
  | value => (decode value).map some

/-- A list of values of one type. -/
def decodeList {α : Type} (decode : Value → Decoded α) : Value → Decoded (List α)
  | .list items => items.mapM decode
  | found => .error (.wrongType found "a sequence")

/-- One of a few named variants, as a text or as a table from the name to null. -/
def decodeVariant {α : Type} (variants : List (String × α)) : Value → Decoded α
  | .text name => select name
  | .table [(name, content)] => do
      let variant ← select name
      match content with
      | .null => .ok variant
      | found => .error (.wrongType found "unit")
  | .table _ => .error .severalVariants
  | found => .error (.wrongType found "string or map")
where
  /-- The variant of a name. -/
  select (name : String) : Decoded α :=
    match variants.lookup name with
    | some variant => .ok variant
    | none => .error (.unknownVariant name (variants.map Prod.fst))

/-- A record all of whose fields have defaults.  `assign` decodes one field by
name and ignores unknown names; `fields` are the names in declaration order. -/
def decodeRecord {α : Type} (wanted : String) (fields : List String)
    (assign : α → String × Value → Decoded α) (initial : α) : Value → Decoded α
  | .table entries => entries.foldlM assign initial
  | .list items => do
      let record ← (fields.zip items).foldlM assign initial
      if items.length ≤ fields.length then .ok record else .error (.tooLong items.length)
  | found => .error (.wrongType found wanted)

end ServiceLifecycle
