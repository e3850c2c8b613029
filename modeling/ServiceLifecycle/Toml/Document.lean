/-
Module: ServiceLifecycle.Toml.Document
Purpose: The table that a TOML document denotes.
Main exports: Node, declareTable?, declareElement?, assign?, readDocument?
-/
import ServiceLifecycle.Toml.Moment
import ServiceLifecycle.Toml.Number

namespace ServiceLifecycle.Toml

/-!
A document builds one table by three kinds of statements: a header `[a.b]` opens
a table, a header `[[a.b]]` opens a new element of a list of tables, and
`a.b = value` stores a value in the table opened last.  No table is opened twice
and no key is stored twice; which tables a statement may still extend depends on
how they came about, so that is remembered while the document is read.
-/

/-- How a table came about. -/
inductive Origin where
  /-- A header below it named it on the way. -/
  | implied
  /-- A dotted key named it on the way. -/
  | dotted
  /-- A header opened it. -/
  | declared
deriving Repr, Inhabited, DecidableEq

/-- What stands under a key while the document is read. -/
inductive Node where
  /-- A finished value; an inline table is one. -/
  | value (value : Value)
  | table (origin : Origin) (entries : List (String × Node))
  /-- A list of tables, of which the last is open. -/
  | tables (elements : List (List (String × Node)))
deriving Inhabited

mutual

/-- The value that a node has become. -/
def Node.toValue : Node → Value
  | .value value => value
  | .table _ entries => .table (Entries.sorted (entryValues entries))
  | .tables elements => .list (elementValues elements)

/-- The values of the entries of a table. -/
def entryValues : List (String × Node) → List (String × Value)
  | [] => []
  | (key, node) :: rest => (key, node.toValue) :: entryValues rest

/-- The values of the elements of a list of tables. -/
def elementValues : List (List (String × Node)) → List Value
  | [] => []
  | entries :: rest => .table (Entries.sorted (entryValues entries)) :: elementValues rest
end

/-- Change the table that a header on its way passes through under a key. -/
def descend? (change : Entries Node → Option (Entries Node)) (key : String)
    (entries : Entries Node) : Option (Entries Node) :=
  match entries.get? key with
  | none => do
      let inner ← change []
      some (entries.put key (Node.table .implied inner))
  | some (.table origin inner) => do
      let inner ← change inner
      some (entries.put key (Node.table origin inner))
  | some (.tables elements) => do
      let inner ← change (elements.getLast?.getD [])
      some (entries.put key (Node.tables (elements.dropLast ++ [inner])))
  | some (.value _) => none

/-- Open the table that a header names. -/
def declareTable? : List String → Entries Node → Option (Entries Node)
  | [], _ => none
  | [key], entries =>
      match entries.get? key with
      | none => some (entries.put key (Node.table .declared []))
      | some (.table .implied inner) => some (entries.put key (Node.table .declared inner))
      | some _ => none
  | key :: path, entries => descend? (declareTable? path) key entries

/-- Open a new element of the list of tables that a header names. -/
def declareElement? : List String → Entries Node → Option (Entries Node)
  | [], _ => none
  | [key], entries =>
      match entries.get? key with
      | none => some (entries.put key (Node.tables [[]]))
      | some (.tables elements) => some (entries.put key (Node.tables (elements ++ [[]])))
      | some _ => none
  | key :: path, entries => descend? (declareElement? path) key entries

/-- Store a value under a dotted key.  On its way the key may create tables and
pass through tables that no header opened, but the table that receives the value
must owe its existence to dotted keys. -/
def assign? (value : Value) : List String → Entries Node → Option (Entries Node)
  | [], _ => none
  | [key], entries =>
      if entries.contains key then none else some (entries.put key (Node.value value))
  | key :: path, entries =>
      match entries.get? key with
      | none => do
          let inner ← assign? value path []
          some (entries.put key (Node.table .dotted inner))
      | some (.table origin inner) =>
          if origin = .declared || (path.length = 1 && origin != .dotted) then
            none
          else do
            let inner ← assign? value path inner
            some (entries.put key (Node.table origin inner))
      | some (.tables elements) =>
          if path.length = 1 then
            none
          else do
            let inner ← assign? value path (elements.getLast?.getD [])
            some (entries.put key (Node.tables (elements.dropLast ++ [inner])))
      | some (.value _) => none

/-- Store a value in the table that the last header opened. -/
def assignBelow? (value : Value) (path : List String) :
    List String → Entries Node → Option (Entries Node)
  | [], entries => assign? value path entries
  | key :: header, entries => descend? (assignBelow? value path header) key entries

/-- The key under which a moment is kept, so that it cannot be taken for a text. -/
def momentKey : String := "$__toml_private_datetime"

/-- Read a value that is neither a list nor an inline table. -/
def readScalar? (chars : List Char) : Option (Value × List Char) :=
  match chars with
  | '"' :: _ => (readText? chars).map fun (content, rest) => (.text content, rest)
  | '\'' :: _ => (readText? chars).map fun (content, rest) => (.text content, rest)
  | 't' :: 'r' :: 'u' :: 'e' :: rest => some (.bool true, rest)
  | 'f' :: 'a' :: 'l' :: 's' :: 'e' :: rest => some (.bool false, rest)
  | _ =>
      match readMoment? chars with
      | some (moment, rest) => some (.table [(momentKey, .text moment)], rest)
      | none => readNumber? chars

mutual

/-- Read a value; `fuel` bounds the number of nested reads, and `room` is how many
lists and inline tables may still be inside each other. -/
def readValue? : Nat → Nat → List Char → Option (Value × List Char)
  | 0, _, _ => none
  | fuel + 1, room, chars =>
      match chars, room with
      | '[' :: rest, room + 1 => do
          let (items, rest) ← readItems? fuel room rest
          some (.list items, rest)
      | '\x7b' :: rest, room + 1 =>
          match skipBlanks rest with
          | '\x7d' :: rest => some (.table [], rest)
          | rest => do
              let (entries, rest) ← readPairs? fuel room [] rest
              some ((Node.table .dotted entries).toValue, rest)
      | _, _ => readScalar? chars

/-- Read the items of a list and its closing bracket.  The list may span
lines, and a comma may follow the last item. -/
def readItems? : Nat → Nat → List Char → Option (List Value × List Char)
  | 0, _, _ => none
  | fuel + 1, room, chars =>
      match skipLines fuel chars with
      | ']' :: rest => some ([], rest)
      | rest => do
          let (item, rest) ← readValue? fuel room rest
          match skipLines fuel rest with
          | ',' :: rest => do
              let (items, rest) ← readItems? fuel room rest
              some (item :: items, rest)
          | ']' :: rest => some ([item], rest)
          | _ => none

/-- Read the pairs of an inline table and its closing bracket, on one line. -/
def readPairs? : Nat → Nat → Entries Node → List Char → Option (Entries Node × List Char)
  | 0, _, _, _ => none
  | fuel + 1, room, entries, chars => do
      let (path, rest) ← readKey? (skipBlanks chars)
      let rest ← expect? '=' rest
      let (value, rest) ← readValue? fuel room (skipBlanks rest)
      let entries ← assign? value path entries
      match skipBlanks rest with
      | ',' :: rest => readPairs? fuel room entries rest
      | '\x7d' :: rest => some (entries, rest)
      | _ => none
end

/-- The table under construction and the header that is in force. -/
structure Draft where
  root : Entries Node := []
  header : List String := []
deriving Inhabited

/-- Read one statement, without the end of its line. -/
def readStatement? (fuel : Nat) (draft : Draft) (chars : List Char) :
    Option (Draft × List Char) :=
  match chars with
  | '[' :: '[' :: rest => do
      let (path, rest) ← readKey? (skipBlanks rest)
      let rest ← expect? ']' rest
      let rest ← expect? ']' rest
      some ({ root := ← declareElement? path draft.root, header := path }, rest)
  | '[' :: rest => do
      let (path, rest) ← readKey? (skipBlanks rest)
      let rest ← expect? ']' rest
      some ({ root := ← declareTable? path draft.root, header := path }, rest)
  | _ => do
      let (path, rest) ← readKey? chars
      let rest ← expect? '=' rest
      let (value, rest) ← readValue? fuel deepest (skipBlanks rest)
      some ({ draft with root := ← assignBelow? value path draft.header draft.root }, rest)

/-- Read statements, one a line, to the end of the document. -/
def readStatements? : Nat → Draft → List Char → Option Draft
  | 0, _, _ => none
  | fuel + 1, draft, chars =>
      match skipLines fuel chars with
      | [] => some draft
      | rest => do
          let (draft, rest) ← readStatement? fuel draft rest
          match skipComment (skipBlanks rest) with
          | [] => some draft
          | rest => readStatements? fuel draft (← lineEnd? rest)

/-- A mark of the byte order may stand at the very beginning. -/
def withoutMark : List Char → List Char
  | '\ufeff' :: rest => rest
  | chars => chars

/-- The table that a document denotes, if it is well formed. -/
def readDocument? (source : String) : Option Table := do
  let chars := withoutMark source.toList
  let draft ← readStatements? (chars.length + 1) {} chars
  some (Entries.sorted (entryValues draft.root))

end ServiceLifecycle.Toml
