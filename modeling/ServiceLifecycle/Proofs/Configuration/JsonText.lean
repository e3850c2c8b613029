/-
Module: ServiceLifecycle.Proofs.Configuration.JsonText
Purpose: That the text of a value is JSON which says what the value is.
Main exports: Value.IsLegible, Value.textTail?_renderText, Value.read?_render
-/
import ServiceLifecycle.Proofs.Entries.Ascending
import ServiceLifecycle.Value.Printer
import ServiceLifecycle.Value.Reader

namespace ServiceLifecycle.Value

/-!
A value is printed without blanks, and a reader of JSON gets it back from what is printed.  It
knows the kind of a value by the first character and, of a text, a list or a table, the end by the
last.  Only the end of a number is not marked: it is where a character follows that cannot stand in
a number, such as a comma or a bracket.  So what is shown by induction is that a value is read from
its text in front of all that stops a number.

The text of a float is made of the shortest digits that determine it.  That they do is a property of
the digits and not of JSON, and it is left to be checked where a float is given.
-/

/-- The value is read from its text: the keys of its tables ascend, its integers fit 64 bits, and
the digits of its floats determine them. -/
inductive IsLegible : Value → Prop where
  | null : IsLegible .null
  | bool (value : Bool) : IsLegible (.bool value)
  | int {value : Int} (fits : fits64 value = true) : IsLegible (.int value)
  | float {value : Float}
      (digits : Decimal.parse? (Decimal.settingLayout.text value).toList = some value) :
      IsLegible (.float value)
  | text (value : String) : IsLegible (.text value)
  | list {items : List Value} (each : ∀ item ∈ items, IsLegible item) : IsLegible (.list items)
  | table {entries : Table} (ascends : entries.Ascends)
      (each : ∀ entry ∈ entries, IsLegible entry.2) : IsLegible (.table entries)

section Numbers

variable {chars rest : List Char} {value : Value} {x : Float}

theorem isNumberChar_of_isDigit {c : Char} (digit : c.isDigit = true) :
    isNumberChar c = true := by
  simp only [isNumberChar, digit, Bool.true_or]

theorem forall_isNumberChar_takeWhile (chars : List Char) :
    ∀ c ∈ chars.takeWhile Char.isDigit, isNumberChar c = true :=
  fun _ member => isNumberChar_of_isDigit (List.all_eq_true.mp List.all_takeWhile _ member)

theorem forall_isNumberChar_of_splitSign
    (numeric : ∀ c ∈ (Decimal.splitSign chars).2, isNumberChar c = true) :
    ∀ c ∈ chars, isNumberChar c = true := by
  unfold Decimal.splitSign at numeric
  split at numeric
  · exact List.forall_mem_cons.mpr ⟨rfl, numeric⟩
  · exact List.forall_mem_cons.mpr ⟨rfl, numeric⟩
  · exact numeric

theorem forall_isNumberChar_of_parseExponent? {exponent : Int}
    (read : Decimal.parseExponent? chars = some exponent) :
    ∀ c ∈ chars, isNumberChar c = true := by
  cases chars with
  | nil => exact List.forall_mem_nil _
  | cons mark rest =>
      rw [Decimal.parseExponent?] at read
      split at read
      · rename_i marked
        dsimp only at read
        split at read
        · rename_i digits
          obtain ⟨-, digits⟩ := Bool.and_eq_true_iff.mp digits
          refine List.forall_mem_cons.mpr ⟨?_, forall_isNumberChar_of_splitSign ?_⟩
          · rcases Bool.or_eq_true_iff.mp marked with small | large
            · rw [eq_of_beq small]
              rfl
            · rw [eq_of_beq large]
              rfl
          · exact fun c member => isNumberChar_of_isDigit (List.all_eq_true.mp digits c member)
        · cases read
      · cases read

/-- All that is read as a decimal number can stand in a number. -/
theorem forall_isNumberChar_of_parse? (read : Decimal.parse? chars = some x) :
    ∀ c ∈ chars, isNumberChar c = true := by
  apply forall_isNumberChar_of_splitSign
  rw [← List.takeWhile_append_dropWhile (p := Char.isDigit) (l := (Decimal.splitSign chars).2),
    List.forall_mem_append]
  refine ⟨forall_isNumberChar_takeWhile _, ?_⟩
  rw [Decimal.parse?] at read
  dsimp only at read
  split at read
  · rename_i rest pointed
    split at read
    · cases read
    · obtain ⟨exponent, parsed, -⟩ := Option.bind_eq_some_iff.mp read
      rw [pointed]
      refine List.forall_mem_cons.mpr ⟨rfl, ?_⟩
      rw [← List.takeWhile_append_dropWhile (p := Char.isDigit) (l := rest),
        List.forall_mem_append]
      exact ⟨forall_isNumberChar_takeWhile rest, forall_isNumberChar_of_parseExponent? parsed⟩
  · split at read
    · cases read
    · obtain ⟨exponent, parsed, -⟩ := Option.bind_eq_some_iff.mp read
      exact forall_isNumberChar_of_parseExponent? parsed

/-- A decimal number with a point or an exponent is read as a float. -/
theorem number?_of_parse? (marked : ∃ c ∈ chars, c = '.' ∨ c = 'e')
    (read : Decimal.parse? chars = some x) : number? chars = some (.float x) := by
  have float : (chars.any fun c => c == '.' || c == 'e' || c == 'E') = true := by
    obtain ⟨c, member, mark⟩ := marked
    refine List.any_eq_true.mpr ⟨c, member, ?_⟩
    rcases mark with rfl | rfl <;> rfl
  rw [number?]
  dsimp only
  rw [if_pos float, read]
  rfl

theorem point_mem_inPlace (digits : List Char) (order : Int) :
    '.' ∈ Decimal.inPlace digits order := by
  unfold Decimal.inPlace
  split
  · exact List.mem_cons_of_mem _ List.mem_cons_self
  · exact List.mem_append_right _ List.mem_cons_self

theorem mark_mem_withExponent (signed : Bool) (digits : List Char) (order : Int) :
    'e' ∈ Decimal.withExponent signed digits order := by
  unfold Decimal.withExponent
  exact List.mem_append_right _ List.mem_cons_self

theorem mark_mem_decimalText (layout : Decimal.Layout) (numeral : Decimal.Numeral) :
    ∃ c ∈ layout.decimalText numeral, c = '.' ∨ c = 'e' := by
  rw [Decimal.Layout.decimalText]
  split
  · exact ⟨'.', point_mem_inPlace _ _, .inl rfl⟩
  · exact ⟨'e', mark_mem_withExponent _ _ _, .inr rfl⟩

/-- The text of a float that can be read has a point or an exponent. -/
theorem number?_floatText {layout : Decimal.Layout}
    (read : Decimal.parse? (layout.text x).toList = some x) :
    number? (layout.text x).toList = some (.float x) := by
  refine number?_of_parse? ?_ read
  rw [Decimal.Layout.text] at read ⊢
  split at read
  · rename_i digits _
    rw [String.toList_append, String.toList_ofList]
    obtain ⟨c, member, mark⟩ := mark_mem_decimalText layout digits.shortest
    exact ⟨c, List.mem_append_right _ member, mark⟩
  · split at read
    · cases read
    · split at read
      · -- The name of the infinite float does not begin with a digit.
        split at read <;> cases read
      · rename_i finite
        rw [if_neg ‹_›, if_neg finite, String.toList_append]
        exact ⟨'.', List.mem_append_right _ (by decide), .inl rfl⟩

theorem digitsValue_toDigits (n : Nat) : Decimal.digitsValue (Nat.toDigits 10 n) = n := by
  rw [Decimal.digitsValue]
  have same := Nat.ofDigitChars_ten_toDigits (n := n)
  rw [Nat.ofDigitChars_eq_foldl] at same
  simp only [Nat.mul_comm 10] at same
  exact same

theorem splitSign_digits (digits : ∀ c ∈ chars, c.isDigit = true) :
    Decimal.splitSign chars = (false, chars) := by
  unfold Decimal.splitSign
  split
  · exact absurd (digits '-' List.mem_cons_self) (by decide)
  · exact absurd (digits '+' List.mem_cons_self) (by decide)
  · rfl

/-- Digits with or without a minus sign are read as an integer, if it fits 64 bits and is not the
zero with a sign. -/
theorem number?_digits {negative : Bool} {magnitude : Nat} {n : Int}
    (signed : Decimal.splitSign chars = (negative, Nat.toDigits 10 magnitude))
    (unmarked : (chars.any fun c => c == '.' || c == 'e' || c == 'E') = false)
    (value : (if negative then -(magnitude : Int) else magnitude) = n)
    (fits : fits64 n = true) (plain : (negative && (magnitude : Int) == 0) = false) :
    number? chars = some (.int n) := by
  have digits : (Nat.toDigits 10 magnitude).all Char.isDigit = true :=
    List.all_eq_true.mpr fun _ => Nat.isDigit_of_mem_toDigits (by decide) (by decide)
  have nonempty : (Nat.toDigits 10 magnitude).isEmpty = false :=
    List.isEmpty_eq_false_iff.mpr Nat.toDigits_ne_nil
  simp only [number?, signed, unmarked, digits, nonempty, digitsValue_toDigits, value, fits, plain,
    Bool.not_true, Bool.not_false, Bool.or_false, Bool.and_true, if_true, Bool.false_eq_true,
    if_false]

/-- The digits of an integer of 64 bits are read as the integer. -/
theorem number?_toString {n : Int} (fits : fits64 n = true) :
    number? (toString n).toList = some (.int n) := by
  have digits (magnitude : Nat) : ∀ c ∈ Nat.toDigits 10 magnitude, c.isDigit = true :=
    fun _ => Nat.isDigit_of_mem_toDigits (by decide) (by decide)
  have unmarked (magnitude : Nat) : ((Nat.toDigits 10 magnitude).any fun c =>
      c == '.' || c == 'e' || c == 'E') = false := by
    rw [List.any_eq_false]
    intro c member mark
    have digit := digits magnitude c member
    simp only [Bool.or_eq_true, beq_iff_eq] at mark
    rcases mark with (rfl | rfl) | rfl <;> cases digit
  cases n with
  | ofNat magnitude =>
      have text : (toString (Int.ofNat magnitude)).toList = Nat.toDigits 10 magnitude :=
        Nat.toList_repr
      rw [text]
      exact number?_digits (splitSign_digits (digits magnitude)) (unmarked magnitude) rfl fits rfl
  | negSucc below =>
      have text : (toString (Int.negSucc below)).toList = '-' :: Nat.toDigits 10 (below + 1) := by
        rw [Int.toString_eq_repr, Int.repr, String.toList_append, Nat.toList_repr]
        rfl
      rw [text]
      exact number?_digits rfl (unmarked (below + 1)) rfl fits rfl

/-- All that is read as a number can stand in a number. -/
theorem forall_isNumberChar_of_number? (read : number? chars = some value) :
    ∀ c ∈ chars, isNumberChar c = true := by
  have float (parsed : (Decimal.parse? chars).map Value.float = some value) :
      ∀ c ∈ chars, isNumberChar c = true := by
    obtain ⟨x, parsed, -⟩ := Option.map_eq_some_iff.mp parsed
    exact forall_isNumberChar_of_parse? parsed
  rw [number?] at read
  dsimp only at read
  split at read
  · exact float read
  · split at read
    · cases read
    · rename_i integral
      apply forall_isNumberChar_of_splitSign
      rw [Bool.not_eq_true, Bool.or_eq_false_iff, Bool.not_eq_false', List.all_eq_true]
        at integral
      exact fun c member => isNumberChar_of_isDigit (integral.2 c member)

end Numbers

section Texts

theorem hexNumber?_fourHexDigits {n : Nat} (control : n < 0x20) :
    ∃ a b c d, (fourHexDigits n).toList = [a, b, c, d] ∧
      Text.hexNumber? [a, b, c, d] = some n := by
  have digits : ∀ n < 0x20, (fourHexDigits n).toList.length = 4 ∧
      Text.hexNumber? (fourHexDigits n).toList = some n := by
    decide +kernel
  obtain ⟨four, read⟩ := digits n control
  match (fourHexDigits n).toList, four, read with
  | [a, b, c, d], _, read => exact ⟨a, b, c, d, rfl, read⟩

/-- A character is read from what is written for it. -/
theorem textTail?_escapeChar (c : Char) (rest : List Char) :
    textTail? ((escapeChar c).toList ++ rest) =
      (textTail? rest).map fun content => (c :: content.1, content.2) := by
  rw [Option.map_eq_bind]
  unfold escapeChar
  split
  case h_8 =>
    rename_i quote backslash _ _ _ _ _
    split
    · rename_i control
      obtain ⟨p, q, r, s, digits, read⟩ := hexNumber?_fourHexDigits control
      have escape : "\\u".toList ++ [p, q, r, s] ++ rest =
          '\\' :: 'u' :: p :: q :: r :: s :: rest := rfl
      have single : ¬ (0xd800 ≤ c.toNat && c.toNat < 0xdc00) = true := by
        rw [Bool.and_eq_true_iff, decide_eq_true_iff]
        omega
      rw [String.toList_append, digits, escape, textTail?, read]
      dsimp only [bind, Option.bind_some]
      rw [if_neg single, Char.ofNat_toNat]
      rfl
    · have plain : c.toString.toList ++ rest = c :: rest := by
        rw [Char.toString_eq_singleton, String.toList_singleton, List.singleton_append]
      rw [plain, textTail?]
      · rfl
      · exact quote
      · exact fun _ _ _ _ _ same _ => backslash same
      · exact fun _ _ same _ => backslash same
  all_goals rfl

theorem toList_renderText (text : String) :
    (renderText text).toList =
      '"' :: (text.toList.flatMap fun c => (escapeChar c).toList) ++ ['"'] := by
  have joined (chars : List Char) : (String.join (chars.map escapeChar)).toList =
      chars.flatMap fun c => (escapeChar c).toList := by
    rw [String.toList_join, List.flatMap_map]
  rw [renderText, String.toList_append, String.toList_append, joined]
  rfl

/-- A text is read up to the quotation mark behind it. -/
theorem textTail?_escaped (chars rest : List Char) :
    textTail? ((chars.flatMap fun c => (escapeChar c).toList) ++ '"' :: rest) =
      some (chars, rest) := by
  induction chars with
  | nil => rfl
  | cons c more inductionHypothesis =>
      rw [List.flatMap_cons, List.append_assoc, textTail?_escapeChar, inductionHypothesis,
        Option.map_some]

end Texts

/-- No number goes on here. -/
def Stops (rest : List Char) : Prop :=
  ∀ c ∈ rest.head?, isNumberChar c = false

theorem not_isSpace_of_isNumberChar {c : Char} (numberChar : isNumberChar c = true) :
    ¬ isSpace c = true := by
  intro space
  simp only [isSpace, Bool.or_eq_true, beq_iff_eq] at space
  rcases space with ((rfl | rfl) | rfl) | rfl <;> cases numberChar

/-- A number is read up to where it stops. -/
theorem readValue?_number {chars rest : List Char} {value : Value}
    (read : number? chars = some value) (stops : Stops rest) (fuel : Nat) :
    readValue? (fuel + 1) (chars ++ rest) = some (value, rest) := by
  have numeric := forall_isNumberChar_of_number? read
  have behind : rest.takeWhile isNumberChar = [] ∧ rest.dropWhile isNumberChar = rest := by
    cases rest with
    | nil => exact ⟨rfl, rfl⟩
    | cons c more =>
        have stop : ¬ isNumberChar c = true := Bool.eq_false_iff.mp (stops c rfl)
        exact ⟨List.takeWhile_cons_of_neg stop, List.dropWhile_cons_of_neg stop⟩
  have taken : (chars ++ rest).takeWhile isNumberChar = chars := by
    rw [List.takeWhile_append_of_pos numeric, behind.1, List.append_nil]
  have dropped : (chars ++ rest).dropWhile isNumberChar = rest := by
    rw [List.dropWhile_append_of_pos numeric, behind.2]
  cases chars with
  | nil => cases read
  | cons c more =>
      have numberChar : isNumberChar c = true := numeric c List.mem_cons_self
      rw [readValue?, skipSpace, List.cons_append,
        List.dropWhile_cons_of_neg (not_isSpace_of_isNumberChar numberChar), ← List.cons_append]
      split
      case h_7 => rw [taken, dropped, read]; rfl
      all_goals
        rename_i same
        cases (List.cons.inj same).1
        cases numberChar

theorem toList_render_list (items : List Value) :
    (Value.list items).render.toList =
      '[' :: (",".intercalate (renderItems items)).toList ++ [']'] := by
  rw [render, String.toList_append, String.toList_append]
  rfl

theorem toList_render_table (entries : Table) :
    (Value.table entries).render.toList =
      '\x7b' :: (",".intercalate (renderEntries entries)).toList ++ ['\x7d'] := by
  rw [render, String.toList_append, String.toList_append]
  rfl

/-- The first character of a text is no blank and closes nothing. -/
theorem render_eq_cons {value : Value} (legible : value.IsLegible) :
    ∃ c more, value.render.toList = c :: more ∧ ¬ isSpace c = true ∧ c ≠ ']' := by
  have number {chars : List Char} (read : number? chars = some value) :
      ∃ c more, chars = c :: more ∧ ¬ isSpace c = true ∧ c ≠ ']' := by
    cases chars with
    | nil => cases read
    | cons c more =>
        have numberChar := forall_isNumberChar_of_number? read c List.mem_cons_self
        refine ⟨c, more, rfl, not_isSpace_of_isNumberChar numberChar, ?_⟩
        rintro rfl
        cases numberChar
  cases legible with
  | null => exact ⟨'n', _, rfl, by decide, by decide⟩
  | bool value => cases value <;> exact ⟨_, _, rfl, by decide, by decide⟩
  | int fits => exact number (number?_toString fits)
  | float digits => exact number (number?_floatText digits)
  | text value => exact ⟨'"', _, toList_renderText value, by decide, by decide⟩
  | list each => exact ⟨'[', _, toList_render_list _, by decide, by decide⟩
  | table ascends each => exact ⟨'\x7b', _, toList_render_table _, by decide, by decide⟩

/-- The value is read from its text, in front of all that stops a number. -/
def IsRead (value : Value) : Prop :=
  ∀ fuel rest, value.render.toList.length < fuel → Stops rest →
    readValue? fuel (value.render.toList ++ rest) = some (value, rest)

/-- A value is read if it is with fuel for one more than what is inside it. -/
theorem isRead_of_succ {value : Value}
    (reads : ∀ fuel rest, value.render.toList.length ≤ fuel → Stops rest →
      readValue? (fuel + 1) (value.render.toList ++ rest) = some (value, rest)) : value.IsRead := by
  intro fuel rest enough stops
  obtain ⟨fuel, rfl⟩ := Nat.exists_add_one_eq.mpr (Nat.zero_lt_of_lt enough)
  exact reads fuel rest (Nat.lt_succ_iff.mp enough) stops

/-- The items of a list are read from their texts, if each is. -/
theorem readItems?_render {item : Value} {more : List Value} {fuel : Nat} {rest : List Char}
    (each : ∀ value ∈ item :: more, value.IsRead)
    (enough : (",".intercalate (renderItems (item :: more))).toList.length + 1 < fuel) :
    readItems? fuel ((",".intercalate (renderItems (item :: more))).toList ++ ']' :: rest) =
      some (item :: more, rest) := by
  induction more generalizing item fuel with
  | nil =>
      rw [renderItems, renderItems, String.intercalate_singleton] at enough ⊢
      obtain ⟨fuel, rfl⟩ := Nat.exists_add_one_eq.mpr (Nat.zero_lt_of_lt enough)
      have first : readValue? fuel (item.render.toList ++ ']' :: rest) = some (item, ']' :: rest) :=
        each item List.mem_cons_self fuel (']' :: rest) (by omega) (by rintro _ ⟨⟩; rfl)
      rw [readItems?, first]
      rfl
  | cons next others inductionHypothesis =>
      obtain ⟨here, later⟩ := List.forall_mem_cons.mp each
      have split : (",".intercalate (renderItems (item :: next :: others))).toList =
          item.render.toList ++ ',' :: (",".intercalate (renderItems (next :: others))).toList := by
        rw [renderItems, renderItems, String.intercalate_cons_cons, String.toList_append,
          String.toList_append, List.append_assoc]
        rfl
      rw [split, List.length_append, List.length_cons] at enough
      obtain ⟨fuel, rfl⟩ := Nat.exists_add_one_eq.mpr (Nat.zero_lt_of_lt enough)
      rw [split, List.append_assoc, List.cons_append, readItems?,
        here fuel _ (by omega) (by rintro _ ⟨⟩; rfl)]
      have others : readItems? fuel ((",".intercalate (renderItems (next :: others))).toList ++
          ']' :: rest) = some (next :: others, rest) := inductionHypothesis later (by omega)
      change (readItems? fuel _).bind _ = _
      rw [others]
      rfl

theorem textTail?_renderText (key : String) (rest : List Char) :
    ∃ behind, (renderText key).toList ++ rest = '"' :: behind ∧
      textTail? behind = some (key.toList, rest) := by
  refine ⟨_, ?_, textTail?_escaped key.toList rest⟩
  rw [toList_renderText, List.cons_append, List.cons_append, List.append_assoc,
    List.singleton_append]

/-- What is read once the first entry of a table is: others behind a comma, or the end. -/
def afterEntry? (fuel : Nat) (entry : String × Value) (behind : List Char) :
    Option (Table × List Char) :=
  match skipSpace behind with
  | ',' :: rest => do
      let (entries, rest) ← readEntries? fuel rest
      some (entry :: entries, rest)
  | '\x7d' :: rest => some ([entry], rest)
  | _ => none

/-- An entry is read from its text, and what stands behind it decides whether others follow. -/
theorem readEntries?_entry {key : String} {value : Value} {fuel : Nat} {behind : List Char}
    (read : value.IsRead) (enough : value.render.toList.length < fuel) (stops : Stops behind) :
    readEntries? (fuel + 1) ((renderText key ++ ":" ++ value.render).toList ++ behind) =
      afterEntry? fuel (key, value) behind := by
  obtain ⟨inside, same, named⟩ :=
    textTail?_renderText key (':' :: (value.render.toList ++ behind))
  have chars : (renderText key ++ ":" ++ value.render).toList ++ behind = '"' :: inside := by
    rw [← same, String.toList_append, String.toList_append, List.append_assoc, List.append_assoc]
    rfl
  have quoted : skipSpace ('"' :: inside) = '"' :: inside := rfl
  have colon (after : List Char) : skipSpace (':' :: after) = ':' :: after := rfl
  simp only [chars, readEntries?, quoted, named, bind, Option.bind_some, colon,
    read fuel behind enough stops, String.ofList_toList]
  rfl

/-- The entries of a table are read from their texts, if each value is. -/
theorem readEntries?_render {first : String × Value} {more : Table} {fuel : Nat}
    {rest : List Char} (each : ∀ entry ∈ first :: more, entry.2.IsRead)
    (enough : (",".intercalate (renderEntries (first :: more))).toList.length + 1 < fuel) :
    readEntries? fuel ((",".intercalate (renderEntries (first :: more))).toList ++ '\x7d' :: rest) =
      some (first :: more, rest) := by
  induction more generalizing first fuel with
  | nil =>
      obtain ⟨key, value⟩ := first
      rw [renderEntries, renderEntries, String.intercalate_singleton] at enough ⊢
      rw [String.toList_append, List.length_append] at enough
      obtain ⟨fuel, rfl⟩ := Nat.exists_add_one_eq.mpr (Nat.zero_lt_of_lt enough)
      have read : value.IsRead := each (key, value) List.mem_cons_self
      rw [readEntries?_entry read (by omega) (by rintro _ ⟨⟩; rfl)]
      rfl
  | cons next others inductionHypothesis =>
      obtain ⟨key, value⟩ := first
      have here : value.IsRead := each (key, value) List.mem_cons_self
      have later : ∀ entry ∈ next :: others, entry.2.IsRead :=
        fun entry member => each entry (List.mem_cons_of_mem _ member)
      have split : (",".intercalate (renderEntries ((key, value) :: next :: others))).toList =
          (renderText key ++ ":" ++ value.render).toList ++
            ',' :: (",".intercalate (renderEntries (next :: others))).toList := by
        obtain ⟨following, after⟩ := next
        rw [renderEntries, renderEntries, String.intercalate_cons_cons, String.toList_append,
          String.toList_append, List.append_assoc]
        rfl
      rw [split, List.length_append, List.length_cons, String.toList_append, List.length_append]
        at enough
      obtain ⟨fuel, rfl⟩ := Nat.exists_add_one_eq.mpr (Nat.zero_lt_of_lt enough)
      have others : readEntries? fuel ((",".intercalate (renderEntries (next :: others))).toList ++
          '\x7d' :: rest) = some (next :: others, rest) := inductionHypothesis later (by omega)
      rw [split, List.append_assoc, List.cons_append,
        readEntries?_entry here (by omega) (by rintro _ ⟨⟩; rfl)]
      change (readEntries? fuel _).bind _ = _
      rw [others]
      rfl

/-- Joined texts begin with the first of them. -/
theorem toList_intercalate_cons (first : String) (more : List String) :
    ∃ behind, (",".intercalate (first :: more)).toList = first.toList ++ behind := by
  cases more with
  | nil => exact ⟨[], by rw [String.intercalate_singleton, List.append_nil]⟩
  | cons next others =>
      refine ⟨",".toList ++ (",".intercalate (next :: others)).toList, ?_⟩
      rw [String.intercalate_cons_cons, String.toList_append, String.toList_append,
        List.append_assoc]

/-- A bracket with something else than its counterpart behind it begins a list of items. -/
theorem readValue?_list {c : Char} {behind : List Char} (visible : ¬ isSpace c = true)
    (opens : c ≠ ']') (fuel : Nat) : readValue? (fuel + 1) ('[' :: c :: behind) =
      (readItems? fuel (c :: behind)).bind fun items => some (.list items.1, items.2) := by
  have bracket : skipSpace ('[' :: c :: behind) = '[' :: c :: behind := rfl
  have item : skipSpace (c :: behind) = c :: behind := List.dropWhile_cons_of_neg visible
  simp only [readValue?, bracket, item]
  split
  · rename_i closed
    exact absurd (List.cons.inj closed).1 opens
  · rfl

/-- A value is read from its text, whatever stops a number behind it. -/
theorem IsLegible.isRead {value : Value} (legible : value.IsLegible) : value.IsRead := by
  induction legible with
  | null => exact isRead_of_succ fun _ _ _ _ => rfl
  | bool value => exact isRead_of_succ fun _ _ _ _ => by cases value <;> rfl
  | int fits =>
      exact isRead_of_succ fun _ _ _ stops => readValue?_number (number?_toString fits) stops _
  | float digits =>
      exact isRead_of_succ fun _ _ _ stops => readValue?_number (number?_floatText digits) stops _
  | text value =>
      refine isRead_of_succ fun fuel rest _ _ => ?_
      obtain ⟨behind, same, read⟩ := textTail?_renderText value rest
      rw [render, same]
      change (textTail? behind).bind _ = _
      rw [read]
      change some (Value.text (String.ofList value.toList), rest) = _
      rw [String.ofList_toList]
  | @list items each inductionHypothesis =>
      refine isRead_of_succ fun fuel rest enough _ => ?_
      rw [toList_render_list] at enough ⊢
      cases items with
      | nil => rfl
      | cons item more =>
          have inside : readItems? fuel ((",".intercalate (renderItems (item :: more))).toList ++
              ']' :: rest) = some (item :: more, rest) :=
            readItems?_render inductionHypothesis (by
              rw [List.length_append, List.length_cons, List.length_singleton] at enough
              omega)
          obtain ⟨c, behind, first, visible, opens⟩ :=
            render_eq_cons (each item List.mem_cons_self)
          obtain ⟨others, begins⟩ := toList_intercalate_cons item.render (renderItems more)
          rw [List.cons_append, List.cons_append, List.append_assoc, List.singleton_append]
          rw [renderItems, begins, first, List.cons_append, List.cons_append] at inside ⊢
          rw [readValue?_list visible opens, inside]
          rfl
  | @table entries ascends each inductionHypothesis =>
      refine isRead_of_succ fun fuel rest enough _ => ?_
      rw [toList_render_table] at enough ⊢
      cases entries with
      | nil => rfl
      | cons entry more =>
          have inside : readEntries? fuel
              ((",".intercalate (renderEntries (entry :: more))).toList ++ '\x7d' :: rest) =
                some (entry :: more, rest) :=
            readEntries?_render inductionHypothesis (by
              rw [List.length_append, List.length_cons, List.length_singleton] at enough
              omega)
          obtain ⟨key, value⟩ := entry
          obtain ⟨others, begins⟩ :=
            toList_intercalate_cons (renderText key ++ ":" ++ value.render) (renderEntries more)
          obtain ⟨quoted, same, -⟩ :=
            textTail?_renderText key (':' :: (value.render.toList ++ others ++ '\x7d' :: rest))
          have chars : (",".intercalate (renderEntries ((key, value) :: more))).toList ++
              '\x7d' :: rest = '"' :: quoted := by
            rw [← same, renderEntries, begins, String.toList_append, String.toList_append]
            simp only [List.append_assoc]
            rfl
          rw [List.cons_append, List.cons_append, List.append_assoc, List.singleton_append, chars]
          rw [chars] at inside
          change (readEntries? fuel _).bind _ = _
          rw [inside]
          change some (Value.table (Entries.sorted ((key, value) :: more)), rest) = _
          rw [ascends.sorted_eq]

/-- A value is read from its own text. -/
theorem read?_render {value : Value} (legible : value.IsLegible) :
    read? value.render = some value := by
  have read : readValue? (value.render.toList.length + 1) value.render.toList =
      some (value, []) := by
    have whole := legible.isRead (value.render.toList.length + 1) [] (Nat.lt_succ_self _)
      (by rintro _ ⟨⟩)
    rwa [List.append_nil] at whole
  rw [read?]
  dsimp only
  rw [read]
  rfl

end ServiceLifecycle.Value
