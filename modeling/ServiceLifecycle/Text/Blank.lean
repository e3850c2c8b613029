/-
Module: ServiceLifecycle.Text.Blank
Purpose: Blank characters, trimming, and texts that hold nothing else.
Main exports: isBlank, trimLeft, trimRight, trim, isBlankText
-/

namespace ServiceLifecycle.Text

/-!
A character is *blank* when Unicode gives it the property `White_Space`.
Names and keys that consist of blanks only count as missing, so the property
decides which configurations are well formed.
-/

/-- The inclusive code point ranges with the property `White_Space`. -/
def blankRanges : List (Nat × Nat) :=
  [(0x09, 0x0d), (0x20, 0x20), (0x85, 0x85), (0xa0, 0xa0), (0x1680, 0x1680),
   (0x2000, 0x200a), (0x2028, 0x2029), (0x202f, 0x202f), (0x205f, 0x205f),
   (0x3000, 0x3000)]

/-- The character separates words but shows nothing. -/
def isBlank (c : Char) : Bool :=
  blankRanges.any fun range => range.1 ≤ c.toNat && c.toNat ≤ range.2

/-- Drop the blanks at the front. -/
def trimLeft (chars : List Char) : List Char :=
  chars.dropWhile isBlank

/-- Drop the blanks at the end. -/
def trimRight (chars : List Char) : List Char :=
  (chars.reverse.dropWhile isBlank).reverse

/-- Drop the blanks at both ends. -/
def trim (text : String) : String :=
  String.ofList (trimRight (trimLeft text.toList))

/-- The text is empty once its blanks are trimmed. -/
def isBlankText (text : String) : Bool :=
  text.toList.all isBlank

/-- The characters with the property `White_Space`, one by one. -/
def whiteSpace : List Char :=
  ['\t', '\n', '\x0b', '\x0c', '\r', ' ', '\u0085', '\u00a0', '\u1680', '\u2000', '\u2001',
    '\u2002', '\u2003', '\u2004', '\u2005', '\u2006', '\u2007', '\u2008', '\u2009', '\u200a',
    '\u2028', '\u2029', '\u202f', '\u205f', '\u3000']

/-- These are the blank ones. -/
theorem isBlank_iff {c : Char} : isBlank c = true ↔ c ∈ whiteSpace := by
  simp only [isBlank, blankRanges, List.any_cons, List.any_nil, Bool.or_false, Bool.or_eq_true,
    Bool.and_eq_true, decide_eq_true_eq, whiteSpace, List.mem_cons, List.not_mem_nil, or_false,
    ← Char.toNat_inj, Char.reduceToNat]
  omega

/-- Every character that the ASCII classification calls whitespace is blank. -/
theorem isBlank_of_isWhitespace {c : Char} (h : c.isWhitespace = true) :
    isBlank c = true := by
  simp only [Char.isWhitespace, Bool.or_eq_true, decide_eq_true_eq] at h
  rcases h with ((rfl | rfl) | rfl) | rfl <;> decide

example : isBlank '\u00a0' = true ∧ isBlank '\u200b' = false := by decide

end ServiceLifecycle.Text
