import TemplateStream.Text.CharSet

/-!
# Blank characters

Blanks are the separators and control characters that are cut off at the ends of names and
values. A numeral is surrounded by a slightly smaller set of blanks.
-/

namespace TemplateStream.Text

/-- The blank characters. -/
def blanks : CharSet where
  runs := [(0x09, 0x0d), (0x1c, 0x20), (0x85, 0x85), (0xa0, 0xa0), (0x1680, 0x1680),
    (0x2000, 0x200a), (0x2028, 0x2029), (0x202f, 0x202f), (0x205f, 0x205f), (0x3000, 0x3000)]

/-- Whether a character is blank. -/
def isBlank (c : Char) : Bool := blanks.contains c

/-- Whether a character may surround a numeral: a blank other than the four information
separators. -/
def isNumeralBlank (c : Char) : Bool :=
  isBlank c && !(0x1c ≤ c.toNat && c.toNat ≤ 0x1f)

/-- A list of characters less those at its two ends that satisfy the test. -/
def trimChars (test : Char → Bool) (chars : List Char) : List Char :=
  ((chars.dropWhile test).reverse.dropWhile test).reverse

/-- A text less the blanks at its two ends. -/
def strip (text : String) : String :=
  String.ofList (trimChars isBlank text.toList)

/-- Dropping the front twice is dropping it once. -/
theorem dropWhile_dropWhile (test : Char → Bool) (chars : List Char) :
    (chars.dropWhile test).dropWhile test = chars.dropWhile test := by
  induction chars with
  | nil => rfl
  | cons c rest ih =>
    by_cases holds : test c = true
    · simp only [List.dropWhile_cons_of_pos holds, ih]
    · simp only [List.dropWhile_cons_of_neg holds]

/-- Trimming twice is trimming once. -/
theorem trimChars_trimChars (test : Char → Bool) (chars : List Char) :
    trimChars test (trimChars test chars) = trimChars test chars := by
  have front : (trimChars test chars).dropWhile test = trimChars test chars := by
    cases trimmed : trimChars test chars with
    | nil => rfl
    | cons c rest =>
      -- What is left starts as what was left without the front, where the test fails.
      obtain ⟨back, split⟩ : ∃ back, chars.dropWhile test = (c :: rest) ++ back := by
        refine ⟨((chars.dropWhile test).reverse.takeWhile test).reverse, ?_⟩
        rw [← trimmed, trimChars, ← List.reverse_append, List.takeWhile_append_dropWhile,
          List.reverse_reverse]
      have again := dropWhile_dropWhile test chars
      rw [split, List.cons_append] at again
      by_cases holds : test c = true
      · rw [List.dropWhile_cons_of_pos holds] at again
        have shorter := congrArg List.length again
        have bound := (List.dropWhile_suffix test (l := rest ++ back)).length_le
        simp only [List.length_cons] at shorter
        omega
      · exact List.dropWhile_cons_of_neg holds
  rw [trimChars, front]
  simp only [trimChars, List.reverse_reverse, dropWhile_dropWhile]

/-- No blanks are left around a text less its blanks. -/
theorem strip_strip (text : String) : strip (strip text) = strip text := by
  simp only [strip, String.toList_ofList, trimChars_trimChars]

/-- A text less the given character at its front. -/
def dropLeading (c : Char) (text : String) : String :=
  String.ofList (text.toList.dropWhile (· == c))

/-- Whether a text has no character that is not blank. -/
def isBlankText (text : String) : Bool :=
  text.toList.all isBlank

end TemplateStream.Text
