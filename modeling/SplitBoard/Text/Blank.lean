/-!
# Blank characters

White space as the character standard lists it: the ASCII blanks, the next-line control, the
no-break space and the space characters of other scripts. Lines of a record file may be surrounded
by any of them.
-/

namespace SplitBoard.Text

/-- The characters with the white space property. -/
def isBlank (c : Char) : Bool :=
  let n := c.toNat
  (0x09 ≤ n && n ≤ 0x0D) || n == 0x20 || n == 0x85 || n == 0xA0 || n == 0x1680 ||
    (0x2000 ≤ n && n ≤ 0x200A) || n == 0x2028 || n == 0x2029 || n == 0x202F || n == 0x205F ||
    n == 0x3000

/-- The text without the blanks at either end. -/
def trim (text : List Char) : List Char :=
  ((text.dropWhile isBlank).reverse.dropWhile isBlank).reverse

/-- The lines of a text whose first line has already begun, with the characters read so far newest
first. -/
def linesFrom (begun : List Char) : List Char → List (List Char)
  | [] => [begun.reverse]
  | c :: rest =>
    if c = '\n' then begun.reverse :: linesFrom [] rest else linesFrom (c :: begun) rest

/-- The text cut at each line feed. A text of `n` line feeds has `n + 1` lines, the last of which is
empty if the text ends in a line feed. -/
def lines (text : List Char) : List (List Char) :=
  linesFrom [] text

theorem linesFrom_ne_nil (begun text : List Char) : linesFrom begun text ≠ [] := by
  induction text generalizing begun with
  | nil => simp [linesFrom]
  | cons c rest ih =>
    unfold linesFrom
    split
    · simp
    · exact ih _

theorem intercalate_linesFrom (begun text : List Char) :
    ['\n'].intercalate (linesFrom begun text) = begun.reverse ++ text := by
  induction text generalizing begun with
  | nil => simp [linesFrom, List.intercalate]
  | cons c rest ih =>
    unfold linesFrom
    split
    · next h =>
      have := ih []
      cases hl : linesFrom [] rest with
      | nil => exact absurd hl (linesFrom_ne_nil [] rest)
      | cons line more =>
        rw [hl] at this
        simp_all [List.intercalate, List.intersperse]
    · simp [ih]

/-- Nothing is lost: joined by line feeds, the lines are the text again. -/
theorem intercalate_lines (text : List Char) : ['\n'].intercalate (lines text) = text := by
  simp [lines, intercalate_linesFrom]

end SplitBoard.Text
