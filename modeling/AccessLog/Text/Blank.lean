/-!
# Blanks

The blank characters are those of bidirectional class `WS`, `B` or `S`, or of category `Zs`:
the ASCII tab, line feed, vertical tab, form feed and carriage return, the four information
separators `\x1c` to `\x1f`, the space, next line, no-break space, and the Unicode spaces and
line and paragraph separators. Splitting on blanks and trimming them use this set.

## Main statements

* `isBlank_of_isWhitespace`: every character that core counts as whitespace is blank.
-/

namespace AccessLog.Text

/-- Whether a character is blank. -/
def isBlank (c : Char) : Bool :=
  let n := c.toNat
  (0x09 ≤ n && n ≤ 0x0d) || (0x1c ≤ n && n ≤ 0x20) || n == 0x85 || n == 0xa0 ||
    n == 0x1680 || (0x2000 ≤ n && n ≤ 0x200a) || n == 0x2028 || n == 0x2029 ||
    n == 0x202f || n == 0x205f || n == 0x3000

theorem isBlank_of_isWhitespace (c : Char) (h : c.isWhitespace = true) : isBlank c = true := by
  simp only [Char.isWhitespace, Bool.or_eq_true, decide_eq_true_eq] at h
  rcases h with ((h | h) | h) | h <;> simp [isBlank, h]

/-- Drops blanks at both ends of a string. -/
def trimBlanks (s : String) : String :=
  String.ofList ((s.toList.dropWhile isBlank).reverse.dropWhile isBlank).reverse

/-- Splits a string into its maximal runs of non-blank characters. -/
def splitBlanks (s : String) : List String :=
  let rec go : List Char → List Char → List String
    | [], acc => if acc.isEmpty then [] else [String.ofList acc.reverse]
    | c :: rest, acc =>
      if isBlank c then
        if acc.isEmpty then go rest [] else String.ofList acc.reverse :: go rest []
      else go rest (c :: acc)
  go s.toList []

end AccessLog.Text
