/-!
# Splitting text at a separator

`pieces sep s` cuts `s` at every occurrence of a non-empty separator, scanning left to right and
never letting two occurrences overlap: `pieces "aa" "aaa"` is `["", "a"]`. There is always one
piece more than there are occurrences, so the empty text is one empty piece.

`cutFirst sep s` cuts at the first occurrence only, and tells whether there was one.

Lines of a text are the pieces between line feeds, where a line feed that ends the text opens no
further line.

## Main statements

* `pieces_ne_nil`: there is always at least one piece.
-/

namespace AccessLog.Text

/-- The pieces of `s` between non-overlapping occurrences of `sep`, `cur` holding the current
piece reversed. -/
def piecesFrom (sep : List Char) : List Char → List Char → List (List Char)
  | [], cur => [cur.reverse]
  | c :: rest, cur =>
    if _h : sep ≠ [] ∧ sep.isPrefixOf (c :: rest) = true then
      cur.reverse :: piecesFrom sep ((c :: rest).drop sep.length) []
    else piecesFrom sep rest (c :: cur)
  termination_by s => s.length
  decreasing_by
    · have : sep.length ≠ 0 := by simpa [List.length_eq_zero_iff] using _h.1
      simp only [List.length_drop, List.length_cons]
      omega
    · simp

/-- The pieces of `s` between non-overlapping occurrences of a non-empty `sep`. -/
def pieces (sep s : String) : List String :=
  (piecesFrom sep.toList s.toList []).map String.ofList

theorem piecesFrom_ne_nil (sep : List Char) (s cur : List Char) : piecesFrom sep s cur ≠ [] := by
  induction s generalizing cur with
  | nil => simp [piecesFrom]
  | cons c rest ih =>
    rw [piecesFrom]
    split
    · simp
    · exact ih _

theorem pieces_ne_nil (sep s : String) : pieces sep s ≠ [] := by
  simp [pieces, piecesFrom_ne_nil]

/-- The text before the first occurrence of `sep` in `s` (reversed in `acc`) and what follows
it, or `none` when `sep` does not occur. -/
def cutFirstFrom (sep : List Char) : List Char → List Char → Option (List Char × List Char)
  | [], _ => none
  | c :: rest, acc =>
    if sep.isPrefixOf (c :: rest) then some (acc.reverse, (c :: rest).drop sep.length)
    else cutFirstFrom sep rest (c :: acc)

/-- `s` cut at the first occurrence of a non-empty `sep`: the text before and after it, or
`none` when it does not occur. -/
def cutFirst (sep s : String) : Option (String × String) :=
  (cutFirstFrom sep.toList s.toList []).map fun (a, b) => (String.ofList a, String.ofList b)

/-- The lines of a text: the pieces between line feeds, without an empty piece after a final
line feed. -/
def splitLines (s : String) : List String :=
  let ps := s.toList.splitOn '\n'
  let ps := if ps.getLast? == some [] then ps.dropLast else ps
  ps.map String.ofList

/-- A line without one final carriage return. -/
def dropReturn (s : String) : String :=
  if s.toList.getLast? == some '\r' then String.ofList s.toList.dropLast else s

/-- A line without its terminator: one final line feed, then one final carriage return. -/
def stripTerminator (s : String) : String :=
  dropReturn (if s.toList.getLast? == some '\n' then String.ofList s.toList.dropLast else s)

end AccessLog.Text
