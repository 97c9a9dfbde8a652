import AccessLog.Text.Printable

/-!
# Quoted strings

Messages show a string as a *quoted literal*: between single quotes, or between double quotes
when the string holds a single quote and no double quote. Inside, the backslash and the chosen
quote are escaped, tab, line feed and carriage return are written `\t`, `\n`, `\r`, and any
other character that is not printable is written by its code point in hexadecimal: `\xhh` below
`0x100`, `\uhhhh` below `0x10000`, `\Uhhhhhhhh` above.

## Main statements

* `quote_plain`: a string of plain characters (printable, no quote, backslash or control
  escape) is only wrapped in single quotes.
-/

namespace AccessLog.Text

/-- The lowercase hexadecimal digit of a value below sixteen. -/
def hexChar (n : Nat) : Char :=
  if n < 10 then Char.ofNat ('0'.toNat + n) else Char.ofNat ('a'.toNat + n - 10)

/-- The `width` lowest hexadecimal digits of `n`, most significant first. -/
def hexDigits (width n : Nat) : List Char :=
  (List.range width).reverse.map fun i => hexChar (n / Nat.pow 16 i % 16)

/-- How one character is written inside a literal quoted by `q`. -/
def escapeChar (q : Char) (c : Char) : List Char :=
  if c == '\\' then ['\\', '\\']
  else if c == q then ['\\', q]
  else if c == '\t' then ['\\', 't']
  else if c == '\n' then ['\\', 'n']
  else if c == '\r' then ['\\', 'r']
  else if isPrintable c then [c]
  else if c.toNat < 0x100 then ['\\', 'x'] ++ hexDigits 2 c.toNat
  else if c.toNat < 0x10000 then ['\\', 'u'] ++ hexDigits 4 c.toNat
  else ['\\', 'U'] ++ hexDigits 8 c.toNat

/-- The quote that delimits a literal: double only if the text has a single quote and no
double quote. -/
def quoteFor (cs : List Char) : Char :=
  if cs.contains '\'' && !cs.contains '"' then '"' else '\''

/-- The quoted literal of a string. -/
def quote (s : String) : String :=
  let cs := s.toList
  let q := quoteFor cs
  String.ofList (q :: cs.flatMap (escapeChar q) ++ [q])

/-- The condition on a character under which a literal shows it unchanged. -/
def Plain (c : Char) : Prop :=
  isPrintable c = true ∧ c ≠ '\\' ∧ c ≠ '\'' ∧ c ≠ '"' ∧ c ≠ '\t' ∧ c ≠ '\n' ∧ c ≠ '\r'

theorem escapeChar_plain {c : Char} (h : Plain c) : escapeChar '\'' c = [c] := by
  obtain ⟨hp, h1, h2, _, h4, h5, h6⟩ := h
  simp [escapeChar, h1, h2, h4, h5, h6, hp]

theorem flatMap_escapeChar_plain (cs : List Char) (h : ∀ c ∈ cs, Plain c) :
    cs.flatMap (escapeChar '\'') = cs := by
  induction cs with
  | nil => rfl
  | cons c rest ih =>
    simp only [List.flatMap_cons, escapeChar_plain (h c (by simp)), List.singleton_append]
    rw [ih (fun d hd => h d (by simp [hd]))]

theorem quote_plain (s : String) (h : ∀ c ∈ s.toList, Plain c) :
    quote s = "'" ++ s ++ "'" := by
  have hq : quoteFor s.toList = '\'' := by
    have : '\'' ∉ s.toList := fun hm => (h _ hm).2.2.1 rfl
    simp [quoteFor, this]
  simp only [quote, hq, flatMap_escapeChar_plain _ h]
  apply String.ext
  simp

end AccessLog.Text
