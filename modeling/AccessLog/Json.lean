import AccessLog.Number.Text
import AccessLog.Text.Quoted

/-!
# JSON documents and their text

The formats, the result files and the answers of this library are JSON. A `Json` document keeps
object members in the order they were given, and distinguishes integers from floats, since a
float is always written with a point or an exponent (`404.0`, `1e+16`).

A document is written in a `JsonLayout`:

* compact or indented: when indented, every member and item stands on its own line, indented by
  the unit once per level, and an empty array or object stays `[]` or `{}`;
* the separators between items and between a key and its value;
* whether every non-ASCII character is escaped as `\uXXXX` (a surrogate pair above `0xFFFF`).

Strings escape the quote, the backslash, and every control character: `\n`, `\r`, `\t`, `\b`,
`\f` by name, others as `\u00XX`. Floats use their shortest form; infinities are `Infinity` and
`-Infinity`, not-a-number `NaN`.

## Main statements

* `escapeString_plain`: a string of plain characters is written as itself.
-/

namespace AccessLog

open AccessLog.Number AccessLog.Text

/-- A JSON document. -/
inductive Json where
  /-- `null`. -/
  | null
  /-- `true` or `false`. -/
  | bool (b : Bool)
  /-- An integer. -/
  | int (i : Int)
  /-- A float. -/
  | float (x : Float)
  /-- A string. -/
  | str (s : String)
  /-- An array. -/
  | arr (items : List Json)
  /-- An object, members in order. -/
  | obj (members : List (String × Json))
  deriving Inhabited

/-- How a document is laid out as text. -/
structure JsonLayout where
  /-- The indent unit, or `none` for a single line. -/
  indent : Option String := Option.none
  /-- Written between two items or members. -/
  itemSep : String := ", "
  /-- Written between a key and its value. -/
  keySep : String := ": "
  /-- Whether non-ASCII characters are escaped. -/
  asciiOnly : Bool := false

namespace JsonLayout

/-- One line, no blanks: `{"a":1,"b":[2,3]}`. -/
def compact : JsonLayout := { itemSep := ",", keySep := ":" }

/-- Indented by `n` spaces per level (none for `n ≤ 0`), members on their own lines. -/
def indented (n : Int) : JsonLayout :=
  { indent := some (String.ofList (List.replicate n.toNat ' ')), itemSep := ",", keySep := ": " }

end JsonLayout

/-- The four hexadecimal digits of a code unit. -/
def unitEscape (n : Nat) : List Char := ['\\', 'u'] ++ hexDigits 4 n

/-- How one character is written inside a JSON string. -/
def escapeJsonChar (asciiOnly : Bool) (c : Char) : List Char :=
  if c == '"' then ['\\', '"']
  else if c == '\\' then ['\\', '\\']
  else if c == '\n' then ['\\', 'n']
  else if c == '\r' then ['\\', 'r']
  else if c == '\t' then ['\\', 't']
  else if c == '\x08' then ['\\', 'b']
  else if c == '\x0c' then ['\\', 'f']
  else if c.toNat < 0x20 then unitEscape c.toNat
  else if asciiOnly && 0x7f ≤ c.toNat then
    if c.toNat < 0x10000 then unitEscape c.toNat
    else
      let v := c.toNat - 0x10000
      unitEscape (0xd800 + v / 0x400) ++ unitEscape (0xdc00 + v % 0x400)
  else [c]

/-- A JSON string literal. -/
def escapeString (asciiOnly : Bool) (s : String) : String :=
  String.ofList ('"' :: s.toList.flatMap (escapeJsonChar asciiOnly) ++ ['"'])

theorem escapeJsonChar_plain (c : Char) (h1 : c ≠ '"') (h2 : c ≠ '\\') (h3 : 0x20 ≤ c.toNat)
    (h4 : c.toNat < 0x7f) (a : Bool) : escapeJsonChar a c = [c] := by
  have hn : c ≠ '\n' := by intro h; subst h; simp at h3
  have hr : c ≠ '\r' := by intro h; subst h; simp at h3
  have ht : c ≠ '\t' := by intro h; subst h; simp at h3
  have hb : c ≠ '\x08' := by intro h; subst h; simp at h3
  have hf : c ≠ '\x0c' := by intro h; subst h; simp at h3
  have h5 : ¬ c.toNat < 0x20 := by omega
  have h6 : ¬ 0x7f ≤ c.toNat := by omega
  simp [escapeJsonChar, h1, h2, hn, hr, ht, hb, hf, h5, h6]

theorem escapeString_plain (a : Bool) (s : String)
    (h : ∀ c ∈ s.toList, c ≠ '"' ∧ c ≠ '\\' ∧ 0x20 ≤ c.toNat ∧ c.toNat < 0x7f) :
    escapeString a s = "\"" ++ s ++ "\"" := by
  have hmap : s.toList.flatMap (escapeJsonChar a) = s.toList := by
    have key : ∀ cs : List Char, (∀ c ∈ cs, c ≠ '"' ∧ c ≠ '\\' ∧ 0x20 ≤ c.toNat ∧ c.toNat < 0x7f) →
        cs.flatMap (escapeJsonChar a) = cs := by
      intro cs
      induction cs with
      | nil => intro; rfl
      | cons c rest ih =>
        intro hc
        obtain ⟨h1, h2, h3, h4⟩ := hc c (by simp)
        simp only [List.flatMap_cons, escapeJsonChar_plain c h1 h2 h3 h4 a, List.singleton_append]
        rw [ih (fun d hd => hc d (by simp [hd]))]
    exact key _ h
  simp only [escapeString, hmap]
  apply String.ext
  simp

/-- The text of a float in a document. -/
def floatJsonText (x : Float) : String :=
  match view x with
  | .nan => "NaN"
  | .infinity neg => if neg then "-Infinity" else "Infinity"
  | .finite .. => shortestText x

namespace Json

/-- Puts already written items between brackets, one per line when indenting. -/
def wrapItems (l : JsonLayout) (level : Nat) (openB closeB : String) (inner : List String) :
    String :=
  match l.indent with
  | Option.none => openB ++ l.itemSep.intercalate inner ++ closeB
  | some unit =>
    let pad (n : Nat) : String := String.join (List.replicate n unit)
    let nl := "\n" ++ pad (level + 1)
    openB ++ nl ++ (l.itemSep ++ nl).intercalate inner ++ "\n" ++ pad level ++ closeB

mutual
/-- The text of a document at nesting `level` in layout `l`. -/
def render (l : JsonLayout) (level : Nat) : Json → String
  | .null => "null"
  | .bool b => if b then "true" else "false"
  | .int i => intText i
  | .float x => floatJsonText x
  | .str s => escapeString l.asciiOnly s
  | .arr [] => "[]"
  | .obj [] => "{}"
  | .arr items => wrapItems l level "[" "]" (renderItems l (level + 1) items)
  | .obj members => wrapItems l level "\x7b" "\x7d" (renderMembers l (level + 1) members)

/-- The texts of array items at nesting `level`. -/
def renderItems (l : JsonLayout) (level : Nat) : List Json → List String
  | [] => []
  | j :: rest => render l level j :: renderItems l level rest

/-- The texts of object members at nesting `level`. -/
def renderMembers (l : JsonLayout) (level : Nat) : List (String × Json) → List String
  | [] => []
  | (k, j) :: rest =>
    (escapeString l.asciiOnly k ++ l.keySep ++ render l level j) :: renderMembers l level rest
end

/-- The text of a document. -/
def write (l : JsonLayout) (j : Json) : String := render l 0 j

/-- An object of string members. -/
def ofStrings (members : List (String × String)) : Json :=
  .obj (members.map fun (k, v) => (k, .str v))

end Json

end AccessLog
