import AccessLog.Yaml.Construct

/-!
# YAML: loading a document

Loading a text scans, parses and composes its one document, and builds its value; a text
without a document has no value. The text is read as the scanner needs it (see `demand`): a
character that is not printable is an error, reported with its code and its place, only once the
scanner has read that far.

The printable characters are tab, line feed, carriage return, the printable ASCII characters,
next line, and every character from no-break space on except surrogates and the two
non-characters `U+FFFE` and `U+FFFF`.

## Main statements

* `isPrintable_ascii`: the printable ASCII characters are printable.
-/

namespace AccessLog.Yaml

theorem isPrintable_ascii (c : Char) (h : 0x20 ≤ c.toNat ∧ c.toNat ≤ 0x7e) :
    isPrintable c = true := by
  simp [isPrintable, h]

/-- Loads the one document of a text read from bytes: its value, or nothing when there is no
document; `fault` is what a read fails with when it needs characters past the end of the text,
when the bytes break there. -/
def loadChars (chars : List Char) (fault : Option Text.Utf8Fault) :
    Except LoadFault (Option Value) := do
  let reader : EventReader := { scanner := ← Scanner.open chars fault }
  let (doc, _) ← composeSingle.run { reader }
  match doc with
  | none => return none
  | some d => return some (← construct d)

/-- Loads the one document of a text: its value, or nothing when there is no document. -/
def loadYaml (text : String) : Except LoadFault (Option Value) := loadChars text.toList none

end AccessLog.Yaml
