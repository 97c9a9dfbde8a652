import AccessLog.Number.Shortest

/-!
# Writing floats

Two layouts of a float are written:

* the **shortest form** (`FloatStyle.shortest`): the shortest digits of the value, positional
  when the decimal point falls between four places before the first digit and sixteen after
  it, `1.5e+16` style otherwise; a positional integer keeps a `.0`; an exponent has a sign and at
  least two digits;
* a **fixed number of places**: the exact binary value rounded to that many decimals, a tie going
  to the even last digit.

Infinities are `inf` and `-inf`, and not-a-number is `nan`; zero keeps its sign.

## Main statements

* `padLeft_length`: padding reaches the requested width.
-/

namespace AccessLog.Number

/-- Left-pads a digit string with zeros up to `width` characters. -/
def padLeft (width : Nat) (s : String) : String :=
  String.ofList (List.replicate (width - s.length) '0') ++ s

theorem padLeft_length (width : Nat) (s : String) :
    width ≤ (padLeft width s).length := by
  simp [padLeft, String.length_append]
  omega

/-- The decimal numeral of a natural number. -/
def natText (n : Nat) : String := String.ofList (Nat.toDigits 10 n)

/-- The decimal numeral of an integer, with a minus sign when negative. -/
def intText (i : Int) : String :=
  if i < 0 then "-" ++ natText i.natAbs else natText i.natAbs

/-- Lays out the digit string `ds` whose decimal point stands `point` places after its first
digit (`value = 0.ds · 10^point`), in the shortest form's layout. -/
def layoutShortest (ds : String) (point : Int) : String :=
  let n := ds.length
  if point ≤ -4 || 16 < point then
    let first := String.ofList (ds.toList.take 1)
    let rest := String.ofList (ds.toList.drop 1)
    let mant := if rest.isEmpty then first else first ++ "." ++ rest
    let x := point - 1
    let expText := (if x < 0 then "-" else "+") ++ padLeft 2 (natText x.natAbs)
    mant ++ "e" ++ expText
  else if point ≤ 0 then
    "0." ++ String.ofList (List.replicate (-point).toNat '0') ++ ds
  else if n ≤ point.toNat then
    ds ++ String.ofList (List.replicate (point.toNat - n) '0') ++ ".0"
  else
    String.ofList (ds.toList.take point.toNat) ++ "." ++ String.ofList (ds.toList.drop point.toNat)

/-- The shortest form of a float. -/
def shortestText (x : Float) : String :=
  match view x with
  | .nan => "nan"
  | .infinity neg => if neg then "-inf" else "inf"
  | .finite neg m e =>
    let sign := if neg then "-" else ""
    if m == 0 then sign ++ "0.0"
    else
      let d := shortestDigits m e
      let ds := natText d.digits
      sign ++ layoutShortest ds ((ds.length : Int) + d.exp)

/-- `m · 2^e · 10^places`, rounded to the nearest integer, a tie to the even one. -/
def roundScaled (m : Nat) (e : Int) (places : Nat) : Nat :=
  let num := m * Nat.pow 2 e.toNat * Nat.pow 10 places
  let den := Nat.pow 2 (-e).toNat
  let q := num / den
  let r := num % den
  if 2 * r > den || (2 * r == den && q % 2 == 1) then q + 1 else q

/-- A float with exactly `places` decimals. -/
def fixedText (places : Nat) (x : Float) : String :=
  match view x with
  | .nan => "nan"
  | .infinity neg => if neg then "-inf" else "inf"
  | .finite neg m e =>
    let sign := if neg then "-" else ""
    let n := roundScaled m e places
    let whole := natText (n / Nat.pow 10 places)
    if places == 0 then sign ++ whole
    else sign ++ whole ++ "." ++ padLeft places (natText (n % Nat.pow 10 places))

end AccessLog.Number
