import Mathlib.Data.List.TakeWhile
import AccessLog.Proofs.FilterEvaluation

/-!
# Plain numbers

A *plain number* is a text that the float reader accepts, with no digit separator and no blank
around it. As a grammar (`Number.NumberText`), it is an optional sign followed either by a
significand and an optional exponent, or by the name `inf`, `infinity` or `nan` in any case. A
significand is digits with an optional point and digits after it, or a point and digits; an
exponent is `e` or `E`, an optional sign and digits. A digit is a decimal digit of any script.

The reader reads a text as ASCII first (`asciiNumberChar`): a non-ASCII decimal digit becomes its
ASCII digit, and any other non-ASCII character a space or `?`. That keeps the part each character
plays in the grammar: a character is read as a digit exactly when it is a decimal digit, and a
sign, a point, an exponent mark or a letter of the names is read only from itself. That no blank
is a decimal digit is a fact of the digit table (`digitValue?_of_isBlank`): the blanks past the
ASCII range lie between its runs of digits.

On ASCII text the reader cuts the whole digits, the point and the fraction digits where each run
stops, and a number of the grammar can be cut in one way only (`finiteNumber_point_iff`), so the
reader accepts exactly the numbers of the grammar.

## Main statements

* `Text.digitValue?_of_isBlank`: no blank is a decimal digit.
* `Number.readUnsignedFloat_isSome_iff`: the unsigned texts the float reader accepts.
* `Number.numberText_map_iff`: reading a text as ASCII keeps its grammar.
* `Number.readPlainNumber_isOk_iff`: the plain numbers are the texts of the grammar.
-/

namespace AccessLog

open Text Number

/-! ## The digit table -/

namespace Text

/-- The binary search answers a zero of the table at most `c`, or what it held before. -/
theorem zeroAtMost_eq_some {c lo hi : Nat} {best : Option Nat} {z : Nat}
    (h : zeroAtMost c lo hi best = some z) : (z ∈ digitZeros ∧ z ≤ c) ∨ best = some z := by
  fun_induction zeroAtMost c lo hi best with
  | case1 lo hi best hlt mid z' hz' hle ih =>
    rcases ih h with h' | h'
    · exact .inl h'
    · cases h'
      exact .inl ⟨Array.mem_of_getElem? hz', hle⟩
  | case2 lo hi best hlt mid z' hz' hle ih => exact ih h
  | case3 lo hi best hlt mid hz' => exact .inr h
  | case4 lo hi best hlt => exact .inr h

/-- A digit's value is below ten; a digit other than an ASCII one lies less than ten code points
above a zero of the table. -/
theorem digitValue?_eq_some {c : Char} {d : Nat} (h : digitValue? c = some d) :
    d < 10 ∧ ((48 ≤ c.toNat ∧ c.toNat ≤ 57) ∨ ∃ z ∈ digitZeros, z ≤ c.toNat ∧ c.toNat < z + 10) := by
  unfold digitValue? at h
  by_cases h09 : '0' ≤ c ∧ c ≤ '9'
  · rw [if_pos h09, Option.some.injEq] at h
    simp only [Char.le_def, UInt32.le_iff_toNat_le, Char.toNat_val] at h09
    have h0 : '0'.toNat = 48 := rfl
    have h9 : '9'.toNat = 57 := rfl
    rw [h0, h9] at h09
    rw [h0] at h
    subst h
    exact ⟨by omega, .inl h09⟩
  rw [if_neg h09] at h
  by_cases hsmall : c.toNat < 0x660
  · rw [if_pos hsmall] at h
    cases h
  rw [if_neg hsmall] at h
  cases hz : zeroAtMost c.toNat 0 digitZeros.size none with
  | none => simp [hz] at h
  | some z =>
    rw [hz] at h
    dsimp only at h
    by_cases hlt : c.toNat - z < 10
    · rw [if_pos hlt, Option.some.injEq] at h
      rcases zeroAtMost_eq_some hz with ⟨hmem, hle⟩ | hnone
      · exact ⟨h ▸ hlt, .inr ⟨z, hmem, hle, by omega⟩⟩
      · cases hnone
    · rw [if_neg hlt] at h
      cases h

/-- **No blank is a decimal digit.** The blanks past the ASCII range lie between runs of digits:
below U+3000 the table's zeros stop at U+1C50, and below U+1680 at U+1090. -/
theorem digitValue?_of_isBlank {c : Char} (h : isBlank c = true) : digitValue? c = none := by
  cases hd : digitValue? c with
  | none => rfl
  | some d =>
    have key : ∀ z ∈ digitZeros.toList, z ≤ 0x3000 →
        z = 0x30 ∨ (0x660 ≤ z ∧ z ≤ 0x1090) ∨ (0x17e0 ≤ z ∧ z ≤ 0x1c50) := by
      decide
    simp only [isBlank, Bool.or_eq_true, Bool.and_eq_true, decide_eq_true_eq, beq_iff_eq] at h
    obtain ⟨-, h09 | ⟨z, hz, hle, hlt⟩⟩ := digitValue?_eq_some hd
    · omega
    · have := key z (Array.mem_def.mp hz)
      omega

theorem isDecimal_of_isBlank {c : Char} (h : isBlank c = true) : isDecimal c = false := by
  simp [isDecimal, digitValue?_of_isBlank h]

/-- An ASCII character is a decimal digit exactly when it is an ASCII digit. -/
theorem isDecimal_of_lt {c : Char} (h : c.toNat < 128) : isDecimal c = isAsciiDigit c := by
  unfold isDecimal isAsciiDigit digitValue?
  by_cases h09 : '0' ≤ c ∧ c ≤ '9'
  · simp [h09]
  · rw [if_neg h09, if_pos (by omega)]
    simpa using h09

end Text

/-! ## Characters read as ASCII -/

namespace Number

theorem isAsciiDigit_iff {c : Char} : isAsciiDigit c = true ↔ 48 ≤ c.toNat ∧ c.toNat ≤ 57 := by
  simp only [isAsciiDigit, Bool.and_eq_true, decide_eq_true_eq, Char.le_def,
    UInt32.le_iff_toNat_le, Char.toNat_val]
  rfl

theorem toNat_ofNat_of_lt {n : Nat} (h : n < 0xd800) : (Char.ofNat n).toNat = n := by
  have hv : n.isValidChar := Or.inl h
  rw [Char.ofNat, dif_pos hv]
  rfl

theorem asciiNumberChar_of_lt {c : Char} (h : c.toNat < 128) : asciiNumberChar c = c := by
  simp [asciiNumberChar, h]

/-- Past the ASCII range a character is read as a space, an ASCII digit or `?`: a space for a
blank, its digit for a decimal digit, `?` for anything else. -/
theorem asciiNumberChar_of_ge {c : Char} (h : 128 ≤ c.toNat) :
    (asciiNumberChar c = ' ' ∧ isBlank c = true) ∨
      (isAsciiDigit (asciiNumberChar c) = true ∧ isDecimal c = true) ∨
      (asciiNumberChar c = '?' ∧ isDecimal c = false) := by
  unfold asciiNumberChar
  rw [if_neg (by omega)]
  by_cases hb : isBlank c = true
  · exact .inl ⟨by rw [if_pos hb], hb⟩
  rw [if_neg hb]
  cases hd : digitValue? c with
  | some d =>
    have hlt := (digitValue?_eq_some hd).1
    refine .inr (.inl ⟨?_, by simp [isDecimal, hd]⟩)
    rw [isAsciiDigit_iff, toNat_ofNat_of_lt (by simp; omega)]
    simp
    omega
  | none => exact .inr (.inr ⟨rfl, by simp [isDecimal, hd]⟩)

/-- **A character is read as a digit exactly when it is a decimal digit.** -/
theorem isAsciiDigit_asciiNumberChar (c : Char) : isAsciiDigit (asciiNumberChar c) = isDecimal c := by
  by_cases h : c.toNat < 128
  · rw [asciiNumberChar_of_lt h, isDecimal_of_lt h]
  rcases asciiNumberChar_of_ge (c := c) (by omega) with ⟨hs, hb⟩ | ⟨hd, hdec⟩ | ⟨hq, hdec⟩
  · rw [hs, isDecimal_of_isBlank hb]
    rfl
  · rw [hd, hdec]
  · rw [hq, hdec]
    rfl

/-- An ASCII character other than a digit, a space and `?` is read only from itself. -/
theorem asciiNumberChar_eq_iff {c d : Char} (hd : d.toNat < 128) (hdig : isAsciiDigit d = false)
    (hs : d ≠ ' ') (hq : d ≠ '?') : asciiNumberChar c = d ↔ c = d := by
  by_cases h : c.toNat < 128
  · rw [asciiNumberChar_of_lt h]
  constructor
  · rcases asciiNumberChar_of_ge (c := c) (by omega) with ⟨hs', -⟩ | ⟨hd', -⟩ | ⟨hq', -⟩
    · exact fun he => absurd (he.symm.trans hs') hs
    · intro he
      rw [he, hdig] at hd'
      cases hd'
    · exact fun he => absurd (he.symm.trans hq') hq
  · intro he
    subst he
    exact absurd hd h

/-- A character outside `A` to `Z` is its own lower case. -/
theorem toLower_of_not_upper {c : Char} (h : c.toNat < 65 ∨ 90 < c.toNat) : c.toLower = c := by
  unfold Char.toLower
  rw [dif_neg]
  have hA : 'A'.toNat = 65 := rfl
  have hZ : 'Z'.toNat = 90 := rfl
  simp only [ge_iff_le, UInt32.le_iff_toNat_le, Char.toNat_val, hA, hZ, not_and, Nat.not_le]
  omega

/-- A lower-case ASCII letter is read, in lower case, only from itself in either case. -/
theorem toLower_asciiNumberChar_eq_iff {c l : Char} (hl : l.toNat < 128)
    (hdig : isAsciiDigit l = false) (hs : l ≠ ' ') (hq : l ≠ '?') :
    (asciiNumberChar c).toLower = l ↔ c.toLower = l := by
  by_cases h : c.toNat < 128
  · rw [asciiNumberChar_of_lt h]
  have hlow : (asciiNumberChar c).toLower = asciiNumberChar c := by
    rcases asciiNumberChar_of_ge (c := c) (by omega) with ⟨hs', -⟩ | ⟨hd', -⟩ | ⟨hq', -⟩
    · rw [hs']
      rfl
    · rw [isAsciiDigit_iff] at hd'
      exact toLower_of_not_upper (by omega)
    · rw [hq']
      rfl
  rw [hlow, toLower_of_not_upper (c := c) (by omega), asciiNumberChar_eq_iff hl hdig hs hq]

end Number

/-! ## Lists cut where a property stops holding -/

section Stop

variable {α : Type} {p : α → Bool}

/-- A list whose elements all hold `p`, followed by one that starts with an element that does not,
is cut back into the two by `takeWhile` and `dropWhile`. -/
theorem takeWhile_append_stop {l x : List α} (hl : ∀ a ∈ l, p a = true)
    (hx : ∀ a ∈ x.head?, p a = false) :
    (l ++ x).takeWhile p = l ∧ (l ++ x).dropWhile p = x := by
  rw [List.takeWhile_append_of_pos hl, List.dropWhile_append_of_pos hl]
  cases x with
  | nil => simp
  | cons a x =>
    have ha : ¬p a = true := by simpa using hx a rfl
    simp [List.takeWhile_cons_of_neg ha, List.dropWhile_cons_of_neg ha]

/-- Two such lists are equal only piece by piece. -/
theorem append_eq_append_of_stop {l₁ l₂ x₁ x₂ : List α} (h₁ : ∀ a ∈ l₁, p a = true)
    (h₂ : ∀ a ∈ l₂, p a = true) (hx₁ : ∀ a ∈ x₁.head?, p a = false)
    (hx₂ : ∀ a ∈ x₂.head?, p a = false) (h : l₁ ++ x₁ = l₂ ++ x₂) : l₁ = l₂ ∧ x₁ = x₂ := by
  obtain ⟨ht₁, hd₁⟩ := takeWhile_append_stop h₁ hx₁
  obtain ⟨ht₂, hd₂⟩ := takeWhile_append_stop h₂ hx₂
  rw [h] at ht₁ hd₁
  exact ⟨ht₁.symm.trans ht₂, hd₁.symm.trans hd₂⟩

theorem dropWhile_eq_self_iff_head {l : List α} :
    l.dropWhile p = l ↔ ∀ a ∈ l.head?, p a = false := by
  rw [List.dropWhile_eq_self_iff]
  cases l <;> simp

/-- Trimming the elements that hold `p` off both ends changes nothing exactly when neither end
holds it. -/
theorem trim_eq_self_iff {l : List α} :
    ((l.dropWhile p).reverse.dropWhile p).reverse = l ↔
      (∀ a ∈ l.head?, p a = false) ∧ ∀ a ∈ l.getLast?, p a = false := by
  rw [← dropWhile_eq_self_iff_head, ← List.head?_reverse, ← dropWhile_eq_self_iff_head]
  constructor
  · intro h
    have hle₁ := (List.dropWhile_suffix (l := l) p).length_le
    have hle₂ := (List.dropWhile_suffix (l := (l.dropWhile p).reverse) p).length_le
    have hlen : (l.dropWhile p).length = l.length := by
      have := congrArg List.length h
      simp only [List.length_reverse] at this hle₂
      omega
    have hfront := (List.dropWhile_suffix (l := l) p).eq_of_length hlen
    rw [hfront] at h
    exact ⟨hfront, List.reverse_eq_iff.mp h⟩
  · rintro ⟨hfront, hback⟩
    rw [hfront, hback, List.reverse_reverse]

/-- Two maps agree on being a given list when they agree pointwise on being each of its
elements. -/
theorem map_eq_iff_of_forall {β : Type} {f g : α → β} {t : List β}
    (h : ∀ a, ∀ b ∈ t, f a = b ↔ g a = b) {l : List α} : l.map f = t ↔ l.map g = t := by
  induction t generalizing l with
  | nil => simp
  | cons b t ih =>
    have ht : ∀ a, ∀ b' ∈ t, f a = b' ↔ g a = b' := fun a b' hb => h a b' (by simp [hb])
    simp only [List.map_eq_cons_iff]
    constructor
    · rintro ⟨a, l', rfl, hb, hl'⟩
      exact ⟨a, l', rfl, (h a b (by simp)).mp hb, (ih ht).mp hl'⟩
    · rintro ⟨a, l', rfl, hb, hl'⟩
      exact ⟨a, l', rfl, (h a b (by simp)).mpr hb, (ih ht).mpr hl'⟩

end Stop

/-! ## The grammar of plain numbers -/

namespace Number

/-- An optional sign. -/
inductive Sign : List Char → Prop
  | none : Sign []
  | plus : Sign ['+']
  | minus : Sign ['-']

/-- A run of at least one digit, the digits being the characters that `D` holds of. -/
def Digits (D : Char → Bool) (ds : List Char) : Prop := ds ≠ [] ∧ ∀ c ∈ ds, D c = true

/-- The significand of a finite number: digits with an optional point and digits after it, or a
point and digits. -/
inductive Significand (D : Char → Bool) : List Char → Prop
  | whole {ds : List Char} : Digits D ds → Significand D ds
  | pointed {ds fs : List Char} : Digits D ds → (∀ c ∈ fs, D c = true) →
      Significand D (ds ++ '.' :: fs)
  | fraction {fs : List Char} : Digits D fs → Significand D ('.' :: fs)

/-- An optional exponent: `e` or `E`, an optional sign and digits. -/
inductive ExponentPart (D : Char → Bool) : List Char → Prop
  | none : ExponentPart D []
  | some {e : Char} {sg ds : List Char} : (e = 'e' ∨ e = 'E') → Sign sg → Digits D ds →
      ExponentPart D (e :: (sg ++ ds))

/-- A finite number without its sign: a significand and an optional exponent. -/
def FiniteNumber (D : Char → Bool) (cs : List Char) : Prop :=
  ∃ m x, cs = m ++ x ∧ Significand D m ∧ ExponentPart D x

/-- The names of the floats that are no finite number, in lower case. -/
def specialNames : List (List Char) :=
  [['i', 'n', 'f'], ['i', 'n', 'f', 'i', 'n', 'i', 't', 'y'], ['n', 'a', 'n']]

/-- A number without its sign: a finite one, or a special name in any case. -/
inductive UnsignedNumber (D : Char → Bool) : List Char → Prop
  | finite {cs : List Char} : FiniteNumber D cs → UnsignedNumber D cs
  | named {cs : List Char} : cs.map Char.toLower ∈ specialNames → UnsignedNumber D cs

/-- The text of a plain number, with the digits that `D` holds of: an optional sign and a number
without sign. -/
inductive NumberText (D : Char → Bool) : List Char → Prop
  | mk {sg u : List Char} : Sign sg → UnsignedNumber D u → NumberText D (sg ++ u)

/-- The characters of a number other than its digits and the letters of its names. -/
def numberMarks : List Char := ['+', '-', '.', 'e', 'E']

/-- A character that may stand in a number: a digit, a mark, or a letter of a name. -/
def NumeralChar (D : Char → Bool) (c : Char) : Prop :=
  D c = true ∨ c ∈ numberMarks ∨ ∃ w ∈ specialNames, c.toLower ∈ w

section Grammar

variable {D : Char → Bool}

theorem forall_mem_numberMarks {P : Char → Prop} :
    (∀ m ∈ numberMarks, P m) ↔ P '+' ∧ P '-' ∧ P '.' ∧ P 'e' ∧ P 'E' := by
  simp [numberMarks]

/-- A fact of every letter of the names is one of `i`, `n`, `f`, `t`, `y` and `a`. -/
theorem forall_mem_specialNames {P : Char → Prop} :
    (∀ w ∈ specialNames, ∀ b ∈ w, P b) ↔ P 'i' ∧ P 'n' ∧ P 'f' ∧ P 't' ∧ P 'y' ∧ P 'a' := by
  simp only [specialNames, List.forall_mem_cons, List.not_mem_nil, IsEmpty.forall_iff,
    implies_true, and_true]
  tauto

theorem Sign.mem {sg : List Char} (h : Sign sg) : ∀ c ∈ sg, c ∈ numberMarks := by
  cases h <;> simp [numberMarks]

theorem Significand.mem {m : List Char} (h : Significand D m) : ∀ c ∈ m, NumeralChar D c := by
  cases h with
  | whole hd => exact fun c hc => .inl (hd.2 c hc)
  | pointed hd hf =>
    intro c hc
    rcases List.mem_append.mp hc with hc | hc
    · exact .inl (hd.2 c hc)
    · rcases List.mem_cons.mp hc with rfl | hc
      · exact .inr (.inl (by simp [numberMarks]))
      · exact .inl (hf c hc)
  | fraction hd =>
    intro c hc
    rcases List.mem_cons.mp hc with rfl | hc
    · exact .inr (.inl (by simp [numberMarks]))
    · exact .inl (hd.2 c hc)

theorem ExponentPart.mem {x : List Char} (h : ExponentPart D x) : ∀ c ∈ x, NumeralChar D c := by
  cases h with
  | none => simp
  | some he hs hd =>
    intro c hc
    rcases List.mem_cons.mp hc with rfl | hc
    · exact .inr (.inl (by rcases he with rfl | rfl <;> simp [numberMarks]))
    rcases List.mem_append.mp hc with hc | hc
    · exact .inr (.inl (hs.mem c hc))
    · exact .inl (hd.2 c hc)

theorem UnsignedNumber.mem {u : List Char} (h : UnsignedNumber D u) :
    ∀ c ∈ u, NumeralChar D c := by
  cases h with
  | finite hf =>
    obtain ⟨m, x, rfl, hm, hx⟩ := hf
    intro c hc
    rcases List.mem_append.mp hc with hc | hc
    · exact hm.mem c hc
    · exact hx.mem c hc
  | named hn =>
    exact fun c hc => .inr (.inr ⟨_, hn, List.mem_map_of_mem hc⟩)

/-- **Every character of a number is a digit, a mark or a letter of a name.** -/
theorem NumberText.mem {cs : List Char} (h : NumberText D cs) : ∀ c ∈ cs, NumeralChar D c := by
  cases h with
  | mk hs hu =>
    intro c hc
    rcases List.mem_append.mp hc with hc | hc
    · exact .inr (.inl (hs.mem c hc))
    · exact hu.mem c hc

/-- An exponent starts with its mark. -/
theorem ExponentPart.head_mem {x : List Char} (h : ExponentPart D x) :
    ∀ c ∈ x.head?, c = 'e' ∨ c = 'E' := by
  cases h with
  | none => simp
  | some he _ _ => simpa using he

theorem unsignedNumber_iff {cs : List Char} :
    UnsignedNumber D cs ↔ cs.map Char.toLower ∈ specialNames ∨ FiniteNumber D cs := by
  constructor
  · rintro (hf | hn)
    · exact .inr hf
    · exact .inl hn
  · rintro (hn | hf)
    · exact .named hn
    · exact .finite hf

end Grammar

/-! ## Reading ASCII text -/

theorem not_sign_of_isAsciiDigit {c : Char} (h : isAsciiDigit c = true) : c ≠ '+' ∧ c ≠ '-' := by
  constructor <;> (rintro rfl; cases h)

/-- What follows a significand's digits is no digit, nor a point. -/
theorem ExponentPart.stop {x : List Char} (h : ExponentPart isAsciiDigit x) :
    ∀ c ∈ x.head?, isAsciiDigit c = false ∧ c ≠ '.' := by
  intro c hc
  rcases h.head_mem c hc with rfl | rfl <;> decide

theorem point_stop {l : List Char} : ∀ c ∈ ('.' :: l).head?, isAsciiDigit c = false := by
  simp only [List.head?_cons, Option.mem_def, Option.some.injEq, forall_eq']
  decide

theorem exists_sign_takeSign (cs : List Char) : ∃ sg, Sign sg ∧ cs = sg ++ (takeSign cs).2 := by
  unfold takeSign
  split
  · exact ⟨['+'], .plus, rfl⟩
  · exact ⟨['-'], .minus, rfl⟩
  · exact ⟨[], .none, rfl⟩

/-- A sign in front of a text that starts with no sign is split off. -/
theorem takeSign_append {sg u : List Char} (hs : Sign sg)
    (hu : ∀ c ∈ u.head?, c ≠ '+' ∧ c ≠ '-') : (takeSign (sg ++ u)).2 = u := by
  cases hs with
  | none =>
    cases u with
    | nil => rfl
    | cons c u =>
      obtain ⟨hp, hm⟩ := hu c rfl
      simp [takeSign, hp, hm]
  | plus => rfl
  | minus => rfl

/-- The exponents the reader accepts. -/
theorem readExponent_isSome_iff {x : List Char} :
    (readExponent x).isSome = true ↔ ExponentPart isAsciiDigit x := by
  cases x with
  | nil => simp [readExponent, ExponentPart.none]
  | cons e rest =>
    unfold readExponent
    dsimp only
    constructor
    · intro h
      by_cases he : (e == 'e' || e == 'E') = true
      · rw [if_pos he] at h
        by_cases hd : (!(takeSign rest).2.isEmpty && (takeSign rest).2.all isAsciiDigit) = true
        · obtain ⟨sg, hsg, hrest⟩ := exists_sign_takeSign rest
          simp only [Bool.or_eq_true, beq_iff_eq, Bool.and_eq_true, Bool.not_eq_true',
            List.isEmpty_eq_false_iff, List.all_eq_true] at he hd
          rw [hrest]
          exact .some he hsg hd
        · rw [if_neg hd] at h
          cases h
      · rw [if_neg he] at h
        cases h
    · intro h
      cases h with
      | @some e sg ds he hs hd =>
        have hhead : ∀ c ∈ ds.head?, c ≠ '+' ∧ c ≠ '-' := fun c hc =>
          not_sign_of_isAsciiDigit (hd.2 c (List.mem_of_mem_head? hc))
        rw [takeSign_append hs hhead]
        have hd' : (!ds.isEmpty && ds.all isAsciiDigit) = true := by simpa [Digits] using hd
        have he' : (e == 'e' || e == 'E') = true := by simpa using he
        simp [he', hd']

/-- A number with no point after its whole digits. -/
theorem finiteNumber_whole_iff {ds x : List Char} (hds : ∀ c ∈ ds, isAsciiDigit c = true)
    (hx : ∀ c ∈ x.head?, isAsciiDigit c = false ∧ c ≠ '.') :
    FiniteNumber isAsciiDigit (ds ++ x) ↔ ds ≠ [] ∧ ExponentPart isAsciiDigit x := by
  have hxd : ∀ c ∈ x.head?, isAsciiDigit c = false := fun c hc => (hx c hc).1
  constructor
  · rintro ⟨m, x', heq, hm, hx'⟩
    have hstop : ∀ c ∈ x'.head?, isAsciiDigit c = false := fun c hc => (hx'.stop c hc).1
    cases hm with
    | whole hd =>
      obtain ⟨rfl, rfl⟩ := append_eq_append_of_stop hds hd.2 hxd hstop heq
      exact ⟨hd.1, hx'⟩
    | pointed hd _ =>
      rw [List.append_assoc, List.cons_append] at heq
      obtain ⟨-, rfl⟩ := append_eq_append_of_stop hds hd.2 hxd point_stop heq
      exact absurd rfl (hx '.' rfl).2
    | fraction _ =>
      rw [List.cons_append] at heq
      change _ = [] ++ _ at heq
      obtain ⟨-, rfl⟩ := append_eq_append_of_stop hds (by simp) hxd point_stop heq
      exact absurd rfl (hx '.' rfl).2
  · rintro ⟨hne, hx'⟩
    exact ⟨ds, x, rfl, .whole ⟨hne, hds⟩, hx'⟩

/-- A number with a point after its whole digits. -/
theorem finiteNumber_point_iff {ds fs x : List Char} (hds : ∀ c ∈ ds, isAsciiDigit c = true)
    (hfs : ∀ c ∈ fs, isAsciiDigit c = true) (hx : ∀ c ∈ x.head?, isAsciiDigit c = false) :
    FiniteNumber isAsciiDigit (ds ++ '.' :: (fs ++ x)) ↔
      (ds ≠ [] ∨ fs ≠ []) ∧ ExponentPart isAsciiDigit x := by
  constructor
  · rintro ⟨m, x', heq, hm, hx'⟩
    have hstop : ∀ c ∈ x'.head?, isAsciiDigit c = false := fun c hc => (hx'.stop c hc).1
    cases hm with
    | whole hd =>
      obtain ⟨-, rfl⟩ := append_eq_append_of_stop hds hd.2 point_stop hstop heq
      exact absurd rfl (hx'.stop '.' rfl).2
    | pointed hd hf =>
      rw [List.append_assoc, List.cons_append] at heq
      obtain ⟨rfl, heq'⟩ := append_eq_append_of_stop hds hd.2 point_stop point_stop heq
      obtain ⟨rfl, rfl⟩ := append_eq_append_of_stop hfs hf hx hstop (List.cons.inj heq').2
      exact ⟨.inl hd.1, hx'⟩
    | fraction hd =>
      rw [List.cons_append] at heq
      change _ = [] ++ _ at heq
      obtain ⟨rfl, heq'⟩ := append_eq_append_of_stop hds (by simp) point_stop point_stop heq
      obtain ⟨rfl, rfl⟩ := append_eq_append_of_stop hfs hd.2 hx hstop (List.cons.inj heq').2
      exact ⟨.inr hd.1, hx'⟩
  · rintro ⟨hne, hx'⟩
    by_cases hds0 : ds = []
    · subst hds0
      exact ⟨'.' :: fs, x, rfl, .fraction ⟨by simpa using hne, hfs⟩, hx'⟩
    · exact ⟨ds ++ '.' :: fs, x, by simp, .pointed ⟨hds0, hds⟩ hfs, hx'⟩

theorem ofList_beq {l t : List Char} {s : String} (hs : s.toList = t) :
    (String.ofList l == s) = decide (l = t) := by
  rw [Bool.eq_iff_iff, beq_iff_eq, decide_eq_true_iff, ← hs]
  constructor
  · rintro rfl
    exact String.toList_ofList.symm
  · rintro rfl
    exact String.ofList_toList

/-- A text splits into its leading ASCII digits and the rest. -/
theorem exists_digits_append (cs : List Char) :
    ∃ ds after, cs = ds ++ after ∧ (∀ c ∈ ds, isAsciiDigit c = true) ∧
      ∀ c ∈ after.head?, isAsciiDigit c = false := by
  refine ⟨_, _, List.takeWhile_append_dropWhile.symm, fun c hc => List.mem_takeWhile_imp hc, ?_⟩
  intro c hc
  have := List.head?_dropWhile_not isAsciiDigit cs
  rw [Option.mem_def.mp hc] at this
  exact this

/-- **The unsigned texts the float reader accepts**: a finite number or a special name in any
case, the digits being ASCII ones. -/
theorem readUnsignedFloat_isSome_iff {neg : Bool} {cs : List Char} :
    (readUnsignedFloat neg cs).isSome = true ↔ UnsignedNumber isAsciiDigit cs := by
  rw [unsignedNumber_iff]
  unfold readUnsignedFloat
  dsimp only
  rw [ofList_beq (t := ['i', 'n', 'f']) rfl,
    ofList_beq (t := ['i', 'n', 'f', 'i', 'n', 'i', 't', 'y']) rfl,
    ofList_beq (t := ['n', 'a', 'n']) rfl]
  by_cases hinf : (decide (cs.map Char.toLower = ['i', 'n', 'f']) ||
      decide (cs.map Char.toLower = ['i', 'n', 'f', 'i', 'n', 'i', 't', 'y'])) = true
  · rw [if_pos hinf]
    simp only [Bool.or_eq_true, decide_eq_true_eq] at hinf
    rcases hinf with h | h <;> simp [specialNames, h]
  rw [if_neg hinf]
  by_cases hnan : decide (cs.map Char.toLower = ['n', 'a', 'n']) = true
  · rw [if_pos hnan]
    simp only [decide_eq_true_eq] at hnan
    simp [specialNames, hnan]
  rw [if_neg hnan]
  have hn : cs.map Char.toLower ∉ specialNames := by
    simp only [Bool.or_eq_true, decide_eq_true_eq, not_or] at hinf hnan
    simp [specialNames, hinf.1, hinf.2, hnan]
  rw [or_iff_right hn]
  obtain ⟨ds, after, rfl, hds, hafter⟩ := exists_digits_append cs
  rw [(takeWhile_append_stop hds hafter).1, (takeWhile_append_stop hds hafter).2]
  split
  · next _ rest =>
    obtain ⟨fs, x, rfl, hfs, hx⟩ := exists_digits_append rest
    simp only [(takeWhile_append_stop hfs hx).1, (takeWhile_append_stop hfs hx).2]
    rw [finiteNumber_point_iff hds hfs hx, ← readExponent_isSome_iff]
    cases readExponent x with
    | none => simp
    | some _ => simp [List.isEmpty_iff, imp_iff_not_or]
  · next _ hpoint =>
    have hstop : ∀ c ∈ after.head?, isAsciiDigit c = false ∧ c ≠ '.' := by
      intro c hc
      refine ⟨hafter c hc, ?_⟩
      rintro rfl
      cases after with
      | nil => cases hc
      | cons c rest =>
        rw [List.head?_cons, Option.mem_def, Option.some.injEq] at hc
        exact hpoint rest (by rw [hc])
    rw [finiteNumber_whole_iff hds hstop, ← readExponent_isSome_iff]
    cases readExponent after with
    | none => simp
    | some _ => simp [List.isEmpty_iff]

/-- An unsigned number starts with a digit, a point or a letter of a name, never with a sign. -/
theorem UnsignedNumber.head_not_sign {u : List Char} (h : UnsignedNumber isAsciiDigit u) :
    ∀ c ∈ u.head?, c ≠ '+' ∧ c ≠ '-' := by
  intro c hc
  cases h with
  | finite hf =>
    obtain ⟨m, x, rfl, hm, -⟩ := hf
    cases hm with
    | whole hd =>
      rw [List.head?_append_of_ne_nil _ hd.1] at hc
      exact not_sign_of_isAsciiDigit (hd.2 c (List.mem_of_mem_head? hc))
    | pointed hd _ =>
      rw [List.append_assoc, List.head?_append_of_ne_nil _ hd.1] at hc
      exact not_sign_of_isAsciiDigit (hd.2 c (List.mem_of_mem_head? hc))
    | fraction _ =>
      rw [List.cons_append, List.head?_cons, Option.mem_def, Option.some.injEq] at hc
      subst hc
      decide
  | named hn =>
    cases u with
    | nil => cases hc
    | cons d u =>
      rw [List.head?_cons, Option.mem_def, Option.some.injEq] at hc
      subst hc
      have hd : d.toLower = 'i' ∨ d.toLower = 'n' := by
        simp only [specialNames, List.map_cons, List.mem_cons, List.cons.injEq,
          List.not_mem_nil, or_false] at hn
        rcases hn with h | h | h
        · exact .inl h.1
        · exact .inl h.1
        · exact .inr h.1
      constructor <;> (rintro rfl; revert hd; decide)

/-- An ASCII text is a number exactly when what follows its sign is an unsigned number. -/
theorem numberText_iff_takeSign {cs : List Char} :
    NumberText isAsciiDigit cs ↔ UnsignedNumber isAsciiDigit (takeSign cs).2 := by
  constructor
  · rintro ⟨hs, hu⟩
    rwa [takeSign_append hs hu.head_not_sign]
  · intro hu
    obtain ⟨sg, hs, hcs⟩ := exists_sign_takeSign cs
    rw [hcs]
    exact .mk hs hu

/-! ## Reading a text as ASCII keeps its grammar -/

theorem asciiNumberChar_eq_mark {c x : Char} (hx : x ∈ numberMarks) :
    asciiNumberChar c = x ↔ c = x := by
  have key : ∀ m ∈ numberMarks, m.toNat < 128 ∧ isAsciiDigit m = false ∧ m ≠ ' ' ∧ m ≠ '?' :=
    forall_mem_numberMarks.mpr (by decide)
  obtain ⟨h₁, h₂, h₃, h₄⟩ := key x hx
  exact asciiNumberChar_eq_iff h₁ h₂ h₃ h₄

theorem asciiNumberChar_mark {x : Char} (hx : x ∈ numberMarks) : asciiNumberChar x = x :=
  (asciiNumberChar_eq_mark hx).mpr rfl

theorem digits_map_iff {l : List Char} :
    Digits isAsciiDigit (l.map asciiNumberChar) ↔ Digits isDecimal l := by
  simp [Digits, isAsciiDigit_asciiNumberChar]

theorem forall_isAsciiDigit_map_iff {l : List Char} :
    (∀ c ∈ l.map asciiNumberChar, isAsciiDigit c = true) ↔ ∀ c ∈ l, isDecimal c = true := by
  simp [isAsciiDigit_asciiNumberChar]

theorem sign_map_iff {l : List Char} : Sign (l.map asciiNumberChar) ↔ Sign l := by
  constructor
  · intro h
    generalize hm : l.map asciiNumberChar = sg at h
    cases h with
    | none =>
      rw [List.map_eq_nil_iff.mp hm]
      exact .none
    | plus =>
      obtain ⟨c, t, rfl, hc, ht⟩ := List.map_eq_cons_iff.mp hm
      rw [asciiNumberChar_eq_mark (by decide)] at hc
      rw [hc, List.map_eq_nil_iff.mp ht]
      exact .plus
    | minus =>
      obtain ⟨c, t, rfl, hc, ht⟩ := List.map_eq_cons_iff.mp hm
      rw [asciiNumberChar_eq_mark (by decide)] at hc
      rw [hc, List.map_eq_nil_iff.mp ht]
      exact .minus
  · intro h
    cases h with
    | none => exact .none
    | plus =>
      rw [List.map_singleton, asciiNumberChar_mark (by decide)]
      exact .plus
    | minus =>
      rw [List.map_singleton, asciiNumberChar_mark (by decide)]
      exact .minus

theorem significand_map_iff {l : List Char} :
    Significand isAsciiDigit (l.map asciiNumberChar) ↔ Significand isDecimal l := by
  constructor
  · intro h
    generalize hm : l.map asciiNumberChar = m at h
    cases h with
    | whole hd =>
      subst hm
      exact .whole (digits_map_iff.mp hd)
    | pointed hd hf =>
      obtain ⟨l₁, l₂, rfl, rfl, h₂⟩ := List.map_eq_append_iff.mp hm
      obtain ⟨p, l₃, rfl, hp, rfl⟩ := List.map_eq_cons_iff.mp h₂
      rw [asciiNumberChar_eq_mark (by decide)] at hp
      subst hp
      exact .pointed (digits_map_iff.mp hd) (forall_isAsciiDigit_map_iff.mp hf)
    | fraction hd =>
      obtain ⟨p, l₁, rfl, hp, rfl⟩ := List.map_eq_cons_iff.mp hm
      rw [asciiNumberChar_eq_mark (by decide)] at hp
      subst hp
      exact .fraction (digits_map_iff.mp hd)
  · intro h
    cases h with
    | whole hd => exact .whole (digits_map_iff.mpr hd)
    | pointed hd hf =>
      rw [List.map_append, List.map_cons, asciiNumberChar_mark (by decide)]
      exact .pointed (digits_map_iff.mpr hd) (forall_isAsciiDigit_map_iff.mpr hf)
    | fraction hd =>
      rw [List.map_cons, asciiNumberChar_mark (by decide)]
      exact .fraction (digits_map_iff.mpr hd)

theorem exponentPart_map_iff {l : List Char} :
    ExponentPart isAsciiDigit (l.map asciiNumberChar) ↔ ExponentPart isDecimal l := by
  constructor
  · intro h
    generalize hm : l.map asciiNumberChar = x at h
    cases h with
    | none =>
      rw [List.map_eq_nil_iff.mp hm]
      exact .none
    | some he hs hd =>
      obtain ⟨e, l₁, rfl, rfl, h₁⟩ := List.map_eq_cons_iff.mp hm
      obtain ⟨l₂, l₃, rfl, rfl, rfl⟩ := List.map_eq_append_iff.mp h₁
      have he' : e = 'e' ∨ e = 'E' := by
        rcases he with he | he
        · exact .inl ((asciiNumberChar_eq_mark (by decide)).mp he)
        · exact .inr ((asciiNumberChar_eq_mark (by decide)).mp he)
      exact .some he' (sign_map_iff.mp hs) (digits_map_iff.mp hd)
  · intro h
    cases h with
    | none => exact .none
    | @some e sg ds he hs hd =>
      have hmark : e ∈ numberMarks := by rcases he with rfl | rfl <;> decide
      rw [List.map_cons, List.map_append, asciiNumberChar_mark hmark]
      exact .some he (sign_map_iff.mpr hs) (digits_map_iff.mpr hd)

theorem finiteNumber_map_iff {l : List Char} :
    FiniteNumber isAsciiDigit (l.map asciiNumberChar) ↔ FiniteNumber isDecimal l := by
  constructor
  · rintro ⟨m, x, hm, hsig, hx⟩
    obtain ⟨l₁, l₂, rfl, rfl, rfl⟩ := List.map_eq_append_iff.mp hm
    exact ⟨l₁, l₂, rfl, significand_map_iff.mp hsig, exponentPart_map_iff.mp hx⟩
  · rintro ⟨m, x, rfl, hsig, hx⟩
    exact ⟨m.map asciiNumberChar, x.map asciiNumberChar, List.map_append,
      significand_map_iff.mpr hsig, exponentPart_map_iff.mpr hx⟩

/-- A text spells a name exactly when it does once read as ASCII. -/
theorem map_toLower_asciiNumberChar_mem {l : List Char} :
    (l.map asciiNumberChar).map Char.toLower ∈ specialNames ↔
      l.map Char.toLower ∈ specialNames := by
  have key : ∀ w ∈ specialNames, ∀ b ∈ w,
      b.toNat < 128 ∧ isAsciiDigit b = false ∧ b ≠ ' ' ∧ b ≠ '?' :=
    forall_mem_specialNames.mpr (by decide)
  have hname : ∀ w ∈ specialNames,
      l.map (Char.toLower ∘ asciiNumberChar) = w ↔ l.map Char.toLower = w := by
    intro w hw
    apply map_eq_iff_of_forall
    intro c b hb
    obtain ⟨h₁, h₂, h₃, h₄⟩ := key w hw b hb
    exact toLower_asciiNumberChar_eq_iff h₁ h₂ h₃ h₄
  rw [List.map_map]
  constructor
  · intro h
    rwa [(hname _ h).mp rfl]
  · intro h
    rwa [(hname _ h).mpr rfl]

theorem unsignedNumber_map_iff {l : List Char} :
    UnsignedNumber isAsciiDigit (l.map asciiNumberChar) ↔ UnsignedNumber isDecimal l := by
  rw [unsignedNumber_iff, unsignedNumber_iff, finiteNumber_map_iff,
    map_toLower_asciiNumberChar_mem]

/-- **Reading a text as ASCII keeps its grammar**, its decimal digits becoming ASCII ones. -/
theorem numberText_map_iff {l : List Char} :
    NumberText isAsciiDigit (l.map asciiNumberChar) ↔ NumberText isDecimal l := by
  constructor
  · intro h
    generalize hm : l.map asciiNumberChar = cs at h
    cases h with
    | mk hs hu =>
      obtain ⟨l₁, l₂, rfl, rfl, rfl⟩ := List.map_eq_append_iff.mp hm
      exact .mk (sign_map_iff.mp hs) (unsignedNumber_map_iff.mp hu)
  · rintro ⟨hs, hu⟩
    rw [List.map_append]
    exact .mk (sign_map_iff.mpr hs) (unsignedNumber_map_iff.mpr hu)

/-! ## Plain numbers -/

theorem isAsciiBlank_toNat {c : Char} (h : isAsciiBlank c = true) :
    c.toNat = 32 ∨ (9 ≤ c.toNat ∧ c.toNat ≤ 13) := by
  simp only [isAsciiBlank, Bool.or_eq_true, beq_iff_eq] at h
  rcases h with (((((rfl | rfl) | rfl) | rfl) | rfl) | rfl) <;> decide

/-- A character read as an ASCII blank is blank. -/
theorem isBlank_of_isAsciiBlank {c : Char} (h : isAsciiBlank (asciiNumberChar c) = true) :
    isBlank c = true := by
  by_cases hc : c.toNat < 128
  · rw [asciiNumberChar_of_lt hc] at h
    have := isAsciiBlank_toNat h
    simp only [isBlank, Bool.or_eq_true, Bool.and_eq_true, decide_eq_true_eq, beq_iff_eq]
    omega
  rcases asciiNumberChar_of_ge (c := c) (by omega) with ⟨-, hb⟩ | ⟨hd, -⟩ | ⟨hq, -⟩
  · exact hb
  · have := isAsciiBlank_toNat h
    rw [isAsciiDigit_iff] at hd
    omega
  · rw [hq] at h
    cases h

theorem toLower_of_isBlank {c : Char} (h : isBlank c = true) : c.toLower = c := by
  apply toLower_of_not_upper
  simp only [isBlank, Bool.or_eq_true, Bool.and_eq_true, decide_eq_true_eq, beq_iff_eq] at h
  omega

/-- No character of a number is blank or an underscore. -/
theorem NumeralChar.not_blank {c : Char} (h : NumeralChar isDecimal c) :
    isBlank c = false ∧ c ≠ '_' := by
  rcases h with hd | hm | ⟨w, hw, hl⟩
  · refine ⟨?_, ?_⟩
    · cases hb : isBlank c with
      | false => rfl
      | true => rw [isDecimal_of_isBlank hb] at hd; cases hd
    · rintro rfl
      revert hd
      decide
  · have key : ∀ m ∈ numberMarks, isBlank m = false ∧ m ≠ '_' :=
      forall_mem_numberMarks.mpr (by decide)
    exact key c hm
  · have key : ∀ w ∈ specialNames, ∀ b ∈ w, isBlank b = false ∧ b ≠ '_' :=
      forall_mem_specialNames.mpr (by decide)
    refine ⟨?_, ?_⟩
    · cases hb : isBlank c with
      | false => rfl
      | true =>
        rw [toLower_of_isBlank hb] at hl
        rw [(key w hw c hl).1] at hb
        cases hb
    · rintro rfl
      exact (key w hw _ hl).2 rfl

/-- Trimming blanks changes nothing on a text with no blank. -/
theorem trimBlanks_of_forall {s : String} (h : ∀ c ∈ s.toList, isBlank c = false) :
    trimBlanks s = s := by
  unfold trimBlanks
  rw [trim_eq_self_iff.mpr ⟨fun c hc => h c (List.mem_of_mem_head? hc),
    fun c hc => h c (List.mem_of_mem_getLast? hc)⟩]
  exact String.ofList_toList

/-- A text with no blank at its ends has, read as ASCII, no ASCII blank at its ends. -/
theorem trimAsciiBlanks_of_trimBlanks {s : String} (h : trimBlanks s = s) :
    trimAsciiBlanks (toAsciiNumberText s.toList) = toAsciiNumberText s.toList := by
  have h' := congrArg String.toList h
  rw [trimBlanks, String.toList_ofList] at h'
  obtain ⟨hhead, hlast⟩ := trim_eq_self_iff.mp h'
  have hends : ∀ c : Char, isBlank c = false → isAsciiBlank (asciiNumberChar c) = false := by
    intro c hc
    cases hb : isAsciiBlank (asciiNumberChar c) with
    | false => rfl
    | true => rw [isBlank_of_isAsciiBlank hb] at hc; cases hc
  unfold trimAsciiBlanks toAsciiNumberText
  apply trim_eq_self_iff.mpr
  constructor
  · intro c hc
    rw [List.head?_map, Option.mem_def, Option.map_eq_some_iff] at hc
    obtain ⟨a, ha, rfl⟩ := hc
    exact hends a (hhead a ha)
  · intro c hc
    rw [List.getLast?_map, Option.mem_def, Option.map_eq_some_iff] at hc
    obtain ⟨a, ha, rfl⟩ := hc
    exact hends a (hlast a ha)

theorem dropDigitSeparators_go_of_not_mem {cs : List Char} {prev : Char} (hu : '_' ∉ cs)
    (hp : prev ≠ '_') : dropDigitSeparators.go cs prev = some cs := by
  induction cs generalizing prev with
  | nil => simp [dropDigitSeparators.go, hp]
  | cons c cs ih =>
    have hc : c ≠ '_' := fun h => hu (h ▸ List.mem_cons_self)
    have hcs : '_' ∉ cs := fun h => hu (List.mem_cons_of_mem _ h)
    simp [dropDigitSeparators.go, hc, hp, ih hcs hc]

/-- On a text with no underscore and no blank at its ends, the float reader reads the sign and
the unsigned body of the text read as ASCII. -/
theorem readFloat?_of_plain {s : String} (hu : '_' ∉ s.toList) (ht : trimBlanks s = s) :
    readFloat? s = readUnsignedFloat (takeSign (toAsciiNumberText s.toList)).1
      (takeSign (toAsciiNumberText s.toList)).2 := by
  have hu' : '_' ∉ toAsciiNumberText s.toList := by
    have hund : ∀ c, asciiNumberChar c = '_' ↔ c = '_' :=
      fun c => asciiNumberChar_eq_iff (by decide) (by decide) (by decide) (by decide)
    simpa [toAsciiNumberText, hund] using hu
  unfold readFloat?
  rw [dropDigitSeparators, dropDigitSeparators_go_of_not_mem hu' (by decide)]
  dsimp only
  rw [trimAsciiBlanks_of_trimBlanks ht]

theorem readFloat?_isSome_iff_of_plain {s : String} (hu : '_' ∉ s.toList)
    (ht : trimBlanks s = s) : (readFloat? s).isSome = true ↔ NumberText isDecimal s.toList := by
  rw [readFloat?_of_plain hu ht, readUnsignedFloat_isSome_iff, ← numberText_iff_takeSign,
    toAsciiNumberText, numberText_map_iff]

/-- **The plain numbers are the texts of the grammar**: an optional sign, then digits with an
optional point and digits after it or a point and digits, then an optional exponent; or a sign
and `inf`, `infinity` or `nan` in any case. The digits are the decimal digits of every script. -/
theorem readPlainNumber_isOk_iff {s : String} :
    (readPlainNumber s).isOk = true ↔ NumberText isDecimal s.toList := by
  unfold readPlainNumber
  by_cases hpre : (s.contains '_' || trimBlanks s != s) = true
  · rw [if_pos hpre]
    simp only [Except.isOk, Except.toBool, Bool.false_eq_true, false_iff]
    intro h
    have hchars : ∀ c ∈ s.toList, isBlank c = false ∧ c ≠ '_' :=
      fun c hc => (h.mem c hc).not_blank
    have hu : '_' ∉ s.toList := fun hc => (hchars _ hc).2 rfl
    have ht : trimBlanks s = s := trimBlanks_of_forall fun c hc => (hchars c hc).1
    simp [String.contains_char_eq, hu, ht] at hpre
  · rw [if_neg hpre]
    simp only [Bool.or_eq_true, bne_iff_ne, ne_eq, not_or, not_not] at hpre
    obtain ⟨hu, ht⟩ := hpre
    have hu' : '_' ∉ s.toList := by simpa [String.contains_char_eq] using hu
    rw [← readFloat?_isSome_iff_of_plain hu' ht]
    cases readFloat? s <;> simp [Except.isOk, Except.toBool]

end Number

end AccessLog
