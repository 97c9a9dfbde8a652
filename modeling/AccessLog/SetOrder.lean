import AccessLog.Value

/-!
# The order of a set's members

A set keeps its members in an open-addressing table of `2^k` slots (eight at first) and is
visited in slot order, so the order in which a set shows its members is fixed by their hashes and
by the history of the table.

* **Hashes of numbers.** A number `(-1)^s · m · 2^e` hashes to `m · 2^e` reduced modulo the
  prime `P = 2^61 - 1`, a negative power of two counting as the inverse of the positive one (that
  is `2^(e mod 61)`, since `2^61 ≡ 1`), with the sign put back; `-1` is moved to `-2`. Booleans
  are `0` and `1`, integers and floats of equal value hash alike, and an infinity is `±314159`.
  Other values (text, bytes, dates, `None`, NaN) have hashes that change from run to run, and a
  set holding one keeps the order its members were given in.
* **Probing.** A hash, read as an unsigned 64-bit number `h`, starts at slot `h mod 2^k`. Each
  round looks at that slot and, when the nine after it lie inside the table, at those too; the
  first empty slot takes the member. Otherwise the perturbation (at first `h`) is shifted right by
  five bits and the next round starts at `5 i + 1 + perturbation`, modulo the table size.
* **Growth.** After a member fills a new slot, a table whose filled slots reach three fifths of
  `2^k - 1` is rebuilt with the least size (at least eight) above four times its members, or twice
  above fifty thousand members, the old members being placed again in slot order.
* **Building from a mapping.** A set filled from a mapping of `n` keys is first rebuilt for
  `2 n` members when `5 n` reaches three times `2^k - 1`, and then takes the keys in order.
-/

namespace AccessLog

open AccessLog.Number

/-- The modulus of hashes of numbers, the prime `2^61 - 1`. -/
def hashModulus : Nat := Nat.pow 2 61 - 1

/-- The hash of the number `(-1)^neg · m · 2^e`. -/
def numberHash (neg : Bool) (m : Nat) (e : Int) : Int :=
  let r := m % hashModulus * Nat.pow 2 (e % 61).toNat % hashModulus
  let h : Int := if neg then -(r : Int) else r
  if h == -1 then -2 else h

/-- The hash of a value when it does not change from run to run: booleans, integers and floats
other than NaN. -/
def Value.stableHash? : Value → Option Int
  | .bool b => some (if b then 1 else 0)
  | .int i => some (numberHash (i < 0) i.natAbs 0)
  | .float x =>
    match view x with
    | .finite neg m e => some (numberHash neg m e)
    | .infinity neg => some (if neg then -314159 else 314159)
    | .nan => Option.none
  | _ => Option.none

/-- The hash as an unsigned 64-bit number. -/
def unsignedHash (h : Int) : Nat := (h % (Nat.pow 2 64 : Int)).toNat

/-- A set's table: each slot empty or holding a member and its unsigned hash. -/
structure SetTable where
  /-- The slots, `2^k` of them. -/
  slots : Array (Option (Value × Nat))
  /-- The number of filled slots. -/
  used : Nat := 0
  deriving Inhabited

/-- The first empty slot of the probe sequence from slot `i` with perturbation `perturb`, in a
table with the given last index; `none` when the fuel runs out. Once the perturbation is zero,
which takes at most thirteen rounds, the starts `i ↦ 5 i + 1` run through every slot of a table
of `2^k` slots, so thirteen rounds more than the size always find the empty slot a table that is
never full has. -/
def probeSlot (slots : Array (Option (Value × Nat))) (mask : Nat) :
    (fuel : Nat) → (i perturb : Nat) → Option Nat
  | 0, _, _ => none
  | fuel + 1, i, perturb =>
    let run := if i + 9 ≤ mask then List.range' i 10 else [i]
    match run.find? fun j => (slots.getD j none).isNone with
    | some j => some j
    | none =>
      let perturb := perturb / 32
      probeSlot slots mask fuel ((i * 5 + 1 + perturb) % (mask + 1)) perturb

/-- Places a member, known to be absent, in its slot. -/
def SetTable.place (t : SetTable) (x : Value) (h : Nat) : SetTable :=
  let mask := t.slots.size - 1
  match probeSlot t.slots mask (t.slots.size + 14) (h % t.slots.size) h with
  | some j => { slots := t.slots.set! j (some (x, h)), used := t.used + 1 }
  | none => t

/-- The least table size, at least eight, above `n`. -/
def tableSize (n : Nat) : Nat := go n 8
where
  /-- Doubles `size` until it exceeds `n`, at most `fuel` times. -/
  go : (fuel : Nat) → (size : Nat) → Nat
    | 0, size => size
    | fuel + 1, size => if n < size then size else go fuel (2 * size)

/-- An empty table of the given size. -/
def SetTable.empty (size : Nat) : SetTable := { slots := Array.replicate size none }

/-- The table rebuilt with the least size above `n`, the members placed again in slot order. -/
def SetTable.resize (t : SetTable) (n : Nat) : SetTable :=
  t.slots.foldl (fun acc slot =>
    match slot with
    | some (x, h) => acc.place x h
    | none => acc) (SetTable.empty (tableSize n))

/-- Adds a member, known to be absent, and grows the table when it is three fifths full. -/
def SetTable.add (t : SetTable) (x : Value) (h : Nat) : SetTable :=
  let t := t.place x h
  let mask := t.slots.size - 1
  if t.used * 5 < mask * 3 then t
  else t.resize (if t.used > 50000 then t.used * 2 else t.used * 4)

/-- The members of a table in slot order. -/
def SetTable.members (t : SetTable) : List Value :=
  t.slots.toList.filterMap fun slot => slot.map (·.1)

/-- The order in which a set filled from the distinct keys `xs` of a mapping shows them: slot
order when every key has a stable hash, else the order of the keys. -/
def setOrder (xs : List Value) : List Value :=
  match xs.mapM Value.stableHash? with
  | none => xs
  | some hs =>
    let start := SetTable.empty 8
    let start := if xs.length * 5 ≥ 7 * 3 then start.resize (xs.length * 2) else start
    ((xs.zip hs).foldl (fun t (x, h) => t.add x (unsignedHash h)) start).members

end AccessLog
