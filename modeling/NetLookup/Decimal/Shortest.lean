import NetLookup.Decimal.Binary

/-! # The shortest decimal that reads back

All comparisons are between natural numbers, so no step rounds. -/

namespace NetLookup.Decimal

/-- `digits · 10 ^ scale` -/
structure Scaled where
  digits : Nat
  scale : Int
  deriving DecidableEq, Inhabited

def powerOf10 (n : Nat) : Nat := Nat.pow 10 n

/-- Whether `a · 10 ^ s ≤ b · 2 ^ t`, and whether the two are equal. -/
def scaledPair (a : Nat) (s : Int) (b : Nat) (t : Int) : Nat × Nat :=
  (a * powerOf10 s.toNat * powerOf2 (-t).toNat, b * powerOf2 t.toNat * powerOf10 (-s).toNat)

/-- Whether a decimal lies where every real rounds to `m · 2 ^ q`: up to half the way to either
neighbour, ends included if `m` is even. Below a power of two the neighbour is half as far away. -/
def readsBack (m : Nat) (q : Int) (d : Scaled) : Bool :=
  let below := if m = powerOf2 52 ∧ leastExponent < q then 4 * m - 1 else 4 * m - 2
  let low := scaledPair d.digits d.scale below (q - 2)
  let high := scaledPair d.digits d.scale (4 * m + 2) (q - 2)
  if m % 2 = 0 then low.2 ≤ low.1 && high.1 ≤ high.2 else low.2 < low.1 && high.1 < high.2

/-- The least `k` with `m · 2 ^ q < 10 ^ k`. -/
def decimalExponent (m : Nat) (q : Int) : Int :=
  let guess := (q + m.log2) * 30103 / 100000 - 1
  let fits (k : Int) : Bool :=
    let pair := scaledPair 1 k m q
    pair.2 < pair.1
  ((List.range 4).map fun (i : Nat) => guess + i).find? fits |>.getD (guess + 4)

/-- The decimals with the given scale on either side of `m · 2 ^ q`. -/
def neighbours (m : Nat) (q scale : Int) : Scaled × Scaled :=
  let pair := scaledPair 1 scale m q
  (⟨pair.2 / pair.1, scale⟩, ⟨pair.2 / pair.1 + 1, scale⟩)

/-- Of the two neighbours those that read back; of two such the nearer one, on a tie the even one. -/
def candidate? (m : Nat) (q scale : Int) : Option Scaled :=
  let (low, high) := neighbours m q scale
  let middle := scaledPair (low.digits + high.digits) scale (2 * m) q
  match readsBack m q low, readsBack m q high with
  | true, true =>
    if middle.2 < middle.1 then some low
    else if middle.1 < middle.2 then some high
    else if low.digits % 2 = 0 then some low else some high
  | true, false => some low
  | false, true => some high
  | false, false => none

/-- Zeros at the end of the digits go into the scale. -/
def Scaled.stripped : Nat → Scaled → Scaled
  | 0, d => d
  | fuel + 1, d =>
    if d.digits ≠ 0 ∧ d.digits % 10 = 0 then Scaled.stripped fuel ⟨d.digits / 10, d.scale + 1⟩ else d

/-- The decimal with the fewest digits that reads back as `m · 2 ^ q`, for `m` above zero. -/
def shortest (m : Nat) (q : Int) : Scaled :=
  let k := decimalExponent m q
  let found := (List.range 17).findSome? fun (n : Nat) => candidate? m q (k - (n + 1))
  (found.getD ⟨m * Nat.pow 5 (-q).toNat * powerOf2 q.toNat, min q 0⟩).stripped 20

/-! ## Layout -/

def digitsOf (n : Nat) : List Char := Nat.toDigits 10 n

def signed (negative : Bool) (text : List Char) : String :=
  String.ofList (if negative then '-' :: text else text)

/-- Positional from 10 ^ -4 up to below 10 ^ 16, with a digit on either side of the point; otherwise
one digit in front of the point and a signed exponent of at least two digits. -/
def layout (d : Scaled) : List Char :=
  let digits := digitsOf d.digits
  let point := digits.length + d.scale
  if -4 < point ∧ point ≤ 16 then
    if point ≤ 0 then '0' :: '.' :: List.replicate (-point).toNat '0' ++ digits
    else if 0 ≤ d.scale then digits ++ List.replicate d.scale.toNat '0' ++ ['.', '0']
    else digits.take point.toNat ++ '.' :: digits.drop point.toNat
  else
    let exponent := point - 1
    let exponentDigits := digitsOf exponent.natAbs
    digits.take 1 ++ (if digits.length = 1 then [] else '.' :: digits.drop 1)
      ++ 'e' :: (if exponent < 0 then '-' else '+')
      :: (if exponentDigits.length < 2 then '0' :: exponentDigits else exponentDigits)

/-- A number in the fewest digits that identify it. -/
def written (x : Float) : String :=
  match Binary.ofFloat x with
  | .notANumber => "nan"
  | .infinite negative => signed negative "inf".toList
  | .finite negative 0 _ => signed negative "0.0".toList
  | .finite negative m q => signed negative (layout (shortest m q))

end NetLookup.Decimal
