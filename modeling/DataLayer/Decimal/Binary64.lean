/-!
Numbers of the binary64 format: the one nearest to a decimal, and the shortest decimal that reads
back as a given one. All arithmetic is exact, on naturals.
-/

namespace DataLayer.Decimal

/-- The value `mantissa · 2 ^ exponent`. -/
structure Binary64 where
  mantissa : Nat
  exponent : Int
  deriving DecidableEq, Repr

namespace Binary64

def zero : Binary64 := ⟨0, -1074⟩

/-- A quotient rounded to the nearest natural, halves to the even one. -/
def roundDiv (num den : Nat) : Nat :=
  let q := num / den
  let r := num % den
  if 2 * r < den then q else if den < 2 * r then q + 1 else q + q % 2

/-- A fraction scaled by a power of a base. -/
def scale (base num den : Nat) (e : Int) : Nat × Nat :=
  if 0 ≤ e then (num * base.pow e.toNat, den) else (num, den * base.pow (-e).toNat)

/-- The mantissa of `num / den` in units of `2 ^ q`. -/
def mantissaAt (num den : Nat) (q : Int) : Nat :=
  let s := scale 2 num den (-q)
  roundDiv s.1 s.2

/-- The number nearest to `digits · 10 ^ e`, unless it lies beyond the largest one. -/
def nearest? (digits : Nat) (e : Int) : Option Binary64 :=
  if digits = 0 then some zero
  else
    let (num, den) := scale 10 digits 1 e
    let guess : Int := max ((num.log2 : Int) - den.log2 - 53) (-1074)
    let q := if Nat.pow 2 53 ≤ mantissaAt num den guess then guess + 1 else guess
    let m := mantissaAt num den q
    let (m, q) := if m = Nat.pow 2 53 then (Nat.pow 2 52, q + 1) else (m, q)
    if 971 < q then none else some ⟨m, q⟩

/-- Whether `num / den` lies among the reals that round to `x`. -/
def roundsTo (x : Binary64) (num den : Nat) : Bool :=
  let unit := scale 2 1 1 (x.exponent - 2)
  let low := if x.mantissa = Nat.pow 2 52 && x.exponent != -1074 then 4 * x.mantissa - 1
    else 4 * x.mantissa - 2
  let high := 4 * x.mantissa + 2
  let below := low * unit.1 * den
  let above := high * unit.1 * den
  let here := num * unit.2
  if x.mantissa % 2 = 0 then below ≤ here && here ≤ above else below < here && here < above

/-- The exponent `k` with `10 ^ (k - 1) ≤ num / den < 10 ^ k`. -/
def decimalExponent (num den : Nat) : Int :=
  let a : Int := ((Nat.toDigits 10 num).length : Int) - (Nat.toDigits 10 den).length
  let s := scale 10 1 1 a
  if num * s.2 < s.1 * den then a else a + 1

/-- The nearer of the two decimals with unit `10 ^ g` around `num / den` that round to `x`. -/
def onGrid? (x : Binary64) (num den : Nat) (g : Int) : Option Nat :=
  let s := scale 10 num den (-g)
  let d := s.1 / s.2
  let fits := fun n => let t := scale 10 n 1 g; n ≠ 0 && roundsTo x t.1 t.2
  let nearest := roundDiv s.1 s.2
  if fits nearest then some nearest
  else if fits d then some d
  else if fits (d + 1) then some (d + 1)
  else none

/-- Tries units from coarse to fine. -/
def search (x : Binary64) (num den : Nat) : Nat → Int → Nat × Int
  | 0, g => ((scale 10 num den (-g)).1 / (scale 10 num den (-g)).2, g)
  | tries + 1, g =>
    match onGrid? x num den g with
    | some d => (d, g)
    | none => search x num den tries (g - 1)

/-- The digits `d` and the exponent `g` of the shortest decimal `d · 10 ^ g` that reads back as `x`,
and of those the nearest to it. -/
def shortest (x : Binary64) : Nat × Int :=
  if x.mantissa = 0 then (0, 0)
  else
    let v := scale 2 x.mantissa 1 x.exponent
    search x v.1 v.2 17 (decimalExponent v.1 v.2 - 1)

end Binary64

/-- How a decimal is written. -/
structure Layout where
  /-- Exponents of the leading digit from this one on are written positionally, … -/
  firstPositional : Int
  /-- … up to this one. -/
  lastPositional : Int

/-- Digits without zeros at the end, and the exponent that makes up for them. -/
def dropZeros (digits : List Char) (g : Int) : List Char × Int :=
  let kept := (digits.reverse.dropWhile (· == '0')).reverse
  (kept, g + (digits.length - kept.length : Nat))

/-- A positive decimal `d · 10 ^ g`, always with a point or an exponent. -/
def Layout.write (layout : Layout) (d : Nat) (g : Int) : String :=
  let (digits, g) := dropZeros (Nat.toDigits 10 d) g
  let lead : Int := g + digits.length - 1
  if layout.firstPositional ≤ lead && lead ≤ layout.lastPositional then
    if lead < 0 then "0." ++ String.ofList (List.replicate (-lead - 1).toNat '0' ++ digits)
    else
      let whole := (lead + 1).toNat
      let padded := digits ++ List.replicate (whole - digits.length) '0'
      let fraction := padded.drop whole
      String.ofList (padded.take whole) ++ "." ++
        (if fraction.isEmpty then "0" else String.ofList fraction)
  else
    let mantissa := match digits with
      | [] => "0"
      | [c] => String.ofList [c]
      | c :: rest => String.ofList (c :: '.' :: rest)
    mantissa ++ "e" ++ (if lead < 0 then "-" else "+") ++ toString lead.natAbs

end DataLayer.Decimal
