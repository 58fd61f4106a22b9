import ApiContract.Decimal.Shortest
import ApiContract.Text.Digits

/-!
# Written doubles

A layout fixes how the shortest digits of a double are written: which leading
exponents are positional, whether a whole number keeps `.0`, and how ties go.
-/

namespace ApiContract

/-- A way of writing doubles.  Leading exponents from `positionalFrom` below
`positionalBelow` are written without an exponent; no bound means all. -/
structure Layout where
  tie : TieRule
  wholeMark : List Char
  positionalFrom : Option Int
  positionalBelow : Option Int

namespace Layout

/-- The point set `scale` digits before the end of `ds`, with zeros as needed. -/
def pointed (ds : List Char) (scale : Nat) : List Char :=
  let padded := List.replicate (scale + 1 - ds.length) '0' ++ ds
  padded.take (padded.length - scale) ++ '.' :: padded.drop (padded.length - scale)

/-- Positional form. -/
def positional (layout : Layout) (d : Decimal) : List Char :=
  match d.exponent with
  | .ofNat e => natText d.coefficient ++ List.replicate e '0' ++ layout.wholeMark
  | .negSucc e => pointed (natText d.coefficient) (e + 1)

/-- Exponent form: one digit, the rest after a point, the exponent with its sign. -/
def scientific (d : Decimal) (lead : Int) : List Char :=
  let exponent := (if lead < 0 then '-' else '+') :: natText lead.natAbs
  match natText d.coefficient with
  | [] => []
  | [c] => c :: 'e' :: exponent
  | c :: rest => c :: '.' :: rest ++ 'e' :: exponent

/-- Whether a leading exponent is written positionally. -/
def isPositional (layout : Layout) (lead : Int) : Bool :=
  layout.positionalFrom.all (fun low => decide (low ≤ lead)) &&
    layout.positionalBelow.all (fun high => decide (lead < high))

/-- The written form of a double. -/
def write (layout : Layout) (x : Binary64) : List Char :=
  let d := Decimal.shortest layout.tie x.rank
  let lead := d.exponent + ((natText d.coefficient).length - 1 : Nat)
  let unsigned := if layout.isPositional lead then layout.positional d else scientific d lead
  if x.negative then '-' :: unsigned else unsigned

end Layout

/-- Numbers in messages and canonical texts: always positional, whole numbers without `.0`. -/
def Layout.plain : Layout := ⟨.up, [], none, none⟩

/-- Numbers in JSON texts: positional from `0.00001` to below `1e16`, whole numbers with `.0`. -/
def Layout.json : Layout := ⟨.toEven, ['.', '0'], some (-5), some 16⟩

end ApiContract
