import CloudInventory.Binary64.Decimal

/-!
Reading a floating-point number as a person writes it: an optional sign; `inf`, `infinity` or `nan`
in letters of either case; or digits with a point before, between or after them and an optional
power of ten.
-/
namespace CloudInventory.Binary64

/-- The power of ten after the digits, zero when there is none. -/
def powerText? : List Char → Option Int
  | [] => some 0
  | c :: rest =>
    if c = 'e' ∨ c = 'E' then
      let (negative, digits) :=
        match rest with
        | '-' :: rest => (true, rest)
        | '+' :: rest => (false, rest)
        | rest => (false, rest)
      if digits.isEmpty || !digits.all Char.isDigit then none
      else
        let n : Int := Decimal.ofDigits digits
        some (if negative then -n else n)
    else none

/-- A numeral without its sign; at least one digit stands before or after the point. -/
def unsignedText? (negative : Bool) (cs : List Char) : Option Binary64 :=
  let (whole, rest) := cs.span Char.isDigit
  let (fraction, rest) :=
    match rest with
    | '.' :: rest => rest.span Char.isDigit
    | rest => ([], rest)
  if whole.isEmpty && fraction.isEmpty then none
  else
    let coefficient := Decimal.ofDigits (whole ++ fraction)
    (powerText? rest).map (fun power =>
      (Decimal.mk negative coefficient (power - fraction.length)).toBinary64)

/-- A word for what is not finite, or a numeral. -/
def wordText? (negative : Bool) (cs : List Char) : Option Binary64 :=
  let word := String.ofList (cs.map Char.toLower)
  if word = "inf" ∨ word = "infinity" then some (infinity negative)
  else if word = "nan" then some (ofMagnitude negative nan.magnitude)
  else unsignedText? negative cs

def ofText? (s : String) : Option Binary64 :=
  match s.toList with
  | '-' :: rest => wordText? true rest
  | '+' :: rest => wordText? false rest
  | cs => wordText? false cs

end CloudInventory.Binary64
