import ApiMocks.Decimal.Double

/-!
# What a plain scalar stands for

The text of a plain scalar is read as nothing, a truth value, an integer or a float if it has one of
their forms, and as text otherwise.

Main definitions: `isNull`, `bool?`, `int?`, `float?`, `Plain.ofText`.
-/

namespace ApiMocks.Yaml

/-- The words for nothing. -/
def isNull (s : String) : Bool := s = "null" || s = "Null" || s = "NULL" || s = "~"

/-- The words for truth values. -/
def bool? (s : String) : Option Bool :=
  if s = "true" || s = "True" || s = "TRUE" then some true
  else if s = "false" || s = "False" || s = "FALSE" then some false
  else none

/-- The value of a digit in some base. -/
def digitValue? (base : Nat) (c : Char) : Option Nat :=
  let value :=
    if c.isDigit then some (c.toNat - '0'.toNat)
    else if 'a' ≤ c && c ≤ 'f' then some (c.toNat - 'a'.toNat + 10)
    else if 'A' ≤ c && c ≤ 'F' then some (c.toNat - 'A'.toNat + 10)
    else none
  value.filter (· < base)

/-- The value of a run of one or more digits in some base. -/
def natOfDigits? (base : Nat) (digits : List Char) : Option Nat :=
  if digits.isEmpty then none
  else digits.foldlM (fun n c => (digitValue? base c).map (base * n + ·)) 0

/-- Whether a text is a run of digits with a leading zero, behind an optional sign. -/
def isZeroPadded (s : List Char) : Bool :=
  let digits := match s with
    | '-' :: rest | '+' :: rest => rest
    | _ => s
  match digits with
  | '0' :: rest => !rest.isEmpty && rest.all Char.isDigit
  | _ => false

/-- The magnitude that is written behind the sign: decimal, or in the base that a letter behind a
zero gives.  `limit` is the least number that is too large. -/
def magnitude? (limit : Nat) (isPadded : Bool) (s : List Char) : Option Nat :=
  let withBase := match s with
    | '0' :: 'x' :: rest => natOfDigits? 16 rest
    | '0' :: 'o' :: rest => natOfDigits? 8 rest
    | '0' :: 'b' :: rest => natOfDigits? 2 rest
    | _ => none
  (withBase <|> if isPadded then none else natOfDigits? 10 s).filter (· < limit)

/-- The integer that a text stands for: at most 128 bits, signed below zero. -/
def int? (s : List Char) : Option Int :=
  let isPadded := isZeroPadded s
  match s with
  | '-' :: rest => (magnitude? (Nat.pow 2 127 + 1) isPadded rest).map fun n => -(n : Int)
  | '+' :: rest => (magnitude? (Nat.pow 2 128) isPadded rest).map (·)
  | _ => (magnitude? (Nat.pow 2 128) isPadded s).map (·)

/-- The number that a decimal text without sign stands for: digits with at most one point, and an
optional exponent. -/
def decimal? (s : List Char) : Option (Nat × Int) :=
  let (whole, rest) := s.span Char.isDigit
  let (fraction, rest) := match rest with
    | '.' :: rest => rest.span Char.isDigit
    | _ => ([], rest)
  let power := match rest with
    | [] => some (0 : Int)
    | c :: rest =>
      if c = 'e' || c = 'E' then
        match rest with
        | '-' :: digits => (natOfDigits? 10 digits).map fun n => -(n : Int)
        | '+' :: digits => (natOfDigits? 10 digits).map (·)
        | digits => (natOfDigits? 10 digits).map (·)
      else none
  match natOfDigits? 10 (whole ++ fraction), power with
  | some digits, some power => some (digits, power - fraction.length)
  | _, _ => none

/-- The double nearest to a decimal.  Powers of ten beyond the doubles are not computed. -/
def nearestDouble (digits : Nat) (power : Int) : Double :=
  let length : Int := (Nat.toDigits 10 digits).length
  if digits = 0 then .ofFloat 0.0
  else if power + length < -400 then .ofFloat 0.0
  else if 400 < power + length then .ofFloat (1.0 / 0.0)
  else .nearest digits power

/-- A float: a finite double, or one of the values without a number. -/
inductive FloatValue
  | finite (d : Double)
  | infinite (isNegative : Bool)
  | undefined

/-- The float that a text stands for.  A number beyond the doubles is no float. -/
def float? (s : String) : Option FloatValue :=
  let chars := s.toList
  let unsigned := match chars with
    | '+' :: rest => rest
    | _ => chars
  let hasTwoSigns := match chars with
    | '+' :: '+' :: _ | '+' :: '-' :: _ => true
    | _ => false
  let isInfinity (s : List Char) : Bool := String.ofList s ∈ [".inf", ".Inf", ".INF"]
  if hasTwoSigns then none
  else if isInfinity unsigned then some (.infinite false)
  else
    let (isNegative, body) := match unsigned with
      | '-' :: rest => (true, rest)
      | _ => (false, unsigned)
    if isNegative && isInfinity body then some (.infinite true)
    else if s ∈ [".nan", ".NaN", ".NAN"] then some .undefined
    else
      match decimal? body with
      | none => none
      | some (digits, power) =>
        let d := nearestDouble digits power
        if d.isFinite then some (.finite (if isNegative then d.neg else d)) else none

/-- What a plain scalar stands for. -/
inductive Plain
  | null
  | bool (b : Bool)
  | int (i : Int)
  | float (x : FloatValue)
  | text (s : String)

/-- Reads a plain scalar.  Digits with a leading zero are text. -/
def Plain.ofText (s : String) : Plain :=
  if s.isEmpty || isNull s then null
  else
    match bool? s, int? s.toList with
    | some b, _ => bool b
    | none, some i => int i
    | none, none =>
      match if isZeroPadded s.toList then none else float? s with
      | some x => float x
      | none => text s

end ApiMocks.Yaml
