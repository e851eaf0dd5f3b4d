/-!
# Response statuses

Status codes are numbers up to 65535, which a word of 16 bits can hold; a response key names one,
with `default` standing for 200.
Main definitions: `Status.ofKey?`, `Status.isSuccess`, `Status.isError`.
-/

namespace ApiMocks

/-- A response status code. -/
abbrev Status := Nat

namespace Status

/-- The largest code that a response key can name: the largest word of 16 bits. -/
def limit : Nat := 65535

/-- The response key that stands in for every status not declared. -/
def defaultKey : String := "default"

/-- The codes 200 to 299. -/
def isSuccess (s : Status) : Bool := 200 ≤ s && s < 300

/-- The codes from 400 on. -/
def isError (s : Status) : Bool := 400 ≤ s

/-- The product of two words, unless it is larger than a word can be. -/
def mul? (a b : UInt16) : Option UInt16 :=
  if a.toNat * b.toNat ≤ limit then some (a * b) else none

/-- The sum of two words, unless it is larger than a word can be. -/
def add? (a b : UInt16) : Option UInt16 :=
  if a.toNat + b.toNat ≤ limit then some (a + b) else none

/-- The word of an ASCII digit. -/
def digit (d : Char) : UInt16 := .ofNat (d.toNat - '0'.toNat)

/-- The word with one more digit behind its digits. -/
def push? (n : UInt16) (d : Char) : Option UInt16 := do
  let tens ← mul? n 10
  add? tens (digit d)

/-- Reads digits behind those of a word; nothing is read past a digit that does not fit. -/
def readDigits? (n : UInt16) : List Char → Option UInt16
  | [] => some n
  | d :: rest => do
    let next ← push? n d
    readDigits? next rest

/-- The value of a run of ASCII digits; `none` for the empty run, for any other character and for
a value that does not fit a word. -/
def digitsValue? (ds : List Char) : Option UInt16 :=
  if ds.isEmpty || !ds.all Char.isDigit then none else readDigits? 0 ds

/-- The status that a response key names: 200 for `default`, else the value of a run of digits,
with any number of leading zeros, that is within the limit. -/
def ofKey? (key : String) : Option Status :=
  if key = defaultKey then some 200 else (digitsValue? key.toList).map UInt16.toNat

end Status

end ApiMocks
