import ApiMocks.Text.Hidden

/-!
# Quoted text in messages

A text in double quotes with every character recognisable: quotes, backslashes and line ends are
escaped, and a character without a visible form stands as its number.
-/

namespace ApiMocks.Text

/-- The digits of a number in lower-case hexadecimal notation. -/
def hexDigits (n : Nat) : List Char := Nat.toDigits 16 n

/-- A character within quotes. -/
def quoteChar (c : Char) : List Char :=
  match c with
  | '\x00' => ['\\', '0']
  | '\t' => ['\\', 't']
  | '\r' => ['\\', 'r']
  | '\n' => ['\\', 'n']
  | '"' => ['\\', '"']
  | '\\' => ['\\', '\\']
  | _ => if isHidden c then ['\\', 'u', '{'] ++ hexDigits c.toNat ++ ['}'] else [c]

/-- The text in quotes. -/
def quoted (s : String) : String := String.ofList ('"' :: s.toList.flatMap quoteChar ++ ['"'])

end ApiMocks.Text
