import ImageFallback.Text.Escaped

/-!
# Quoted text

Messages show a text between double quotes. The double quote and the backslash are written with a
backslash, four controls by a letter or a zero, and every other character that a reader could not
see by its code point in hexadecimal.
-/

namespace ImageFallback.Text

/-- The digits of `n` in base sixteen, in small letters and without leading zeros. -/
def hexDigits (n : Nat) : List Char := Nat.toDigits 16 n

/-- One character of a quoted text. -/
def quotedChar (c : Char) : List Char :=
  if c == '"' || c == '\\' then ['\\', c]
  else if c == Char.ofNat 0 then ['\\', '0']
  else if c == '\t' then ['\\', 't']
  else if c == '\n' then ['\\', 'n']
  else if c == '\r' then ['\\', 'r']
  else if isEscaped c then ['\\', 'u', '\x7b'] ++ hexDigits c.toNat ++ ['\x7d']
  else [c]

/-- The text between double quotes. -/
def quoted (text : String) : String :=
  String.ofList ('"' :: text.toList.flatMap quotedChar ++ ['"'])

end ImageFallback.Text
