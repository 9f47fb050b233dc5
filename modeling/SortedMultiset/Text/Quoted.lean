import SortedMultiset.Text.Printable

/-!
# Quoted texts

A quoted text stands between double quotes.  The quote, the backslash and the common controls have an
escape of their own; every other character that is not shown as it is becomes its code point in
hexadecimal digits.
-/

namespace SortedMultiset

/-- A code point in hexadecimal digits. -/
def hexDigits (n : Nat) : String := String.ofList (Nat.toDigits 16 n)

/-- A character as it stands inside a quoted text. -/
def escapeChar (c : Char) : String :=
  if c = '\x00' then "\\0"
  else if c = '\t' then "\\t"
  else if c = '\n' then "\\n"
  else if c = '\r' then "\\r"
  else if c = '\x22' then "\\\""
  else if c = '\\' then "\\\\"
  else if isPrintable c then c.toString
  else "\\u\x7b" ++ hexDigits c.toNat ++ "\x7d"

/-- A text between quotes. -/
def quote (s : String) : String :=
  "\"" ++ String.join (s.toList.map escapeChar) ++ "\""

end SortedMultiset
