import ClusterAudit.Text.Printable

/-!
# Quoted text

Text is quoted in single quotes, or in double quotes when it holds a single quote and no double
quote.  Inside, a backslash and the chosen quote are escaped by a backslash, line feed, carriage
return and tab have escapes of one letter, and every other character that is not printable is
written by its code point in two, four or eight hexadecimal digits.
-/

namespace ClusterAudit.Text

/-- The hexadecimal digits of a number, padded with zeros to a width. -/
def hexadecimal (width n : Nat) : String :=
  let digits := Nat.toDigits 16 n
  String.ofList (List.replicate (width - digits.length) '0' ++ digits)

def hexValue? (c : Char) : Option Nat :=
  if c.isDigit then some (c.toNat - '0'.toNat)
  else if 'a' ≤ c && c ≤ 'f' then some (c.toNat - 'a'.toNat + 10)
  else if 'A' ≤ c && c ≤ 'F' then some (c.toNat - 'A'.toNat + 10)
  else none

def codePointEscape (c : Char) : String :=
  if c.toNat < 0x100 then "\\x" ++ hexadecimal 2 c.toNat
  else if c.toNat < 0x10000 then "\\u" ++ hexadecimal 4 c.toNat
  else "\\U" ++ hexadecimal 8 c.toNat

def quotedChar (quote c : Char) : String :=
  if c = quote || c = '\\' then String.ofList ['\\', c]
  else if c = '\n' then "\\n"
  else if c = '\r' then "\\r"
  else if c = '\t' then "\\t"
  else if isPrintable c then String.singleton c
  else codePointEscape c

def quoteOf (text : String) : Char :=
  if text.contains '\'' && !text.contains '"' then '"' else '\''

def quoted (text : String) : String :=
  let quote := quoteOf text
  String.singleton quote ++ String.join (text.toList.map (quotedChar quote)) ++
    String.singleton quote

end ClusterAudit.Text
