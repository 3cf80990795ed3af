import Timetable.Text.Printable

/-! Quoted literals of texts and of byte strings.

A literal stands in single quotes, unless it holds a single quote and no double one. The quote it
stands in, the backslash and every hidden character are escaped.
-/

set_option autoImplicit false

namespace Timetable.Text

def hexadecimal (width n : Nat) : List Char :=
  let digits := Nat.toDigits 16 n
  List.replicate (width - digits.length) '0' ++ digits

def numericEscape (c : Char) : List Char :=
  let n := c.toNat
  if n < 0x100 then '\\' :: 'x' :: hexadecimal 2 n
  else if n < 0x10000 then '\\' :: 'u' :: hexadecimal 4 n
  else '\\' :: 'U' :: hexadecimal 8 n

def escaped (quote c : Char) : List Char :=
  if c = quote ∨ c = '\\' then ['\\', c]
  else if c = '\n' then ['\\', 'n']
  else if c = '\r' then ['\\', 'r']
  else if c = '\t' then ['\\', 't']
  else if isPrintable c then [c]
  else numericEscape c

def quoteFor (text : List Char) : Char :=
  if text.contains '\'' && !text.contains '"' then '"' else '\''

def quoted (text : List Char) : List Char :=
  let quote := quoteFor text
  quote :: (text.flatMap (escaped quote) ++ [quote])

def literal (text : String) : String :=
  String.ofList (quoted text.toList)

def escapedByte (quote : Char) (byte : UInt8) : List Char :=
  let c := Char.ofNat byte.toNat
  if c = quote ∨ c = '\\' then ['\\', c]
  else if c = '\n' then ['\\', 'n']
  else if c = '\r' then ['\\', 'r']
  else if c = '\t' then ['\\', 't']
  else if 0x20 ≤ byte.toNat ∧ byte.toNat < 0x7f then [c]
  else '\\' :: 'x' :: hexadecimal 2 byte.toNat

def byteLiteral (bytes : List UInt8) : String :=
  let quote := quoteFor (bytes.map fun byte => Char.ofNat byte.toNat)
  String.ofList ('b' :: quote :: (bytes.flatMap (escapedByte quote) ++ [quote]))

end Timetable.Text
