import Timetable.Value

/-! Documents in JSON notation, read into loose values.

A number with a fraction or an exponent is a double, any other number an integer. The entries of an
object keep their order.
-/

set_option autoImplicit false

namespace Timetable.Document

def skipBlanks (text : List Char) : List Char :=
  text.dropWhile fun c => c = ' ' || c = '\n' || c = '\r' || c = '\t'

def hexDigit? (c : Char) : Option Nat :=
  if '0' ≤ c ∧ c ≤ '9' then some (c.toNat - '0'.toNat)
  else if 'a' ≤ c ∧ c ≤ 'f' then some (c.toNat - 'a'.toNat + 10)
  else if 'A' ≤ c ∧ c ≤ 'F' then some (c.toNat - 'A'.toNat + 10)
  else none

def unit? : List Char → Option (Nat × List Char)
  | a :: b :: c :: d :: rest => do
    let a ← hexDigit? a
    let b ← hexDigit? b
    let c ← hexDigit? c
    let d ← hexDigit? d
    some (((a * 16 + b) * 16 + c) * 16 + d, rest)
  | _ => none

def escapedChar? (text : List Char) : Option (Char × List Char) := do
  let (first, rest) ← unit? text
  if 0xd800 ≤ first ∧ first < 0xdc00 then
    match rest with
    | '\\' :: 'u' :: rest =>
      let (second, rest) ← unit? rest
      -- A unit of the upper range needs one of the lower range after it.
      if 0xdc00 ≤ second ∧ second < 0xe000 then
        some (Char.ofNat (0x10000 + (first - 0xd800) * 0x400 + (second - 0xdc00)), rest)
      else none
    | _ => none
  else some (Char.ofNat first, rest)

def string? (read : List Char) : Nat → List Char → Option (String × List Char)
  | 0, _ => none
  | fuel + 1, text =>
    match text with
    | '"' :: rest => some (String.ofList read.reverse, rest)
    | '\\' :: 'u' :: rest =>
      match escapedChar? rest with
      | some (c, rest) => string? (c :: read) fuel rest
      | none => none
    | '\\' :: c :: rest =>
      match c with
      | 'n' => string? ('\n' :: read) fuel rest
      | 't' => string? ('\t' :: read) fuel rest
      | 'r' => string? ('\r' :: read) fuel rest
      | 'b' => string? ('\x08' :: read) fuel rest
      | 'f' => string? ('\x0c' :: read) fuel rest
      | '"' | '\\' | '/' => string? (c :: read) fuel rest
      | _ => none
    | c :: rest => string? (c :: read) fuel rest
    | [] => none

def exponent? : List Char → Option (Int × List Char)
  | c :: rest =>
    if c = 'e' ∨ c = 'E' then
      let (negative, rest) : Bool × List Char :=
        match rest with
        | '-' :: rest => (true, rest)
        | '+' :: rest => (false, rest)
        | rest => (false, rest)
      let digits := rest.takeWhile Text.isPlainDigit
      (Text.plainNumber? digits).map fun n =>
        (if negative then -(n : Int) else n, rest.dropWhile Text.isPlainDigit)
    else none
  | [] => none

def number? (negative : Bool) (text : List Char) : Option (Value × List Char) := do
  let whole := text.takeWhile Text.isPlainDigit
  let rest := text.dropWhile Text.isPlainDigit
  let n ← Text.plainNumber? whole
  let (fraction, rest) : List Char × List Char :=
    match rest with
    | '.' :: rest => (rest.takeWhile Text.isPlainDigit, rest.dropWhile Text.isPlainDigit)
    | rest => ([], rest)
  let exponent := exponent? rest
  if fraction.isEmpty && exponent.isNone then
    some (.int (if negative then -(n : Int) else n), rest)
  else
    let (power, rest) := exponent.getD (0, rest)
    let digits := Text.numberFrom n fraction
    some (.float (Binary64.ofDecimal negative digits (power - fraction.length)), rest)

mutual

def value? : Nat → List Char → Option (Value × List Char)
  | 0, _ => none
  | fuel + 1, text =>
    match skipBlanks text with
    | 'n' :: 'u' :: 'l' :: 'l' :: rest => some (.null, rest)
    | 't' :: 'r' :: 'u' :: 'e' :: rest => some (.bool true, rest)
    | 'f' :: 'a' :: 'l' :: 's' :: 'e' :: rest => some (.bool false, rest)
    | '"' :: rest => (string? [] (rest.length + 1) rest).map fun (s, rest) => (.text s, rest)
    | '[' :: rest =>
      match skipBlanks rest with
      | ']' :: rest => some (.list [], rest)
      | rest => (items? fuel rest).map fun (items, rest) => (.list items, rest)
    | '{' :: rest =>
      match skipBlanks rest with
      | '}' :: rest => some (.mapping [], rest)
      | rest => (entries? fuel rest).map fun (entries, rest) => (Value.ofEntries entries, rest)
    | '-' :: rest => number? true rest
    | text => number? false text

def items? : Nat → List Char → Option (List Value × List Char)
  | 0, _ => none
  | fuel + 1, text =>
    match value? fuel text with
    | none => none
    | some (item, rest) =>
      match skipBlanks rest with
      | ',' :: rest => (items? fuel rest).map fun (items, rest) => (item :: items, rest)
      | ']' :: rest => some ([item], rest)
      | _ => none

def entries? : Nat → List Char → Option (List (Value × Value) × List Char)
  | 0, _ => none
  | fuel + 1, text =>
    match skipBlanks text with
    | '"' :: rest =>
      match string? [] (rest.length + 1) rest with
      | none => none
      | some (key, rest) =>
        match skipBlanks rest with
        | ':' :: rest =>
          match value? fuel rest with
          | none => none
          | some (value, rest) =>
            match skipBlanks rest with
            | ',' :: rest =>
              (entries? fuel rest).map fun (entries, rest) => ((.text key, value) :: entries, rest)
            | '}' :: rest => some ([(.text key, value)], rest)
            | _ => none
        | _ => none
    | _ => none

end

def read? (document : String) : Option Value :=
  let text := document.toList
  match value? (text.length + 1) text with
  | some (value, rest) => if (skipBlanks rest).isEmpty then some value else none
  | none => none

end Timetable.Document
