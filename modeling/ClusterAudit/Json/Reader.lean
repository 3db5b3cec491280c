import ClusterAudit.Decimal.Reading
import ClusterAudit.Manifest.Value
import ClusterAudit.Text.Surrogates

/-!
# Reading JSON text

A number without a point and without an exponent is an integer, any other one is a floating-point
number; the words for infinity and for what is no number are read as well.  The entries of a map keep
their order, and an entry that is given again has the place of the first one and the value of the
last one.
-/

namespace ClusterAudit.Json

open Manifest

/-- Whether the character may stand between the parts of a value. -/
def isBlank (c : Char) : Bool :=
  c = ' ' || c = '\n' || c = '\t' || c = '\r'

/-- The text without blanks at the front. -/
def skipBlanks (cs : List Char) : List Char :=
  cs.dropWhile isBlank

def afterWord? (word cs : List Char) : Option (List Char) :=
  match word, cs with
  | [], rest => some rest
  | c :: more, d :: rest => if c = d then afterWord? more rest else none
  | _ :: _, [] => none

def hexCode? (digits : List Char) : Option Nat :=
  digits.foldl (fun code c ↦ do return 16 * (← code) + (← Text.hexValue? c)) (some 0)

def escape? (c : Char) : Option Char :=
  match c with
  | '"' | '\\' | '/' => some c
  | 'n' => some '\n'
  | 't' => some '\t'
  | 'r' => some '\r'
  | 'b' => some '\x08'
  | 'f' => some '\x0c'
  | _ => none

/-- Reads what follows an opening quote; `before` holds the code points read so far, the last one
first. -/
def readText (before : List Nat) : List Char → Option (String × List Char)
  | [] => none
  | '"' :: rest => some (String.ofList (Text.ofCodePoints none before.reverse), rest)
  | '\\' :: 'u' :: a :: b :: c :: d :: rest => do
    readText ((← hexCode? [a, b, c, d]) :: before) rest
  | '\\' :: c :: rest => do readText ((← escape? c).toNat :: before) rest
  | c :: rest => readText (c.toNat :: before) rest

/-- Whether the character may occur in a number. -/
def isNumberChar (c : Char) : Bool :=
  c.isDigit || c = '-' || c = '+' || c = '.' || c = 'e' || c = 'E'

def number? (cs : List Char) : Option Scalar :=
  let (negative, body) :=
    match cs with
    | '-' :: rest => (true, rest)
    | _ => (false, cs)
  if body.isEmpty then none
  else if body.all Char.isDigit then some (.int (Text.signed negative (Text.basicNumber body)))
  else (Decimal.read? negative body).map .float

def readScalar (cs : List Char) : Option (Scalar × List Char) :=
  let word (name : String) (s : Scalar) : Option (Scalar × List Char) :=
    (afterWord? name.toList cs).map (s, ·)
  match cs with
  | 't' :: _ => word "true" (.bool true)
  | 'f' :: _ => word "false" (.bool false)
  | 'n' :: _ => word "null" .null
  | 'N' :: _ => word "NaN" (.float Binary64.nan)
  | 'I' :: _ => word "Infinity" (.float (Binary64.infinity false))
  | '-' :: 'I' :: _ => word "-Infinity" (.float (Binary64.infinity true))
  | _ => (number? (cs.takeWhile isNumberChar)).map (·, cs.dropWhile isNumberChar)

mutual

def readValue (fuel : Nat) (cs : List Char) : Option (Value × List Char) :=
  match fuel with
  | 0 => none
  | fuel + 1 =>
    match skipBlanks cs with
    | '"' :: rest => (readText [] rest).map fun (s, after) ↦ (.text s, after)
    | '[' :: rest =>
      match skipBlanks rest with
      | ']' :: after => some (.list [], after)
      | rest => (readElements fuel rest).map fun (xs, after) ↦ (.list xs, after)
    | '\x7b' :: rest =>
      match skipBlanks rest with
      | '\x7d' :: after => some (.map [], after)
      | rest => (readEntries fuel rest).map fun (es, after) ↦ (.map (putAll [] es), after)
    | rest => (readScalar rest).map fun (s, after) ↦ (.scalar s, after)

def readElements (fuel : Nat) (cs : List Char) : Option (List Value × List Char) :=
  match fuel with
  | 0 => none
  | fuel + 1 => do
    let (x, rest) ← readValue fuel cs
    match skipBlanks rest with
    | ',' :: rest => do
      let (xs, after) ← readElements fuel rest
      return (x :: xs, after)
    | ']' :: after => return ([x], after)
    | _ => none

def readEntries (fuel : Nat) (cs : List Char) : Option (List Entry × List Char) :=
  match fuel with
  | 0 => none
  | fuel + 1 =>
    match skipBlanks cs with
    | '"' :: rest => do
      let (name, rest) ← readText [] rest
      let rest ← afterWord? [':'] (skipBlanks rest)
      let (value, rest) ← readValue fuel rest
      match skipBlanks rest with
      | ',' :: rest => do
        let (es, after) ← readEntries fuel rest
        return ((.text name, value) :: es, after)
      | '\x7d' :: after => return ([(.text name, value)], after)
      | _ => none
    | _ => none

end

def read (text : String) : Option Value := do
  let cs := text.toList
  let (value, rest) ← readValue (2 * cs.length + 2) cs
  if (skipBlanks rest).isEmpty then return value else none

end ClusterAudit.Json
