import ClusterAudit.Manifest.Access

/-!
# JSON text

Values are written either on one line or with one element or entry a line, two blanks deeper than the
bracket that holds it; a list or a map without parts is a pair of brackets.  Only printable ASCII
characters stand for themselves: the others are escaped, those beyond the first plane by the two
halves of their surrogate pair.  Dates and integers with too many digits have no form.
-/

namespace ClusterAudit.Json

open Manifest

def unitEscape (unit : Nat) : String :=
  "\\u" ++ Text.hexadecimal 4 unit

def quotedChar (c : Char) : String :=
  if c = '"' then "\\\""
  else if c = '\\' then "\\\\"
  else if c = '\n' then "\\n"
  else if c = '\r' then "\\r"
  else if c = '\t' then "\\t"
  else if c = '\x0c' then "\\f"
  else if c = '\x08' then "\\b"
  else if ' ' ≤ c && c ≤ '~' then String.singleton c
  else if c.toNat < 0x10000 then unitEscape c.toNat
  else
    let beyond := c.toNat - 0x10000
    unitEscape (0xd800 + beyond / 0x400) ++ unitEscape (0xdc00 + beyond % 0x400)

def quoted (text : String) : String :=
  "\"" ++ String.join (text.toList.map quotedChar) ++ "\""

def scalar : Scalar → Except Fault String
  | .null => .ok "null"
  | .bool b => .ok (if b then "true" else "false")
  | .int n => Value.display (.int n)
  | .float x => .ok (Decimal.manifestLayout.writeBinary64 "Infinity" "NaN" x)
  | .text s => .ok (quoted s)
  | .date _ => .error .notWritable
  | .moment _ => .error .notWritable

/-- A scalar as a key: a text as it is, any other scalar as the text of its form. -/
def key : Scalar → Except Fault String
  | .text s => .ok (quoted s)
  | s => quoted <$> scalar s

/-- How the parts of values are laid out. -/
inductive Layout where
  | oneLine
  | indented
deriving DecidableEq, Repr

def Layout.lineStart (layout : Layout) (depth : Nat) : String :=
  match layout with
  | oneLine => ""
  | indented => "\n" ++ String.ofList (List.replicate (2 * depth) ' ')

def bracketed (layout : Layout) (opening closing : String) (depth : Nat)
    (items : List String) : String :=
  if items.isEmpty then opening ++ closing
  else
    let start := layout.lineStart (depth + 1)
    opening ++ start ++ ("," ++ start).intercalate items ++ layout.lineStart depth ++ closing

mutual

def writeAt (layout : Layout) (depth : Nat) : Value → Except Fault String
  | .scalar s => scalar s
  | .list xs => do return bracketed layout "[" "]" depth (← writeElements layout (depth + 1) xs)
  | .map es => do
    return bracketed layout "\x7b" "\x7d" depth (← writeEntries layout (depth + 1) es)

def writeElements (layout : Layout) (depth : Nat) : List Value → Except Fault (List String)
  | [] => .ok []
  | x :: rest => do
    let first ← writeAt layout depth x
    let others ← writeElements layout depth rest
    return first :: others

def writeEntries (layout : Layout) (depth : Nat) : List (Scalar × Value) → Except Fault (List String)
  | [] => .ok []
  | (name, value) :: rest => do
    let first ← key name
    let second ← writeAt layout depth value
    let others ← writeEntries layout depth rest
    return (first ++ ": " ++ second) :: others

end

def write (layout : Layout) (value : Value) : Except Fault String :=
  writeAt layout 0 value

end ClusterAudit.Json
