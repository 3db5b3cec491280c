import ClusterAudit.Text.Surrogates
import ClusterAudit.Yaml.Scalar.Gap

/-!
# Quoted scalars

In single quotes a quote is written twice, and everything else stands for itself.  In double quotes
a backslash starts an escape: one letter for a control character, a hexadecimal number for any
character, or the end of the line, which then stands for nothing.  The two halves of a surrogate pair
that are escaped one after the other stand for one character, and a lone half for the replacement
character.  Both styles fold lines, and neither may hold a line that separates documents.
-/

namespace ClusterAudit.Yaml

/-- Reads what follows an opening single quote, up to the closing one. -/
def singleQuoted (before : List Char) (gap : Gap) :
    List Glyph → Except Defect (String × List Glyph)
  | [] => .error .malformed
  | g :: rest =>
    if g.char = '\'' then
      match rest with
      | next :: more =>
        if next.char = '\'' then singleQuoted ('\'' :: (gap.reversed ++ before)) .none more
        else .ok (String.ofList (gap.reversed ++ before).reverse, next :: more)
      | [] => .error .malformed
    else if isSpace g.char then singleQuoted before (gap.addSpace g.char) rest
    else if isBreak g.char then
      if atSeparator rest then .error .malformed
      else singleQuoted before (gap.addBreak g.char) rest
    else if g.char = endMark then .error .malformed
    else singleQuoted (g.char :: (gap.reversed ++ before)) .none rest

def escape? (c : Char) : Option Char :=
  match c with
  | '0' => some '\x00'
  | 'a' => some '\x07'
  | 'b' => some '\x08'
  | 't' | '\t' => some '\t'
  | 'n' => some '\n'
  | 'v' => some '\x0b'
  | 'f' => some '\x0c'
  | 'r' => some '\r'
  | 'e' => some '\x1b'
  | ' ' => some ' '
  | '"' => some '"'
  | '\\' => some '\\'
  | '/' => some '/'
  | 'N' => some '\x85'
  | '_' => some '\xa0'
  | 'L' => some '\u2028'
  | 'P' => some '\u2029'
  | _ => none

/-- The number of hexadecimal digits after the letter of an escape. -/
def escapeLength? (c : Char) : Option Nat :=
  match c with
  | 'x' => some 2
  | 'u' => some 4
  | 'U' => some 8
  | _ => none

def noCodePoint (code : Nat) : Fault :=
  if code < 0x80000000 then .badScalar "chr() arg not in range(0x110000)" else .codeTooLarge

/-- What the reading of a text in double quotes is at. -/
inductive Quoting where
  | text (gap : Gap)
  | escape
  /-- The digits of an escaped number that are to come, and the number so far. -/
  | code (left value : Nat)
deriving DecidableEq, Repr

/-- The code points of a gap and of what stands before it, the last one first. -/
def closeGap (gap : Gap) (before : List Nat) : List Nat :=
  gap.reversed.map Char.toNat ++ before

/-- Reads what follows an opening double quote, up to the closing one. -/
def doubleQuoted (before : List Nat) (state : Quoting) :
    List Glyph → Except Defect (String × List Glyph)
  | [] => .error .malformed
  | g :: rest =>
    match state with
    | .text gap =>
      if g.char = '"' then
        .ok (String.ofList (Text.ofCodePoints none (closeGap gap before).reverse), rest)
      else if isSpace g.char then doubleQuoted before (.text (gap.addSpace g.char)) rest
      else if isBreak g.char then
        if atSeparator rest then .error .malformed
        else doubleQuoted before (.text (gap.addBreak g.char)) rest
      else if g.char = endMark then .error .malformed
      else if g.char = '\\' then doubleQuoted (closeGap gap before) .escape rest
      else doubleQuoted (g.char.toNat :: closeGap gap before) (.text .none) rest
    | .escape =>
      if isBreak g.char then
        if atSeparator rest then .error .malformed
        else doubleQuoted before (.text (.lines none [])) rest
      else
        match escape? g.char, escapeLength? g.char with
        | some c, _ => doubleQuoted (c.toNat :: before) (.text .none) rest
        | none, some left => doubleQuoted before (.code left 0) rest
        | none, none => .error .malformed
    | .code left value =>
      match Text.hexValue? g.char with
      | none => .error .malformed
      | some digit =>
        let code := value * 16 + digit
        if 1 < left then doubleQuoted before (.code (left - 1) code) rest
        else if code < 0x110000 then doubleQuoted (code :: before) (.text .none) rest
        else .error (.fault (noCodePoint code))

end ClusterAudit.Yaml
