import ClusterAudit.Yaml.Scalar.Gap

/-!
# Plain scalars

A plain scalar has no quotes, so it ends where something else begins: at a colon with a gap behind
it, at a comment, at a tab, at a line that separates documents, and inside brackets also at their
indicators.  Outside brackets it ends as well at a line that is not indented enough.
-/

namespace ClusterAudit.Yaml

/-- Whether the character is an indicator of bracketed collections. -/
def isBracketIndicator (c : Char) : Bool :=
  c = ',' || c = '[' || c = ']' || c = '\x7b' || c = '\x7d'

/-- Whether a character with the given next one can never start or go on with a plain scalar. -/
def endsPlain (bracketed : Bool) (c next : Char) : Bool :=
  c = '\t' || c = endMark ||
    (c = ':' && (isGap next || (bracketed && isBracketIndicator next))) ||
    (bracketed && (c = '?' || isBracketIndicator c))

/-- Whether a plain scalar can start with a character that has the given next one. -/
def startsPlain (bracketed : Bool) (c next : Char) : Bool :=
  (!isGap c && !"-?:,[]\x7b\x7d#&*!|>'\"%@`".contains c) ||
    (!isGap next && (c = '-' || (!bracketed && (c = '?' || c = ':'))))

/-- A plain scalar and what follows it. -/
structure PlainScalar where
  text : String
  rest : List Glyph
  /-- Whether a line end stands between the scalar and what follows it. -/
  crossesLine : Bool

/-- Reads a plain scalar; `least` is the least column of a line that goes on with it. -/
def plain (bracketed : Bool) (least : Int) (before : List Char) (gap : Gap) :
    List Glyph → PlainScalar
  | [] => ⟨String.ofList before.reverse, [], gap.crossesLine⟩
  | g :: rest =>
    if g.char = ' ' then plain bracketed least before (gap.addSpace g.char) rest
    else if isBreak g.char then
      if atSeparator rest then ⟨String.ofList before.reverse, rest, true⟩
      else plain bracketed least before (gap.addBreak g.char) rest
    else if endsPlain bracketed g.char (nextChar rest) ||
        (gap ≠ .none && (g.char = '#' || (!bracketed && (g.column : Int) < least))) then
      ⟨String.ofList before.reverse, g :: rest, gap.crossesLine⟩
    else plain bracketed least (g.char :: (gap.reversed ++ before)) .none rest

end ClusterAudit.Yaml
