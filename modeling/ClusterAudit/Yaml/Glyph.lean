import ClusterAudit.Yaml.Library

/-!
# Characters of a document stream

A stream is read as characters with their places.  The stream ends with a null character, which no
readable stream holds, so that every reading function sees what comes next even at the end.  A
character has a place of its own, but a byte order mark takes no column.
-/

namespace ClusterAudit.Yaml

/-- A character with its place. -/
structure Glyph where
  char : Char
  index : Nat
  line : Nat
  column : Nat
deriving DecidableEq, Repr

/-- The character after the last one. -/
def endMark : Char := '\x00'

/-- The byte order mark. -/
def byteOrderMark : Char := '\ufeff'

def isBreak (c : Char) : Bool :=
  c = '\n' || c = '\x85' || c = '\u2028' || c = '\u2029'

def isSpace (c : Char) : Bool :=
  c = ' ' || c = '\t'

def isLineEnd (c : Char) : Bool :=
  isBreak c || c = endMark

def isGap (c : Char) : Bool :=
  isSpace c || isLineEnd c

/-- Whether the character may occur in a stream. -/
def isReadable (c : Char) : Bool :=
  c = '\t' || c = '\n' || c = '\r' || c = '\x85' || (' ' ≤ c && c ≤ '~') ||
    ('\xa0' ≤ c && c ≠ '\ufffe' && c ≠ '\uffff')

def lineEndOf (c : Char) : Char :=
  if c = '\u2028' || c = '\u2029' then c else '\n'

/-- The characters with their places from the given one on, and the end mark. -/
def placed (index line column : Nat) : List Char → List Glyph
  | [] => [⟨endMark, index, line, column⟩]
  | c :: rest =>
    ⟨c, index, line, column⟩ ::
      if isBreak c then placed (index + 1) (line + 1) 0 rest
      else if c = byteOrderMark then placed (index + 1) line column rest
      else placed (index + 1) line (column + 1) rest

def nextChar : List Glyph → Char
  | [] => endMark
  | g :: _ => g.char

/-- Whether a document marker of three equal characters stands next. -/
def startsWithThree (mark : Char) : List Glyph → Bool
  | a :: b :: c :: rest => a.char = mark && b.char = mark && c.char = mark && isGap (nextChar rest)
  | _ => false

def atSeparator (gs : List Glyph) : Bool :=
  startsWithThree '-' gs || startsWithThree '.' gs

/-- The characters of a class at the beginning, and what follows them. -/
def takeWhile (inClass : Char → Bool) (gs : List Glyph) : List Char × List Glyph :=
  let (taken, rest) := gs.span fun g ↦ inClass g.char
  (taken.map (·.char), rest)

def skipWhile (inClass : Char → Bool) (gs : List Glyph) : List Glyph :=
  gs.dropWhile fun g ↦ inClass g.char

/-- Skips spaces, a comment and the end of the line, where nothing else may stand. -/
def endOfLine (gs : List Glyph) : Except Defect (List Glyph) :=
  let gs := skipWhile (· = ' ') gs
  let gs := if nextChar gs = '#' then skipWhile (fun c ↦ !isLineEnd c) gs else gs
  match gs with
  | [] => .ok []
  | g :: rest =>
    if isBreak g.char then .ok rest
    else if g.char = endMark then .ok (g :: rest)
    else .error .malformed

end ClusterAudit.Yaml
