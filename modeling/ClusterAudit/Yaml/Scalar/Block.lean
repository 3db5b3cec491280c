import ClusterAudit.Yaml.Glyph

/-!
# Block scalars

A block scalar is a run of lines with a common indentation, which its header may state and which is
otherwise that of its first line that is not blank.  A literal scalar keeps its line ends.  A folded
scalar turns a line end between two lines into a space, unless one of them starts with a space or a
blank line stands between them.  The header also says what becomes of the line ends at the end: all
are kept, one is kept, or none.
-/

namespace ClusterAudit.Yaml

/-- What becomes of the line ends at the end of a block scalar. -/
inductive Chomping where
  | strip
  | clip
  | keep
deriving DecidableEq, Repr

/-- The header of a block scalar: its chomping, and its indentation below that of its parent, if it
is stated. -/
structure BlockHeader where
  chomping : Chomping := .clip
  indentation : Option Nat := none
deriving DecidableEq, Repr

def Chomping.ofSign? (c : Char) : Option Chomping :=
  if c = '+' then some .keep else if c = '-' then some .strip else none

/-- Reads the indentation of a header, which is not zero. -/
def blockIndentation (gs : List Glyph) : Except Defect (Option Nat × List Glyph) :=
  match gs with
  | g :: rest =>
    if g.char = '0' then .error .malformed
    else if g.char.isDigit then .ok (some (g.char.toNat - '0'.toNat), rest)
    else .ok (none, gs)
  | [] => .ok (none, [])

def blockChomping (gs : List Glyph) : Option Chomping × List Glyph :=
  match gs with
  | g :: rest =>
    match Chomping.ofSign? g.char with
    | some chomping => (some chomping, rest)
    | none => (none, gs)
  | [] => (none, [])

def blockHeader (gs : List Glyph) : Except Defect (BlockHeader × List Glyph) := do
  let (early, gs) := blockChomping gs
  let (indentation, gs) ← blockIndentation gs
  let (late, gs) := if early.isSome then (none, gs) else
    if indentation.isSome then blockChomping gs else (none, gs)
  if nextChar gs = ' ' || isLineEnd (nextChar gs) then
    let rest ← endOfLine gs
    return (⟨(early.or late).getD .clip, indentation⟩, rest)
  else throw .malformed

/-- The line ends of the blank lines at the beginning, the last one first, the greatest number of
spaces before any character of them, and what follows. -/
def blankLines (breaks : List Char) (widest : Nat) : List Glyph → List Char × Nat × List Glyph
  | [] => (breaks, widest, [])
  | g :: rest =>
    if g.char = ' ' then blankLines breaks (max widest (g.column + 1)) rest
    else if isBreak g.char then blankLines (lineEndOf g.char :: breaks) widest rest
    else (breaks, widest, g :: rest)

/-- What was read of a block scalar. -/
structure BlockLines where
  /-- The text up to the last line, the last character first. -/
  text : List Char := []
  /-- The line end of the last line, if there was a line with one. -/
  lineEnd : Option Char := none
  /-- Whether the last line starts with something other than a space or tab. -/
  flush : Bool := false
  /-- The line ends of the blank lines after the last line, the last one first. -/
  breaks : List Char := []

namespace BlockLines

/-- What stands between the last line and a line that starts with a character, the last character
first. -/
def joint (folded : Bool) (lines : BlockLines) (c : Char) : List Char :=
  match lines.lineEnd with
  | none => lines.breaks
  | some lineEnd =>
    if folded && lineEnd = '\n' && lines.flush && !isSpace c then
      if lines.breaks.isEmpty then [' '] else lines.breaks
    else lines.breaks ++ [lineEnd]

def close (chomping : Chomping) (lines : BlockLines) : String :=
  let lineEnd := lines.lineEnd.toList
  String.ofList <| List.reverse <|
    match chomping with
    | .strip => lines.text
    | .clip => lineEnd ++ lines.text
    | .keep => lines.breaks ++ lineEnd ++ lines.text

end BlockLines

/-- Reads the lines of a block scalar with the given indentation; `inside` tells that the place is
inside a line. -/
def blockLines (folded : Bool) (indent : Nat) (inside : Bool) (lines : BlockLines) :
    List Glyph → BlockLines × List Glyph
  | [] => (lines, [])
  | g :: rest =>
    if inside then
      if isBreak g.char then
        blockLines folded indent false
          { lines with lineEnd := some (lineEndOf g.char), breaks := [] } rest
      else if g.char = endMark then ({ lines with lineEnd := none, breaks := [] }, g :: rest)
      else blockLines folded indent true { lines with text := g.char :: lines.text } rest
    else if isBreak g.char then
      blockLines folded indent false
        { lines with breaks := lineEndOf g.char :: lines.breaks } rest
    else if g.char = ' ' && g.column < indent then blockLines folded indent false lines rest
    else if g.column = indent && g.char ≠ endMark then
      blockLines folded indent true
        { lines with
          text := g.char :: (lines.joint folded g.char ++ lines.text)
          flush := !isSpace g.char } rest
    else (lines, g :: rest)

/-- Reads a block scalar after its indicator; `parent` is the indentation of its parent. -/
def blockScalar (folded : Bool) (parent : Int) (gs : List Glyph) :
    Except Defect (String × List Glyph) := do
  let (header, gs) ← blockHeader gs
  let least := (max 1 (parent + 1)).toNat
  let (lines, rest) :=
    match header.indentation with
    | some more => blockLines folded (least + more - 1) false {} gs
    | none =>
      let (breaks, widest, gs) := blankLines [] 0 gs
      blockLines folded (max least widest) false { breaks } gs
  return (lines.close header.chomping, rest)

end ClusterAudit.Yaml
