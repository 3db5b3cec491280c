import ClusterAudit.Yaml.Scalar.Block
import ClusterAudit.Yaml.Scalar.Plain
import ClusterAudit.Yaml.Scalar.Quoted
import ClusterAudit.Yaml.Token

/-!
# Streams of tokens

Outside brackets the indentation of lines opens and closes collections.  A key of a map has no
indicator of its own: it is known as a key only by the colon behind it, which has to stand on the
same line and not too far away.  So each token that may start a key is remembered until that is
settled, one on each level of brackets, and the token of the key is put before it when the colon
comes.  A token is not handed on before it is settled whether it starts a key.
-/

namespace ClusterAudit.Yaml

/-- A token that may start a key. -/
structure Candidate where
  /-- How many tokens stand before it. -/
  count : Nat
  /-- Whether the token has to start a key, because it stands where the keys of a map do. -/
  required : Bool
  index : Nat
  line : Nat
  column : Nat
deriving DecidableEq, Repr

/-- The state of reading tokens. -/
structure Scan where
  rest : List Glyph
  /-- The tokens taken, the last one first, and their number. -/
  taken : List Token := []
  count : Nat := 0
  /-- The column of the innermost collection outside brackets. -/
  indent : Int := -1
  /-- The columns of the collections around it. -/
  indents : List Int := []
  /-- The candidate on the level of the innermost brackets. -/
  candidate : Option Candidate := none
  /-- The candidates on the levels around it. -/
  outer : List (Option Candidate) := []
  /-- Whether a key may start here. -/
  keyAllowed : Bool := true
  ended : Bool := false

namespace Scan

def bracketed (scan : Scan) : Bool :=
  !scan.outer.isEmpty

def next (scan : Scan) : Glyph :=
  scan.rest.headD ⟨endMark, 0, 0, 0⟩

/-- The state with another token at the end. -/
def push (scan : Scan) (token : Token) : Scan :=
  { scan with taken := token :: scan.taken, count := scan.count + 1 }

/-- The state with another token after the given number of tokens. -/
def insertAt (scan : Scan) (position : Nat) (token : Token) : Scan :=
  let later := scan.count - position
  { scan with
    taken := scan.taken.take later ++ token :: scan.taken.drop later
    count := scan.count + 1 }

/-! ## Indentation -/

/-- The collections that are left and the number of those that end when a column is reached. -/
def unwindFrom (column indent : Int) : List Int → Int × List Int × Nat
  | [] => (indent, [], 0)
  | around :: further =>
    if column < indent then
      let (left, indents, ended) := unwindFrom column around further
      (left, indents, ended + 1)
    else (indent, around :: further, 0)

def unwind (scan : Scan) (column : Int) : Scan :=
  if scan.bracketed then scan
  else
    let (indent, indents, ended) := unwindFrom column scan.indent scan.indents
    { scan with
      indent, indents
      taken := List.replicate ended .blockEnd ++ scan.taken
      count := scan.count + ended }

/-- Starts a collection at a column, with its token at a position, unless one stands there. -/
def openBlock (scan : Scan) (column : Nat) (position : Nat) (token : Token) : Scan :=
  if scan.indent < column then
    { scan.insertAt position token with
      indents := scan.indent :: scan.indents, indent := column }
  else scan

/-! ## Candidates -/

/-- The greatest number of characters between a key and its colon. -/
def keyReach : Nat := 1024

/-- The candidate, unless the place is too far away from it. -/
def settleOne (place : Glyph) (candidate : Option Candidate) :
    Except Defect (Option Candidate) :=
  match candidate with
  | none => .ok none
  | some c =>
    if c.line ≠ place.line || c.index + keyReach < place.index then
      if c.required then .error .malformed else .ok none
    else .ok (some c)

def settle (scan : Scan) : Except Defect Scan := do
  let candidate ← settleOne scan.next scan.candidate
  let outer ← scan.outer.mapM (settleOne scan.next)
  return { scan with candidate, outer }

def dropCandidate (scan : Scan) : Except Defect Scan :=
  match scan.candidate with
  | none => .ok scan
  | some c => if c.required then .error .malformed else .ok { scan with candidate := none }

/-- Remembers that the next token may start a key. -/
def mark (scan : Scan) : Except Defect Scan :=
  if scan.keyAllowed then do
    let dropped ← scan.dropCandidate
    let place := scan.next
    return { dropped with
      candidate := some {
        count := scan.count
        required := !scan.bracketed && scan.indent = place.column
        index := place.index
        line := place.line
        column := place.column } }
  else .ok scan

def settledCount (scan : Scan) : Nat :=
  (scan.candidate :: scan.outer).foldl
    (fun count candidate ↦ (candidate.map (min count ·.count)).getD count) scan.count

/-! ## Tokens -/

/-- Skips spaces, comments and line ends; a line end outside brackets allows a key. -/
def skipBlank (comment allowed : Bool) : List Glyph → List Glyph × Bool
  | [] => ([], allowed)
  | g :: rest =>
    if isBreak g.char then skipBlank false true rest
    else if g.char = endMark then (g :: rest, allowed)
    else if comment then skipBlank true allowed rest
    else if g.char = ' ' then skipBlank false allowed rest
    else if g.char = '#' then skipBlank true allowed rest
    else (g :: rest, allowed)

def toNextToken (scan : Scan) : Scan :=
  let (rest, allowed) := skipBlank false false scan.rest
  { scan with rest, keyAllowed := scan.keyAllowed || (allowed && !scan.bracketed) }

def pass (scan : Scan) (count : Nat) : Scan :=
  { scan with rest := scan.rest.drop count }

def endStream (scan : Scan) : Except Defect Scan := do
  let scan ← (scan.unwind (-1)).dropCandidate
  return { scan.push .streamEnd with
    keyAllowed := false, candidate := none, outer := [], ended := true }

def takeDirective (scan : Scan) : Except Defect Scan := do
  let scan ← (scan.unwind (-1)).dropCandidate
  let (token, rest) ← directive (scan.rest.drop 1)
  return { scan.push token with rest, keyAllowed := false }

def takeSeparator (scan : Scan) (token : Token) : Except Defect Scan := do
  let scan ← (scan.unwind (-1)).dropCandidate
  return { (scan.push token).pass 3 with keyAllowed := false }

def takeOpening (scan : Scan) (token : Token) : Except Defect Scan := do
  let scan ← scan.mark
  return { (scan.push token).pass 1 with
    outer := scan.candidate :: scan.outer, candidate := none, keyAllowed := true }

def takeClosing (scan : Scan) (token : Token) : Except Defect Scan := do
  let scan ← scan.dropCandidate
  return { (scan.push token).pass 1 with
    candidate := scan.outer.headD none, outer := scan.outer.drop 1, keyAllowed := false }

def takeFlowEntry (scan : Scan) : Except Defect Scan := do
  let scan ← scan.dropCandidate
  return { (scan.push .flowEntry).pass 1 with keyAllowed := true }

/-- Demands that a collection can start here outside brackets, and starts it at the column of the
next character if none stands there. -/
def openHere (scan : Scan) (token : Token) : Except Defect Scan :=
  if scan.bracketed then .ok scan
  else if scan.keyAllowed then .ok (scan.openBlock scan.next.column scan.count token)
  else .error .malformed

def takeBlockEntry (scan : Scan) : Except Defect Scan := do
  let scan ← (← scan.openHere .blockSequenceStart).dropCandidate
  return { (scan.push .blockEntry).pass 1 with keyAllowed := true }

def takeKey (scan : Scan) : Except Defect Scan := do
  let scan ← (← scan.openHere .blockMappingStart).dropCandidate
  return { (scan.push .key).pass 1 with keyAllowed := !scan.bracketed }

/-- Takes the colon of a value, which settles that the candidate starts a key. -/
def takeValue (scan : Scan) : Except Defect Scan :=
  match scan.candidate with
  | some c =>
    let keyed := { scan.insertAt c.count .key with candidate := none }
    let opened :=
      if scan.bracketed then keyed else keyed.openBlock c.column c.count .blockMappingStart
    .ok { (opened.push .value).pass 1 with keyAllowed := false }
  | none => do
    let scan ← scan.openHere .blockMappingStart
    return { (scan.push .value).pass 1 with keyAllowed := !scan.bracketed }

/-- Takes a word that may start a key. -/
def takeWord (scan : Scan) (read : List Glyph → Except Defect (Token × List Glyph)) :
    Except Defect Scan := do
  let scan ← scan.mark
  let (token, rest) ← read scan.rest
  return { scan.push token with rest, keyAllowed := false }

def takeBlockScalar (scan : Scan) (folded : Bool) : Except Defect Scan := do
  let scan ← scan.dropCandidate
  let (text, rest) ← blockScalar folded scan.indent (scan.rest.drop 1)
  return { scan.push (.scalar text false) with rest, keyAllowed := true }

def takePlain (scan : Scan) : Except Defect Scan := do
  let scan ← scan.mark
  let found := plain scan.bracketed (scan.indent + 1) [] .none scan.rest
  return { scan.push (.scalar found.text true) with
    rest := found.rest, keyAllowed := found.crossesLine }

def takeToken (scan : Scan) : Except Defect Scan :=
  let c := scan.next.char
  let inner := scan.rest.drop 1
  let atLineStart : Bool := scan.next.column = 0
  let gapFollows := isGap (nextChar inner)
  if c = endMark then scan.endStream
  else if c = '%' && atLineStart then scan.takeDirective
  else if atLineStart && startsWithThree '-' scan.rest then scan.takeSeparator .documentStart
  else if atLineStart && startsWithThree '.' scan.rest then scan.takeSeparator .documentEnd
  else if c = '[' then scan.takeOpening .flowSequenceStart
  else if c = '\x7b' then scan.takeOpening .flowMappingStart
  else if c = ']' then scan.takeClosing .flowSequenceEnd
  else if c = '\x7d' then scan.takeClosing .flowMappingEnd
  else if c = ',' then scan.takeFlowEntry
  else if c = '-' && gapFollows then scan.takeBlockEntry
  else if c = '?' && (scan.bracketed || gapFollows) then scan.takeKey
  else if c = ':' && (scan.bracketed || gapFollows) then scan.takeValue
  else if c = '*' then scan.takeWord fun gs ↦ do
    let (text, rest) ← anchorName (gs.drop 1)
    return (.reference text, rest)
  else if c = '&' then scan.takeWord fun gs ↦ do
    let (text, rest) ← anchorName (gs.drop 1)
    return (.anchor text, rest)
  else if c = '!' then scan.takeWord tag
  else if c = '|' && !scan.bracketed then scan.takeBlockScalar false
  else if c = '>' && !scan.bracketed then scan.takeBlockScalar true
  else if c = '\'' then scan.takeWord fun gs ↦ do
    let (text, rest) ← singleQuoted [] .none (gs.drop 1)
    return (.scalar text false, rest)
  else if c = '"' then scan.takeWord fun gs ↦ do
    let (text, rest) ← doubleQuoted [] (.text .none) (gs.drop 1)
    return (.scalar text false, rest)
  else if startsPlain scan.bracketed c (nextChar inner) then scan.takePlain
  else .error .malformed

def step (scan : Scan) : Except Defect Scan := do
  let scan ← scan.toNextToken.settle
  let scan ← (scan.unwind scan.next.column).takeToken
  if scan.ended then return scan else scan.settle

/-- Takes tokens up to the end of the stream or the first defect, before which only settled tokens
are given. -/
def run : Nat → Scan → List Token × Option Defect
  | 0, scan => (scan.taken.reverse, some .malformed)
  | fuel + 1, scan =>
    if scan.ended then (scan.taken.reverse, none)
    else
      match scan.step with
      | .ok next => run fuel next
      | .error defect => (scan.taken.reverse.take scan.settledCount, some defect)

end Scan

/-- The characters of a stream without a byte order mark at the front. -/
def withoutMark (gs : List Glyph) : List Glyph :=
  if nextChar gs = byteOrderMark then gs.drop 1 else gs

/-- The tokens of a text up to the end or the first defect; each step takes a character at least. -/
def tokens (cs : List Char) : List Token × Option Defect :=
  if cs.all isReadable then
    Scan.run (cs.length + 2) { rest := withoutMark (placed 0 0 0 cs) }
  else ([], some .malformed)

end ClusterAudit.Yaml
