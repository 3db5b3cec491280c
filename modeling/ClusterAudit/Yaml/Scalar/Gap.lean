import ClusterAudit.Yaml.Glyph

/-!
# Gaps in flowing text

Between two words of a text that may run over several lines stands a gap.  Spaces on one line stand
for themselves.  A single line end stands for a space, further line ends stand for themselves, and
spaces around line ends vanish.  A gap counts only when a word follows it.
-/

namespace ClusterAudit.Yaml

/-- What stands between two words, the last character first. -/
inductive Gap where
  | none
  | spaces (reversed : List Char)
  /-- The first line end, unless it is escaped, and the further ones. -/
  | lines (first : Option Char) (reversed : List Char)
deriving DecidableEq, Repr

namespace Gap

/-- The gap with another space or tab. -/
def addSpace (c : Char) : Gap → Gap
  | none => spaces [c]
  | spaces cs => spaces (c :: cs)
  | lines first cs => lines first cs

/-- The gap with another line end. -/
def addBreak (c : Char) : Gap → Gap
  | none | spaces _ => lines (some (lineEndOf c)) []
  | lines first cs => lines first (lineEndOf c :: cs)

def crossesLine : Gap → Bool
  | lines .. => true
  | _ => false

/-- The characters that the gap stands for, the last one first. -/
def reversed : Gap → List Char
  | none => []
  | spaces cs => cs
  | lines Option.none cs => cs
  | lines (some first) cs =>
    if first ≠ '\n' then cs ++ [first] else if cs.isEmpty then [' '] else cs

end Gap

end ClusterAudit.Yaml
