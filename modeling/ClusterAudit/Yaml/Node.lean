import ClusterAudit.Yaml.Tag
import ClusterAudit.Yaml.Token.Stream

/-!
# Nodes

The tokens of a document give a tree of nodes, each with its tag.  A node may be named by an anchor
and stand again wherever its name is referred to; a name is given once in a document.  A reference
inside the node that it refers to stands for nothing.  A value or an element that is left out is an
empty scalar.
-/

namespace ClusterAudit.Yaml

inductive Node where
  | scalar (tag : Tag) (text : String)
  | sequence (tag : Tag) (items : List Node)
  | mapping (tag : Tag) (entries : List (Node × Node))
deriving Inhabited

namespace Node

def empty : Node := scalar .null ""

def tag : Node → Tag
  | scalar tag _ => tag
  | sequence tag _ => tag
  | mapping tag _ => tag

end Node

/-! ## Reading tokens -/

/-- What is left to read, and what the document has defined. -/
structure Reading where
  tokens : List Token
  /-- What happens where the tokens end early. -/
  ending : Defect
  /-- The named nodes; a node that is still being read is not known. -/
  anchors : List (String × Option Node) := []
  /-- The handles of tags and what they stand for. -/
  handles : List (String × String) := []

abbrev ReadM := StateT Reading (Except Defect)

namespace ReadM

def malformed {α : Type} : ReadM α :=
  throw .malformed

def peek : ReadM Token := do
  match (← get).tokens with
  | token :: _ => return token
  | [] => throw (← get).ending

def skip : ReadM Unit :=
  modify fun reading ↦ { reading with tokens := reading.tokens.drop 1 }

/-- Passes the next token if it is the given one, and tells so. -/
def accept (token : Token) : ReadM Bool := do
  if (← peek) = token then
    skip
    return true
  else return false

/-- Passes the given token, which has to be the next one. -/
def expect (token : Token) : ReadM Unit := do
  if !(← accept token) then malformed

end ReadM

open ReadM

/-! ## Properties of nodes -/

/-- The name of the anchor that is the next token, if it is one. -/
def acceptAnchor : ReadM (Option String) := do
  match ← peek with
  | .anchor name =>
    skip
    return some name
  | _ => return none

/-- The full name of the tag that is the next token, if it is one. -/
def acceptTag : ReadM (Option String) := do
  match ← peek with
  | .tag handle suffix =>
    skip
    match handle with
    | none => return some suffix
    | some handle =>
      match (← get).handles.find? fun entry ↦ entry.1 = handle with
      | some entry => return some (entry.2 ++ suffix)
      | none => malformed
  | _ => return none

/-- The anchor and the tag before a node, in either order. -/
def properties : ReadM (Option String × Option String) := do
  match ← acceptAnchor with
  | some name => return (some name, ← acceptTag)
  | none =>
    match ← acceptTag with
    | some tag => return (← acceptAnchor, some tag)
    | none => return (none, none)

/-- The tag of a collection; one that is left open is the usual one. -/
def collectionTag (usual : Tag) (tag : Option String) : Tag :=
  match tag with
  | none | some "!" => usual
  | some name => .ofName name

/-- The tag of a scalar: the form decides for a plain scalar and for one with the open tag. -/
def scalarTag (plain : Bool) (tag : Option String) (text : String) : Tag :=
  match tag with
  | none => if plain then .ofPlain text else .text
  | some "!" => .ofPlain text
  | some name => .ofName name

def declare (anchor : Option String) : ReadM Unit := do
  match anchor with
  | none => return ()
  | some name =>
    if (← get).anchors.any fun entry ↦ entry.1 = name then malformed
    else modify fun reading ↦ { reading with anchors := (name, none) :: reading.anchors }

def define (anchor : Option String) (node : Node) : ReadM Node := do
  match anchor with
  | none => return node
  | some name =>
    modify fun reading ↦ { reading with anchors := reading.anchors.map fun entry ↦
      if entry.1 = name then (name, some node) else entry }
    return node

def referred (name : String) : ReadM Node := do
  match (← get).anchors.find? fun entry ↦ entry.1 = name with
  | some entry => return entry.2.getD .empty
  | none => malformed

/-! ## Nodes -/

mutual

/-- Reads a node; `block` allows collections outside brackets, and `indentless` a sequence whose
elements stand no deeper than the map around it. -/
def node (fuel : Nat) (block indentless : Bool) : ReadM Node :=
  match fuel with
  | 0 => malformed
  | fuel + 1 => do
    match ← peek with
    | .reference name =>
      skip
      referred name
    | _ => do
      let (anchor, tag) ← properties
      declare anchor
      let found ← content fuel block indentless tag (anchor.isSome || tag.isSome)
      define anchor found

/-- Reads a node after its properties; with properties the node may be left out. -/
def content (fuel : Nat) (block indentless : Bool) (tag : Option String) (named : Bool) :
    ReadM Node :=
  match fuel with
  | 0 => malformed
  | fuel + 1 => do
    match ← peek with
    | .blockEntry =>
      if indentless then
        return .sequence (collectionTag .sequence tag) (← indentlessItems fuel)
      else leftOut
    | .scalar text plain =>
      skip
      return .scalar (scalarTag plain tag text) text
    | .flowSequenceStart =>
      skip
      return .sequence (collectionTag .sequence tag) (← flowItems fuel true)
    | .flowMappingStart =>
      skip
      return .mapping (collectionTag .mapping tag) (← flowEntries fuel true)
    | .blockSequenceStart =>
      if block then
        skip
        return .sequence (collectionTag .sequence tag) (← blockItems fuel)
      else leftOut
    | .blockMappingStart =>
      if block then
        skip
        return .mapping (collectionTag .mapping tag) (← blockEntries fuel)
      else leftOut
    | _ => leftOut
where
  /-- A node that is left out. -/
  leftOut : ReadM Node :=
    if named then return .scalar (scalarTag true tag "") "" else malformed

def blockItems (fuel : Nat) : ReadM (List Node) :=
  match fuel with
  | 0 => malformed
  | fuel + 1 => do
    if ← accept .blockEntry then
      let item ←
        match ← peek with
        | .blockEntry | .blockEnd => pure Node.empty
        | _ => node fuel true false
      return item :: (← blockItems fuel)
    else
      expect .blockEnd
      return []

/-- Reads the elements of a sequence that stand no deeper than the map around them. -/
def indentlessItems (fuel : Nat) : ReadM (List Node) :=
  match fuel with
  | 0 => malformed
  | fuel + 1 => do
    if ← accept .blockEntry then
      let item ←
        match ← peek with
        | .blockEntry | .key | .value | .blockEnd => pure Node.empty
        | _ => node fuel true false
      return item :: (← indentlessItems fuel)
    else return []

/-- Reads a key or a value of a map outside brackets, which may be left out. -/
def blockPart (fuel : Nat) : ReadM Node :=
  match fuel with
  | 0 => malformed
  | fuel + 1 => do
    match ← peek with
    | .key | .value | .blockEnd => return .empty
    | _ => node fuel true true

def blockEntries (fuel : Nat) : ReadM (List (Node × Node)) :=
  match fuel with
  | 0 => malformed
  | fuel + 1 => do
    match ← peek with
    | .key =>
      skip
      let key ← blockPart fuel
      let value ← if ← accept .value then blockPart fuel else pure Node.empty
      return (key, value) :: (← blockEntries fuel)
    | _ => do
      expect .blockEnd
      return []

/-- Reads a key or a value inside brackets, which may be left out before the closing one. -/
def flowPart (fuel : Nat) (closing : Token) (beforeValue : Bool) : ReadM Node :=
  match fuel with
  | 0 => malformed
  | fuel + 1 => do
    let next ← peek
    if next = .flowEntry || next = closing || (beforeValue && next = .value) then return .empty
    else node fuel false false

/-- Reads the value of an entry inside brackets, if there is one. -/
def flowValue (fuel : Nat) (closing : Token) : ReadM Node :=
  match fuel with
  | 0 => malformed
  | fuel + 1 => do
    if ← accept .value then flowPart fuel closing false else return .empty

/-- Reads the elements of a sequence in brackets; an entry of a map may stand for a map. -/
def flowItems (fuel : Nat) (first : Bool) : ReadM (List Node) :=
  match fuel with
  | 0 => malformed
  | fuel + 1 => do
    if ← accept .flowSequenceEnd then return []
    else
      if !first then expect .flowEntry
      match ← peek with
      | .key =>
        skip
        let key ← flowPart fuel .flowSequenceEnd true
        let value ← flowValue fuel .flowSequenceEnd
        return .mapping .mapping [(key, value)] :: (← flowItems fuel false)
      | .flowSequenceEnd =>
        skip
        return []
      | _ => do
        let item ← node fuel false false
        return item :: (← flowItems fuel false)

/-- Reads the entries of a map in brackets; a node alone is a key without a value. -/
def flowEntries (fuel : Nat) (first : Bool) : ReadM (List (Node × Node)) :=
  match fuel with
  | 0 => malformed
  | fuel + 1 => do
    if ← accept .flowMappingEnd then return []
    else
      if !first then expect .flowEntry
      match ← peek with
      | .key =>
        skip
        let key ← flowPart fuel .flowMappingEnd true
        let value ← flowValue fuel .flowMappingEnd
        return (key, value) :: (← flowEntries fuel false)
      | .flowMappingEnd =>
        skip
        return []
      | _ => do
        let key ← node fuel false false
        return (key, .empty) :: (← flowEntries fuel false)

end

/-! ## Documents -/

def usualHandles : List (String × String) :=
  [("!", "!"), ("!!", Tag.languageTags)]

/-- Reads the directives of a document; the version is given once at most and each handle too. -/
def directives (fuel : Nat) (versioned : Bool) (handles : List (String × String)) :
    ReadM (List (String × String)) :=
  match fuel with
  | 0 => malformed
  | fuel + 1 => do
    match ← peek with
    | .version major _ =>
      skip
      if versioned || major ≠ 1 then malformed else directives fuel true handles
    | .tagHandle handle expansion =>
      skip
      if handles.any fun entry ↦ entry.1 = handle then malformed
      else directives fuel versioned (handles ++ [(handle, expansion)])
    | .reserved =>
      skip
      directives fuel versioned handles
    | _ => return handles

def documentBody (handles : List (String × String)) (mayBeEmpty : Bool) : ReadM Node := do
  modify fun reading ↦ { reading with anchors := [], handles }
  let fuel := 4 * (← get).tokens.length + 8
  let root ←
    match ← peek with
    | .version .. | .tagHandle .. | .reserved | .documentStart | .documentEnd | .streamEnd =>
      if mayBeEmpty then pure Node.empty else node fuel true false
    | _ => node fuel true false
  discard (accept .documentEnd)
  return root

def skipEnds (fuel : Nat) : ReadM Unit :=
  match fuel with
  | 0 => malformed
  | fuel + 1 => do
    if ← accept .documentEnd then skipEnds fuel

def explicitDocument : ReadM (Option Node) := do
  let fuel := (← get).tokens.length + 1
  skipEnds fuel
  if (← peek) = .streamEnd then return none
  else
    let handles ← directives fuel false []
    expect .documentStart
    return some (← documentBody (handles ++ usualHandles) true)

/-- Reads the next document; only the first one of a stream may go without a start marker. -/
def nextDocument (first : Bool) : ReadM (Option Node) := do
  if first then
    match ← peek with
    | .version .. | .tagHandle .. | .reserved | .documentStart | .streamEnd => explicitDocument
    | _ => return some (← documentBody usualHandles false)
  else explicitDocument

end ClusterAudit.Yaml
