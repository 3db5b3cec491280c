import ClusterAudit.Yaml.Glyph

/-!
# Tokens

The tokens of a stream of documents, and the reading of those that consist of a word: directives,
anchors, references to anchors, and tags.
-/

namespace ClusterAudit.Yaml

inductive Token where
  /-- The version that the stream asks for. -/
  | version (major minor : Nat)
  /-- A handle of tags and what it stands for. -/
  | tagHandle (handle expansion : String)
  /-- A directive without meaning. -/
  | reserved
  | documentStart
  | documentEnd
  | blockSequenceStart
  | blockMappingStart
  | blockEnd
  | flowSequenceStart
  | flowSequenceEnd
  | flowMappingStart
  | flowMappingEnd
  | blockEntry
  | flowEntry
  | key
  | value
  | anchor (name : String)
  | reference (name : String)
  | tag (handle : Option String) (suffix : String)
  | scalar (text : String) (plain : Bool)
  | streamEnd
deriving DecidableEq, Repr, Inhabited

/-- Whether the character may occur in a name. -/
def isNameChar (c : Char) : Bool :=
  c.isAlphanum || c = '-' || c = '_'

/-- Reads a name, which is not empty. -/
def name (gs : List Glyph) : Except Defect (String × List Glyph) :=
  let (cs, rest) := takeWhile isNameChar gs
  if cs.isEmpty then .error .malformed else .ok (String.ofList cs, rest)

def demand (inClass : Char → Bool) (gs : List Glyph) : Except Defect Unit :=
  if inClass (nextChar gs) then .ok () else .error .malformed

/-- Whether the character may follow a word of a directive or a tag. -/
def endsWord (c : Char) : Bool :=
  c = ' ' || isLineEnd c

/-! ## Anchors -/

def anchorName (gs : List Glyph) : Except Defect (String × List Glyph) := do
  let (text, rest) ← name gs
  demand (fun c ↦ isGap c || "?:,]\x7d%@`".contains c) rest
  return (text, rest)

/-! ## Tags -/

/-- Whether the character may occur in a tag. -/
def isTagChar (c : Char) : Bool :=
  c.isAlphanum || "-;/?:@&=+$,_.!~*'()[]".contains c

/-- Reads the bytes of a tag, where a percent sign and two hexadecimal digits stand for a byte. -/
def tagBytes : List Glyph → Except Defect (List UInt8 × List Glyph)
  | [] => .ok ([], [])
  | g :: rest =>
    if g.char = '%' then
      match rest with
      | high :: low :: more =>
        match Text.hexValue? high.char, Text.hexValue? low.char with
        | some h, some l => do
          let (bytes, after) ← tagBytes more
          return (UInt8.ofNat (16 * h + l) :: bytes, after)
        | _, _ => .error .malformed
      | _ => .error .malformed
    else if isTagChar g.char then do
      let (bytes, after) ← tagBytes rest
      return (UInt8.ofNat g.char.toNat :: bytes, after)
    else .ok ([], g :: rest)

/-- Reads the text of a tag, which is not empty. -/
def tagText (gs : List Glyph) : Except Defect (String × List Glyph) := do
  let (bytes, rest) ← tagBytes gs
  if bytes.isEmpty then throw .malformed
  match Text.Utf8.decode bytes with
  | .ok cs => return (String.ofList cs, rest)
  | .error _ => throw .malformed

/-- Reads a handle of tags: one or two exclamation marks, in the latter case with a name between
them; a single one may only stand before a space. -/
def tagHandle (gs : List Glyph) : Except Defect (String × List Glyph) :=
  match gs with
  | [] => .error .malformed
  | g :: rest =>
    if g.char ≠ '!' then .error .malformed
    else if nextChar rest = ' ' then .ok ("!", rest)
    else
      let (cs, after) := takeWhile isNameChar rest
      match after with
      | [] => .error .malformed
      | closing :: more =>
        if closing.char = '!' then .ok ("!" ++ String.ofList cs ++ "!", more)
        else .error .malformed

def tag (gs : List Glyph) : Except Defect (Token × List Glyph) := do
  let inner := gs.drop 1
  let (token, rest) ←
    if nextChar inner = '<' then do
      let (text, rest) ← tagText (inner.drop 1)
      demand (· = '>') rest
      pure (Token.tag none text, rest.drop 1)
    else if isGap (nextChar inner) then pure (Token.tag none "!", inner)
    else if (takeWhile (fun c ↦ !endsWord c) inner).1.contains '!' then do
      let (handle, rest) ← tagHandle gs
      let (text, rest) ← tagText rest
      pure (Token.tag (some handle) text, rest)
    else do
      let (text, rest) ← tagText inner
      pure (Token.tag (some "!") text, rest)
  demand endsWord rest
  return (token, rest)

/-! ## Directives -/

def versionNumber (gs : List Glyph) : Except Defect (Nat × List Glyph) :=
  let (cs, rest) := takeWhile Char.isDigit gs
  if cs.isEmpty then .error .malformed
  else .ok (Text.basicNumber cs, rest)

def version (gs : List Glyph) : Except Defect (Token × List Glyph) := do
  let (major, rest) ← versionNumber (skipWhile (· = ' ') gs)
  demand (· = '.') rest
  let (minor, rest) ← versionNumber (rest.drop 1)
  demand endsWord rest
  return (.version major minor, rest)

def handleDefinition (gs : List Glyph) : Except Defect (Token × List Glyph) := do
  let (handle, rest) ← tagHandle (skipWhile (· = ' ') gs)
  demand (· = ' ') rest
  let (expansion, rest) ← tagText (skipWhile (· = ' ') rest)
  demand endsWord rest
  return (.tagHandle handle expansion, rest)

/-- Reads a directive after its indicator, up to the end of its line. -/
def directive (gs : List Glyph) : Except Defect (Token × List Glyph) := do
  let (word, rest) ← name gs
  demand endsWord rest
  let (token, rest) ←
    if word = "YAML" then version rest
    else if word = "TAG" then handleDefinition rest
    else pure (.reserved, skipWhile (fun c ↦ !isLineEnd c) rest)
  return (token, ← endOfLine rest)

end ClusterAudit.Yaml
