import ClusterAudit.Manifest.Access
import ClusterAudit.Yaml.Document

/-!
# YAML text

Values are written in block style, each entry and each element on lines of its own.  A text that
consists of letters, digits and a few signs and that would be read back as a text is written as it
is; every other text is quoted, with escapes for all that is not printable ASCII, so that it stays on
one line.  A long key has the question mark of keys in front.
-/

namespace ClusterAudit.Yaml

open Manifest

/-- Whether the character may occur in a text that is written without quotes. -/
def isPlainChar (c : Char) : Bool :=
  c.isAlphanum || c = '_' || c = '-' || c = '.' || c = '/'

/-- Whether a text is written without quotes. -/
def isWrittenPlain (text : String) : Bool :=
  match text.toList with
  | [] => false
  | c :: rest => c.isAlphanum && rest.all isPlainChar && Tag.ofPlain text = .text

def escaped (c : Char) : String :=
  if c = '"' then "\\\""
  else if c = '\\' then "\\\\"
  else if c = '\n' then "\\n"
  else if c = '\t' then "\\t"
  else if ' ' ≤ c && c ≤ '~' then String.singleton c
  else Text.codePointEscape c

def writeText (text : String) : String :=
  if isWrittenPlain text then text
  else "\"" ++ String.join (text.toList.map escaped) ++ "\""

def withPoint (text : String) : String :=
  if text.contains '.' then text
  else
    let digits := text.toList.takeWhile (· ≠ 'e')
    String.ofList (digits ++ '.' :: '0' :: text.toList.drop digits.length)

def writeScalar : Scalar → String
  | .null => "null"
  | .bool b => if b then "true" else "false"
  | .int n => toString n
  | .float x => withPoint (Decimal.manifestLayout.writeBinary64 ".inf" ".nan" x)
  | .text s => writeText s
  | .date day => day.text
  | .moment time => time.text

/-- A written value: a text on one line, or several lines. -/
inductive Written where
  | inline (text : String)
  | lines (first : String) (others : List String)

namespace Written

def deeper (lines : List String) : List String :=
  lines.map ("  " ++ ·)

def element : Written → List String
  | inline text => ["- " ++ text]
  | lines first others => ("- " ++ first) :: deeper others

def entry (indicator : String) : Written → List String
  | inline text => [indicator ++ " " ++ text]
  | lines first others => indicator :: deeper (first :: others)

/-- The greatest length of a key without the question mark. -/
def shortKey : Nat := 128

def ofEntry (key : Scalar) (value : Written) : List String :=
  let name := writeScalar key
  if name.length ≤ shortKey then value.entry (name ++ ":")
  else ("? " ++ name) :: value.entry ":"

/-- The written value of some lines, or a text where there are none. -/
def ofLines (empty : String) : List String → Written
  | [] => inline empty
  | first :: others => lines first others

end Written

mutual

def writeValue : Value → Written
  | .scalar s => .inline (writeScalar s)
  | .list xs => .ofLines "[]" (writeElements xs)
  | .map es => .ofLines "\x7b\x7d" (writeEntries es)

def writeElements : List Value → List String
  | [] => []
  | x :: rest => (writeValue x).element ++ writeElements rest

def writeEntries : List (Scalar × Value) → List String
  | [] => []
  | (key, value) :: rest => Written.ofEntry key (writeValue value) ++ writeEntries rest

end

def write (value : Value) : String :=
  match writeValue value with
  | .inline text => text ++ "\n"
  | .lines first others => String.join ((first :: others).map (· ++ "\n"))

/-- The loader of these modules, and their emitter, which writes no integer with too many digits. -/
def own : Library where
  load := read
  dump value := Value.written [value] (write value)

end ClusterAudit.Yaml
