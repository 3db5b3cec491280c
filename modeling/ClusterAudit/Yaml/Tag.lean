import ClusterAudit.Yaml.Glyph

/-!
# Tags

A tag says what a node is.  A scalar without a tag has the tag of the form that it is written in: the
words of null and of the truth values, integers in four bases or in digits of base sixty, numbers with
a point, dates and times, and the two signs with which maps are merged and given a default.  A scalar
in any other form is a text.
-/

namespace ClusterAudit.Yaml

inductive Tag where
  | null
  | bool
  | int
  | float
  | text
  | timestamp
  | merge
  | default
  | sequence
  | mapping
  | other (name : String)
deriving DecidableEq, Repr, Inhabited

namespace Tag

def languageTags : String := "tag:yaml.org,2002:"

def ofName (name : String) : Tag :=
  if name = languageTags ++ "null" then null
  else if name = languageTags ++ "bool" then bool
  else if name = languageTags ++ "int" then int
  else if name = languageTags ++ "float" then float
  else if name = languageTags ++ "str" then text
  else if name = languageTags ++ "timestamp" then timestamp
  else if name = languageTags ++ "merge" then merge
  else if name = languageTags ++ "value" then default
  else if name = languageTags ++ "seq" then sequence
  else if name = languageTags ++ "map" then mapping
  else other name

end Tag

/-! ## Forms of plain scalars -/

def isNullWord (text : String) : Bool :=
  ["", "~", "null", "Null", "NULL"].contains text

def isTruthWord (text : String) : Bool :=
  ["yes", "Yes", "YES", "no", "No", "NO", "true", "True", "TRUE", "false", "False", "FALSE", "on",
    "On", "ON", "off", "Off", "OFF"].contains text

/-- The characters without a sign at the front. -/
def withoutSign : List Char → List Char
  | [] => []
  | c :: rest => if c = '-' || c = '+' then rest else c :: rest

def isSpacedDigit (c : Char) : Bool :=
  c.isDigit || c = '_'

/-- Whether the characters are a digit and then digits and underscores. -/
def isDigitRun : List Char → Bool
  | [] => false
  | c :: rest => c.isDigit && rest.all isSpacedDigit

def colonPieces : List Char → List (List Char)
  | [] => [[]]
  | c :: rest =>
    if c = ':' then [] :: colonPieces rest
    else
      match colonPieces rest with
      | [] => [[c]]
      | first :: others => (c :: first) :: others

/-- Whether the characters are a number below sixty of one or two digits. -/
def isSixtieth : List Char → Bool
  | [a] => a.isDigit
  | [a, b] => '0' ≤ a && a ≤ '5' && b.isDigit
  | _ => false

def isIntForm (cs : List Char) : Bool :=
  match withoutSign cs with
  | '0' :: 'b' :: digits =>
    !digits.isEmpty && digits.all fun c ↦ c = '0' || c = '1' || c = '_'
  | '0' :: 'x' :: digits =>
    !digits.isEmpty && digits.all fun c ↦ (Text.hexValue? c).isSome || c = '_'
  | '0' :: digits => digits.all fun c ↦ ('0' ≤ c && c ≤ '7') || c = '_'
  | body =>
    match colonPieces body with
    | first :: sixtieths => isDigitRun first && sixtieths.all isSixtieth
    | [] => false

/-- Whether the characters are an exponent, which has a sign, or nothing. -/
def isExponent : List Char → Bool
  | [] => true
  | e :: sign :: digits =>
    (e = 'e' || e = 'E') && (sign = '-' || sign = '+') && !digits.isEmpty && digits.all Char.isDigit
  | [_] => false

def isFloatForm (cs : List Char) : Bool :=
  let body := withoutSign cs
  let signed : Bool := body.length < cs.length
  let whole := body.takeWhile (· ≠ '.')
  match body.drop whole.length with
  | [] => false
  | _ :: fraction =>
    let afterDigits := fraction.dropWhile isSpacedDigit
    if whole.isEmpty then
      ["inf", "Inf", "INF"].contains (String.ofList fraction) ||
        (!signed && (["nan", "NaN", "NAN"].contains (String.ofList fraction) ||
          (isDigitRun (fraction.takeWhile isSpacedDigit) && isExponent afterDigits)))
    else if isDigitRun whole then isExponent afterDigits
    else
      match colonPieces whole with
      | first :: sixtieths =>
        isDigitRun first && sixtieths.all isSixtieth && afterDigits.isEmpty
      | [] => false

/-! ## Dates and times -/

/-- The zone of a time: universal time, or an offset from it. -/
inductive ZoneForm where
  | universal
  | offset (negative : Bool) (hours minutes : Nat)
deriving DecidableEq, Repr

/-- The parts of a time of day. -/
structure TimeForm where
  hour : Nat
  minute : Nat
  second : Nat
  /-- The digits of the fraction of the second. -/
  fraction : List Char
  zone : Option ZoneForm
deriving DecidableEq, Repr

/-- The parts of a text that is written as a date, possibly with a time of day. -/
structure TimestampForm where
  year : Nat
  month : Nat
  day : Nat
  /-- Whether month and day have two digits each. -/
  padded : Bool
  time : Option TimeForm
deriving DecidableEq, Repr

/-- A number of a least and a greatest number of digits, and what follows it. -/
def digits? (least greatest : Nat) (cs : List Char) : Option (List Char × List Char) :=
  let taken := (cs.take greatest).takeWhile Char.isDigit
  if taken.length < least then none else some (taken, cs.drop taken.length)

def after? (c : Char) : List Char → Option (List Char)
  | [] => none
  | d :: rest => if d = c then some rest else none

/-- The zone at the end of a time, if anything is left there. -/
def zone? (cs : List Char) : Option (Option ZoneForm) :=
  match cs.dropWhile isSpace with
  | [] => if cs.isEmpty then some none else none
  | ['Z'] => some (some .universal)
  | sign :: rest =>
    if sign = '-' || sign = '+' then do
      let (hours, rest) ← digits? 1 2 rest
      match rest with
      | [] => some (some (.offset (sign = '-') (Text.basicNumber hours) 0))
      | ':' :: minutes => do
        let (minutes, rest) ← digits? 2 2 minutes
        if rest.isEmpty then
          some (some (.offset (sign = '-') (Text.basicNumber hours) (Text.basicNumber minutes)))
        else none
      | _ => none
    else none

/-- The time of day in a text, after what separates it from the date. -/
def timeOfDay? (cs : List Char) : Option TimeForm := do
  let (hour, rest) ← digits? 1 2 cs
  let (minute, rest) ← digits? 2 2 (← after? ':' rest)
  let (second, rest) ← digits? 2 2 (← after? ':' rest)
  let (fraction, rest) :=
    match rest with
    | '.' :: more => (more.takeWhile Char.isDigit, more.dropWhile Char.isDigit)
    | _ => ([], rest)
  return ⟨Text.basicNumber hour, Text.basicNumber minute, Text.basicNumber second, fraction,
    ← zone? rest⟩

/-- The parts of a text that is written as a date, possibly with a time. -/
def timestampForm? (cs : List Char) : Option TimestampForm := do
  let (year, rest) ← digits? 4 4 cs
  let (month, rest) ← digits? 1 2 (← after? '-' rest)
  let (day, rest) ← digits? 1 2 (← after? '-' rest)
  let date : TimestampForm :=
    ⟨Text.basicNumber year, Text.basicNumber month, Text.basicNumber day,
      month.length = 2 && day.length = 2, none⟩
  match rest with
  | [] => return date
  | c :: more =>
    if c = 'T' || c = 't' then return { date with time := some (← timeOfDay? more) }
    else if isSpace c then
      return { date with time := some (← timeOfDay? (more.dropWhile isSpace)) }
    else none

/-- Whether a text is written as a date or a time; a date alone has two digits for month and day. -/
def isTimestampForm (cs : List Char) : Bool :=
  match timestampForm? cs with
  | none => false
  | some form => form.padded || form.time.isSome

def Tag.ofPlain (text : String) : Tag :=
  let cs := text.toList
  if isNullWord text then .null
  else if isTruthWord text then .bool
  else if isFloatForm cs then .float
  else if isIntForm cs then .int
  else if isTimestampForm cs then .timestamp
  else if text = "<<" then .merge
  else if text = "=" then .default
  else .text

end ClusterAudit.Yaml
