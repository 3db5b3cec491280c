import ClusterAudit.Decimal.Reading
import ClusterAudit.Manifest.Value
import ClusterAudit.Yaml.Tag

/-!
# Meanings of scalars

A tag and a text together denote a scalar.  The form of the text is checked again here, because a tag
may be stated for any text.  Underscores in numbers count for nothing, a number in digits of base
sixty has the most significant digit first, and a date or a time has to exist.
-/

namespace ClusterAudit.Yaml

open Manifest

/-- A fault of a scalar that denotes nothing. -/
def badScalar {α : Type} (text : String) : Except Defect α :=
  .error (.fault (.badScalar text))

/-! ## Integers -/

def decimalInteger (text : String) : Except Defect Int :=
  match Text.readInteger text with
  | .ok n => .ok n
  | .error .malformed =>
    badScalar ("invalid literal for int() with base 10: " ++ Text.quoted text)
  | .error (.tooLong digits) => .error (.fault (.numeralTooLong (some digits)))

/-- The digits of a text in a base, without the letter that may stand for the base. -/
def baseDigits (base : Nat) (cs : List Char) : List Char :=
  match cs with
  | '0' :: letter :: rest =>
    if (base = 8 && letter = 'o') || (base = 2 && letter = 'b') || (base = 16 && letter = 'x') then
      rest
    else cs
  | _ => cs

/-- The integer of a text in base two, eight or sixteen. -/
def baseInteger (base : Nat) (text : String) : Except Defect Int :=
  let (negative, body) := Text.splitSign (Text.trimList Text.isNumeralBlank text.toList)
  let values := (baseDigits base body).map Text.hexValue?
  if values.isEmpty || !values.all fun v ↦ v.getD base < base then
    badScalar ("invalid literal for int() with base " ++ toString base ++ ": " ++ Text.quoted text)
  else
    .ok (Text.signed negative (values.foldl (fun n v ↦ n * base + v.getD 0) 0))

/-- The number whose digits in base sixty are given, the most significant one first. -/
def ofSixtieths (digits : List Int) : Int :=
  digits.foldl (fun n digit ↦ n * 60 + digit) 0

/-- The text of a number without underscores and sign, and whether the sign is a minus. -/
def bareNumber (text : String) : Bool × List Char :=
  Text.splitSign (text.toList.filter (· ≠ '_'))

/-- The integer that a text denotes. -/
def integerOf (text : String) : Except Defect Int := do
  let (negative, body) := bareNumber text
  let magnitude ←
    match body with
    | [] => badScalar "string index out of range"
    | ['0'] => pure 0
    | '0' :: 'b' :: digits => baseInteger 2 (String.ofList digits)
    | '0' :: 'x' :: digits => baseInteger 16 (String.ofList digits)
    | '0' :: digits => baseInteger 8 (String.ofList ('0' :: digits))
    | body =>
      if body.contains ':' then do
        let pieces ← (colonPieces body).mapM fun piece ↦ decimalInteger (String.ofList piece)
        pure (ofSixtieths pieces)
      else decimalInteger (String.ofList body)
  return if negative then -magnitude else magnitude

/-! ## Numbers with a point -/

def negated (x : Binary64) : Binary64 :=
  ⟨x.bits ^^^ 0x8000000000000000⟩

/-- The number of a text in base ten with a point and an exponent, or one of the words for numbers
that have none. -/
def decimalFloat (text : String) : Except Defect Binary64 :=
  let (negative, body) := Text.splitSign (Text.trimList Text.isNumeralBlank text.toList)
  let word := String.ofList body
  if word = "inf" || word = "infinity" then .ok (Binary64.infinity negative)
  else if word = "nan" then .ok Binary64.nan
  else
    match Decimal.read? negative body with
    | some x => .ok x
    | none => badScalar ("could not convert string to float: " ++ Text.quoted text)

/-- The number whose digits in base sixty are given, the least significant one first, rounded after
each digit. -/
def sumSixtieths (sum : Float) (base : Nat) : List Binary64 → Float
  | [] => sum
  | digit :: rest =>
    sumSixtieths (sum + Float.ofBits digit.bits * Float.ofNat base) (base * 60) rest

/-- The number that a text denotes. -/
def floatOf (text : String) : Except Defect Binary64 := do
  let (negative, body) := bareNumber (String.ofList (text.toList.map Char.toLower))
  let word := String.ofList body
  let magnitude ←
    if body.isEmpty then badScalar "string index out of range"
    else if word = ".inf" then pure (Binary64.infinity false)
    else if word = ".nan" then pure Binary64.nan
    else if body.contains ':' then do
      let pieces ← (colonPieces body).mapM fun piece ↦ decimalFloat (String.ofList piece)
      pure ⟨(sumSixtieths 0 1 pieces.reverse).toBits⟩
    else decimalFloat word
  return if negative && !magnitude.isNaN then negated magnitude else magnitude

/-! ## Dates and times -/

def durationText (minutes : Int) : String :=
  let days := minutes.fdiv 1440
  let seconds := minutes.fmod 1440 * 60
  let parts := (if days = 0 then [] else ["days=" ++ toString days]) ++
    (if seconds = 0 then [] else ["seconds=" ++ toString seconds])
  "datetime.timedelta(" ++ (if parts.isEmpty then "0" else ", ".intercalate parts) ++ ")"

/-- The offset of a zone in minutes, which is less than a day. -/
def offsetOf (zone : ZoneForm) : Except Defect Int :=
  match zone with
  | .universal => .ok 0
  | .offset negative hours minutes =>
    let total : Int := Text.signed negative (hours * 60 + minutes)
    if total.natAbs < 1440 then .ok total
    else
      badScalar ("offset must be a timedelta strictly between -timedelta(hours=24) and " ++
        "timedelta(hours=24), not " ++ durationText total ++ ".")

/-- The date of a form, if there is such a day. -/
def dateOf (form : TimestampForm) : Except Defect Date :=
  if form.year = 0 then badScalar "year 0 is out of range"
  else if form.month = 0 || 12 < form.month then badScalar "month must be in 1..12"
  else if form.day = 0 || Date.daysInMonth form.year form.month < form.day then
    badScalar "day is out of range for month"
  else .ok ⟨form.year, form.month, form.day⟩

/-- The microseconds of the digits of a fraction, of which six count. -/
def microseconds (fraction : List Char) : Nat :=
  let digits := fraction.take 6
  Text.basicNumber (digits ++ List.replicate (6 - digits.length) '0')

/-- The moment of a date form and a time form, if there is such a time. -/
def momentOf (form : TimestampForm) (time : TimeForm) : Except Defect Moment := do
  let offset ← time.zone.mapM offsetOf
  let date ← dateOf form
  if 23 < time.hour then badScalar "hour must be in 0..23"
  else if 59 < time.minute then badScalar "minute must be in 0..59"
  else if 59 < time.second then badScalar "second must be in 0..59"
  else
    return ⟨date, time.hour, time.minute, time.second, microseconds time.fraction, offset⟩

/-- The date or moment that a text denotes. -/
def timestampOf (text : String) : Except Defect Scalar := do
  match timestampForm? text.toList with
  | none => throw (.fault .noFields)
  | some form =>
    match form.time with
    | none => return .date (← dateOf form)
    | some time => return .moment (← momentOf form time)

/-! ## Scalars -/

def truthOf (text : String) : Except Defect Bool :=
  let word := String.ofList (text.toList.map Char.toLower)
  if ["yes", "true", "on"].contains word then .ok true
  else if ["no", "false", "off"].contains word then .ok false
  else .error .malformed

/-- The scalar that a text with a tag denotes. -/
def scalarOf (tag : Tag) (text : String) : Except Defect Scalar := do
  match tag with
  | .null => return .null
  | .bool => return .bool (← truthOf text)
  | .int => return .int (← integerOf text)
  | .float => return .float (← floatOf text)
  | .text => return .text text
  | .timestamp => timestampOf text
  | .merge | .default | .sequence | .mapping | .other _ => throw .malformed

end ClusterAudit.Yaml
