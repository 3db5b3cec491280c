import ClusterAudit.Asset.Kind
import ClusterAudit.Files.Directory
import ClusterAudit.Text.Numeral
import ClusterAudit.Text.Utf8

/-!
# Faults

Every way in which an audit can fail is one constructor here, named for its cause.  The faults that
have a wording of their own get it from `Fault.message?`; the class of a fault says how the command
line treats it.
-/

namespace ClusterAudit

inductive Fault where
  /-- A field is looked up in a value that is no map. -/
  | noFields
  /-- The kind of a manifest is no text. -/
  | kindNotText
  /-- The elements of a value that has none are asked for. -/
  | noElements
  /-- A list or a map stands where a key is needed. -/
  | notKey
  /-- An element of a list of pairs has the wrong length. -/
  | notPair (position length : Nat)
  /-- The rule of a user strategy is shown but is no text. -/
  | ruleNotText
  /-- An integer has too many digits; their number is known when it was to be read, and not when it was
  to be written. -/
  | numeralTooLong (digits : Option Nat)
  /-- A range bound is infinite. -/
  | infiniteBound
  /-- A scalar of a document is written as a number, a date or a character but denotes none. -/
  | badScalar (text : String)
  /-- A character is written by a number that exceeds the words of the machine. -/
  | codeTooLarge
  /-- A name is not the name of a kind. -/
  | unknownKind (name : String)
  /-- An asset of a derived kind is to be read from a manifest. -/
  | derivedNotParsed (kind : AssetKind)
  /-- Assets of a derived kind are to be fetched. -/
  | derivedNotFetched (kind : AssetKind)
  /-- A report path has an unknown suffix. -/
  | unsupportedFormat (suffix : String)
  /-- A value has no form in the report format. -/
  | notWritable
  /-- A name is not the name of a detector. -/
  | unknownDetector (name : String)
  /-- The assets of a kind cannot be listed. -/
  | notFetched (kind : AssetKind) (reason : String)
  /-- No way to authenticate works. -/
  | notAuthenticated (reason : String)
  /-- A snapshot file cannot be read. -/
  | badSnapshot (path reason : String)
  /-- A snapshot file holds bytes that are no text. -/
  | undecodable (fault : Text.DecodingFault)
  /-- A path holds a null character. -/
  | nullInPath
  /-- A report file cannot be opened. -/
  | fileFault (fault : FileFault) (path : String)
  /-- A table cell is neither text nor empty. -/
  | cellNotText
  /-- A mark in a text closes nothing. -/
  | badMarkup
deriving DecidableEq, Repr

/-- How the command line treats a fault. -/
inductive FaultClass where
  /-- The scan is aborted with a message. -/
  | aborted
  /-- A value is refused with a message. -/
  | refused
  /-- The report cannot be written. -/
  | unwritable
  /-- The fault ends the program. -/
  | fatal
deriving DecidableEq, Repr

namespace Fault

def faultClass : Fault → FaultClass
  | notFetched .. | notAuthenticated _ | badSnapshot .. => .aborted
  | notPair .. | numeralTooLong _ | badScalar _ | unknownKind _ | derivedNotParsed _
  | derivedNotFetched _ | unsupportedFormat _ | undecodable _ | nullInPath => .refused
  | fileFault .. => .unwritable
  | noFields | kindNotText | noElements | notKey | ruleNotText | infiniteBound | codeTooLarge
  | notWritable | unknownDetector _ | cellNotText | badMarkup => .fatal

def message? : Fault → Option String
  | notPair position length => some <|
    "dictionary update sequence element #" ++ toString position ++ " has length " ++
      toString length ++ "; 2 is required"
  | numeralTooLong digits => some <|
    "Exceeds the limit (" ++ toString Text.digitLimit ++
      " digits) for integer string conversion" ++
      (digits.map fun count ↦ ": value has " ++ toString count ++ " digits").getD "" ++
      "; use sys.set_int_max_str_digits() to increase the limit"
  | badScalar text => some text
  | unknownKind name => some (Text.quoted name ++ " is not a valid AssetKind")
  | derivedNotParsed kind => some (kind.name ++ " assets are derived and cannot be parsed")
  | derivedNotFetched kind => some (kind.name ++ " assets are derived, not fetched")
  | unsupportedFormat suffix => some <|
    "Unsupported report format " ++ Text.quoted suffix ++ ", use .json, .yaml or .yml"
  | unknownDetector name => some name
  | notFetched kind reason => some ("Failed to fetch " ++ kind.name ++ " assets: " ++ reason)
  | notAuthenticated reason => some ("Failed to authenticate: " ++ reason)
  | badSnapshot path reason => some ("Cannot read snapshot " ++ path ++ ": " ++ reason)
  | undecodable fault => some fault.message
  | nullInPath => some "embedded null byte"
  | fileFault fault path => some (fault.message path)
  | noFields | kindNotText | noElements | notKey | ruleNotText | infiniteBound | codeTooLarge
  | notWritable | cellNotText | badMarkup => none

end Fault

end ClusterAudit
