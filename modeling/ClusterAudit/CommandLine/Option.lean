import ClusterAudit.CommandLine.Indices

/-!
# Command line options

Options have a long spelling and most of them a short one.  A word of the command line is an option,
possibly with an argument written into it, an unknown option, or a plain word.  A long option may be
cut short as long as only one option begins that way.
-/

namespace ClusterAudit.CommandLine

/-- Why reading the command line stops. -/
inductive Stop where
  /-- Help was asked for. -/
  | help
  /-- A word is the beginning of several options. -/
  | ambiguous (word : String) (candidates : List String)
  /-- An option has an argument that it does not take. -/
  | ignoredArgument (option argument : String)
  /-- An option lacks its argument. -/
  | missingArgument (option : String)
  /-- The argument of an option is no list of detectors. -/
  | malformedList (option text : String)
  /-- Words are left over. -/
  | unrecognized (words : List String)
deriving DecidableEq, Repr

inductive OptionName where
  | help
  | all
  | rbac
  | isolation
  | podSecurity
  | assets
  | quiet
  | color
  | defaults
  | output
  | snapshot
  | context
  | interactive
  | verbose
deriving DecidableEq, Repr, Inhabited

/-- How many arguments an option takes. -/
inductive Arity where
  | none
  | atMostOne
  | one
deriving DecidableEq, Repr

namespace OptionName

/-- All options, in the order of the help text. -/
def every : List OptionName :=
  [help, all, rbac, isolation, podSecurity, assets, quiet, color, defaults, output, snapshot,
    context, interactive, verbose]

/-- The spellings of an option, the short one first. -/
def spellings : OptionName → List String
  | help => ["-h", "--help"]
  | all => ["-a", "--all"]
  | rbac => ["-r", "--rbac"]
  | isolation => ["-i", "--iso"]
  | podSecurity => ["-p", "--psp"]
  | assets => ["--assets"]
  | quiet => ["-q", "--quiet"]
  | color => ["-c", "--color"]
  | defaults => ["-d", "--defaults"]
  | output => ["-o", "--output"]
  | snapshot => ["--snapshot"]
  | context => ["--context"]
  | interactive => ["--interactive"]
  | verbose => ["-v", "--verbose"]

def display (name : OptionName) : String :=
  "/".intercalate name.spellings

def arity : OptionName → Arity
  | rbac | isolation | podSecurity => .atMostOne
  | output | snapshot | context => .one
  | _ => .none

def ofSpelling? (spelling : String) : Option OptionName :=
  every.find? fun name ↦ name.spellings.contains spelling

end OptionName

/-- The spellings of all options, each with its option. -/
def allSpellings : List (String × OptionName) :=
  OptionName.every.flatMap fun name ↦ name.spellings.map (·, name)

/-- What a word of the command line is. -/
inductive Word where
  | plain
  /-- The word after which all words are plain. -/
  | separator
  | option (name : OptionName) (spelling : String) (argument : Option String)
  | unknown
deriving DecidableEq, Repr

namespace Word

/-- Whether a word is written like a negative number, with or without decimals. -/
def isNegativeNumber (cs : List Char) : Bool :=
  match cs with
  | '-' :: rest =>
    let body := if rest.getLast? = some '\n' then rest.dropLast else rest
    let digits := body.takeWhile fun c ↦ (Text.digitValue? c).isSome
    match body.drop digits.length with
    | [] => !digits.isEmpty
    | '.' :: decimals => !decimals.isEmpty && decimals.all fun c ↦ (Text.digitValue? c).isSome
    | _ => false
  | _ => false

/-- The text before the first equality sign, and the text after it if there is one. -/
def splitArgument (word : String) : String × Option String :=
  let name := word.toList.takeWhile (· ≠ '=')
  match word.toList.drop name.length with
  | [] => (String.ofList name, none)
  | _ :: argument => (String.ofList name, some (String.ofList argument))

/-- The options that a word which is no full spelling may stand for: those whose spelling it begins,
and for a single hyphen also the short option that the word begins with, whose argument follows. -/
def candidates (word : String) : List (String × OptionName × Option String) :=
  match word.toList with
  | '-' :: '-' :: _ =>
    let (start, argument) := splitArgument word
    (allSpellings.filter fun entry ↦ entry.1.startsWith start).map fun (spelling, name) ↦
      (spelling, name, argument)
  | '-' :: c :: rest =>
    allSpellings.filterMap fun (spelling, name) ↦
      if spelling = String.ofList ['-', c] then some (spelling, name, some (String.ofList rest))
      else if spelling.startsWith word then some (spelling, name, none)
      else none
  | _ => []

/-- What a word is, given that no separator stands before it. -/
def classify (word : String) : Except Stop Word :=
  match word.toList with
  | '-' :: rest =>
    match OptionName.ofSpelling? word with
    | some name => .ok (.option name word none)
    | none =>
      if rest.isEmpty then .ok .plain
      else
        match splitArgument word with
        | (spelling, some argument) =>
          match OptionName.ofSpelling? spelling with
          | some name => .ok (.option name spelling (some argument))
          | none => guess
        | (_, none) => guess
  | _ => .ok .plain
where
  /-- What a word is that names no option in full. -/
  guess : Except Stop Word :=
    match candidates word with
    | [] => .ok (if isNegativeNumber word.toList || word.contains ' ' then .plain else .unknown)
    | [(spelling, name, argument)] => .ok (.option name spelling argument)
    | several => .error (.ambiguous word (several.map (·.1)))

def classifyAll : List String → Except Stop (List (String × Word))
  | [] => .ok []
  | word :: rest =>
    if word = "--" then .ok ((word, .separator) :: rest.map (·, .plain))
    else do
      let kind ← classify word
      let others ← classifyAll rest
      return (word, kind) :: others

end Word

/-- The wording of a stop; there is none for help. -/
def Stop.message : Stop → String
  | help => ""
  | ambiguous word candidates =>
    "ambiguous option: " ++ word ++ " could match " ++ ", ".intercalate candidates
  | ignoredArgument option argument =>
    "argument " ++ option ++ ": ignored explicit argument " ++ Text.quoted argument
  | missingArgument option => "argument " ++ option ++ ": expected one argument"
  | malformedList option text =>
    "argument " ++ option ++ ": " ++ Selection.malformedMessage text
  | unrecognized words => "unrecognized arguments: " ++ " ".intercalate words

def Stop.exitCode : Stop → Nat
  | help => 0
  | _ => 2

end ClusterAudit.CommandLine
