import ClusterAudit.CommandLine.Indices
import ClusterAudit.CommandLine.Option
import ClusterAudit.Config

/-!
# The arguments of the program

The words of the command line are taken one after another.  A flag is set whenever it occurs, an
option with an argument keeps the last one, and snapshot files add up.  Catalogs that are not
mentioned are left out as soon as one catalog is mentioned, unless all detectors are asked for.
-/

namespace ClusterAudit.CommandLine

/-- What the options read so far have given. -/
structure Given where
  all : Bool := false
  /-- The selection of each catalog that was mentioned. -/
  rbac : Option Selection := none
  isolation : Option Selection := none
  podSecurity : Option Selection := none
  assets : Bool := false
  quiet : Bool := false
  color : Bool := false
  defaults : Bool := false
  output : Option String := none
  snapshots : List String := []
  context : Option String := none
  interactive : Bool := false
  verbose : Bool := false
deriving DecidableEq, Repr, Inhabited

/-- The argument of an option that takes at most one: a double hyphen counts as none, and without an
argument the whole catalog is meant. -/
def readSelection (name : OptionName) (argument : Option String) : Except Stop Selection :=
  match argument with
  | none | some "--" => .ok none
  | some text => (Selection.read text).mapError (.malformedList name.display)

/-- The argument of an option that takes one; a double hyphen counts as nothing. -/
def readText (name : OptionName) (argument : Option String) : Except Stop String :=
  match argument with
  | none => .error (.missingArgument name.display)
  | some "--" => .ok ""
  | some text => .ok text

def Given.take (given : Given) (name : OptionName) (argument : Option String) :
    Except Stop Given :=
  match name with
  | .help => .error .help
  | .all => .ok { given with all := true }
  | .rbac => do return { given with rbac := some (← readSelection name argument) }
  | .isolation => do return { given with isolation := some (← readSelection name argument) }
  | .podSecurity => do return { given with podSecurity := some (← readSelection name argument) }
  | .assets => .ok { given with assets := true }
  | .quiet => .ok { given with quiet := true }
  | .color => .ok { given with color := true }
  | .defaults => .ok { given with defaults := true }
  | .output => do return { given with output := some (← readText name argument) }
  | .snapshot => do
    return { given with snapshots := given.snapshots ++ [← readText name argument] }
  | .context => do return { given with context := some (← readText name argument) }
  | .interactive => .ok { given with interactive := true }
  | .verbose => .ok { given with verbose := true }

/-- The options in one word: flags, and a last option with the argument that the word holds. -/
structure Group where
  flags : List OptionName
  last : OptionName
  argument : Option String
deriving DecidableEq, Repr

/-- The group that starts with an option and goes on with the characters after it.  An option that
takes an argument takes them all; after a flag with a short spelling they are further short options. -/
def Group.ofCharacters (name : OptionName) (short : Bool) : List Char → Except Stop Group
  | [] => .ok ⟨[], name, none⟩
  | c :: rest =>
    if name.arity ≠ .none then .ok ⟨[], name, some (String.ofList (c :: rest))⟩
    else if !short then .error (.ignoredArgument name.display (String.ofList (c :: rest)))
    else
      match OptionName.ofSpelling? (String.ofList ['-', c]) with
      | none => .error (.ignoredArgument name.display (String.ofList (c :: rest)))
      | some next => do
        let group ← Group.ofCharacters next short rest
        return { group with flags := name :: group.flags }

/-- The group of an option with the argument that is written into its word. -/
def Group.ofOption (name : OptionName) (spelling : String) (argument : Option String) :
    Except Stop Group :=
  match argument with
  | none => .ok ⟨[], name, none⟩
  | some "" =>
    if name.arity = .none then .error (.ignoredArgument name.display "")
    else .ok ⟨[], name, some ""⟩
  | some text => Group.ofCharacters name (!spelling.startsWith "--") text.toList

/-- Takes flags one after another. -/
def Given.takeAll (given : Given) : List OptionName → Except Stop Given
  | [] => .ok given
  | name :: rest => do (← given.take name none).takeAll rest

/-- Takes the options of a group, the last one with the given argument. -/
def Given.takeGroup (given : Given) (group : Group) (argument : Option String) :
    Except Stop Given := do
  (← given.takeAll group.flags).take group.last argument

/-- Whether the last option of a group takes the next word, if that is a plain one. -/
def Group.wantsNext (group : Group) : Bool :=
  group.argument.isNone && group.last.arity ≠ .none

/-- Takes the words of a command line; `leftOver` holds the words that were not recognized. -/
def Given.takeWords (given : Given) (leftOver : List String) :
    List (String × Word) → Except Stop (Given × List String)
  | [] => .ok (given, leftOver)
  | (_, .option name spelling argument) :: rest =>
    match Group.ofOption name spelling argument, rest with
    | .error stop, _ => .error stop
    | .ok group, (text, .plain) :: more =>
      if group.wantsNext then do
        (← given.takeGroup group (some text)).takeWords leftOver more
      else do
        (← given.takeGroup group group.argument).takeWords leftOver ((text, .plain) :: more)
    | .ok group, rest =>
      if group.wantsNext && group.last.arity = .one then
        .error (.missingArgument group.last.display)
      else do
        (← given.takeGroup group group.argument).takeWords leftOver rest
  | (word, _) :: rest => given.takeWords (leftOver ++ [word]) rest

/-- The selection of a catalog: everything when all is wanted or no catalog was mentioned, else what
was given for it, and nothing when it was not mentioned. -/
def Given.selection (given : Given) (mentioned : Option Selection) : Selection :=
  if given.all || (given.rbac.isNone && given.isolation.isNone && given.podSecurity.isNone) then none
  else mentioned.getD (some [])

def Given.config (given : Given) : AuditConfig where
  rbac := given.selection given.rbac
  isolation := given.selection given.isolation
  podSecurity := given.selection given.podSecurity
  groupByAsset := given.assets
  quiet := given.quiet
  color := given.color
  includeDefaults := given.defaults
  outputFile := given.output
  snapshotFiles := given.snapshots
  context := given.context
  interactive := given.interactive
  verbose := given.verbose

def read (arguments : List String) : Except Stop AuditConfig := do
  let words ← Word.classifyAll arguments
  let (given, leftOver) ← ({} : Given).takeWords [] words
  if leftOver.isEmpty then return given.config
  else throw (.unrecognized leftOver)

end ClusterAudit.CommandLine
