import ClusterAudit.CommandLine.Arguments
import Mathlib.Data.List.Basic
import Mathlib.Data.List.Induction

/-!
# Command lines of long options

A command line of options by their long spellings, with arguments behind equality signs, is read as
what its options say together.  Flags occur or not, and repeating them changes nothing; of several
arguments of one option the last one counts, snapshot files apart, which add up.  A catalog that is
mentioned without an argument is wanted as a whole, and one that is not mentioned is left out only next
to another that is.  The first argument that should be a list of detectors and is none stops the reading.
-/

namespace ClusterAudit.CommandLine

/-! ## Long spellings -/

namespace OptionName

def long (name : OptionName) : String :=
  name.spellings.getLastD ""

theorem ofSpelling?_long (name : OptionName) : ofSpelling? name.long = some name := by
  cases name <;> decide

/-- The long spelling is two hyphens and more. -/
theorem long_toList (name : OptionName) :
    ∃ c cs, name.long.toList = '-' :: '-' :: c :: cs ∧ '=' ∉ name.long.toList := by
  cases name <;> exact ⟨_, _, rfl, by decide⟩

theorem equals_notMem_spellings (name : OptionName) :
    ∀ spelling ∈ name.spellings, '=' ∉ spelling.toList := by
  cases name <;> decide

theorem ofSpelling?_eq_none {word : String} (h : '=' ∈ word.toList) : ofSpelling? word = none := by
  refine List.find?_eq_none.2 fun name _ hword ↦ ?_
  exact equals_notMem_spellings name word (List.contains_iff_mem.1 hword) h

end OptionName

theorem Word.splitArgument_append {spelling : String} (h : '=' ∉ spelling.toList) (text : String) :
    splitArgument (spelling ++ "=" ++ text) = (spelling, some text) := by
  have hword : (spelling ++ "=" ++ text).toList = spelling.toList ++ '=' :: text.toList := by
    simp
  have hname : (spelling.toList ++ '=' :: text.toList).takeWhile (· ≠ '=') = spelling.toList := by
    rw [List.takeWhile_append_of_pos]
    · simp
    · intro c hc
      exact decide_eq_true fun hequals ↦ h (hequals ▸ hc)
  unfold splitArgument
  dsimp only
  rw [hword, hname, List.drop_left]
  simp

/-! ## Mentions -/

/-- An option by its long spelling, with the argument that goes with it. -/
structure Mention where
  name : OptionName
  argument : Option String
  name_ne_help : name ≠ .help
  argument_eq_none : name.arity = .none → argument = none
  argument_ne_none : name.arity = .one → argument ≠ none
  /-- Two hyphens alone are not taken for an argument. -/
  argument_ne_hyphens : argument ≠ some "--"

namespace Mention

def word (mention : Mention) : String :=
  match mention.argument with
  | none => mention.name.long
  | some text => mention.name.long ++ "=" ++ text

/-- The stop at a mention whose argument should be a list of detectors and is none. -/
def stop? (mention : Mention) : Option Stop :=
  match mention.name.arity, mention.argument with
  | .atMostOne, some text =>
    match Selection.read text with
    | .ok _ => none
    | .error malformed => some (.malformedList mention.name.display malformed)
  | _, _ => none

/-- What is selected from a catalog that is mentioned, the whole catalog when there is no argument. -/
def selection (mention : Mention) : Selection :=
  match mention.argument.map Selection.read with
  | some (.ok selection) => selection
  | _ => none

theorem classify_word (mention : Mention) :
    Word.classify mention.word = .ok (.option mention.name mention.name.long mention.argument) := by
  obtain ⟨c, cs, hlong, hequals⟩ := mention.name.long_toList
  unfold word
  cases mention.argument with
  | none =>
    unfold Word.classify
    simp only [hlong, mention.name.ofSpelling?_long]
  | some text =>
    have hword : (mention.name.long ++ "=" ++ text).toList =
        '-' :: '-' :: c :: (cs ++ '=' :: text.toList) := by simp [hlong]
    have hmem : '=' ∈ (mention.name.long ++ "=" ++ text).toList := by simp
    unfold Word.classify
    simp only [hword, OptionName.ofSpelling?_eq_none hmem, Word.splitArgument_append hequals,
      mention.name.ofSpelling?_long]
    rfl

theorem word_ne_hyphens (mention : Mention) : mention.word ≠ "--" := by
  obtain ⟨c, cs, hlong, -⟩ := mention.name.long_toList
  intro heq
  have hlist := congrArg String.toList heq
  unfold word at hlist
  cases hargument : mention.argument with
  | none => simp [hargument, hlong] at hlist
  | some text => simp [hargument, hlong] at hlist

/-- The word of a mention holds its whole argument and no other option. -/
theorem ofOption (mention : Mention) :
    Group.ofOption mention.name mention.name.long mention.argument =
      .ok ⟨[], mention.name, mention.argument⟩ := by
  cases hargument : mention.argument with
  | none => rfl
  | some text =>
    have harity : mention.name.arity ≠ .none := by
      intro h
      rw [mention.argument_eq_none h] at hargument
      cases hargument
    unfold Group.ofOption
    by_cases hempty : text = ""
    · subst hempty
      simp [harity]
    · obtain ⟨c, cs, htext⟩ := List.exists_cons_of_ne_nil (mt String.toList_eq_nil_iff.1 hempty)
      simp only [htext, Group.ofCharacters, if_pos harity]
      rw [← htext, String.ofList_toList]

/-- A mention leaves no argument to a word after it. -/
theorem complete (mention : Mention) :
    ((⟨[], mention.name, mention.argument⟩ : Group).wantsNext && mention.name.arity = .one) = false := by
  cases hargument : mention.argument with
  | none =>
    have harity : mention.name.arity ≠ .one := fun h ↦ mention.argument_ne_none h hargument
    simp [harity]
  | some text => rfl

def classified (mention : Mention) : String × Word :=
  (mention.word, .option mention.name mention.name.long mention.argument)

theorem classifyAll_words (mentions : List Mention) :
    Word.classifyAll (mentions.map word) = .ok (mentions.map classified) := by
  induction mentions with
  | nil => rfl
  | cons mention rest ih =>
    rw [List.map_cons, Word.classifyAll, if_neg mention.word_ne_hyphens, mention.classify_word, ih]
    rfl

/-- Taking mentions one after another. -/
def takeAll (given : Given) (mentions : List Mention) : Except Stop Given :=
  mentions.foldlM (fun given mention ↦ given.take mention.name mention.argument) given

theorem takeWords_cons (mention : Mention) (rest : List Mention) (given : Given)
    (leftOver : List String) :
    given.takeWords leftOver ((mention :: rest).map classified) =
      given.take mention.name mention.argument >>= fun next ↦
        next.takeWords leftOver (rest.map classified) := by
  have hgroup (argument : Option String) :
      given.takeGroup ⟨[], mention.name, argument⟩ argument = given.take mention.name argument := rfl
  rw [List.map_cons, Given.takeWords.eq_def]
  cases rest with
  | nil =>
    simp only [classified, List.map_nil, mention.ofOption, mention.complete, Bool.false_eq_true,
      if_false, hgroup]
  | cons other rest =>
    simp only [classified, List.map_cons, mention.ofOption, mention.complete, Bool.false_eq_true,
      if_false, hgroup]

/-- No option takes a word after its own, since every word is an option. -/
theorem takeWords_words (mentions : List Mention) (given : Given) (leftOver : List String) :
    given.takeWords leftOver (mentions.map classified) = (takeAll given mentions).map (·, leftOver) := by
  induction mentions generalizing given with
  | nil => rfl
  | cons mention rest ih =>
    rw [takeWords_cons, takeAll, List.foldlM_cons]
    cases given.take mention.name mention.argument with
    | error stop => rfl
    | ok next => exact ih next

/-! ## What mentions mean together -/

def occurs (mentions : List Mention) (name : OptionName) : Bool :=
  mentions.any fun mention ↦ mention.name = name

/-- The arguments of an option, in the order of its mentions. -/
def arguments (mentions : List Mention) (name : OptionName) : List String :=
  (mentions.filter fun mention ↦ mention.name = name).filterMap Mention.argument

/-- The selections from a catalog, in the order of its mentions. -/
def selections (mentions : List Mention) (name : OptionName) : List Selection :=
  (mentions.filter fun mention ↦ mention.name = name).map Mention.selection

/-- The selection from a catalog: everything when all detectors are asked for or no catalog is
mentioned, else the last one that is made, and nothing when none is. -/
def chosen (mentions : List Mention) (name : OptionName) : Selection :=
  if occurs mentions .all || mentions.all fun mention ↦ mention.name.arity ≠ .atMostOne then none
  else (selections mentions name).getLast?.getD (some [])

def meaning (mentions : List Mention) : AuditConfig where
  rbac := chosen mentions .rbac
  isolation := chosen mentions .isolation
  podSecurity := chosen mentions .podSecurity
  groupByAsset := occurs mentions .assets
  quiet := occurs mentions .quiet
  color := occurs mentions .color
  includeDefaults := occurs mentions .defaults
  outputFile := (arguments mentions .output).getLast?
  snapshotFiles := arguments mentions .snapshot
  context := (arguments mentions .context).getLast?
  interactive := occurs mentions .interactive
  verbose := occurs mentions .verbose

/-- What mentions give, one by one. -/
def given (mentions : List Mention) : Given where
  all := occurs mentions .all
  rbac := (selections mentions .rbac).getLast?
  isolation := (selections mentions .isolation).getLast?
  podSecurity := (selections mentions .podSecurity).getLast?
  assets := occurs mentions .assets
  quiet := occurs mentions .quiet
  color := occurs mentions .color
  defaults := occurs mentions .defaults
  output := (arguments mentions .output).getLast?
  snapshots := arguments mentions .snapshot
  context := (arguments mentions .context).getLast?
  interactive := occurs mentions .interactive
  verbose := occurs mentions .verbose

section

variable (mentions : List Mention) (mention : Mention) (name : OptionName)

@[simp]
theorem occurs_concat :
    occurs (mentions ++ [mention]) name = (occurs mentions name || mention.name = name) := by
  simp [occurs]

@[simp]
theorem arguments_concat :
    arguments (mentions ++ [mention]) name =
      arguments mentions name ++ if mention.name = name then mention.argument.toList else [] := by
  unfold arguments
  by_cases hname : mention.name = name
  · cases hargument : mention.argument with
    | none => simp [hname, hargument]
    | some text => simp [hname, hargument]
  · simp [hname]

@[simp]
theorem selections_concat :
    selections (mentions ++ [mention]) name =
      selections mentions name ++ if mention.name = name then [mention.selection] else [] := by
  unfold selections
  by_cases hname : mention.name = name
  · simp [hname]
  · simp [hname]

end

theorem readText_argument (mention : Mention) (h : mention.name.arity = .one) :
    ∃ text, mention.argument = some text ∧ readText mention.name mention.argument = .ok text := by
  obtain ⟨text, htext⟩ := Option.ne_none_iff_exists'.1 (mention.argument_ne_none h)
  have hhyphens : text ≠ "--" := fun heq ↦ mention.argument_ne_hyphens (heq ▸ htext)
  exact ⟨text, htext, by simp [readText, htext]⟩

theorem readSelection_argument (mention : Mention) (h : mention.name.arity = .atMostOne) :
    readSelection mention.name mention.argument =
      match mention.stop? with
      | none => .ok mention.selection
      | some stop => .error stop := by
  unfold readSelection stop? selection
  cases hargument : mention.argument with
  | none => simp [h]
  | some text =>
    have hhyphens : text ≠ "--" := fun heq ↦ mention.argument_ne_hyphens (heq ▸ hargument)
    cases hread : Selection.read text with
    | error malformed => simp [h, hread, Except.mapError]
    | ok selection => simp [h, hread, Except.mapError]

theorem stop?_eq_none (mention : Mention) (h : mention.name.arity ≠ .atMostOne) :
    mention.stop? = none := by
  unfold stop?
  cases harity : mention.name.arity with
  | atMostOne => exact absurd harity h
  | none => rfl
  | one => rfl

/-- A further mention is taken into what the mentions before it give, unless it stops the reading. -/
theorem take_given (mentions : List Mention) (mention : Mention) :
    (given mentions).take mention.name mention.argument =
      match mention.stop? with
      | none => .ok (given (mentions ++ [mention]))
      | some stop => .error stop := by
  cases hname : mention.name with
  | help => exact absurd hname mention.name_ne_help
  | rbac | isolation | podSecurity =>
    have hread := mention.readSelection_argument (by rw [hname]; rfl)
    cases hstop : mention.stop? with
    | none => simp_all [Given.take, given]
    | some stop => simp_all [Given.take, given]
  | output | snapshot | context =>
    obtain ⟨text, hargument, hread⟩ := mention.readText_argument (by rw [hname]; rfl)
    have hstop : mention.stop? = none := mention.stop?_eq_none (by rw [hname]; nofun)
    simp_all [Given.take, given]
  | _ =>
    have hstop : mention.stop? = none := mention.stop?_eq_none (by rw [hname]; nofun)
    simp [hstop, Given.take, given, hname]

theorem takeAll_default (mentions : List Mention) :
    takeAll {} mentions =
      match mentions.findSome? stop? with
      | none => .ok (given mentions)
      | some stop => .error stop := by
  -- From the end, since what is given last counts.
  induction mentions using List.reverseRecOn with
  | nil => rfl
  | append_singleton before mention ih =>
    rw [takeAll, List.foldlM_append, ← takeAll, ih, List.findSome?_append]
    cases before.findSome? stop? with
    | some stop => rfl
    | none =>
      change (given before).take mention.name mention.argument >>= pure = _
      rw [bind_pure, take_given, List.findSome?_singleton, Option.none_or]

theorem selections_getLast?_isNone (mentions : List Mention) (name : OptionName) :
    (selections mentions name).getLast?.isNone = mentions.all fun mention ↦ mention.name ≠ name := by
  rw [Bool.eq_iff_iff]
  simp [selections]

/-- Catalogs are what takes an argument or none. -/
theorem arity_ne_atMostOne_iff (name : OptionName) :
    name.arity ≠ .atMostOne ↔ name ≠ .rbac ∧ name ≠ .isolation ∧ name ≠ .podSecurity := by
  cases name <;> decide

theorem config_given (mentions : List Mention) : (given mentions).config = meaning mentions := by
  have hmentioned : ((given mentions).rbac.isNone && (given mentions).isolation.isNone &&
      (given mentions).podSecurity.isNone) =
        mentions.all fun mention ↦ mention.name.arity ≠ .atMostOne := by
    rw [Bool.eq_iff_iff]
    simp only [given, selections_getLast?_isNone, Bool.and_eq_true, List.all_eq_true,
      decide_eq_true_iff, arity_ne_atMostOne_iff, forall_and, and_assoc]
  have hchosen (name : OptionName) :
      (given mentions).selection (selections mentions name).getLast? = chosen mentions name := by
    unfold Given.selection chosen
    rw [hmentioned]
    rfl
  unfold Given.config meaning
  simp only [← hchosen]
  rfl

end Mention

/-- A command line of long options means what its mentions mean together, unless one of them has a
malformed list of detectors; then the first such mention is named. -/
theorem read_words (mentions : List Mention) :
    read (mentions.map Mention.word) =
      match mentions.findSome? Mention.stop? with
      | none => .ok (Mention.meaning mentions)
      | some stop => .error stop := by
  rw [read, Mention.classifyAll_words]
  change (({} : Given).takeWords [] (mentions.map Mention.classified) >>= _) = _
  rw [Mention.takeWords_words, Mention.takeAll_default]
  cases mentions.findSome? Mention.stop? with
  | none => exact congrArg Except.ok (Mention.config_given mentions)
  | some stop => rfl

end ClusterAudit.CommandLine
