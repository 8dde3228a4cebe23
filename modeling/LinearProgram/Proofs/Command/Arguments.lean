import LinearProgram.Command.Arguments

namespace LinearProgram.Command

/-!
# The same source in other command lines

The words that state a problem for a check state the same problem for the other
commands, behind the options of those commands (`addWords?_withSource`).
-/

namespace Arguments

section Words

variable (grammar : Grammar) (arguments : Arguments) (rest : List String)

theorem addWords?_separator :
    arguments.addWords? grammar ("--" :: rest) = arguments.addFiles? rest := by
  cases rest <;> rfl

theorem addWords?_dual :
    arguments.addWords? grammar ("--dual" :: rest) =
      (arguments.addDual? grammar).bind fun extended => extended.addWords? grammar rest := by
  cases rest <;> rfl

theorem addWords?_file
    {word : String}
    (noSeparator : word ≠ "--")
    (noDual : word ≠ "--dual")
    (noOption : ¬ isOption word) :
    arguments.addWords? grammar (word :: rest) =
      (arguments.addFile? word).bind fun extended => extended.addWords? grammar rest := by
  rw [addWords?.eq_def]
  simp only [noSeparator, noDual, noOption, if_false]
  rfl

end Words

/-- The options that a command needs to state its source. -/
def sourceGrammar : Grammar :=
  ⟨[.text, .delimiter], false⟩

/-- Options of a command, with the arguments that state its source added. -/
def withSource (options arguments : Arguments) : Arguments :=
  ⟨arguments.file, options.dual, arguments.settings ++ options.settings⟩

section Source

variable
  {options : Arguments}
  {grammar : Grammar}
  (accepts : ∀ setting ∈ sourceGrammar.settings, setting ∈ grammar.settings)
  (apart : ∀ setting ∈ sourceGrammar.settings, options.value? setting = none)

include apart in
/-- An option that states a source has the value that is given with the source. -/
theorem value?_withSource
    {setting : Setting}
    (ofSource : setting ∈ sourceGrammar.settings)
    (arguments : Arguments) :
    (options.withSource arguments).value? setting = arguments.value? setting := by
  rw [value?, withSource, List.lookup_append, ← value?, ← value?, apart setting ofSource,
    Option.or_none]

include apart in
/-- The source is the one that its words state, whatever options stand in front of them. -/
theorem source_withSource (arguments : Arguments) :
    (options.withSource arguments).source = arguments.source := by
  rw [source, source, value?_withSource apart (by decide), value?_withSource apart (by decide)]
  rfl

/-- A file that is accepted alone is accepted behind the options of a command. -/
theorem addFile?_withSource
    {arguments result : Arguments}
    {name : String}
    (added : arguments.addFile? name = some result) :
    (options.withSource arguments).addFile? name = some (options.withSource result) := by
  unfold addFile? at added ⊢
  split at added
  · next allowed =>
      cases added
      exact if_pos allowed
  · cases added

include accepts apart in
/-- An option of the source that is accepted alone is accepted behind those of a command. -/
theorem addSetting?_withSource
    {arguments result : Arguments}
    {setting : Setting}
    {value : String}
    (added : arguments.addSetting? sourceGrammar setting value = some result) :
    (options.withSource arguments).addSetting? grammar setting value =
      some (options.withSource result) := by
  unfold addSetting? at added ⊢
  split at added
  · next allowed =>
      cases added
      rw [Bool.and_eq_true, List.contains_iff_mem] at allowed
      rw [if_pos]
      · rfl
      · rw [Bool.and_eq_true, List.contains_iff_mem, value?_withSource apart allowed.1]
        exact ⟨accepts setting allowed.1, allowed.2⟩
  · cases added

theorem addFiles?_withSource
    {arguments result : Arguments}
    {words : List String}
    (added : arguments.addFiles? words = some result) :
    (options.withSource arguments).addFiles? words = some (options.withSource result) := by
  induction words generalizing arguments with
  | nil =>
      cases added
      rfl
  | cons word rest inductionHypothesis =>
      obtain ⟨extended, isFile, behind⟩ := Option.bind_eq_some_iff.mp added
      rw [addFiles?, addFile?_withSource isFile]
      exact inductionHypothesis behind

include accepts apart in
/-- Behind other options, the words of a source mean what they mean alone. -/
theorem addWords?_withSource
    {arguments result : Arguments}
    {words : List String}
    (added : arguments.addWords? sourceGrammar words = some result) :
    (options.withSource arguments).addWords? grammar words =
      some (options.withSource result) := by
  fun_induction addWords? sourceGrammar arguments words with
  | case1 arguments =>
      cases added
      rfl
  | case2 arguments rest =>
      rw [addWords?_separator]
      exact addFiles?_withSource added
  | case3 arguments rest noSeparator inductionHypothesis =>
      -- A source does not ask for the dual.
      obtain ⟨extended, isDual, _⟩ := Option.bind_eq_some_iff.mp added
      cases isDual
  | case4 =>
      cases added
  | case5 =>
      cases added
  | case6 arguments word noSeparator noDual isOption value rest isValue inductionHypothesis =>
      obtain ⟨setting, spelled, added⟩ := Option.bind_eq_some_iff.mp added
      obtain ⟨extended, isSetting, behind⟩ := Option.bind_eq_some_iff.mp added
      rw [addWords?, if_neg noSeparator, if_neg noDual, if_pos isOption]
      simp only [isValue, Bool.false_eq_true, if_false, spelled, Option.bind_eq_bind,
        Option.bind_some, addSetting?_withSource accepts apart isSetting]
      exact inductionHypothesis extended behind
  | case7 arguments word rest noSeparator noDual noOption inductionHypothesis =>
      obtain ⟨extended, isFile, behind⟩ := Option.bind_eq_some_iff.mp added
      rw [addWords?_file _ _ _ noSeparator noDual noOption, addFile?_withSource isFile]
      exact inductionHypothesis extended behind

end Source

/-! ## Only what is accepted -/

/-- All options that are given are accepted. -/
def Within (arguments : Arguments) (grammar : Grammar) : Prop :=
  ∀ entry ∈ arguments.settings, entry.1 ∈ grammar.settings

section Within

variable {arguments result : Arguments} {grammar : Grammar} {words : List String}

theorem settings_addFile?
    {name : String}
    (added : arguments.addFile? name = some result) :
    result.settings = arguments.settings := by
  unfold addFile? at added
  split at added <;> cases added
  rfl

theorem settings_addDual?
    (added : arguments.addDual? grammar = some result) :
    result.settings = arguments.settings := by
  unfold addDual? at added
  split at added <;> cases added
  rfl

theorem settings_addFiles?
    (added : arguments.addFiles? words = some result) :
    result.settings = arguments.settings := by
  induction words generalizing arguments with
  | nil =>
      cases added
      rfl
  | cons word rest inductionHypothesis =>
      obtain ⟨extended, isFile, behind⟩ := Option.bind_eq_some_iff.mp added
      rw [inductionHypothesis behind, settings_addFile? isFile]

/-- Only options of the grammar are added. -/
theorem Within.addSetting?
    (within : arguments.Within grammar)
    {setting : Setting}
    {value : String}
    (added : arguments.addSetting? grammar setting value = some result) :
    result.Within grammar := by
  unfold Arguments.addSetting? at added
  split at added
  · next allowed =>
      cases added
      rw [Bool.and_eq_true, List.contains_iff_mem] at allowed
      exact List.forall_mem_cons.mpr ⟨allowed.1, within⟩
  · cases added

/-- The words of a command line leave the arguments within its grammar. -/
theorem Within.addWords?
    (within : arguments.Within grammar)
    (added : arguments.addWords? grammar words = some result) :
    result.Within grammar := by
  fun_induction Arguments.addWords? grammar arguments words with
  | case1 arguments =>
      cases added
      exact within
  | case2 arguments rest =>
      rw [Within, settings_addFiles? added]
      exact within
  | case3 arguments rest noSeparator inductionHypothesis =>
      obtain ⟨extended, isDual, behind⟩ := Option.bind_eq_some_iff.mp added
      refine inductionHypothesis extended ?_ behind
      rw [Within, settings_addDual? isDual]
      exact within
  | case4 =>
      cases added
  | case5 =>
      cases added
  | case6 arguments word noSeparator noDual isOption value rest isValue inductionHypothesis =>
      obtain ⟨setting, _, added⟩ := Option.bind_eq_some_iff.mp added
      obtain ⟨extended, isSetting, behind⟩ := Option.bind_eq_some_iff.mp added
      exact inductionHypothesis extended (within.addSetting? isSetting) behind
  | case7 arguments word rest noSeparator noDual noOption inductionHypothesis =>
      obtain ⟨extended, isFile, behind⟩ := Option.bind_eq_some_iff.mp added
      refine inductionHypothesis extended ?_ behind
      rw [Within, settings_addFile? isFile]
      exact within

/-- An option that the grammar does not have is not given. -/
theorem Within.value?_eq_none
    (within : arguments.Within grammar)
    {setting : Setting}
    (notAccepted : setting ∉ grammar.settings) :
    arguments.value? setting = none := by
  rw [value?, List.lookup_eq_none_iff]
  intro entry member
  rw [bne_iff_ne]
  rintro rfl
  exact notAccepted (within entry member)

end Within

end Arguments

/-- The words that ask for the dual. -/
def dualWords (dual : Bool) : List String :=
  if dual then ["--dual"] else []

/-- The words that ask for a format. -/
def formatWords : Option String → List String
  | none => []
  | some name => ["--format", name]

/-- The format that a name stands for, if one is given. -/
def formatNamed (name : Option String) : Format :=
  if name = some "json" then .json else .dump

namespace Arguments

/-- The setting of a format, if one is asked for. -/
def formatSettings : Option String → List (Setting × String)
  | none => []
  | some name => [(.format, name)]

/-- The words for the dual are read as the wish for it. -/
theorem addWords?_dualWords
    {grammar : Grammar}
    (accepts : grammar.dual)
    (dual : Bool)
    (rest : List String) :
    Arguments.empty.addWords? grammar (dualWords dual ++ rest) =
      Arguments.addWords? grammar ⟨none, dual, []⟩ rest := by
  cases dual with
  | false =>
      rfl
  | true =>
      rw [dualWords, if_pos rfl, List.cons_append, addWords?_dual, addDual?, accepts]
      rfl

/-- An option that is accepted and has not been given is added. -/
theorem addWords?_setting
    {grammar : Grammar}
    {arguments : Arguments}
    {word value : String}
    {setting : Setting}
    (isOption : isOption word)
    (spelled : Setting.ofSpelling? word = some setting)
    (isValue : Arguments.isOption value = false)
    (accepts : setting ∈ grammar.settings)
    (notGiven : arguments.value? setting = none)
    (rest : List String) :
    arguments.addWords? grammar (word :: value :: rest) =
      addWords? grammar { arguments with settings := (setting, value) :: arguments.settings }
        rest := by
  have noSeparator : word ≠ "--" := by
    rintro rfl
    cases spelled
  have noDual : word ≠ "--dual" := by
    rintro rfl
    cases spelled
  have allowed :
      (grammar.settings.contains setting && (arguments.value? setting).isNone) = true := by
    rw [Bool.and_eq_true, List.contains_iff_mem, notGiven]
    exact ⟨accepts, rfl⟩
  rw [addWords?, if_neg noSeparator, if_neg noDual, if_pos isOption]
  simp only [isValue, Bool.false_eq_true, if_false, spelled, Option.bind_eq_bind,
    Option.bind_some, addSetting?, allowed, if_true]

/-- The words for a format are read as the option with its name. -/
theorem addWords?_formatWords
    {grammar : Grammar}
    (accepts : .format ∈ grammar.settings)
    (dual : Bool)
    {name : Option String}
    (named : ∀ word ∈ name, isOption word = false)
    (rest : List String) :
    Arguments.addWords? grammar ⟨none, dual, []⟩ (formatWords name ++ rest) =
      Arguments.addWords? grammar ⟨none, dual, formatSettings name⟩ rest := by
  cases name with
  | none =>
      rfl
  | some word =>
      exact addWords?_setting (by decide) rfl (named word rfl) accepts rfl rest

end Arguments

open Arguments (sourceGrammar)

section Lines

variable {words : List String} {source : Source}

/-- A source that a check accepts is stated by options of a source alone. -/
theorem exists_arguments_of_check
    (accepted : parse? ("check" :: words) = some (.check source)) :
    ∃ arguments, Arguments.ofWords? sourceGrammar words = some arguments ∧
      arguments.source = source ∧ arguments.Within sourceGrammar := by
  obtain ⟨arguments, given, isSource⟩ := Option.bind_eq_some_iff.mp accepted
  cases isSource
  have nothing : Arguments.empty.Within sourceGrammar := by
    simp [Arguments.Within, Arguments.empty]
  exact ⟨arguments, given, rfl, nothing.addWords? given⟩

/-- Behind other options of another command, words state the same source as for a check. -/
theorem exists_ofWords?_behind
    (accepted : parse? ("check" :: words) = some (.check source))
    {grammar : Grammar}
    {front : List String}
    {options : Arguments}
    (accepts : ∀ setting ∈ sourceGrammar.settings, setting ∈ grammar.settings)
    (apart : ∀ setting ∈ sourceGrammar.settings, options.value? setting = none)
    (noFile : options.file = none)
    (inFront : ∀ rest, Arguments.ofWords? grammar (front ++ rest) =
      options.addWords? grammar rest) :
    ∃ together, Arguments.ofWords? grammar (front ++ words) = some together ∧
      together.source = source ∧ together.dual = options.dual ∧
      ∀ setting, setting ∉ sourceGrammar.settings →
        together.value? setting = options.value? setting := by
  obtain ⟨arguments, given, isSource, within⟩ := exists_arguments_of_check accepted
  have alone : options.withSource .empty = options := by
    rw [Arguments.withSource, Arguments.empty, ← noFile]
    rfl
  refine ⟨options.withSource arguments, ?_, ?_, rfl, ?_⟩
  · rw [inFront, ← alone]
    exact Arguments.addWords?_withSource accepts apart given
  · exact (Arguments.source_withSource apart arguments).trans isSource
  · intro setting notSource
    have notGiven := within.value?_eq_none notSource
    rw [Arguments.value?] at notGiven
    rw [Arguments.value?, Arguments.withSource, List.lookup_append, notGiven]
    rfl

/-- The words of a source mean the same to the command that prints matrices. -/
theorem parse?_matrices
    (accepted : parse? ("check" :: words) = some (.check source))
    (dual : Bool)
    {name : Option String}
    (named : ∀ word ∈ name, Arguments.isOption word = false) :
    parse? ("matrices" :: (dualWords dual ++ formatWords name ++ words)) =
      some (.matrices source dual (formatNamed name)) := by
  let options : Arguments := ⟨none, dual, Arguments.formatSettings name⟩
  have apart : ∀ setting ∈ sourceGrammar.settings, options.value? setting = none := by
    cases name <;> simp [sourceGrammar, options, Arguments.formatSettings, Arguments.value?]
  have inFront (rest : List String) :
      Arguments.ofWords? ⟨[.text, .delimiter, .format], true⟩
          (dualWords dual ++ formatWords name ++ rest) =
        options.addWords? ⟨[.text, .delimiter, .format], true⟩ rest := by
    rw [Arguments.ofWords?, List.append_assoc, Arguments.addWords?_dualWords rfl,
      Arguments.addWords?_formatWords (by decide) dual named]
  obtain ⟨together, given, isSource, isDual, others⟩ :=
    exists_ofWords?_behind accepted (by decide) apart rfl inFront
  have isFormat : together.format = formatNamed name := by
    rw [Arguments.format, others .format (by decide)]
    cases name <;> rfl
  rw [parse?, given]
  simp only [Option.bind_eq_bind, Option.bind_some, isSource, isDual, isFormat]
  rfl

/-- The words of a source mean the same to the command that writes a dump. -/
theorem parse?_dump
    (accepted : parse? ("check" :: words) = some (.check source))
    (dual : Bool)
    {output : String}
    (filled : output ≠ "")
    (isValue : Arguments.isOption output = false) :
    parse? ("dump" :: (dualWords dual ++ ["--output", output] ++ words)) =
      some (.dump source output dual) := by
  let options : Arguments := ⟨none, dual, [(.output, output)]⟩
  have apart : ∀ setting ∈ sourceGrammar.settings, options.value? setting = none := by
    simp [sourceGrammar, options, Arguments.value?]
  have inFront (rest : List String) :
      Arguments.ofWords? ⟨[.text, .delimiter, .output], true⟩
          (dualWords dual ++ ["--output", output] ++ rest) =
        options.addWords? ⟨[.text, .delimiter, .output], true⟩ rest := by
    rw [Arguments.ofWords?, List.append_assoc, Arguments.addWords?_dualWords rfl,
      List.cons_append, List.cons_append, List.nil_append,
      Arguments.addWords?_setting (by decide) rfl isValue (by decide) rfl]
  obtain ⟨together, given, isSource, isDual, others⟩ :=
    exists_ofWords?_behind accepted (by decide) apart rfl inFront
  have isOutput : together.output? = some output := by
    rw [Arguments.output?, others .output (by decide)]
    simp [options, Arguments.value?, filled]
  rw [parse?, given]
  simp only [Option.bind_eq_bind, Option.bind_some, isOutput, isSource, isDual]
  rfl

/-- A dump is read from the file that the words end with, in the format that they name. -/
theorem parse?_read
    (dual : Bool)
    {name : Option String}
    (named : ∀ word ∈ name, Arguments.isOption word = false)
    {file : String}
    (filled : file ≠ "")
    (isFile : Arguments.isOption file = false) :
    parse? ("read" :: (dualWords dual ++ formatWords name ++ [file])) =
      some (.read file dual (formatNamed name)) := by
  have noSeparator : file ≠ "--" := by
    rintro rfl
    exact absurd isFile (by decide)
  have noDual : file ≠ "--dual" := by
    rintro rfl
    exact absurd isFile (by decide)
  have together :
      Arguments.ofWords? ⟨[.format], true⟩ (dualWords dual ++ formatWords name ++ [file]) =
        some ⟨some file, dual, Arguments.formatSettings name⟩ := by
    rw [Arguments.ofWords?, List.append_assoc, Arguments.addWords?_dualWords rfl,
      Arguments.addWords?_formatWords (by decide) dual named,
      Arguments.addWords?_file _ _ _ noSeparator noDual (by simp [isFile]),
      Arguments.addFile?, if_pos (by simp [filled])]
    rfl
  rw [parse?, together]
  cases name <;> rfl

/-- The command lines on the problem that some words state. -/
structure CommandLines
    (words : List String)
    (source : Source)
    (output : String)
    (dual : Bool) : Prop where
  matrices (name : Option String) :
    (∀ word ∈ name, Arguments.isOption word = false) →
    parse? ("matrices" :: (dualWords dual ++ formatWords name ++ words)) =
      some (.matrices source dual (formatNamed name))
  dump :
    parse? ("dump" :: (dualWords dual ++ ["--output", output] ++ words)) =
      some (.dump source output dual)
  /-- What a dump has written is read. -/
  read (name : Option String) :
    (∀ word ∈ name, Arguments.isOption word = false) →
    parse? ("read" :: (dualWords dual ++ formatWords name ++ [output])) =
      some (.read output dual (formatNamed name))

/-- The words that state a source for a check state it for the other commands. -/
theorem commandLines
    (accepted : parse? ("check" :: words) = some (.check source))
    (dual : Bool)
    {output : String}
    (filled : output ≠ "")
    (isValue : Arguments.isOption output = false) :
    CommandLines words source output dual where
  matrices _ named := parse?_matrices accepted dual named
  dump := parse?_dump accepted dual filled isValue
  read _ named := parse?_read dual named filled isValue

end Lines

end LinearProgram.Command
