/-
**What a command line can say.**

Whatever a command line may ask for can be said with one word for each option and the paths behind
two dashes. The words of the options may come in any order, and a value may be any text at all, also
one that is empty, starts with a dash or has an equals sign in it.

* `Choice` is what one word of an option says, and `Arguments.choices` are the choices that say what
  some arguments ask for;
* `Reader.HasRead`: what has been taken over when some choices have been read;
* `Reader.HasRead.next`: one more word takes over one more choice;
* `Reader.exists_hasRead`: choices that do not clash are all taken over;
* `Arguments.parse_choices`: choices are read back, in any order;
* `Arguments.SaidBy`: the arguments have what stands among some words;
* `commandLine_read_back`: so every setting can be given on the command line.
-/

import Mathlib.Data.List.Count
import Mathlib.Data.List.Perm.Basic
import TagAudit.CommandLine.Parse
import TagAudit.Proofs.Failing

namespace TagAudit

theorem ValueOption.long_injective : Function.Injective ValueOption.long := by
  intro option other
  cases option <;> cases other <;> decide

theorem ValueOption.ne_equals_of_mem_long (option : ValueOption) :
    ∀ c ∈ option.long.toList, (c != '=') = true := by
  have noEquals : option.long.toList.all (· != '=') = true := by cases option <;> rfl
  exact List.all_eq_true.mp noEquals

/-- What one word of an option says. -/
inductive Choice where
  | value (option : ValueOption) (value : String)
  | flag (option : FlagOption)
deriving Repr, DecidableEq

namespace Choice

/-- The word for a choice: a value is attached to its option by an equals sign, and being verbose is
asked for by its short name. -/
def word : Choice → String
  | value option text => "--" ++ option.long ++ "=" ++ text
  | flag .verbose => "-v"
  | flag option => "--" ++ option.long

/-- Two choices cannot both be made: they are about one option that may be used once. -/
def Clashes : Choice → Choice → Prop
  | value option _, value other _ => option = other
  | flag option, flag other => option = other ∧ option ≠ .verbose
  | _, _ => False

/-- The choice can be made: the value is one that the option takes, and the flag asks for a run. -/
def Allowed : Choice → Prop
  | value option text => (text = "" → option.takesEmpty = true) ∧
      (option = .format → ∃ format : ReportFormat, text = format.word)
  | flag option => option ≠ .help ∧ option ≠ .version

theorem Clashes.symm {first second : Choice} (clash : first.Clashes second) :
    second.Clashes first := by
  cases first <;> cases second
  · exact Eq.symm clash
  · exact clash
  · exact clash
  · exact ⟨clash.1.symm, clash.1 ▸ clash.2⟩

/-- The name of an option ends at the first equals sign of its word. -/
theorem takeWhile_word (option : ValueOption) (text : String) :
    (value option text).word.toList.takeWhile (· != '=') = '-' :: '-' :: option.long.toList := by
  have isWord : (value option text).word.toList =
      ('-' :: '-' :: option.long.toList) ++ '=' :: text.toList := by
    simp [word]
  have inName : ∀ c ∈ '-' :: '-' :: option.long.toList, (c != '=') = true :=
    List.forall_mem_cons.mpr ⟨rfl, List.forall_mem_cons.mpr ⟨rfl, option.ne_equals_of_mem_long⟩⟩
  rw [isWord, List.takeWhile_append_of_pos inName]
  simp

/-- **The word for a choice tells it.** -/
theorem word_injective : Function.Injective word := by
  have isFlag : ∀ option : FlagOption, '=' ∉ (flag option).word.toList := by
    intro option
    cases option <;> decide
  have isValue : ∀ (option : ValueOption) (text : String), '=' ∈ (value option text).word.toList :=
    fun option text => by simp [word]
  intro first second same
  cases first with
  | value option text =>
    cases second with
    | value other otherText =>
      have sameLong := congrArg (fun word : String => word.toList.takeWhile (· != '=')) same
      simp only [takeWhile_word, List.cons.injEq, true_and, String.toList_inj] at sameLong
      obtain rfl := ValueOption.long_injective sameLong
      simp only [word, String.append_right_inj] at same
      rw [same]
    | flag other =>
      refine absurd ?_ (isFlag other)
      rw [← same]
      exact isValue option text
  | flag option =>
    cases second with
    | value other otherText =>
      refine absurd ?_ (isFlag option)
      rw [same]
      exact isValue other otherText
    | flag other =>
      revert same
      cases option <;> cases other <;> decide

end Choice

namespace Arguments

/-- The value that the arguments have for an option. -/
def value? (arguments : Arguments) : ValueOption → Option String
  | .settingsFile => arguments.settingsFile
  | .classTagTree => arguments.classTagTree
  | .methodTagTree => arguments.methodTagTree
  | .testClassName => arguments.testClassName
  | .testMethodName => arguments.testMethodName
  | .outputFile => arguments.outputFile
  | .format => some arguments.format.word

/-- The arguments differ in nothing but values of options. -/
structure SameFlags (arguments other : Arguments) : Prop where
  paths : arguments.paths = other.paths
  strictTree : arguments.strictTree = other.strictTree
  verbose : arguments.verbose = other.verbose
  quiet : arguments.quiet = other.quiet

/-- Arguments are told by the values of their options and by what they have besides. -/
theorem ext_of_value? {arguments other : Arguments} (same : arguments.SameFlags other)
    (values : ∀ option, arguments.value? option = other.value? option) : arguments = other := by
  have isFormat : arguments.format = other.format := by
    have sameWord : arguments.format.word = other.format.word :=
      Option.some.inj (values .format)
    cases first : arguments.format <;> cases second : other.format <;> simp_all [ReportFormat.word]
  obtain ⟨paths, strictTree, verbose, quiet⟩ := same
  have file := values .settingsFile
  have classTree := values .classTagTree
  have methodTree := values .methodTagTree
  have className := values .testClassName
  have methodName := values .testMethodName
  have output := values .outputFile
  cases arguments
  cases other
  simp_all [value?]

end Arguments

namespace Reader

variable {reader : Reader} {option : ValueOption} {value : String} {rest : List String}

/-! ### Words of options -/

/-- The word for a value is split at its first equals sign, which stands behind the name. -/
theorem long_value (reader : Reader) (option : ValueOption) (value : List Char) :
    reader.long (option.long.toList ++ '=' :: value) =
      reader.valued option (some (String.ofList value)) := by
  have isName : ValueOption.all.find? (·.long = option.long) = some option := by
    cases option <;> decide
  rw [long, List.takeWhile_append_of_pos option.ne_equals_of_mem_long,
    List.dropWhile_append_of_pos option.ne_equals_of_mem_long]
  simp [isName]

theorem words_value (reader : Reader) (option : ValueOption) (value : String) :
    reader.words false ((Choice.value option value).word :: rest) =
      reader.valued option (some value) >>= (·.words false rest) := by
  have isWord : (Choice.value option value).word.toList =
      '-' :: '-' :: (option.long.toList ++ '=' :: value.toList) := by
    simp [Choice.word]
  have someName : option.long.toList ++ '=' :: value.toList ≠ [] := by simp
  have isLong := long_value reader option value.toList
  rw [String.ofList_toList] at isLong
  rw [← isLong, words, isWord]
  cases isName : option.long.toList ++ '=' :: value.toList with
  | nil => exact absurd isName someName
  | cons c name => rfl

theorem words_flag (reader : Reader) (option : FlagOption) :
    reader.words false ((Choice.flag option).word :: rest) =
      reader.flag option >>= (·.words false rest) := by
  cases option with
  | verbose =>
    show ((reader.flag .verbose >>= fun reader => reader.bundle []) >>= (·.words false rest)) = _
    rw [bind_assoc]
    rfl
  | strictTree | quiet | help | version => rfl

/-! ### What has been taken over -/

/-- What has been taken over when some choices have been read. -/
structure HasRead (reader : Reader) (done : List Choice) : Prop where
  waiting : reader.waiting = .nothing
  usedValues : ∀ option, option ∈ reader.usedValues ↔ ∃ value, .value option value ∈ done
  usedFlags : ∀ option, option ∈ reader.usedFlags ↔ .flag option ∈ done ∧ option ≠ .verbose
  given : ∀ option value, .value option value ∈ done →
    reader.arguments.value? option = some value
  notGiven : ∀ option, (∀ value, .value option value ∉ done) →
    reader.arguments.value? option = start.arguments.value? option
  flags : reader.arguments.SameFlags
    { paths := [], strictTree := decide (.flag .strictTree ∈ done),
      verbose := min (done.count (.flag .verbose)) 255, quiet := decide (.flag .quiet ∈ done) }

theorem start_hasRead : start.HasRead [] where
  waiting := rfl
  usedValues := by simp [start]
  usedFlags := by simp [start]
  given := by simp
  notGiven _ _ := rfl
  flags := ⟨rfl, rfl, rfl, rfl⟩

/-- A value that an option takes is recorded, and nothing else is changed. -/
theorem exists_record (allowed : (Choice.value option value).Allowed) (arguments : Arguments) :
    ∃ after, record arguments option value = .ok after ∧ after.SameFlags arguments ∧
      after.value? option = some value ∧
      ∀ other ≠ option, after.value? other = arguments.value? other := by
  obtain ⟨mayBeEmpty, isFormat⟩ := allowed
  have taken : (value.isEmpty && !option.takesEmpty) = false := by
    by_cases empty : value = ""
    · simp [mayBeEmpty empty]
    · simp [empty]
  unfold record
  rw [taken]
  cases option with
  | format =>
    obtain ⟨format, rfl⟩ := isFormat rfl
    refine ⟨{ arguments with format := format }, by cases format <;> rfl, ⟨rfl, rfl, rfl, rfl⟩, rfl,
      fun other different => ?_⟩
    cases other <;> simp_all [Arguments.value?]
  | settingsFile | classTagTree | methodTagTree | testClassName | testMethodName | outputFile =>
    refine ⟨_, rfl, ⟨rfl, rfl, rfl, rfl⟩, rfl, fun other different => ?_⟩
    cases other <;> simp_all [Arguments.value?]

namespace HasRead

variable {done : List Choice} (hasRead : reader.HasRead done)

include hasRead

/-- Nothing is waiting, so nothing changes if what is waiting is taken over. -/
theorem settle : reader.settle = .ok reader := by
  obtain ⟨arguments, usedValues, usedFlags, waiting⟩ := reader
  obtain rfl : waiting = .nothing := hasRead.waiting
  rfl

/-- A value is taken over if none has been given for its option. -/
theorem next_value (allowed : (Choice.value option value).Allowed)
    (fresh : ∀ other, .value option other ∉ done) :
    ∃ next, reader.valued option (some value) = .ok next ∧
      next.HasRead (.value option value :: done) := by
  obtain ⟨after, recorded, sameFlags, given, others⟩ := exists_record allowed reader.arguments
  have notUsed : option ∉ reader.usedValues := by
    rw [hasRead.usedValues]
    exact fun ⟨other, isDone⟩ => fresh other isDone
  have taken : reader.take option value =
      .ok { reader with arguments := after, usedValues := option :: reader.usedValues } := by
    rw [take, if_neg (by simpa using notUsed), recorded]
    rfl
  refine ⟨_, bind_eq_ok_iff.mpr ⟨reader, hasRead.settle, taken⟩, ?_⟩
  constructor
  case waiting => exact hasRead.waiting
  case usedValues =>
    intro other
    rw [List.mem_cons, hasRead.usedValues]
    simp [exists_or]
  case usedFlags =>
    intro other
    rw [hasRead.usedFlags]
    simp
  case given =>
    intro other text isDone
    rcases List.mem_cons.mp isDone with same | earlier
    · cases same
      exact given
    · have different : other ≠ option := by
        rintro rfl
        exact fresh text earlier
      rw [others other different, hasRead.given other text earlier]
  case notGiven =>
    intro other none
    have different : other ≠ option := by
      rintro rfl
      exact none value List.mem_cons_self
    rw [others other different, hasRead.notGiven other]
    exact fun text earlier => none text (List.mem_cons_of_mem _ earlier)
  case flags =>
    obtain ⟨paths, strictTree, verbose, quiet⟩ := hasRead.flags
    obtain ⟨samePaths, sameStrict, sameVerbose, sameQuiet⟩ := sameFlags
    constructor
    · exact samePaths.trans paths
    · rw [sameStrict, strictTree]
      simp
    · rw [sameVerbose, verbose]
      simp
    · rw [sameQuiet, quiet]
      simp

/-- What is to be shown of a flag that is taken over: it changes no value of an option. -/
theorem of_flag {option : FlagOption} {after : Arguments} {usedFlags : List FlagOption}
    (values : ∀ other, after.value? other = reader.arguments.value? other)
    (used : ∀ other, other ∈ usedFlags ↔
      other ∈ reader.usedFlags ∨ other = option ∧ option ≠ .verbose)
    (flags : after.SameFlags
      { paths := [], strictTree := decide (.flag .strictTree ∈ .flag option :: done),
        verbose := min ((.flag option :: done).count (.flag .verbose)) 255,
        quiet := decide (.flag .quiet ∈ .flag option :: done) }) :
    HasRead { reader with arguments := after, usedFlags := usedFlags } (.flag option :: done) where
  waiting := hasRead.waiting
  usedValues other := by
    rw [hasRead.usedValues]
    simp
  usedFlags other := by
    rw [used, hasRead.usedFlags, List.mem_cons, Choice.flag.injEq]
    grind
  given other text isDone := by
    rw [values]
    exact hasRead.given other text (by simpa using isDone)
  notGiven other none := by
    rw [values]
    exact hasRead.notGiven other fun text earlier => none text (List.mem_cons_of_mem _ earlier)
  flags := flags

/-- A flag is taken over if it is counted or has not been used. -/
theorem next_flag {option : FlagOption} (allowed : (Choice.flag option).Allowed)
    (fresh : option ≠ .verbose → .flag option ∉ done) :
    ∃ next, reader.flag option = .ok next ∧ next.HasRead (.flag option :: done) := by
  obtain ⟨noHelp, noVersion⟩ := allowed
  obtain ⟨paths, strictTree, verbose, quiet⟩ := hasRead.flags
  have unused : option ≠ .verbose → option ∉ reader.usedFlags := by
    intro once
    rw [hasRead.usedFlags]
    exact fun ⟨earlier, _⟩ => fresh once earlier
  cases option with
  | help => exact absurd rfl noHelp
  | version => exact absurd rfl noVersion
  | verbose =>
    refine ⟨_, bind_eq_ok_iff.mpr ⟨reader, hasRead.settle, rfl⟩, hasRead.of_flag ?_ ?_ ?_⟩
    · intro other
      cases other <;> rfl
    · simp
    · refine ⟨paths, by simp [strictTree], ?_, by simp [quiet]⟩
      show min (reader.arguments.verbose + 1) 255 = _
      rw [verbose, List.count_cons_self]
      simp only
      omega
  | strictTree =>
    have notUsed : ¬ reader.usedFlags.contains .strictTree = true := by
      simpa using unused (by decide)
    refine ⟨_, bind_eq_ok_iff.mpr ⟨reader, hasRead.settle, if_neg notUsed⟩,
      hasRead.of_flag ?_ ?_ ?_⟩
    · intro other
      cases other <;> rfl
    · simp [or_comm]
    · exact ⟨paths, by simp, by simpa using verbose, by simpa using quiet⟩
  | quiet =>
    have notUsed : ¬ reader.usedFlags.contains .quiet = true := by
      simpa using unused (by decide)
    refine ⟨_, bind_eq_ok_iff.mpr ⟨reader, hasRead.settle, if_neg notUsed⟩,
      hasRead.of_flag ?_ ?_ ?_⟩
    · intro other
      cases other <;> rfl
    · simp [or_comm]
    · exact ⟨paths, by simpa using strictTree, by simpa using verbose, by simp⟩

/-- **One more word takes over one more choice**, unless it clashes with an earlier one. -/
theorem next {choice : Choice} (allowed : choice.Allowed)
    (fresh : ∀ earlier ∈ done, ¬ earlier.Clashes choice) (rest : List String) :
    ∃ next : Reader, reader.words false (choice.word :: rest) = next.words false rest ∧
      next.HasRead (choice :: done) := by
  cases choice with
  | value option value =>
    obtain ⟨next, taken, hasReadNext⟩ := hasRead.next_value allowed
      fun other earlier => fresh _ earlier rfl
    refine ⟨next, ?_, hasReadNext⟩
    rw [words_value, taken]
    rfl
  | flag option =>
    obtain ⟨next, taken, hasReadNext⟩ := hasRead.next_flag allowed
      fun once earlier => fresh _ earlier ⟨rfl, once⟩
    refine ⟨next, ?_, hasReadNext⟩
    rw [words_flag, taken]
    rfl

end HasRead

/-- **Choices that do not clash are all taken over**, in whatever order their words come. -/
theorem exists_hasRead {reader : Reader} {done : List Choice} (hasRead : reader.HasRead done)
    {choices : List Choice} (allowed : ∀ choice ∈ choices, choice.Allowed)
    (apart : (done.reverse ++ choices).Pairwise fun first second => ¬ first.Clashes second)
    (rest : List String) :
    ∃ next : Reader,
      reader.words false (choices.map Choice.word ++ rest) = next.words false rest ∧
        next.HasRead (choices.reverse ++ done) := by
  induction choices generalizing reader done with
  | nil => exact ⟨reader, rfl, hasRead⟩
  | cons choice choices step =>
    obtain ⟨isAllowed, othersAllowed⟩ := List.forall_mem_cons.mp allowed
    have fresh : ∀ earlier ∈ done, ¬ earlier.Clashes choice := fun earlier isDone =>
      (List.pairwise_append.mp apart).2.2 earlier (List.mem_reverse.mpr isDone) choice
        List.mem_cons_self
    obtain ⟨next, isNext, hasReadNext⟩ :=
      hasRead.next isAllowed fresh (choices.map Choice.word ++ rest)
    obtain ⟨last, isLast, hasReadLast⟩ := step hasReadNext othersAllowed (by simpa using apart)
    refine ⟨last, isNext.trans isLast, ?_⟩
    rw [List.reverse_cons, List.append_assoc]
    exact hasReadLast

/-! ### Paths behind two dashes -/

/-- Paths in a row wait together, and wait as long as there are words. -/
theorem words_onlyPaths {values : List String} (waits : reader.waiting = .paths values)
    (paths : List String) :
    reader.words true paths = settle { reader with waiting := .paths (values ++ paths) } := by
  induction paths generalizing reader values with
  | nil =>
    rw [words, List.append_nil, ← waits]
  | cons path paths step =>
    have isNext : reader.path path = .ok { reader with waiting := .paths (values ++ [path]) } := by
      rw [Reader.path, waits]
    rw [words, isNext]
    refine (step rfl).trans ?_
    rw [List.append_assoc]
    rfl

/-- The words behind two dashes are the paths. -/
theorem HasRead.words_paths {done : List Choice} (hasRead : reader.HasRead done)
    {paths : List String} (somePath : paths ≠ []) (noneEmpty : "" ∉ paths) :
    reader.words false ("--" :: paths) =
      .ok { reader with arguments := { reader.arguments with paths := paths } } := by
  obtain ⟨path, paths, rfl⟩ := List.exists_cons_of_ne_nil somePath
  have isFirst : reader.path path = .ok { reader with waiting := .paths [path] } := by
    rw [Reader.path, hasRead.waiting]
    exact bind_eq_ok_iff.mpr ⟨reader, hasRead.settle, rfl⟩
  have behind : reader.words false ("--" :: path :: paths) =
      Reader.settle { reader with waiting := .paths (path :: paths) } := by
    show (reader.path path >>= (·.words true paths)) = _
    have waits : { reader with waiting := .paths [path] }.waiting = .paths [path] := rfl
    rw [isFirst]
    exact words_onlyPaths waits paths
  have noEmpty : ¬ (path :: paths).any String.isEmpty = true := by
    rw [List.any_eq_true]
    rintro ⟨other, isPath, isEmpty⟩
    exact noneEmpty (String.isEmpty_iff.mp isEmpty ▸ isPath)
  have allPaths : reader.arguments.paths ++ path :: paths = path :: paths := by
    rw [hasRead.flags.paths]
    rfl
  have isWaiting := hasRead.waiting
  rw [behind, Reader.settle]
  simp only [if_neg noEmpty, allPaths, isWaiting]

end Reader

/-! ### Arguments as words -/

namespace Arguments

/-- The choices that say what some arguments ask for; being verbose is asked for `count` times. -/
def choices (arguments : Arguments) (count : Nat) : List Choice :=
  ValueOption.all.filterMap (fun option => (arguments.value? option).map (.value option)) ++
    (if arguments.strictTree then [.flag .strictTree] else []) ++
    (if arguments.quiet then [.flag .quiet] else []) ++ List.replicate count (.flag .verbose)

/-- What can be asked for: there is a path, and no name of a file or directory is empty. -/
structure Sayable (arguments : Arguments) : Prop where
  somePath : arguments.paths ≠ []
  noneEmpty : "" ∉ arguments.paths
  settingsFile : arguments.settingsFile ≠ some ""
  outputFile : arguments.outputFile ≠ some ""

variable {arguments : Arguments} {count : Nat}

theorem value_mem_choices_iff {option : ValueOption} {value : String} :
    .value option value ∈ arguments.choices count ↔ arguments.value? option = some value := by
  have isOption : option ∈ ValueOption.all := by cases option <;> decide
  simp only [choices, List.mem_append, List.mem_filterMap, Option.map_eq_some_iff,
    Choice.value.injEq, List.mem_replicate]
  grind

theorem flag_mem_choices_iff {option : FlagOption} :
    .flag option ∈ arguments.choices count ↔
      option = .strictTree ∧ arguments.strictTree = true ∨
        option = .quiet ∧ arguments.quiet = true ∨ option = .verbose ∧ count ≠ 0 := by
  simp only [choices, List.mem_append, List.mem_filterMap, Option.map_eq_some_iff,
    List.mem_replicate]
  grind

/-- Being verbose is asked for as often as was said. -/
theorem count_verbose_choices : (arguments.choices count).count (.flag .verbose) = count := by
  have notValue : Choice.flag .verbose ∉ ValueOption.all.filterMap fun option =>
      (arguments.value? option).map (Choice.value option) := by
    simp
  have notStrict : Choice.flag .verbose ∉
      if arguments.strictTree then [Choice.flag .strictTree] else [] := by
    split <;> simp
  have notQuiet : Choice.flag .verbose ∉
      if arguments.quiet then [Choice.flag .quiet] else [] := by
    split <;> simp
  rw [choices, List.count_append, List.count_append, List.count_append,
    List.count_eq_zero_of_not_mem notValue, List.count_eq_zero_of_not_mem notStrict,
    List.count_eq_zero_of_not_mem notQuiet, List.count_replicate_self]
  simp

theorem allowed_choices (sayable : arguments.Sayable) :
    ∀ choice ∈ arguments.choices count, choice.Allowed := by
  intro choice isChoice
  cases choice with
  | flag option =>
    rcases flag_mem_choices_iff.mp isChoice with ⟨rfl, -⟩ | ⟨rfl, -⟩ | ⟨rfl, -⟩ <;>
      exact ⟨by decide, by decide⟩
  | value option text =>
    have isValue := value_mem_choices_iff.mp isChoice
    constructor
    · rintro rfl
      cases option with
      | settingsFile => exact absurd isValue sayable.settingsFile
      | outputFile => exact absurd isValue sayable.outputFile
      | format =>
        cases format : arguments.format <;> simp [value?, format, ReportFormat.word] at isValue
      | classTagTree | methodTagTree | testClassName | testMethodName => rfl
    · rintro rfl
      exact ⟨arguments.format, (Option.some.inj isValue).symm⟩

/-- No two of the choices clash. -/
theorem choices_apart :
    (arguments.choices count).Pairwise fun first second => ¬ first.Clashes second := by
  have values : (ValueOption.all.filterMap fun option =>
      (arguments.value? option).map (Choice.value option)).Pairwise
        fun first second => ¬ first.Clashes second := by
    have different : ValueOption.all.Pairwise (· ≠ ·) := by decide
    refine different.filterMap _ fun option other apart first isFirst second isSecond => ?_
    obtain ⟨_, -, rfl⟩ := Option.map_eq_some_iff.mp isFirst
    obtain ⟨_, -, rfl⟩ := Option.map_eq_some_iff.mp isSecond
    exact apart
  have verbose : (List.replicate count (Choice.flag .verbose)).Pairwise
      fun first second => ¬ first.Clashes second :=
    List.pairwise_replicate.mpr (.inr fun clash => clash.2 rfl)
  have atMostOne : ∀ (asked : Bool) (option : FlagOption),
      (if asked then [Choice.flag option] else []).Pairwise
        fun first second => ¬ first.Clashes second := by
    intro asked option
    cases asked <;> simp
  unfold choices
  refine List.pairwise_append.mpr ⟨List.pairwise_append.mpr ⟨List.pairwise_append.mpr
    ⟨values, atMostOne .., ?_⟩, atMostOne .., ?_⟩, verbose, ?_⟩
  -- Choices from different parts are a value and a flag, or different flags.
  · intro first isFirst second isSecond clash
    obtain ⟨option, -, isValue⟩ := List.mem_filterMap.mp isFirst
    obtain ⟨text, -, rfl⟩ := Option.map_eq_some_iff.mp isValue
    obtain ⟨-, rfl⟩ : arguments.strictTree = true ∧ second = .flag .strictTree := by
      simpa using isSecond
    exact clash
  · intro first isFirst second isSecond clash
    obtain ⟨-, rfl⟩ : arguments.quiet = true ∧ second = .flag .quiet := by simpa using isSecond
    cases first with
    | value => exact clash
    | flag option =>
      obtain ⟨rfl, -⟩ := clash
      simp at isFirst
  · intro first _ second isSecond clash
    obtain rfl := List.eq_of_mem_replicate isSecond
    cases first with
    | value => exact clash
    | flag => exact clash.2 clash.1

/-- **What some arguments ask for is read back** from the words for it, in any order. -/
theorem parse_choices (sayable : arguments.Sayable) (counted : arguments.verbose = min count 255)
    {choices : List Choice} (order : choices.Perm (arguments.choices count)) :
    Arguments.parse (choices.map Choice.word ++ "--" :: arguments.paths) = .ok arguments := by
  have allowed : ∀ choice ∈ choices, choice.Allowed := fun choice isChoice =>
    allowed_choices sayable choice (order.mem_iff.mp isChoice)
  have apart : choices.Pairwise fun first second => ¬ first.Clashes second :=
    (order.pairwise_iff fun noClash clash => noClash clash.symm).mpr choices_apart
  obtain ⟨last, isLast, hasRead⟩ :=
    Reader.exists_hasRead Reader.start_hasRead allowed apart ("--" :: arguments.paths)
  rw [List.append_nil] at hasRead
  have isRead := isLast.trans (hasRead.words_paths sayable.somePath sayable.noneEmpty)
  have same : { last.arguments with paths := arguments.paths } = arguments := by
    obtain ⟨-, strictTree, verbose, quiet⟩ := hasRead.flags
    refine ext_of_value? ⟨rfl, strictTree.trans ?_, verbose.trans ?_, quiet.trans ?_⟩ ?_
    · simp [order.mem_iff, flag_mem_choices_iff]
    · rw [counted, List.count_reverse, order.count_eq, count_verbose_choices]
    · simp [order.mem_iff, flag_mem_choices_iff]
    · intro option
      have unchanged :
          ({ last.arguments with paths := arguments.paths } : Arguments).value? option =
            last.arguments.value? option := by
        cases option <;> rfl
      rw [unchanged]
      cases isValue : arguments.value? option with
      | some value =>
        refine hasRead.given option value ?_
        rw [List.mem_reverse, order.mem_iff, value_mem_choices_iff, isValue]
      | none =>
        refine (hasRead.notGiven option fun value => ?_).trans ?_
        · rw [List.mem_reverse, order.mem_iff, value_mem_choices_iff, isValue]
          exact Option.some_ne_none value ∘ Eq.symm
        · cases option with
          | format => cases isValue
          | settingsFile | classTagTree | methodTagTree | testClassName | testMethodName
          | outputFile => rfl
  have somePath : arguments.paths.isEmpty = false := by simp [sayable.somePath]
  refine bind_eq_ok_iff.mpr ⟨_, isRead, ?_⟩
  show Except.ok { last.arguments with
    paths := if arguments.paths.isEmpty then [standardPath] else arguments.paths } = _
  rw [somePath]
  exact congrArg Except.ok same

end Arguments

/-- The layer has the trees and patterns that are among the words, and is strict if that is. -/
structure Layer.SaidBy (layer : Layer) (words : List String) : Prop where
  classTagTree : ∀ tree, layer.classTagTree = some tree ↔ "--class-tag-tree=" ++ tree ∈ words
  methodTagTree : ∀ tree, layer.methodTagTree = some tree ↔ "--method-tag-tree=" ++ tree ∈ words
  testClassName : ∀ pattern,
    layer.testClassName = some pattern ↔ "--test-class-name=" ++ pattern ∈ words
  testMethodName : ∀ pattern,
    layer.testMethodName = some pattern ↔ "--test-method-name=" ++ pattern ∈ words
  strictTree : layer.strictTree = if "--strict-tree" ∈ words then some true else none

/-- The arguments have the files and the format that are among the words, are quiet if that is, and
as verbose as the words say. Their layer is the one of the words. -/
structure Arguments.SaidBy (arguments : Arguments) (words : List String) : Prop where
  settingsFile : ∀ path, arguments.settingsFile = some path ↔ "--config=" ++ path ∈ words
  outputFile : ∀ path, arguments.outputFile = some path ↔ "--output-file=" ++ path ∈ words
  format : arguments.format = if "--format=json" ∈ words then .json else .text
  quiet : arguments.quiet = true ↔ "--quiet" ∈ words
  verbose : arguments.verbose = min (words.count "-v") 255
  layer : arguments.layer.SaidBy words

/-- **Every setting can be given on the command line, in any order.** What some arguments ask for is
said by one word for each option, in whatever order, and by the paths behind two dashes: these words
are read back as the arguments. Being verbose more often than 255 times counts as 255 times. The
arguments have what is among the words, and their layer has the trees and patterns among them. -/
theorem commandLine_read_back {arguments : Arguments} (sayable : arguments.Sayable) {count : Nat}
    (counted : arguments.verbose = min count 255) {words : List String}
    (order : words.Perm ((arguments.choices count).map Choice.word)) :
    Arguments.parse (words ++ "--" :: arguments.paths) = .ok arguments ∧
      arguments.SaidBy words := by
  obtain ⟨choices, rfl, isOrder⟩ : ∃ choices : List Choice,
      words = choices.map Choice.word ∧ choices.Perm (arguments.choices count) :=
    (congrFun₂ (List.eq_map_comp_perm Choice.word) words _).mpr order
  have said : ∀ choice : Choice, choice.word ∈ choices.map Choice.word ↔
      choice ∈ arguments.choices count := by
    intro choice
    rw [List.mem_map_of_injective Choice.word_injective, isOrder.mem_iff]
  have value : ∀ (option : ValueOption) (text : String),
      arguments.value? option = some text ↔
        (Choice.value option text).word ∈ choices.map Choice.word := by
    intro option text
    rw [said, Arguments.value_mem_choices_iff]
  have strict : "--strict-tree" ∈ choices.map Choice.word ↔ arguments.strictTree = true := by
    refine (said (.flag .strictTree)).trans ?_
    simp [Arguments.flag_mem_choices_iff]
  have quiet : "--quiet" ∈ choices.map Choice.word ↔ arguments.quiet = true := by
    refine (said (.flag .quiet)).trans ?_
    simp [Arguments.flag_mem_choices_iff]
  have json : "--format=json" ∈ choices.map Choice.word ↔ arguments.format = .json := by
    refine (value .format "json").symm.trans ?_
    cases isFormat : arguments.format <;> simp [Arguments.value?, isFormat, ReportFormat.word]
  have verbose : (choices.map Choice.word).count "-v" = count := by
    have isCounted := List.count_map_of_injective choices Choice.word Choice.word_injective
      (.flag .verbose)
    exact isCounted.trans ((isOrder.count_eq _).trans Arguments.count_verbose_choices)
  have isLayer : arguments.layer.SaidBy (choices.map Choice.word) := by
    refine ⟨value .classTagTree, value .methodTagTree, value .testClassName,
      value .testMethodName, ?_⟩
    simp only [strict, Arguments.layer]
  refine ⟨Arguments.parse_choices sayable counted isOrder, value .settingsFile, value .outputFile,
    ?_, quiet.symm, ?_, isLayer⟩
  · simp only [json]
    cases arguments.format <;> rfl
  · rw [counted, verbose]

/-- What a command line with odd values asks for: an empty tree, a pattern that looks like an
option, a pattern with an equals sign and a path that looks like the end of the options. -/
def oddArguments : Arguments :=
  { paths := ["--", "-v"], settingsFile := some "=.json", classTagTree := some "",
    testClassName := some "--quiet", testMethodName := some "a=b", strictTree := true,
    format := .json, verbose := 255, quiet := true }

/-- The words of its options other than being verbose, in some order. -/
def oddWords : List String :=
  ["--test-method-name=a=b", "--format=json", "--strict-tree", "--class-tag-tree=",
    "--config==.json", "--quiet", "--test-class-name=--quiet"]

theorem commandLine_read_back_odd :
    oddArguments.Sayable ∧ oddArguments.verbose = min 300 255 ∧
      Arguments.parse ((List.replicate 300 "-v" ++ oddWords) ++ ["--", "--", "-v"]) =
        .ok oddArguments ∧
      oddArguments.SaidBy (List.replicate 300 "-v" ++ oddWords) := by
  have sayable : oddArguments.Sayable := ⟨by decide, by decide, by decide, by decide⟩
  have areWords : ∀ count, (oddArguments.choices count).map Choice.word =
      ["--config==.json", "--class-tag-tree=", "--test-class-name=--quiet",
        "--test-method-name=a=b", "--format=json", "--strict-tree", "--quiet"] ++
        List.replicate count "-v" := by
    intro count
    rw [Arguments.choices, List.map_append, List.map_replicate]
    rfl
  have order : (List.replicate 300 "-v" ++ oddWords).Perm
      ((oddArguments.choices 300).map Choice.word) := by
    rw [areWords]
    exact List.perm_append_comm.trans (List.Perm.append_right _ (by decide))
  exact ⟨sayable, rfl, commandLine_read_back sayable rfl order⟩

end TagAudit
