/-
**Reading a command line.**

Values are taken over only when the next option starts or the words end: until then they wait.
So an option that is not known is refused before a waiting value is looked at, and every other
fault comes in the order of the words.

* `Reader.settle` takes the waiting values over;
* `Arguments.parse` reads a whole command line.
-/

import TagAudit.CommandLine.Arguments

namespace TagAudit

/-- What values are waiting to be taken over. -/
inductive Waiting where
  | nothing
  | value (option : ValueOption) (value : Option String)
  | paths (values : List String)
deriving Repr, DecidableEq

/-- The state of reading a command line: what has been taken over, which options have been used,
and what is waiting. -/
structure Reader where
  arguments : Arguments
  usedValues : List ValueOption
  usedFlags : List FlagOption
  waiting : Waiting
deriving Repr, DecidableEq

namespace Reader

/-- Nothing has been read. -/
def start : Reader := ⟨{ paths := [] }, [], [], .nothing⟩

/-- Records the value of an option. -/
def record (arguments : Arguments) (option : ValueOption) (value : String) :
    Except ArgumentFault Arguments :=
  if value.isEmpty && !option.takesEmpty then .error (.noValue option.shown)
  else
    match option with
    | .settingsFile => .ok { arguments with settingsFile := some value }
    | .classTagTree => .ok { arguments with classTagTree := some value }
    | .methodTagTree => .ok { arguments with methodTagTree := some value }
    | .testClassName => .ok { arguments with testClassName := some value }
    | .testMethodName => .ok { arguments with testMethodName := some value }
    | .outputFile => .ok { arguments with outputFile := some value }
    | .format =>
      if value = "text" then .ok { arguments with format := .text }
      else if value = "json" then .ok { arguments with format := .json }
      else .error (.badValue value option.shown)

/-- Takes over a value of an option that may be used once. -/
def take (reader : Reader) (option : ValueOption) (value : String) : Except ArgumentFault Reader :=
  if reader.usedValues.contains option then .error (.repeated option.shown)
  else do
    let arguments ← record reader.arguments option value
    return { reader with arguments := arguments, usedValues := option :: reader.usedValues }

/-- Takes over what is waiting. -/
def settle (reader : Reader) : Except ArgumentFault Reader :=
  let free := { reader with waiting := .nothing }
  match reader.waiting with
  | .nothing => .ok free
  | .value option none => .error (.noValue option.shown)
  | .value option (some value) => free.take option value
  | .paths values =>
    if values.any String.isEmpty then .error (.noValue pathsShown)
    else .ok { free with arguments :=
      { reader.arguments with paths := reader.arguments.paths ++ values } }

/-- A path; paths in a row wait together. -/
def path (reader : Reader) (word : String) : Except ArgumentFault Reader :=
  match reader.waiting with
  | .paths values => .ok { reader with waiting := .paths (values ++ [word]) }
  | _ => do return { ← reader.settle with waiting := .paths [word] }

/-- The most that being verbose is counted. -/
def verboseLimit : Nat := 255

/-- An option without a value. -/
def flag (reader : Reader) (option : FlagOption) : Except ArgumentFault Reader := do
  let reader ← reader.settle
  let arguments := reader.arguments
  match option with
  | .help => .error .help
  | .version => .error .version
  | .verbose =>
    return { reader with arguments :=
      { arguments with verbose := min (arguments.verbose + 1) verboseLimit } }
  | .strictTree | .quiet =>
    if reader.usedFlags.contains option then .error (.repeated option.shown)
    else
      let arguments := if option = .quiet then { arguments with quiet := true }
        else { arguments with strictTree := true }
      return { reader with arguments := arguments, usedFlags := option :: reader.usedFlags }

/-- An option with a value, attached or in the words to come. -/
def valued (reader : Reader) (option : ValueOption) (attached : Option String) :
    Except ArgumentFault Reader := do
  let reader ← reader.settle
  match attached with
  | some value => reader.take option value
  | none => return { reader with waiting := .value option none }

/-- A long option, given without its dashes. -/
def long (reader : Reader) (word : List Char) : Except ArgumentFault Reader :=
  let name := String.ofList (word.takeWhile (· != '='))
  let attached : Option String :=
    match word.dropWhile (· != '=') with
    | [] => none
    | _ :: value => some (String.ofList value)
  match ValueOption.all.find? (·.long = name), FlagOption.all.find? (·.long = name) with
  | some option, _ => reader.valued option attached
  | none, some option =>
    match attached with
    | some value => .error (.unneededValue value option.shown)
    | none => reader.flag option
  | none, none => .error (.unknown ("--" ++ name))

/-- A bundle of short options, given without its dash. The first one with a value takes the rest
of the bundle, less an equals sign. -/
def bundle (reader : Reader) : List Char → Except ArgumentFault Reader
  | [] => .ok reader
  | c :: rest =>
    match ValueOption.all.find? (·.short? = some c), FlagOption.all.find? (·.short? = some c) with
    | some option, _ =>
      match rest with
      | [] => reader.valued option none
      | '=' :: value => reader.valued option (some (String.ofList value))
      | value => reader.valued option (some (String.ofList value))
    | none, some option => do (← reader.flag option).bundle rest
    | none, none => .error (.unknown (String.ofList ['-', c]))

/-- A word that is no option: the value of the option before it, or a path. -/
def plain (reader : Reader) (word : String) : Except ArgumentFault Reader :=
  match reader.waiting with
  | .value option none => .ok { reader with waiting := .value option (some word) }
  | _ => reader.path word

/-- Reads the words of a command line; after `--` they are all paths. -/
def words (reader : Reader) (onlyPaths : Bool) : List String → Except ArgumentFault Reader
  | [] => reader.settle
  | word :: rest => do
    if onlyPaths then (← reader.path word).words true rest
    else
      match word.toList with
      | ['-', '-'] => reader.words true rest
      | '-' :: '-' :: name => (← reader.long name).words false rest
      | '-' :: c :: more => (← reader.bundle (c :: more)).words false rest
      | _ => (← reader.plain word).words false rest

end Reader

namespace Arguments

/-- The path that is checked if none is given. -/
def standardPath : String := "."

/-- What a command line asks for. -/
def parse (words : List String) : Except ArgumentFault Arguments := do
  let arguments := (← Reader.start.words false words).arguments
  return { arguments with
    paths := if arguments.paths.isEmpty then [standardPath] else arguments.paths }

end Arguments

end TagAudit
