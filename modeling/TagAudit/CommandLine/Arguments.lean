/-
**Command lines.**

* `Arguments` is what a command line asks for; `Arguments.layer` is the layer of settings in it;
* `Arguments.parse` reads a list of words from left to right. A word that starts with a dash is an
  option, or several short ones in a bundle; a value stands behind its option or is attached to
  it; after `--` every word is a path. Help and version end the reading at once;
* `ArgumentFault.message` words what is refused.
-/

import TagAudit.Report.Basic
import TagAudit.Settings.Basic
import TagAudit.Text.Line

namespace TagAudit

/-- What a command line asks for. -/
structure Arguments where
  paths : List String
  settingsFile : Option String := none
  classTagTree : Option String := none
  methodTagTree : Option String := none
  testClassName : Option String := none
  testMethodName : Option String := none
  strictTree : Bool := false
  outputFile : Option String := none
  format : ReportFormat := .text
  verbose : Nat := 0
  quiet : Bool := false
deriving Repr, DecidableEq

namespace Arguments

/-- The layer of settings on the command line. -/
def layer (arguments : Arguments) : Layer where
  classTagTree := arguments.classTagTree
  methodTagTree := arguments.methodTagTree
  testClassName := arguments.testClassName
  testMethodName := arguments.testMethodName
  strictTree := if arguments.strictTree then some true else none

end Arguments

/-- How much a run tells about itself. -/
inductive Verbosity where
  | quiet
  | normal
  | verbose
  | debug
  | trace
deriving Repr, DecidableEq

namespace Verbosity

/-- Being quiet decides over being verbose, however often that is asked for. -/
def ofArguments (arguments : Arguments) : Verbosity :=
  if arguments.quiet then quiet
  else
    match arguments.verbose with
    | 0 => normal
    | 1 => verbose
    | 2 => debug
    | _ => trace

/-- The least important kind of event that is told. -/
def level : Verbosity → String
  | quiet => "ERROR"
  | normal => "WARN"
  | verbose => "INFO"
  | debug => "DEBUG"
  | trace => "TRACE"

end Verbosity

/-- The options with a value. -/
inductive ValueOption where
  | settingsFile
  | classTagTree
  | methodTagTree
  | testClassName
  | testMethodName
  | outputFile
  | format
deriving Repr, DecidableEq

/-- The options without a value. -/
inductive FlagOption where
  | strictTree
  | verbose
  | quiet
  | help
  | version
deriving Repr, DecidableEq

namespace ValueOption

/-- All options with a value. -/
def all : List ValueOption :=
  [settingsFile, classTagTree, methodTagTree, testClassName, testMethodName, outputFile, format]

/-- The long name of an option. -/
def long : ValueOption → String
  | settingsFile => "config"
  | classTagTree => "class-tag-tree"
  | methodTagTree => "method-tag-tree"
  | testClassName => "test-class-name"
  | testMethodName => "test-method-name"
  | outputFile => "output-file"
  | format => "format"

/-- The short name of an option, if it has one. -/
def short? : ValueOption → Option Char
  | settingsFile => some 'c'
  | outputFile => some 'O'
  | format => some 'f'
  | _ => none

/-- The word for the value of an option. -/
def valueWord : ValueOption → String
  | settingsFile => "FILE"
  | classTagTree => "TREE"
  | methodTagTree => "TREE"
  | testClassName => "PATTERN"
  | testMethodName => "PATTERN"
  | outputFile => "FILE"
  | format => "FORMAT"

/-- The value of an option may be empty. -/
def takesEmpty : ValueOption → Bool
  | settingsFile => false
  | outputFile => false
  | format => false
  | _ => true

/-- How an option is shown in a message. -/
def shown (option : ValueOption) : String := "--" ++ option.long ++ " <" ++ option.valueWord ++ ">"

end ValueOption

namespace FlagOption

/-- All options without a value. -/
def all : List FlagOption := [strictTree, verbose, quiet, help, version]

/-- The long name of an option. -/
def long : FlagOption → String
  | strictTree => "strict-tree"
  | verbose => "verbose"
  | quiet => "quiet"
  | help => "help"
  | version => "version"

/-- The short name of an option, if it has one. -/
def short? : FlagOption → Option Char
  | strictTree => none
  | verbose => some 'v'
  | quiet => some 'q'
  | help => some 'h'
  | version => some 'V'

/-- How an option is shown in a message. -/
def shown (option : FlagOption) : String :=
  "--" ++ option.long ++ if option = verbose then "..." else ""

end FlagOption

/-- How the paths are shown in a message. -/
def pathsShown : String := "[PATH]..."

/-- Why a command line is not followed. -/
inductive ArgumentFault where
  | unknown (word : String)
  | noValue (shown : String)
  | badValue (value shown : String)
  | repeated (shown : String)
  | unneededValue (value shown : String)
  | help
  | version
deriving Repr, DecidableEq

/-- The first line of the help text. -/
def aboutText : String :=
  "Check that pytest classes and methods carry the required allure decorators"

/-- The name and number of the program. -/
def versionText : String := "allure-tree 0.1.0"

/-- The help text. -/
def helpText : String := String.join
  [aboutText, "\n\n",
    "Usage: allure-tree [OPTIONS] [PATH]...\n\n",
    "Arguments:\n",
    "  [PATH]...  Files or directories to check [default: .]\n\n",
    "Options:\n",
    "  -c, --config <FILE>               Config file (YAML or JSON). Defaults to ",
    "allure-tree.\x7byaml,yml,json\x7d in the working directory\n",
    "      --class-tag-tree <TREE>       Tags required on test classes, separated by '>' ",
    "[default: feature>story>label>tag]\n",
    "      --method-tag-tree <TREE>      Tags required on test methods, separated by '>' ",
    "[default: title>tag]\n",
    "      --test-class-name <PATTERN>   Prefix or glob pattern selecting test classes ",
    "[default: Test*]\n",
    "      --test-method-name <PATTERN>  Prefix or glob pattern selecting test methods ",
    "[default: test_*]\n",
    "      --strict-tree                 Use strict tree. Unconditionally checks for tags in all ",
    "tests\n",
    "  -O, --output-file <FILE>          Output file path (prints to stdout if not specified)\n",
    "  -f, --format <FORMAT>             Output format (text, json) [default: text] ",
    "[possible values: text, json]\n",
    "  -v, --verbose...                  Increase verbosity (-v info, -vv debug, -vvv trace)\n",
    "  -q, --quiet                       Suppress all output except errors\n",
    "  -h, --help                        Print help\n",
    "  -V, --version                     Print version\n"]

namespace ArgumentFault

/-- What is told about a command line that is not followed. -/
def words : ArgumentFault → String
  | unknown word => "error: unexpected argument '" ++ word ++ "' found"
  | noValue shown => "error: a value is required for '" ++ shown ++ "' but none was supplied"
  | badValue value shown => "error: invalid value '" ++ value ++ "' for '" ++ shown ++ "'"
  | repeated shown => "error: the argument '" ++ shown ++ "' cannot be used multiple times"
  | unneededValue value shown =>
    "error: unexpected value '" ++ value ++ "' for '" ++ shown ++ "' found; no more were expected"
  | help => aboutText
  | version => versionText

/-- The first line of what is told. -/
def message (fault : ArgumentFault) : String := firstLine fault.words

end ArgumentFault

end TagAudit
