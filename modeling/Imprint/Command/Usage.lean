import Imprint.Text.Terminal

/-!
# Command — how it is used

The words a command line may hold, the help that explains them, and the wording of what is wrong
with a command line.  Words of a command line are shown in an error without the control functions
that they hold.
-/

namespace Imprint.Command

/-- A word whose meaning comes from its position. -/
inductive Positional where
  | logFile
  | targetFile
  | version
  deriving DecidableEq, Repr

/-- An option that takes a value. -/
inductive Setting where
  | toolchain
  | toolchainArg
  deriving DecidableEq, Repr

/-- An option without a value. -/
inductive Switch where
  | dryRun
  | json
  | verbose
  | help
  | version
  deriving DecidableEq, Repr

/-- The name of a positional word. -/
def Positional.shown : Positional → Text
  | .logFile    => "<LOG_FILE>".toList
  | .targetFile => "<TARGET_FILE>".toList
  | .version    => "[SEMANTIC_VERSION]".toList

/-- The long name of an option, without its dashes. -/
def Setting.name : Setting → Text
  | .toolchain    => "toolchain".toList
  | .toolchainArg => "toolchain-arg".toList

/-- An option with the name of its value. -/
def Setting.shown : Setting → Text
  | .toolchain    => "--toolchain <TOOLCHAIN>".toList
  | .toolchainArg => "--toolchain-arg <TOOLCHAIN_ARGS>".toList

/-- The long name of a switch, without its dashes. -/
def Switch.name : Switch → Text
  | .dryRun  => "dry-run".toList
  | .json    => "json".toList
  | .verbose => "verbose".toList
  | .help    => "help".toList
  | .version => "version".toList

/-- The switch with its dashes. -/
def Switch.shown (s : Switch) : Text := '-' :: '-' :: s.name

/-- The option with a long name. -/
def Setting.named? (name : Text) : Option Setting :=
  [Setting.toolchain, .toolchainArg].find? (·.name = name)

/-- The switch with a long name. -/
def Switch.named? (name : Text) : Option Switch :=
  [Switch.dryRun, .json, .verbose, .help, .version].find? (·.name = name)

/-- The switch with a letter for a name. -/
def Switch.lettered? : Char → Option Switch
  | 'v' => some .verbose
  | 'h' => some .help
  | 'V' => some .version
  | _   => none

/-- What is wrong with a command line. -/
inductive UsageError where
  /-- A word that means nothing. -/
  | unexpected (word : Text)
  /-- A value for a switch. -/
  | needlessValue (value : Text) (s : Switch)
  /-- An option, as it is shown, that may be given once. -/
  | repeated (shown : Text)
  /-- What is shown so lacks its value. -/
  | valueMissing (shown : Text)
  /-- A value that has to be text and is not UTF-8. -/
  | notText
  /-- Words that have to be there. -/
  | missing (ps : List Positional)
  deriving DecidableEq, Repr

namespace UsageError

/-- The wording of the error. -/
def message : UsageError → Text
  | .unexpected word       => "unexpected argument '".toList ++ word.displayed ++ "' found".toList
  | .needlessValue value s =>
    "unexpected value '".toList ++ value.displayed ++ "' for '".toList ++ s.shown ++
      "' found; no more were expected".toList
  | .repeated shown        =>
    "the argument '".toList ++ shown ++ "' cannot be used multiple times".toList
  | .valueMissing shown    =>
    "a value is required for '".toList ++ shown ++ "' but none was supplied".toList
  | .notText               => "invalid UTF-8 was detected in one or more arguments".toList
  | .missing ps            =>
    "the following required arguments were not provided:".toList ++
      ps.flatMap fun p => ['\n', ' ', ' '] ++ p.shown

/-- The usage of the command is shown with the error. -/
def showsUsage : UsageError → Bool
  | .valueMissing _ => false
  | _               => true

end UsageError

/-- The usage of the command. -/
def usage : Text :=
  "Usage: buildstamp [OPTIONS] <LOG_FILE> <TARGET_FILE> [SEMANTIC_VERSION]".toList

/-- What is written for a usage error. -/
def UsageError.report (e : UsageError) : Text :=
  "error: ".toList ++ e.message ++ ['\n', '\n'] ++
    (if e.showsUsage then usage ++ ['\n', '\n'] else []) ++
    "For more information, try '--help'.\n".toList

/-- The help of the command. -/
def help : Text :=
  "Stamp build number, toolchain version and date into a source file\n\n".toList ++ usage ++
  ("\n\nArguments:\n" ++
  "  <LOG_FILE>          Log file whose line count (plus one) becomes the build number\n" ++
  "  <TARGET_FILE>       Source file whose declaration lines are rewritten in place\n" ++
  "  [SEMANTIC_VERSION]  Semantic version to write; the version line is left alone when omitted\n" ++
  "\nOptions:\n" ++
  "      --toolchain <TOOLCHAIN>           Toolchain binary to query [default: $BUILDSTAMP_TOOLCHAIN or go]\n" ++
  "      --toolchain-arg <TOOLCHAIN_ARGS>  Argument passed to the toolchain to report its version (repeatable) [default: version]\n" ++
  "      --dry-run                         Compute and print the metadata without writing the target file\n" ++
  "      --json                            Print the metadata as JSON instead of the text summary\n" ++
  "  -v, --verbose                         Log debug details to stderr\n" ++
  "  -h, --help                            Print help\n" ++
  "  -V, --version                         Print version\n").toList

/-- The name and the version of the command. -/
def nameAndVersion : Text := "buildstamp 0.1.0\n".toList

end Imprint.Command
