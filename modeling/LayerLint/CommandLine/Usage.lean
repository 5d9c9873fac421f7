import LayerLint.Rule.Id

/-! The commands with their arguments, how they are called, and what is said of a call that does not
fit. -/

namespace LayerLint.CommandLine

inductive Argument where
  | root
  | dir
  | rules
  | format
  | maxMethodLines
  | namingMinWords
  | config
  | verbose
  | help
  | version
  deriving DecidableEq, Repr

namespace Argument

/-- The name after two dashes; an argument without one is given by its place. -/
def long? : Argument → Option String
  | .root | .dir => none
  | .rules => some "rules"
  | .format => some "format"
  | .maxMethodLines => some "max-method-lines"
  | .namingMinWords => some "naming-min-words"
  | .config => some "config"
  | .verbose => some "verbose"
  | .help => some "help"
  | .version => some "version"

def short? : Argument → Option Char
  | .verbose => some 'v'
  | .help => some 'h'
  | .version => some 'V'
  | _ => none

def takesValue : Argument → Bool
  | .verbose | .help | .version => false
  | _ => true

/-- Whether an argument may be given more than once. -/
def isList : Argument → Bool
  | .rules => true
  | _ => false

def isPositional (a : Argument) : Bool :=
  a.long?.isNone

/-- How an argument is written in a usage line. -/
def form : Argument → String
  | .root => "<ROOT>"
  | .dir => "[DIR]"
  | .rules => "--rules <RULES>"
  | .format => "--format <FORMAT>"
  | .maxMethodLines => "--max-method-lines <MAX_METHOD_LINES>"
  | .namingMinWords => "--naming-min-words <NAMING_MIN_WORDS>"
  | .config => "--config <CONFIG>"
  | .verbose => "--verbose"
  | .help => "--help"
  | .version => "--version"

/-- The values that an argument is limited to, if it is. -/
def values : Argument → List String
  | .format => ["text", "json"]
  | _ => []

end Argument

/-- What can be called: the program without a command, and its commands. -/
inductive Command where
  | program
  | scan
  | init
  | help
  deriving DecidableEq, Repr

namespace Command

def named : List (String × Command) :=
  [("scan", .scan), ("init", .init), ("help", .help)]

def call : Command → String
  | .program => "gtaa"
  | .scan => "gtaa scan"
  | .init => "gtaa init"
  | .help => "gtaa help"

def positional? : Command → Option Argument
  | .scan => some .root
  | .init => some .dir
  | .program | .help => none

def options : Command → List Argument
  | .program => [.help, .version]
  | .scan => [.rules, .format, .maxMethodLines, .namingMinWords, .config, .verbose, .help]
  | .init => [.help]
  | .help => []

/-- The arguments that a command cannot do without. -/
def required : Command → List Argument
  | .scan => [.root]
  | _ => []

def usage : Command → String
  | .program => "gtaa [COMMAND]"
  | .scan => "gtaa scan [OPTIONS] <ROOT>"
  | .init => "gtaa init [DIR]"
  | .help => "gtaa help [COMMAND]..."

/-- How a command is called with arguments: required ones are added, and those given by place come
last. Without arguments it is the call in general. -/
def usageWith (c : Command) (args : List Argument) : String :=
  if args.isEmpty then c.usage
  else
    let all := (c.required ++ args).eraseDups
    let inOrder := all.filter (!·.isPositional) ++ all.filter (·.isPositional)
    c.call ++ String.join (inOrder.map fun a => " " ++ a.form)

def helpText : Command → String
  | .program =>
    "A fast CLI tool for checking gTAA layering violations in UI/API test automation projects\n\n" ++
    "Usage: gtaa [COMMAND]\n\n" ++
    "Commands:\n" ++
    "  scan  Scan test sources for gTAA layering violations\n" ++
    "  init  Initialize a new .gtaarc.json configuration file\n" ++
    "  help  Print this message or the help of the given subcommand(s)\n\n" ++
    "Options:\n" ++
    "  -h, --help     Print help\n" ++
    "  -V, --version  Print version\n"
  | .scan =>
    "Scan test sources for gTAA layering violations\n\n" ++
    "Usage: gtaa scan [OPTIONS] <ROOT>\n\n" ++
    "Arguments:\n" ++
    "  <ROOT>  Root directory of the test sources\n\n" ++
    "Options:\n" ++
    "      --rules <RULES>\n" ++
    "          Only run these rules, e.g. --rules=FORBIDDEN_IMPORT,poor-test-naming\n" ++
    "      --format <FORMAT>\n" ++
    "          Output format [default: text] [possible values: text, json]\n" ++
    "      --max-method-lines <MAX_METHOD_LINES>\n" ++
    "          Maximum body lines for a test method (overrides config file)\n" ++
    "      --naming-min-words <NAMING_MIN_WORDS>\n" ++
    "          Minimum descriptive words in a test name (overrides config file)\n" ++
    "      --config <CONFIG>\n" ++
    "          Config file to use instead of searching for .gtaarc.json\n" ++
    "  -v, --verbose\n" ++
    "          Enable verbose output\n" ++
    "  -h, --help\n" ++
    "          Print help\n"
  | .init =>
    "Initialize a new .gtaarc.json configuration file\n\n" ++
    "Usage: gtaa init [DIR]\n\n" ++
    "Arguments:\n" ++
    "  [DIR]  Directory to create the config file in [default: .]\n\n" ++
    "Options:\n" ++
    "  -h, --help  Print help\n"
  | .help =>
    "Print this message or the help of the given subcommand(s)\n\n" ++
    "Usage: gtaa help [COMMAND]...\n\n" ++
    "Arguments:\n" ++
    "  [COMMAND]...  Print help for the subcommand(s)\n"

end Command

def versionText : String := "gtaa 0.1.0\n"

inductive NumberFault where
  | empty
  | invalidDigit
  | tooLarge
  deriving DecidableEq, Repr

def NumberFault.message : NumberFault → String
  | .empty => "cannot parse integer from empty string"
  | .invalidDigit => "invalid digit found in string"
  | .tooLarge => "number too large to fit in target type"

/-- A hint after a fault. -/
inductive Tip where
  | asValue (arg : String)
  | argument (long : String)
  | argumentOf (command long : String)
  | value (text : String)
  | subcommands (names : List String)
  | withoutDashes (command : String)
  deriving DecidableEq, Repr

def Tip.message : Tip → String
  | .asValue arg => s!"to pass '{arg}' as a value, use '-- {arg}'"
  | .argument long => s!"a similar argument exists: '--{long}'"
  | .argumentOf command long => s!"'{command} --{long}' exists"
  | .value text => s!"a similar value exists: '{text}'"
  | .subcommands names =>
    let list := ", ".intercalate (names.map fun n => s!"'{n}'")
    if names.length == 1 then s!"a similar subcommand exists: {list}"
    else s!"some similar subcommands exist: {list}"
  | .withoutDashes command =>
    s!"subcommand '{command}' exists; to use it, remove the '--' before it"

inductive Problem where
  | unknownSubcommand (name : String)
  | unknownArgument (arg : String)
  | missingValue (arg : Argument)
  | unknownValue (arg : Argument) (value : String)
  | unknownRule (arg : Argument) (text : String)
  | notANumber (arg : Argument) (text : String) (fault : NumberFault)
  | repeated (arg : Argument)
  | unexpectedValue (arg : Argument) (value : String)
  | missingArguments (args : List Argument)
  deriving DecidableEq, Repr

/-- The values that an argument is limited to, in a line of their own. -/
def valuesLine (a : Argument) : String :=
  if a.values.isEmpty then ""
  else
    let list := ", ".intercalate a.values
    s!"\n  [possible values: {list}]"

def Problem.message : Problem → String
  | .unknownSubcommand name => s!"unrecognized subcommand '{name}'"
  | .unknownArgument arg => s!"unexpected argument '{arg}' found"
  | .missingValue a =>
    "a value is required for '" ++ a.form ++ "' but none was supplied" ++ valuesLine a
  | .unknownValue a value => s!"invalid value '{value}' for '" ++ a.form ++ "'" ++ valuesLine a
  | .unknownRule a text =>
    s!"invalid value '{text}' for '" ++ a.form ++ "': " ++ RuleId.unknownMessage text
  | .notANumber a text fault =>
    s!"invalid value '{text}' for '" ++ a.form ++ "': " ++ fault.message
  | .repeated a => "the argument '" ++ a.form ++ "' cannot be used multiple times"
  | .unexpectedValue a value =>
    s!"unexpected value '{value}' for '" ++ a.form ++ "' found; no more were expected"
  | .missingArguments args =>
    "the following required arguments were not provided:" ++
      String.join (args.map fun a => "\n  " ++ a.form)

/-- A call that does not fit, with a hint and the usage to show. -/
structure UsageFault where
  problem : Problem
  tip : Option Tip := none
  usage : Option String := none
  deriving DecidableEq, Repr

def UsageFault.message (f : UsageFault) : String :=
  let tip := match f.tip with
    | some tip => "\n\n  tip: " ++ tip.message
    | none => ""
  let usage := match f.usage with
    | some usage => "\n\nUsage: " ++ usage
    | none => ""
  "error: " ++ f.problem.message ++ tip ++ usage ++
    "\n\nFor more information, try '--help'.\n"

end LayerLint.CommandLine
