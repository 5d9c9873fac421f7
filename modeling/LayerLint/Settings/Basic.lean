import LayerLint.Json.Basic
import LayerLint.Rule.Id

/-! The settings of a scan, as a settings file states them. -/

namespace LayerLint

structure Settings where
  /-- The rules to run; if there are none, the whole catalog runs. -/
  enabledRules : List RuleId := []
  disabledRules : List RuleId := []
  maxMethodLines : UInt64 := 50
  namingMinWords : UInt64 := 2
  extensions : List String := ["java", "cs"]
  ignores : List String := []
  excludedDirs : List String :=
    [".git", "target", "build", "bin", "obj", "node_modules", "out", ".gradle", ".idea", ".vs"]
  pageDirs : List String := ["pages", "page_objects", "pom"]
  testDirs : List String := ["tests", "test"]
  testAnnotations : List String :=
    ["Test", "ParameterizedTest", "RepeatedTest", "TestFactory", "TestTemplate", "Fact", "Theory",
      "TestMethod", "TestCase", "TestCaseSource"]
  testFrameworkImports : List String :=
    ["org.junit", "org.testng", "org.hamcrest", "org.assertj", "NUnit.Framework", "Xunit",
      "Microsoft.VisualStudio.TestTools", "FluentAssertions"]
  assertionReceivers : List String := ["Assert*", "*Assert", "*Assertions"]
  assertionCallees : List String := ["assert*"]
  driverReceivers : List String := ["driver", "_driver", "webDriver", "browser"]
  exemptReceivers : List String := ["page.*", "*Page"]
  sensitiveDataPatterns : List String :=
    ["[A-Za-z0-9._%+-]+@[A-Za-z0-9.-]+\\.[A-Za-z]\x7b2,\x7d",
      "https?://[^\\s\"']+",
      "\\b\\d\x7b3\x7d[-.]?\\d\x7b3\x7d[-.]?\\d\x7b4\x7d\\b",
      "(?i)(password|passwd|pwd|secret|token|api_?key)"]
  genericTestNames : List String := ["(?i)^test_?([0-9]+|[a-z]|case[0-9]*)$"]
  /-- The time for one file in milliseconds; 0 stands for no limit. -/
  fileTimeoutMs : UInt64 := 2000
  maxFileBytes : UInt64 := 10485760
  maxNesting : UInt64 := 256
  deriving DecidableEq, Repr

namespace Settings

/-- The rules that are left after enabling and disabling, in the order in which they run. -/
def effectiveRules (s : Settings) : List RuleId :=
  RuleId.selectable.filter fun rule =>
    (if s.enabledRules.isEmpty then RuleId.catalog.contains rule
      else s.enabledRules.contains rule) &&
    !s.disabledRules.contains rule

/-- A setting, in the order of a settings file. -/
inductive Key where
  | enabledRules
  | disabledRules
  | maxMethodLines
  | namingMinWords
  | extensions
  | ignores
  | excludedDirs
  | pageDirs
  | testDirs
  | testAnnotations
  | testFrameworkImports
  | assertionReceivers
  | assertionCallees
  | driverReceivers
  | exemptReceivers
  | sensitiveDataPatterns
  | genericTestNames
  | fileTimeoutMs
  | maxFileBytes
  | maxNesting
  deriving DecidableEq, Repr

namespace Key

def all : List Key :=
  [.enabledRules, .disabledRules, .maxMethodLines, .namingMinWords, .extensions, .ignores,
    .excludedDirs, .pageDirs, .testDirs, .testAnnotations, .testFrameworkImports,
    .assertionReceivers, .assertionCallees, .driverReceivers, .exemptReceivers,
    .sensitiveDataPatterns, .genericTestNames, .fileTimeoutMs, .maxFileBytes, .maxNesting]

def name : Key → String
  | .enabledRules => "enabledRules"
  | .disabledRules => "disabledRules"
  | .maxMethodLines => "maxMethodLines"
  | .namingMinWords => "namingMinWords"
  | .extensions => "extensions"
  | .ignores => "ignores"
  | .excludedDirs => "excludedDirs"
  | .pageDirs => "pageDirs"
  | .testDirs => "testDirs"
  | .testAnnotations => "testAnnotations"
  | .testFrameworkImports => "testFrameworkImports"
  | .assertionReceivers => "assertionReceivers"
  | .assertionCallees => "assertionCallees"
  | .driverReceivers => "driverReceivers"
  | .exemptReceivers => "exemptReceivers"
  | .sensitiveDataPatterns => "sensitiveDataPatterns"
  | .genericTestNames => "genericTestNames"
  | .fileTimeoutMs => "fileTimeoutMs"
  | .maxFileBytes => "maxFileBytes"
  | .maxNesting => "maxNesting"

def ofName? (name : String) : Option Key :=
  all.find? (·.name == name)

end Key

def valueOf (s : Settings) : Key → Json.Value
  | .enabledRules => .strings (s.enabledRules.map RuleId.id)
  | .disabledRules => .strings (s.disabledRules.map RuleId.id)
  | .maxMethodLines => .number s.maxMethodLines.toNat
  | .namingMinWords => .number s.namingMinWords.toNat
  | .extensions => .strings s.extensions
  | .ignores => .strings s.ignores
  | .excludedDirs => .strings s.excludedDirs
  | .pageDirs => .strings s.pageDirs
  | .testDirs => .strings s.testDirs
  | .testAnnotations => .strings s.testAnnotations
  | .testFrameworkImports => .strings s.testFrameworkImports
  | .assertionReceivers => .strings s.assertionReceivers
  | .assertionCallees => .strings s.assertionCallees
  | .driverReceivers => .strings s.driverReceivers
  | .exemptReceivers => .strings s.exemptReceivers
  | .sensitiveDataPatterns => .strings s.sensitiveDataPatterns
  | .genericTestNames => .strings s.genericTestNames
  | .fileTimeoutMs => .number s.fileTimeoutMs.toNat
  | .maxFileBytes => .number s.maxFileBytes.toNat
  | .maxNesting => .number s.maxNesting.toNat

def value (s : Settings) : Json.Value :=
  .object (Key.all.map fun k => (k.name, s.valueOf k))

def text (s : Settings) : String :=
  s.value.text

end Settings

end LayerLint
