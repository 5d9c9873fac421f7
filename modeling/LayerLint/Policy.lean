import LayerLint.CallPattern
import LayerLint.Engine
import LayerLint.Layer
import LayerLint.Model
import LayerLint.Settings.Basic

/-! The policy of a scan: settings that have been checked, with their patterns read. -/

namespace LayerLint

/-- Why settings make no policy. -/
inductive SettingsFault where
  | glob (pattern : String) (fault : Glob.Fault)
  | regex (key : Settings.Key) (pattern : String) (refusal : Regex.Refusal)
  | zero (key : Settings.Key)
  | noExtensions
  deriving DecidableEq, Repr

namespace SettingsFault

def message : SettingsFault → String
  | .glob pattern _ => "Invalid glob pattern in 'ignores': \"" ++ pattern ++ "\""
  | .regex key pattern _ =>
    "Invalid regular expression in '" ++ key.name ++ "': \"" ++ pattern ++ "\""
  | .zero key => "'" ++ key.name ++ "' must be greater than 0"
  | .noExtensions => "'extensions' must list at least one file extension"

def cause? : SettingsFault → Option String
  | .glob _ fault => some fault.message
  | .regex _ pattern refusal => some (refusal.message pattern)
  | .zero _ | .noExtensions => none

def fullMessage (f : SettingsFault) : String :=
  match f.cause? with
  | some cause => f.message ++ ": " ++ cause
  | none => f.message

end SettingsFault

structure Policy where
  rules : List RuleId
  maxMethodLines : Nat
  namingMinWords : Nat
  /-- The extensions of the files to scan, without dots and in small letters. -/
  extensions : List String
  ignores : List Matcher
  excludedDirs : List String
  /-- The names of directories with page objects, in small letters. -/
  pageDirs : List String
  /-- The names of directories with tests, in small letters. -/
  testDirs : List String
  testAnnotations : List String
  testFrameworkImports : List String
  assertionReceivers : List CallPattern
  assertionCallees : List CallPattern
  driverReceivers : List CallPattern
  exemptReceivers : List CallPattern
  sensitiveData : List Matcher
  genericTestNames : List Matcher
  fileTimeoutMs : Option Nat
  maxFileBytes : Nat
  maxNesting : Nat

namespace Settings

/-- The patterns of a list, read one after another up to the first fault. -/
def readMatchers {ε : Type} (read : String → Except ε (String → Bool))
    (fault : String → ε → SettingsFault) (patterns : List String) :
    Except SettingsFault (List Matcher) :=
  patterns.mapM fun p => ((read p).map (Matcher.mk p)).mapError (fault p)

def readGlobs [Engine] (patterns : List String) : Except SettingsFault (List Matcher) :=
  readMatchers Engine.glob .glob patterns

def readRegexes [Engine] (key : Key) (patterns : List String) :
    Except SettingsFault (List Matcher) :=
  readMatchers Engine.regex (.regex key) patterns

def checkPositive (key : Key) (n : UInt64) : Except SettingsFault Unit :=
  if n = 0 then .error (.zero key) else .ok ()

def checkExtensions (extensions : List String) : Except SettingsFault Unit :=
  if extensions.isEmpty then .error .noExtensions else .ok ()

/-- The policy of settings whose patterns have been read. -/
def policyWith (s : Settings) (ignores sensitiveData genericTestNames : List Matcher) : Policy where
  rules := s.effectiveRules
  maxMethodLines := s.maxMethodLines.toNat
  namingMinWords := s.namingMinWords.toNat
  extensions := s.extensions.map fun e =>
    Text.lowerAscii (String.ofList (e.toList.dropWhile (· == '.')))
  ignores
  excludedDirs := s.excludedDirs
  pageDirs := s.pageDirs.map Text.lower
  testDirs := s.testDirs.map Text.lower
  testAnnotations := s.testAnnotations
  testFrameworkImports := s.testFrameworkImports
  assertionReceivers := s.assertionReceivers.map CallPattern.ofString
  assertionCallees := s.assertionCallees.map CallPattern.ofString
  driverReceivers := s.driverReceivers.map CallPattern.ofString
  exemptReceivers := s.exemptReceivers.map CallPattern.ofString
  sensitiveData
  genericTestNames
  fileTimeoutMs := if s.fileTimeoutMs = 0 then none else some s.fileTimeoutMs.toNat
  maxFileBytes := s.maxFileBytes.toNat
  maxNesting := s.maxNesting.toNat

/-- The policy that settings state. Of several faults the first one counts: patterns come before
numbers, and numbers before extensions. -/
def policy [Engine] (s : Settings) : Except SettingsFault Policy := do
  let ignores ← readGlobs s.ignores
  let sensitiveData ← readRegexes .sensitiveDataPatterns s.sensitiveDataPatterns
  let genericTestNames ← readRegexes .genericTestNames s.genericTestNames
  checkPositive .maxMethodLines s.maxMethodLines
  checkPositive .namingMinWords s.namingMinWords
  checkPositive .maxNesting s.maxNesting
  checkExtensions s.extensions
  return s.policyWith ignores sensitiveData genericTestNames

/-- Checks settings without keeping the policy. -/
def check [Engine] (s : Settings) : Except SettingsFault Unit :=
  s.policy.map fun _ => ()

end Settings

namespace Policy

def marksTest (p : Policy) (name : String) : Bool :=
  p.testAnnotations.contains name

/-- Whether a method is a test. -/
def isTest (p : Policy) (m : Method) : Bool :=
  m.annotations.any fun a => p.marksTest a.name

def classRules (p : Policy) : List RuleId :=
  p.rules.filter fun rule => rule.layer?.isSome

end Policy

end LayerLint
