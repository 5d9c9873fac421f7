import LayerLint.Proofs.Report.Lines
import LayerLint.Proofs.Scan.Layers

/-! What the messages of a report quote. A message is made of fixed words on one line and of texts
from a source file or from the settings, so that it goes over more than one line exactly if one of
these texts does. -/

namespace LayerLint

open Text

/-- The texts of a class that the message of a rule on a line quotes. -/
inductive ClassModel.Quotes (c : ClassModel) : RuleId → Nat → List String → Prop where
  | forbiddenImport {i : Import} (imported : i ∈ c.imports) :
      Quotes c .forbiddenImport i.line [i.name]
  | assertionInPom {m : Method} {call : Call} (method : m ∈ c.methods) (called : call ∈ m.calls) :
      Quotes c .assertionInPom call.line [m.name, call.receiver, call.callee]
  | businessLogicInPom {m : Method} {b : Branch} (method : m ∈ c.methods)
      (branches : b ∈ m.branches) : Quotes c .businessLogicInPom b.line [m.name, b.construct]
  | adaptationInDefinition {m : Method} {call : Call} (method : m ∈ c.methods)
      (called : call ∈ m.calls) :
      Quotes c .adaptationInDefinition call.line [m.name, call.receiver, call.callee]
  | hardcodedTestData {m : Method} {l : Literal} (method : m ∈ c.methods)
      (passed : l ∈ m.literals) : Quotes c .hardcodedTestData l.line [l.value, l.callee]
  | poorTestNaming {m : Method} (method : m ∈ c.methods) :
      Quotes c .poorTestNaming m.firstLine [m.name]
  | longTestFunction {m : Method} (method : m ∈ c.methods) :
      Quotes c .longTestFunction m.firstLine [m.name]

/-- A message goes over more than one line exactly if one of some texts does. -/
def BreaksBy (message : String) (texts : List String) : Prop :=
  Breaks message ↔ ∃ text ∈ texts, Breaks text

theorem RuleId.breaks_callName (c : Call) :
    Breaks (callName c) ↔ Breaks c.receiver ∨ Breaks c.callee := by
  unfold callName
  split
  · next none =>
      have empty : c.receiver = "" := String.isEmpty_iff.mp none
      have plain : ¬ Breaks "" := by decide
      simp only [empty, plain, false_or]
  · simp +decide only [breaks_append, or_false]

theorem RuleId.quotes_of_mem_sites {p : Policy} {c : ClassModel} {rule : RuleId} {s : Site}
    (member : s ∈ rule.sites p c) :
    ∃ texts, c.Quotes rule s.line texts ∧ BreaksBy s.message texts := by
  cases rule with
  | forbiddenImport =>
      obtain ⟨i, imported, rfl⟩ := List.mem_map.mp member
      refine ⟨_, .forbiddenImport (List.mem_filter.mp imported).1, ?_⟩
      simp +decide [BreaksBy, breaks_append, breaks_toString]
  | assertionInPom =>
      obtain ⟨m, method, here⟩ := List.mem_flatMap.mp member
      obtain ⟨call, called, rfl⟩ := List.mem_map.mp here
      refine ⟨_, .assertionInPom method (List.mem_filter.mp called).1, ?_⟩
      simp +decide [BreaksBy, breaks_append, breaks_toString, breaks_callName]
  | businessLogicInPom =>
      obtain ⟨m, method, here⟩ := List.mem_flatMap.mp member
      obtain ⟨b, branches, rfl⟩ := List.mem_map.mp here
      refine ⟨_, .businessLogicInPom method branches, ?_⟩
      simp +decide [BreaksBy, breaks_append, breaks_toString]
  | adaptationInDefinition =>
      obtain ⟨m, method, here⟩ := List.mem_flatMap.mp member
      obtain ⟨call, called, rfl⟩ := List.mem_map.mp here
      refine ⟨_, .adaptationInDefinition (List.mem_filter.mp method).1
        (List.mem_filter.mp called).1, ?_⟩
      simp +decide [BreaksBy, breaks_append, breaks_toString, or_assoc]
  | hardcodedTestData =>
      obtain ⟨m, method, here⟩ := List.mem_flatMap.mp member
      obtain ⟨l, passed, rfl⟩ := List.mem_map.mp here
      refine ⟨_, .hardcodedTestData (List.mem_filter.mp method).1
        (List.mem_filter.mp passed).1, ?_⟩
      simp +decide [BreaksBy, breaks_append, breaks_toString]
  | poorTestNaming =>
      obtain ⟨m, method, rfl⟩ := List.mem_map.mp member
      refine ⟨_, .poorTestNaming (List.mem_filter.mp method).1, ?_⟩
      simp +decide [BreaksBy, breaks_append, breaks_toString]
  | longTestFunction =>
      obtain ⟨m, method, rfl⟩ := List.mem_map.mp member
      refine ⟨_, .longTestFunction (List.mem_filter.mp method).1, ?_⟩
      simp +decide only [BreaksBy, breaks_append, breaks_toString, not_breaks_number, or_false,
        false_or, List.mem_singleton, exists_eq_left]
  | missingLayerStructure => cases member
  | parseError => cases member

theorem firstOnEachLine_subset (ss : List Site) : firstOnEachLine ss ⊆ ss := by
  induction ss with
  | nil => exact List.Subset.refl _
  | cons s ss ih =>
      intro site member
      rcases List.mem_cons.mp member with rfl | later
      · exact List.mem_cons_self
      · exact List.mem_cons_of_mem _ (ih (List.mem_filter.mp later).1)

theorem Policy.quotes_of_mem_violationsOf {p : Policy} {path : String} {c : ClassModel}
    {v : Violation} (member : v ∈ p.violationsOf path c) :
    ∃ texts, c.Quotes v.rule v.line texts ∧ BreaksBy v.message texts := by
  obtain ⟨rule, -, here⟩ := List.mem_flatMap.mp member
  unfold RuleId.evaluate at here
  split at here
  · obtain ⟨s, first, rfl⟩ := List.mem_map.mp here
    exact RuleId.quotes_of_mem_sites (firstOnEachLine_subset _ first)
  · cases here

def ParseFailure.quotes : ParseFailure → List String
  | .missing token _ => [token]
  | .unreadable reason => [reason]
  | .malformed _ | .tooDeep _ _ | .timedOut _ _ => []

theorem ParseFailure.breaksBy_quotes (path : String) (f : ParseFailure) :
    BreaksBy (f.violation path).message f.quotes := by
  have own : Breaks (f.violation path).message ↔ Breaks f.message := by
    have fixed : ¬ Breaks "could not analyze file: " := by decide
    simp only [violation, breaks_append, breaks_toString, fixed, false_or]
  rw [BreaksBy, own]
  unfold message quotes
  cases f <;>
    simp +decide only [breaks_append, breaks_toString, not_breaks_number, or_false, false_or,
      List.mem_singleton, exists_eq_left, List.not_mem_nil, false_and, exists_false]

/-! ### The project -/

theorem breaks_intercalate {sep : String} (plain : ¬ Breaks sep) (texts : List String) :
    Breaks (sep.intercalate texts) ↔ ∃ text ∈ texts, Breaks text := by
  induction texts with
  | nil => simp +decide
  | cons text texts ih =>
      cases texts with
      | nil => simp
      | cons next texts =>
          rw [String.intercalate_cons_cons, breaks_append, breaks_append, ih]
          simp [plain]

/-- The names of a layer's directories, if the project has none of them. -/
def unmatched (entries : List (String × Entry)) (names : List String) : List String :=
  if ((entries.filter (·.2.isDirectory)).map fun e => lower e.1).any names.contains then []
  else names

def Policy.missingNames (p : Policy) (entries : List (String × Entry)) : List String :=
  unmatched entries p.testDirs ++ unmatched entries p.pageDirs

def missingLayer (entries : List (String × Entry)) (names : List String) (what : String) :
    List String :=
  if ((entries.filter (·.2.isDirectory)).map fun e => lower e.1).any names.contains then []
  else
    let list := ", ".intercalate names
    [s!"{what} (one of: {list})"]

theorem Policy.missingLayers_eq (p : Policy) (entries : List (String × Entry)) :
    p.missingLayers entries = missingLayer entries p.testDirs "a test directory" ++
      missingLayer entries p.pageDirs "a Page Object directory" :=
  rfl

theorem breaks_missingLayer (entries : List (String × Entry)) (names : List String) {what : String}
    (plain : ¬ Breaks what) :
    (∃ text ∈ missingLayer entries names what, Breaks text) ↔
      ∃ name ∈ unmatched entries names, Breaks name := by
  have comma : ¬ Breaks ", " := by decide
  unfold missingLayer unmatched
  split
  · rfl
  · simp +decide only [List.mem_singleton, exists_eq_left, breaks_append, breaks_toString,
      breaks_intercalate comma, plain, or_false, false_or]

theorem Policy.breaksBy_missingNames {p : Policy} {entries : List (String × Entry)} {v : Violation}
    (member : v ∈ p.projectPart entries) : BreaksBy v.message (p.missingNames entries) := by
  unfold projectPart at member
  split at member
  · simp only [projectViolations] at member
    split at member
    · cases member
    · obtain rfl := List.mem_singleton.mp member
      have fixed : ¬ Breaks "Project lacks the gTAA layer structure; missing " := by decide
      have conj : ¬ Breaks " and " := by decide
      have tests := breaks_missingLayer entries p.testDirs
        (show ¬ Breaks "a test directory" by decide)
      have pages := breaks_missingLayer entries p.pageDirs
        (show ¬ Breaks "a Page Object directory" by decide)
      simp only [BreaksBy, breaks_append, fixed, false_or, breaks_intercalate conj,
        missingLayers_eq, missingNames, List.mem_append, or_and_right, exists_or, tests, pages]
  · cases member

/-! ### The report of a scan -/

section

variable [Engine]

/-- The texts that the message of a violation of a scan quotes: those of a class in its file, those
of the failure to read its file as source, or names of directories from the settings. -/
inductive Policy.Quotes (p : Policy) (entries : List (String × Entry)) :
    Violation → List String → Prop where
  | ofClass {f : SourceFile} {classes : List ClassModel} {c : ClassModel} {v : Violation}
      {texts : List String} (found : f ∈ (p.discoverIn entries).files) (file : v.file = f.path)
      (models : p.analyze f = .models classes) (declared : c ∈ classes)
      (quotes : c.Quotes v.rule v.line texts) : Quotes p entries v texts
  | ofFailure {f : SourceFile} {failure : ParseFailure}
      (found : f ∈ (p.discoverIn entries).files) (failed : p.analyze f = .failed failure) :
      Quotes p entries (failure.violation f.path) failure.quotes
  | ofProject {v : Violation} (project : v ∈ p.projectPart entries) :
      Quotes p entries v (p.missingNames entries)

theorem Policy.quotes_of_mem_violationsIn {p : Policy} {entries : List (String × Entry)}
    {f : SourceFile} (found : f ∈ (p.discoverIn entries).files) {v : Violation}
    (member : v ∈ p.violationsIn f) :
    ∃ texts, p.Quotes entries v texts ∧ BreaksBy v.message texts := by
  have file : v.file = f.path := (mem_violationsIn member).1
  unfold violationsIn at member
  cases analysis : p.analyze f with
  | oversized bytes =>
      rw [analysis] at member
      cases member
  | failed failure =>
      rw [analysis] at member
      obtain rfl := List.mem_singleton.mp member
      exact ⟨_, .ofFailure found analysis, failure.breaksBy_quotes f.path⟩
  | models classes =>
      rw [analysis] at member
      obtain ⟨c, declared, here⟩ := List.mem_flatMap.mp member
      obtain ⟨texts, quotes, breaks⟩ := quotes_of_mem_violationsOf here
      exact ⟨texts, .ofClass found file analysis declared quotes, breaks⟩
  | aborted =>
      rw [analysis] at member
      cases member

theorem Policy.quotes_of_mem_reportOn {p : Policy} {entries : List (String × Entry)}
    {v : Violation}
    (member : v ∈ (p.reportOn entries (p.discoverIn entries).files).violations) :
    ∃ texts, p.Quotes entries v texts ∧ BreaksBy v.message texts := by
  rw [reportOn_violations] at member
  rcases List.mem_append.mp (mem_of_mem_canonical member) with inFile | ofProject
  · obtain ⟨f, found, here⟩ := List.mem_flatMap.mp inFile
    exact quotes_of_mem_violationsIn found here
  · exact ⟨_, .ofProject ofProject, breaksBy_missingNames ofProject⟩

theorem Policy.not_breaks_file {p : Policy} {entries : List (String × Entry)}
    {files : List SourceFile} (plain : ∀ f ∈ files, ¬ Breaks f.path) :
    ∀ v ∈ (p.reportOn entries files).violations, ¬ Breaks v.file := by
  intro v member
  rw [reportOn_violations] at member
  rcases List.mem_append.mp (mem_of_mem_canonical member) with inFile | ofProject
  · obtain ⟨f, found, here⟩ := List.mem_flatMap.mp inFile
    rw [(mem_violationsIn here).1]
    exact plain f found
  · rw [(mem_projectPart ofProject).1]
    decide

/-- The lines of the report of a scan of files whose paths have no line break. Before the blank line
each violation stands on a line of its own exactly if no message has a line break, and a message has
one exactly if a text has one that it quotes from the sources or the settings. -/
theorem FileTree.scan_text_lines_iff (t : FileTree) (p : Policy) (path : String) (r : Report)
    (plain : ∀ f ∈ (t.discover p path).files, ¬ Breaks f.path) (ok : t.scan p path false = .ok r)
    (found : r.violations ≠ []) :
    (linesBeforeBlank (r.text false) = r.violations.map Violation.shown ↔
      ∀ v ∈ r.violations, ¬ Breaks v.message) ∧
    ∃ root entries, t.locate path = .ok root ∧ t.root.at? root = some (.directory entries) ∧
      ∀ v ∈ r.violations, ∃ texts, p.Quotes entries v texts ∧
        (Breaks v.message ↔ ∃ text ∈ texts, Breaks text) := by
  obtain ⟨root, entries, located, here, discovered, -, rfl⟩ := t.exists_of_scan_eq_ok p path ok
  rw [discovered] at plain
  refine ⟨Report.linesBeforeBlank_text_iff found (Policy.not_breaks_file plain), root, entries,
    located, here, ?_⟩
  exact fun v member => Policy.quotes_of_mem_reportOn member

/-! ### Reports on one file -/

theorem Policy.analyze_ne_aborted_of_mem {p : Policy} {f : SourceFile} {v : Violation}
    (member : v ∈ p.violationsIn f) : p.analyze f ≠ .aborted := by
  intro aborted
  rw [violationsIn, aborted] at member
  cases member

/-- The report of a scan of one file. -/
theorem FileTree.scan_lone_file {p : Policy} {f : SourceFile} (busy : p.rules ≠ [])
    (noProject : p.rules.contains .missingLayerStructure = false) (takes : p.Takes f)
    (whole : p.analyze f ≠ .aborted) :
    ((ofFiles [f]).discover p "/").files = [f] ∧
      ∃ r, (ofFiles [f]).scan p "/" false = .ok r ∧
        r.violations = LayerLint.canonical (p.violationsIn f) := by
  have taken : ∀ g ∈ [f], p.Takes g := List.forall_mem_singleton.mpr takes
  have sorted := List.pairwise_singleton (fun f g : SourceFile => f.path ≤ g.path) f
  have files := p.discoverIn_entries taken sorted
  have all : ∀ g ∈ (p.discoverIn ([f].map SourceFile.entry)).files, p.analyze g ≠ .aborted := by
    rw [files, List.forall_mem_singleton]
    exact whole
  refine ⟨discover_ofFiles taken sorted, _,
    scan_eq_ok (ofFiles [f]) p "/" busy (locate_root rfl) rfl all, ?_⟩
  rw [Policy.reportOn_violations, files, Policy.projectPart, noProject, List.flatMap_singleton,
    if_neg Bool.false_ne_true, List.append_nil]

end

/-- Settings for the rule on literals, of which those with an `x` are not to stand in tests. -/
def Settings.literalsOnly : Settings :=
  { enabledRules := [.hardcodedTestData]
    sensitiveDataPatterns := ["x"]
    genericTestNames := [] }

def SourceFile.passing (literal : String) : SourceFile :=
  ⟨"T.java", .java, s!"class T\x7b@Test void m()\x7bf({literal});\x7d\x7d".toUTF8⟩

def FileTree.passing (literal : String) : FileTree :=
  ofFiles [.passing literal]

def Violation.ofLiteral (value : String) : Violation :=
  ⟨"T.java", 1, .hardcodedTestData,
    s!"Hardcoded test data '{value}' passed to 'f'; move test data out of the test definition"⟩

/-- The report of a scan of a test that passes a literal on. -/
theorem Settings.scan_passing {literal value : String}
    (computed : (literalsOnly.policy.toOption.map fun p =>
        (p.rules, p.dialectOf? "T.java", p.ignored "T.java", p.violationsIn (.passing literal))) =
      some ([.hardcodedTestData], some .java, false, [.ofLiteral value])) :
    ∃ p r, literalsOnly.policy = .ok p ∧
      (∀ f ∈ ((FileTree.passing literal).discover p "/").files, ¬ Breaks f.path) ∧
      (FileTree.passing literal).scan p "/" false = .ok r ∧ r.violations = [.ofLiteral value] := by
  obtain ⟨p, valid, facts⟩ := exists_policy_of_computed computed
  simp only [Prod.mk.injEq] at facts
  obtain ⟨rules, known, kept, one⟩ := facts
  have busy : p.rules ≠ [] := by
    rw [rules]
    exact List.cons_ne_nil _ _
  have noProject : p.rules.contains .missingLayerStructure = false := by
    rw [rules]
    rfl
  have isName : Entry.IsName "T.java" := by decide
  have takes : p.Takes (.passing literal) := ⟨isName, known, kept⟩
  obtain ⟨files, r, ok, violations⟩ := FileTree.scan_lone_file busy noProject takes
    (Policy.analyze_ne_aborted_of_mem (one ▸ List.mem_singleton_self _))
  rw [one, canonical_singleton] at violations
  refine ⟨p, r, valid, ?_, ok, violations⟩
  rw [FileTree.passing, files, List.forall_mem_singleton]
  show ¬ Breaks "T.java"
  decide

/-- The report on a literal of one line has one line before the blank one. -/
theorem FileTree.scan_text_lines_literal :
    let t := FileTree.passing "\"xxxxx\""
    ∃ p r, Settings.literalsOnly.policy = .ok p ∧
      (∀ f ∈ (t.discover p "/").files, ¬ Breaks f.path) ∧ t.scan p "/" false = .ok r ∧
      r.violations ≠ [] ∧ linesBeforeBlank (r.text false) = r.violations.map Violation.shown := by
  intro t
  obtain ⟨p, r, valid, plain, ok, one⟩ :=
    @Settings.scan_passing "\"xxxxx\"" "xxxxx" (by decide +kernel)
  have found : r.violations ≠ [] := one ▸ List.cons_ne_nil _ _
  refine ⟨p, r, valid, plain, ok, found, ?_⟩
  rw [(t.scan_text_lines_iff p "/" r plain ok found).1, one, List.forall_mem_singleton]
  decide

/-- A literal of several lines adds a line to the report that reads as a violation and is none. -/
theorem FileTree.scan_text_forges_line :
    let t := FileTree.passing "\"\"\"\nx:1: [error] PARSE_ERROR — y\n\"\"\""
    let forged : Violation := ⟨"x", 1, .parseError, "y"⟩
    ∃ p r, Settings.literalsOnly.policy = .ok p ∧
      (∀ f ∈ (t.discover p "/").files, ¬ Breaks f.path) ∧ t.scan p "/" false = .ok r ∧
      r.violations.length = 1 ∧ (linesBeforeBlank (r.text false)).length = 3 ∧
      forged.shown ∈ linesBeforeBlank (r.text false) ∧ forged ∉ r.violations := by
  intro t forged
  obtain ⟨p, r, valid, plain, ok, one⟩ :=
    @Settings.scan_passing "\"\"\"\nx:1: [error] PARSE_ERROR — y\n\"\"\""
      "\nx:1: [error] PARSE_ERROR — y\n" (by decide +kernel)
  have found : r.violations ≠ [] := one ▸ List.cons_ne_nil _ _
  refine ⟨p, r, valid, plain, ok, ?_⟩
  rw [Report.linesBeforeBlank_text found, one]
  decide +kernel

end LayerLint
