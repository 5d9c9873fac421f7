import LayerLint.Proofs.Policy
import LayerLint.Proofs.Scan.Isolation

/-! A file has one layer. Layers are given class by class, but the directories on the way to a file
come first and are the same for all its classes, so that the violations of a file are of the rules
on page objects only or of the rules on tests only. Where the scanned directory itself lies has no
part in this. -/

namespace LayerLint

/-! ### The directories on the way to a file -/

namespace Path

/-- The directories on the path of a location are all its names but the last. -/
theorem directories_displayPath {loc : Location} (nonempty : loc ≠ [])
    (names : ∀ name ∈ loc, Entry.IsName name) :
    directories (Policy.displayPath loc) = loc.dropLast := by
  rw [directories, Policy.displayPath_eq, components_intercalate nonempty names,
    ← List.map_dropLast, List.filterMap_map]
  exact List.filterMap_some

end Path

/-! ### The layer of a class and the rules on it -/

def RuleId.pageRules : List RuleId :=
  [.forbiddenImport, .assertionInPom, .businessLogicInPom]

def RuleId.testRules : List RuleId :=
  [.adaptationInDefinition, .hardcodedTestData, .poorTestNaming, .longTestFunction]

theorem RuleId.mem_rules_of_layer {rule : RuleId} {layer : Layer} (is : rule.layer? = some layer) :
    layer = .pageObject ∧ rule ∈ pageRules ∨ layer = .testDefinition ∧ rule ∈ testRules := by
  cases rule <;> cases is <;> decide

namespace Policy

variable {p : Policy} {path : String} {c : ClassModel}

theorem layerOf_eq_pageObject_iff :
    p.layerOf path c = .pageObject ↔ liesUnder path p.pageDirs = true := by
  unfold layerOf classify
  cases liesUnder path p.pageDirs with
  | true => simp
  | false =>
      simp only [Bool.false_eq_true, if_false, iff_false]
      split
      · split <;> nofun
      · nofun

theorem layer_of_mem_violationsOf {v : Violation} (member : v ∈ p.violationsOf path c) :
    v.rule.layer? = some (p.layerOf path c) := by
  obtain ⟨rule, -, here⟩ := List.mem_flatMap.mp member
  obtain ⟨-, rfl⟩ := RuleId.mem_evaluate here
  unfold RuleId.evaluate at here
  split at here
  · assumption
  · cases here

/-- A file gives one violation that it cannot be read as source, or violations of the rules on the
layer of its directories. -/
theorem violationsIn_layer [Engine] (p : Policy) (f : SourceFile) :
    (∃ v, p.violationsIn f = [v] ∧ v.rule = .parseError) ∨
      (∀ v ∈ p.violationsIn f, v.rule ∈
        if liesUnder f.path p.pageDirs then RuleId.pageRules else RuleId.testRules) := by
  unfold violationsIn
  cases p.analyze f with
  | oversized bytes => exact .inr nofun
  | failed failure => exact .inl ⟨_, rfl, rfl⟩
  | aborted => exact .inr nofun
  | models classes =>
      refine .inr fun v member => ?_
      obtain ⟨c, -, here⟩ := List.mem_flatMap.mp member
      -- Whether a class is a page object depends on the path, which all classes of a file share.
      rcases RuleId.mem_rules_of_layer (layer_of_mem_violationsOf here) with
        ⟨page, rule⟩ | ⟨test, rule⟩
      · rwa [if_pos (layerOf_eq_pageObject_iff.mp page)]
      · have outside : ¬ liesUnder f.path p.pageDirs = true := by
          rw [← layerOf_eq_pageObject_iff (c := c), test]
          nofun
        rwa [if_neg outside]

end Policy

/-! ### The violations of a file in a report -/

/-- A directory on the way to a location has the name of a page directory, case aside. -/
def InPages (pageDirs : List String) (loc : Location) : Prop :=
  ∃ segment ∈ loc.dropLast, ∃ dir ∈ pageDirs, Text.lower segment = Text.lower dir

/-- What a report holds of one file: that it cannot be read as source and nothing else, or
violations of the rules on the layer of its location. -/
def OneLayer (pageDirs : List String) (loc : Location) (entries : List Violation) : Prop :=
  (∃ v, entries = [v] ∧ v.rule = .parseError) ∨
    (InPages pageDirs loc ∧ ∀ v ∈ entries, v.rule ∈ RuleId.pageRules) ∨
    (¬ InPages pageDirs loc ∧ ∀ v ∈ entries, v.rule ∈ RuleId.testRules)

theorem Policy.liesUnder_displayPath_iff {pageDirs : List String} {loc : Location}
    (nonempty : loc ≠ []) (names : ∀ name ∈ loc, Entry.IsName name) :
    liesUnder (displayPath loc) (pageDirs.map Text.lower) = true ↔ InPages pageDirs loc := by
  rw [liesUnder, Path.directories_displayPath nonempty names, List.any_eq_true]
  simp only [List.contains_iff_mem, List.mem_map, InPages, @eq_comm String]

section

variable [Engine]

theorem Policy.entriesAt_eq_canonical (p : Policy) {entries : List (String × Entry)}
    (wf : (Entry.directory entries).WellFormed) {f : SourceFile}
    (member : f ∈ (p.discoverIn entries).files) :
    (p.reportOn entries (p.discoverIn entries).files).entriesAt f.path =
      canonical (p.violationsIn f) := by
  rw [p.entriesAt_of_mem_discoverIn wf member, Analysis.entries_eq_canonical]
  rfl

theorem Policy.oneLayer_entriesAt {s : Settings} {p : Policy} (valid : s.policy = .ok p)
    {entries : List (String × Entry)} (wf : (Entry.directory entries).WellFormed) {f : SourceFile}
    (member : f ∈ (p.discoverIn entries).files) {loc : Location} (path : f.path = displayPath loc)
    (found : (Entry.directory entries).at? loc = some (.file f.content)) :
    OneLayer s.pageDirs loc
      ((p.reportOn entries (p.discoverIn entries).files).entriesAt f.path) := by
  have pages : liesUnder f.path p.pageDirs = true ↔ InPages s.pageDirs loc := by
    rw [path, Settings.pageDirs_of_policy valid]
    exact liesUnder_displayPath_iff (Entry.ne_nil_of_at?_file found) (wf.at? found).1
  rw [p.entriesAt_eq_canonical wf member]
  rcases p.violationsIn_layer f with ⟨v, one, rule⟩ | layer
  · exact .inl ⟨v, by rw [one, canonical_singleton], rule⟩
  · have kept : ∀ v ∈ canonical (p.violationsIn f),
        v.rule ∈ if liesUnder f.path p.pageDirs then RuleId.pageRules else RuleId.testRules :=
      fun v member => layer v (mem_of_mem_canonical member)
    by_cases under : liesUnder f.path p.pageDirs = true
    · rw [if_pos under] at kept
      exact .inr (.inl ⟨pages.mp under, kept⟩)
    · rw [if_neg under] at kept
      exact .inr (.inr ⟨mt pages.mpr under, kept⟩)

/-- What a scan comes to depends on the directory that it scans, not on where this lies. -/
theorem FileTree.scan_congr {t t' : FileTree} (p : Policy) {path path' : String}
    {root root' : Location} {entries : List (String × Entry)} (located : t.locate path = .ok root)
    (located' : t'.locate path' = .ok root') (here : t.root.at? root = some (.directory entries))
    (same : t'.root.at? root' = t.root.at? root) :
    t'.scan p path' false = t.scan p path false := by
  have found : t.scanRoot path = .ok (pathOf root, entries) :=
    (t.scanRoot_eq_ok_iff path).mpr ⟨root, located, here, rfl⟩
  have found' : t'.scanRoot path' = .ok (pathOf root', entries) :=
    (t'.scanRoot_eq_ok_iff path').mpr ⟨root', located', same.trans here, rfl⟩
  rw [scan_eq, scan_eq, found, found']

/-- Layers are separated file by file. In the report of a scan, what is held of a file found is that
it cannot be read as source, or it is of the rules on page objects and a directory between the
scanned directory and the file is a page directory, or it is of the rules on tests and no such
directory is one. A scan of the same directory at any other place gives the same report. -/
theorem FileTree.scan_separates_layers (t : FileTree) (s : Settings) (p : Policy) (path : String)
    (r : Report) (valid : s.policy = .ok p) (wf : t.root.WellFormed)
    (ok : t.scan p path false = .ok r) :
    ∃ root, t.locate path = .ok root ∧
      (∀ f ∈ (t.discover p path).files, ∃ loc, f.path = Policy.displayPath loc ∧
        t.root.at? (root ++ loc) = some (.file f.content) ∧
        OneLayer s.pageDirs loc (r.entriesAt f.path)) ∧
      ∀ (t' : FileTree) (path' : String) (root' : Location), t'.locate path' = .ok root' →
        t'.root.at? root' = t.root.at? root → t'.scan p path' false = .ok r := by
  obtain ⟨root, entries, located, here, discovered, -, rfl⟩ := t.exists_of_scan_eq_ok p path ok
  have wfEntries := (wf.at? here).2
  rw [discovered]
  refine ⟨root, located, fun f member => ?_, fun t' path' root' located' same => ?_⟩
  · obtain ⟨loc, shown, found, -⟩ := (p.mem_discoverIn wfEntries).mp member
    refine ⟨loc, shown, ?_, p.oneLayer_entriesAt valid wfEntries member shown found⟩
    rw [Entry.at?_append, here, Option.bind_some]
    exact found
  · rw [scan_congr p located located' here same]
    exact ok

end

theorem Entry.WellFormed.singleton {name : String} {e : Entry} (isName : Entry.IsName name)
    (wf : e.WellFormed) : (Entry.directory [(name, e)]).WellFormed :=
  .directory (List.nodup_singleton name) (List.forall_mem_singleton.mpr isName)
    (List.forall_mem_singleton.mpr wf)

/-- Settings for the rule on imports, with a test framework of a short name. -/
def Settings.importsOnly : Settings :=
  { enabledRules := [.forbiddenImport]
    testFrameworkImports := ["a"]
    sensitiveDataPatterns := []
    genericTestNames := [] }

def SourceFile.importingPage : SourceFile :=
  ⟨"Pages/A.java", .java, "import a;class A\x7b\x7d".toUTF8⟩

/-- The report on a page object that imports the test framework holds this import, so that the file
lies in a page directory. -/
theorem FileTree.scan_separates_layers_page :
    let s := Settings.importsOnly
    let p := s.policyWith [] [] []
    let f := SourceFile.importingPage
    let t : FileTree := ⟨.directory [("Pages", .directory [("A.java", .file f.content)])], "/"⟩
    s.policy = .ok p ∧ t.root.WellFormed ∧ ∃ r, t.scan p "/" false = .ok r ∧
      (r.entriesAt f.path).map Violation.rule = [.forbiddenImport] ∧
      InPages s.pageDirs ["Pages", "A.java"] := by
  intro s p f t
  let entries : List (String × Entry) := [("Pages", .directory [("A.java", .file f.content)])]
  have valid : s.policy = .ok p := rfl
  have rules : p.rules ≠ [] := by decide
  have pages : Entry.IsName "Pages" := ⟨by decide, by decide, by decide, by decide⟩
  have file : Entry.IsName "A.java" := ⟨by decide, by decide, by decide, by decide⟩
  have wf : (Entry.directory entries).WellFormed := .singleton pages (.singleton file (.file _))
  have inside : p.filesIn [] entries = [(["Pages", "A.java"], f.content)] := by
    rw [Policy.filesIn, Policy.filesAt, if_neg (by decide)]
    rfl
  have known : (Path.extensionOf? "A.java").bind p.dialectFor? = some .java := by decide +kernel
  have found : (p.violationsIn f).map Violation.rule = [.forbiddenImport] := by decide +kernel
  have shown : f.path = Policy.displayPath ["Pages", "A.java"] := by decide +kernel
  have dialect : f.dialect = .java := rfl
  -- The content of the file has no part in what follows.
  clear_value f
  have candidates : p.candidates [(["Pages", "A.java"], f.content)] =
      [(⟨["Pages", "A.java"], .java, f.content⟩ : FoundFile)] :=
    List.filterMap_cons_some (Option.map_eq_some_iff.mpr ⟨_, known, rfl⟩)
  have files : (p.discoverIn entries).files = [f] := by
    rw [Policy.discoverIn, Policy.discoveryOf, inside, candidates]
    have one : p.chosen [(⟨["Pages", "A.java"], .java, f.content⟩ : FoundFile)] = _ :=
      List.mergeSort_singleton _
    rw [one, List.map_singleton, FoundFile.source, FoundFile.path, ← shown, ← dialect]
  obtain ⟨v, one, rule⟩ := List.map_eq_singleton_iff.mp found
  have whole : ∀ g ∈ (p.discoverIn entries).files, p.analyze g ≠ .aborted := by
    rw [files, List.forall_mem_singleton]
    intro aborted
    rw [Policy.violationsIn, aborted] at one
    cases one
  have member : f ∈ (p.discoverIn entries).files := files ▸ List.mem_singleton_self f
  have located : t.locate "/" = .ok [] := locate_root rfl
  have ok : t.scan p "/" false = .ok (p.reportOn entries (p.discoverIn entries).files) :=
    t.scan_eq_ok p "/" rules located rfl whole
  have discovered : t.discover p "/" = p.discoverIn entries :=
    t.discover_of_scanRoot p "/" ((t.scanRoot_eq_ok_iff "/").mpr ⟨[], located, rfl, rfl⟩)
  have held : (p.reportOn entries (p.discoverIn entries).files).entriesAt f.path = [v] := by
    rw [p.entriesAt_eq_canonical wf member, one, canonical_singleton]
  refine ⟨valid, wf, _, ok, by rw [held, ← rule]; rfl, ?_⟩
  obtain ⟨root, start, own, -⟩ := t.scan_separates_layers s p "/" _ valid wf ok
  obtain rfl := Except.ok.inj (located.symm.trans start)
  obtain ⟨loc, path, there, layer⟩ := own f (discovered ▸ member)
  obtain rfl : ["Pages", "A.java"] = loc :=
    Policy.eq_of_displayPath wf wf rfl there (shown.symm.trans path)
  rw [held] at layer
  rcases layer with ⟨w, same, parse⟩ | ⟨inPages, -⟩ | ⟨-, test⟩
  · obtain rfl := List.singleton_inj.mp same
    rw [rule] at parse
    cases parse
  · exact inPages
  · have ofTest := test v (List.mem_singleton_self v)
    rw [rule] at ofTest
    exact absurd ofTest (by decide)

end LayerLint
