import LayerLint.Discovery
import LayerLint.Proofs.FileTree.Locate

/-! What a scan finds below its root. The files found are exactly the regular files with a known
extension that are not ignored and not below an excluded directory, each once; where names are
texts, no two of them have the same path. -/

namespace LayerLint

namespace Policy

section

variable {ν : Type} [Naming ν]

mutual

/-- Which files are looked at depends on the excluded directories only. -/
theorem filesIn_congr {p q : Policy} (dirs : p.excludedDirs = q.excludedDirs) (loc : Location ν) :
    ∀ entries, p.filesIn loc entries = q.filesIn loc entries
  | [] => rfl
  | (name, e) :: rest => by
      rw [filesIn, filesIn, filesAt_congr dirs loc name e, filesIn_congr dirs loc rest]

theorem filesAt_congr {p q : Policy} (dirs : p.excludedDirs = q.excludedDirs) (loc : Location ν)
    (name : ν) : ∀ e, p.filesAt loc name e = q.filesAt loc name e
  | .file _ => rfl
  | .link _ => rfl
  | .directory entries => by
      rw [filesAt, filesAt, dirs, filesIn_congr dirs (loc ++ [name]) entries]

end

/-- What is found depends on the excluded directories, the extensions and the ignored paths only. -/
theorem discoverIn_congr {p q : Policy} (dirs : p.excludedDirs = q.excludedDirs)
    (extensions : p.extensions = q.extensions) (ignores : p.ignores = q.ignores)
    (entries : List (ν × Entry ν)) : p.discoverIn entries = q.discoverIn entries := by
  have dialect : p.dialectFor? = q.dialectFor? := by
    funext extension
    rw [dialectFor?, dialectFor?, extensions]
  have ignored : p.ignored = q.ignored := by
    funext path
    rw [Policy.ignored, Policy.ignored, ignores]
  rw [discoverIn, discoverIn, filesIn_congr dirs, candidates, candidates, dialect, discoveryOf,
    discoveryOf, chosen, chosen, ignored]

theorem filesIn_eq_flatMap (p : Policy) (loc : Location ν) (entries : List (ν × Entry ν)) :
    p.filesIn loc entries = entries.flatMap fun e => p.filesAt loc e.1 e.2 := by
  induction entries with
  | nil => rfl
  | cons head rest ih => rw [filesIn, ih, List.flatMap_cons]

def enters (p : Policy) (loc : Location ν) : Bool :=
  loc.dropLast.all fun dir => !p.excludedDirs.contains (Naming.shown dir)

theorem enters_cons_cons (p : Policy) (name next : ν) (loc : Location ν) :
    p.enters (name :: next :: loc) =
      (!p.excludedDirs.contains (Naming.shown name) && p.enters (next :: loc)) := by
  rw [enters, enters, List.dropLast_cons_cons, List.all_cons]

variable [BEq ν] [LawfulBEq ν]

/-- The files at an entry are those at its locations that a scan comes to. -/
theorem mem_filesAt (p : Policy) {e : Entry ν} (distinct : e.Distinct) {loc l : Location ν}
    {name : ν} {c : ByteArray} :
    (l, c) ∈ p.filesAt loc name e ↔
      ∃ rel, l = loc ++ name :: rel ∧ e.at? rel = some (.file c) ∧
        p.enters (name :: rel) = true := by
  induction distinct generalizing loc name with
  | file content =>
      rw [filesAt, List.mem_singleton, Prod.mk.injEq]
      constructor
      · rintro ⟨rfl, rfl⟩
        exact ⟨[], rfl, rfl, rfl⟩
      · rintro ⟨rel, rfl, found, -⟩
        cases rel with
        | nil => exact ⟨rfl, (Entry.file.inj (Option.some.inj found)).symm⟩
        | cons next rel => cases found
  | link target =>
      rw [filesAt]
      refine ⟨nofun, ?_⟩
      rintro ⟨rel, -, found, -⟩
      cases rel with
      | nil => cases found
      | cons next rel => cases found
  | @directory entries distinct below ih =>
      rw [filesAt]
      constructor
      · intro member
        split at member
        · cases member
        · next entered =>
            rw [filesIn_eq_flatMap] at member
            obtain ⟨⟨next, inner⟩, here, inside⟩ := List.mem_flatMap.mp member
            obtain ⟨rel, rfl, found, enters⟩ := (ih _ here).mp inside
            refine ⟨next :: rel, List.append_assoc .., ?_, ?_⟩
            · rw [Entry.at?, Entry.child?, Entry.lookup_of_mem distinct here]
              exact found
            · rw [enters_cons_cons, Bool.eq_false_iff.mpr entered, enters]
              rfl
      · rintro ⟨rel, rfl, found, enters⟩
        cases rel with
        | nil => cases found
        | cons next rel =>
            rw [enters_cons_cons, Bool.and_eq_true, Bool.not_eq_true'] at enters
            obtain ⟨inner, child, inside⟩ := Option.bind_eq_some_iff.mp found
            have here : (next, inner) ∈ entries := Entry.mem_of_lookup child
            rw [enters.1, filesIn_eq_flatMap]
            exact List.mem_flatMap.mpr ⟨_, here, (ih _ here).mpr
              ⟨rel, (List.append_assoc loc [name] (next :: rel)).symm, inside, enters.2⟩⟩

/-- The files in a directory are those at its locations that a scan comes to. -/
theorem mem_filesIn (p : Policy) {entries : List (ν × Entry ν)}
    (distinct : (Entry.directory entries).Distinct) {l : Location ν} {c : ByteArray} :
    (l, c) ∈ p.filesIn [] entries ↔
      (Entry.directory entries).at? l = some (.file c) ∧ p.enters l = true := by
  cases distinct with
  | directory distinct below =>
      rw [filesIn_eq_flatMap, List.mem_flatMap]
      constructor
      · rintro ⟨⟨name, e⟩, here, inside⟩
        obtain ⟨rel, rfl, found, enters⟩ := (p.mem_filesAt (below _ here)).mp inside
        refine ⟨?_, enters⟩
        rw [List.nil_append, Entry.at?, Entry.child?, Entry.lookup_of_mem distinct here]
        exact found
      · rintro ⟨found, enters⟩
        cases l with
        | nil => cases found
        | cons name rel =>
            obtain ⟨e, child, inside⟩ := Option.bind_eq_some_iff.mp found
            have here : (name, e) ∈ entries := Entry.mem_of_lookup child
            exact ⟨_, here, (p.mem_filesAt (below _ here)).mpr ⟨rel, rfl, inside, enters⟩⟩

/-- If no location is found twice at any entry of a directory, none is found twice in it: entries of
different names have different locations. -/
theorem nodup_filesIn_of_filesAt (p : Policy) {entries : List (ν × Entry ν)}
    (distinct : (Entry.directory entries).Distinct) (loc : Location ν)
    (each : ∀ e ∈ entries, ((p.filesAt loc e.1 e.2).map Prod.fst).Nodup) :
    ((p.filesIn loc entries).map Prod.fst).Nodup := by
  cases distinct with
  | directory distinct below =>
      rw [filesIn_eq_flatMap, List.map_flatMap, List.nodup_flatMap]
      refine ⟨each, (List.pairwise_map.mp distinct).imp_of_mem ?_⟩
      intro a b inA inB differ l memberA memberB
      obtain ⟨⟨_, c⟩, hereA, rfl⟩ := List.mem_map.mp memberA
      obtain ⟨⟨_, d⟩, hereB, same⟩ := List.mem_map.mp memberB
      obtain ⟨relA, rfl, -⟩ := (p.mem_filesAt (below a inA)).mp hereA
      obtain ⟨relB, rfl, -⟩ := (p.mem_filesAt (below b inB)).mp hereB
      exact differ (List.cons.inj (List.append_cancel_left same)).1.symm

theorem nodup_filesAt (p : Policy) {e : Entry ν} (distinct : e.Distinct) (loc : Location ν)
    (name : ν) : ((p.filesAt loc name e).map Prod.fst).Nodup := by
  induction distinct generalizing loc name with
  | file content => exact List.nodup_singleton _
  | link target => exact .nil
  | @directory entries distinct below ih =>
      rw [filesAt]
      split
      · exact .nil
      · exact p.nodup_filesIn_of_filesAt (.directory distinct below) _
          fun e member => ih e member _ _

/-- No location is found twice in a directory. -/
theorem nodup_filesIn (p : Policy) {entries : List (ν × Entry ν)}
    (distinct : (Entry.directory entries).Distinct) (loc : Location ν) :
    ((p.filesIn loc entries).map Prod.fst).Nodup := by
  refine p.nodup_filesIn_of_filesAt distinct loc fun e member => p.nodup_filesAt ?_ loc e.1
  cases distinct with
  | directory distinct below => exact below e member

/-! ### The files found -/

def filesBelow (p : Policy) (entries : List (ν × Entry ν)) : List (FoundFile ν) :=
  p.chosen (p.candidates (p.filesIn [] entries))

omit [BEq ν] [LawfulBEq ν] in
theorem files_discoverIn (p : Policy) (entries : List (ν × Entry ν)) :
    (p.discoverIn entries).files = (p.filesBelow entries).map FoundFile.source :=
  rfl

/-- The language in which a file is taken up for its name. -/
def dialectAt? (p : Policy) (loc : Location ν) : Option Dialect :=
  (loc.getLast?.bind Naming.extension?).bind p.dialectFor?

omit [BEq ν] [LawfulBEq ν] in
theorem mem_filesBelow_iff_filesIn (p : Policy) {entries : List (ν × Entry ν)} {f : FoundFile ν} :
    f ∈ p.filesBelow entries ↔
      (f.location, f.content) ∈ p.filesIn [] entries ∧
        p.dialectAt? f.location = some f.dialect ∧ p.ignored f.path = false := by
  rw [filesBelow, chosen, List.mem_mergeSort, List.mem_filter, Bool.not_eq_true', candidates,
    List.mem_filterMap, ← and_assoc]
  refine and_congr_left fun _ => ⟨?_, ?_⟩
  · rintro ⟨⟨loc, content⟩, here, made⟩
    obtain ⟨dialect, known, rfl⟩ := Option.map_eq_some_iff.mp made
    exact ⟨here, known⟩
  · rintro ⟨here, known⟩
    exact ⟨_, here, Option.map_eq_some_iff.mpr ⟨f.dialect, known, rfl⟩⟩

/-- A file is found exactly if it is a regular file that a scan comes to, has a known extension and
is not ignored. -/
theorem mem_filesBelow (p : Policy) {entries : List (ν × Entry ν)}
    (distinct : (Entry.directory entries).Distinct) {f : FoundFile ν} :
    f ∈ p.filesBelow entries ↔
      (Entry.directory entries).at? f.location = some (.file f.content) ∧
        p.enters f.location = true ∧ p.dialectAt? f.location = some f.dialect ∧
        p.ignored f.path = false := by
  rw [mem_filesBelow_iff_filesIn, p.mem_filesIn distinct, and_assoc]

omit [BEq ν] [LawfulBEq ν] in
/-- Candidates that stand in the order of their paths stay in it. -/
theorem chosen_of_sorted (p : Policy) {files found : List (FoundFile ν)}
    (kept : (files.filter fun f => !p.ignored f.path) = found)
    (sorted : found.Pairwise fun f g => f.path ≤ g.path) : p.chosen files = found := by
  rw [chosen, kept]
  exact List.mergeSort_of_pairwise (sorted.imp fun le => decide_eq_true le)

/-- No location is found twice. -/
theorem nodup_filesBelow (p : Policy) {entries : List (ν × Entry ν)}
    (distinct : (Entry.directory entries).Distinct) :
    ((p.filesBelow entries).map FoundFile.location).Nodup := by
  have apart : (p.candidates (p.filesIn [] entries)).Pairwise
      fun f g => f.location ≠ g.location := by
    refine List.pairwise_filterMap.mpr ((List.pairwise_map.mp (p.nodup_filesIn distinct [])).imp ?_)
    rintro ⟨loc, c⟩ ⟨loc', c'⟩ differ f made f' made'
    obtain ⟨dialect, -, rfl⟩ := Option.map_eq_some_iff.mp made
    obtain ⟨dialect', -, rfl⟩ := Option.map_eq_some_iff.mp made'
    exact differ
  refine ((List.mergeSort_perm _ _).map _).nodup_iff.mpr ?_
  exact List.pairwise_map.mpr (apart.sublist List.filter_sublist)

end

/-! ### Names that are texts -/

theorem displayPath_eq (loc : Location) : displayPath loc = "/".intercalate loc :=
  congrArg "/".intercalate (List.map_id loc)

/-- Two locations made of names that have one path are equal. -/
theorem displayPath_inj {loc loc' : Location} (nonempty : loc ≠ []) (nonempty' : loc' ≠ [])
    (names : ∀ name ∈ loc, Entry.IsName name) (names' : ∀ name ∈ loc', Entry.IsName name)
    (same : displayPath loc = displayPath loc') : loc = loc' := by
  rw [displayPath_eq, displayPath_eq] at same
  rw [← Path.parts_intercalate nonempty fun name member => (names name member).no_slash,
    ← Path.parts_intercalate nonempty' fun name member => (names' name member).no_slash]
  exact congrArg Path.parts same

/-- The language of a file by its path is that by its name. -/
theorem dialectOf?_displayPath (p : Policy) {loc : Location} (nonempty : loc ≠ [])
    (names : ∀ name ∈ loc, Entry.IsName name) :
    p.dialectOf? (displayPath loc) = p.dialectAt? loc := by
  have last : Path.fileName? (displayPath loc) = loc.getLast? := by
    rw [displayPath_eq, Path.fileName?, Path.components_intercalate nonempty names,
      List.getLast?_map]
    cases loc.getLast? with
    | none => rfl
    | some name => rfl
  rw [dialectOf?, Path.extension?, last]
  rfl

/-- Two locations of regular files in a directory that have one path are equal. -/
theorem eq_of_displayPath {entries entries' : List (String × Entry)}
    (wf : (Entry.directory entries).WellFormed) (wf' : (Entry.directory entries').WellFormed)
    {loc loc' : Location} {c c' : ByteArray}
    (found : (Entry.directory entries).at? loc = some (.file c))
    (found' : (Entry.directory entries').at? loc' = some (.file c'))
    (same : displayPath loc = displayPath loc') : loc = loc' := by
  exact displayPath_inj (Entry.ne_nil_of_at?_file found) (Entry.ne_nil_of_at?_file found')
    (wf.at? found).1 (wf'.at? found').1 same

/-- A file is found exactly if it is a regular file that a scan comes to, has a known extension and
is not ignored. -/
theorem mem_discoverIn (p : Policy) {entries : List (String × Entry)}
    (wf : (Entry.directory entries).WellFormed) {f : SourceFile} :
    f ∈ (p.discoverIn entries).files ↔
      ∃ loc, f.path = displayPath loc ∧
        (Entry.directory entries).at? loc = some (.file f.content) ∧ p.enters loc = true ∧
        p.dialectOf? f.path = some f.dialect ∧ p.ignored f.path = false := by
  have known : ∀ {loc content}, (Entry.directory entries).at? loc = some (.file content) →
      p.dialectOf? (displayPath loc) = p.dialectAt? loc := by
    intro loc content found
    exact p.dialectOf?_displayPath (Entry.ne_nil_of_at?_file found) (wf.at? found).1
  rw [files_discoverIn, List.mem_map]
  constructor
  · rintro ⟨g, member, rfl⟩
    obtain ⟨found, enters, dialect, kept⟩ := (p.mem_filesBelow wf.distinct).mp member
    exact ⟨g.location, rfl, found, enters, (known found).trans dialect, kept⟩
  · rintro ⟨loc, path, found, enters, dialect, kept⟩
    refine ⟨⟨loc, f.dialect, f.content⟩, (p.mem_filesBelow wf.distinct).mpr ?_, ?_⟩
    · rw [path] at dialect kept
      exact ⟨found, enters, (known found).symm.trans dialect, kept⟩
    · exact congrArg (SourceFile.mk · f.dialect f.content) path.symm

/-- No two files found have the same path. -/
theorem nodup_discoverIn (p : Policy) {entries : List (String × Entry)}
    (wf : (Entry.directory entries).WellFormed) :
    ((p.discoverIn entries).files.map SourceFile.path).Nodup := by
  rw [files_discoverIn, List.map_map, List.Nodup, List.pairwise_map]
  refine (List.pairwise_map.mp (p.nodup_filesBelow wf.distinct)).imp_of_mem ?_
  intro f g memberF memberG differ same
  exact differ (eq_of_displayPath wf wf ((p.mem_filesBelow wf.distinct).mp memberF).1
    ((p.mem_filesBelow wf.distinct).mp memberG).1 same)

/-- The source file that a regular file at a location is, if a scan takes it up. -/
def sourceAt? (p : Policy) (loc : Location) (content : ByteArray) : Option SourceFile :=
  if p.enters loc && !p.ignored (displayPath loc) then
    (p.dialectOf? (displayPath loc)).map fun dialect => ⟨displayPath loc, dialect, content⟩
  else none

theorem sourceAt?_eq_some_iff {p : Policy} {loc : Location} {content : ByteArray}
    {f : SourceFile} :
    p.sourceAt? loc content = some f ↔
      f.path = displayPath loc ∧ f.content = content ∧ p.enters loc = true ∧
        p.dialectOf? f.path = some f.dialect ∧ p.ignored f.path = false := by
  unfold sourceAt?
  constructor
  · intro made
    split at made
    · next taken =>
        rw [Bool.and_eq_true, Bool.not_eq_true'] at taken
        obtain ⟨dialect, known, rfl⟩ := Option.map_eq_some_iff.mp made
        exact ⟨rfl, rfl, taken.1, known, taken.2⟩
    · cases made
  · rintro ⟨path, rfl, enters, known, kept⟩
    rw [← path, enters, kept, known]
    rfl

/-- Of the files found, those with the path of a regular file are that file, or none if a scan does
not take it up. What else is in the tree has no part in this. -/
theorem filter_path_discoverIn (p : Policy) {entries : List (String × Entry)}
    (wf : (Entry.directory entries).WellFormed) {loc : Location} {content : ByteArray}
    (found : (Entry.directory entries).at? loc = some (.file content)) :
    ((p.discoverIn entries).files.filter fun f => f.path == displayPath loc) =
      (p.sourceAt? loc content).toList := by
  have distinct : (p.discoverIn entries).files.Nodup := .of_map _ (p.nodup_discoverIn wf)
  have same : ∀ f, f ∈ (p.discoverIn entries).files.filter (fun f => f.path == displayPath loc) ↔
      f ∈ (p.sourceAt? loc content).toList := by
    intro f
    rw [List.mem_filter, beq_iff_eq, p.mem_discoverIn wf, Option.mem_toList,
      sourceAt?_eq_some_iff]
    constructor
    · rintro ⟨⟨loc', path', found', enters, rest⟩, path⟩
      obtain rfl := eq_of_displayPath wf wf found' found (path'.symm.trans path)
      exact ⟨path, Entry.file.inj (Option.some.inj (found'.symm.trans found)), enters, rest⟩
    · rintro ⟨path, rfl, enters, rest⟩
      exact ⟨⟨loc, path, found, enters, rest⟩, path⟩
  have atMost : (p.sourceAt? loc content).toList.Nodup := by
    cases p.sourceAt? loc content with
    | none => exact .nil
    | some f => exact List.nodup_singleton f
  have perm := (List.perm_ext_iff_of_nodup (distinct.filter _) atMost).mpr same
  cases source : p.sourceAt? loc content with
  | none =>
      rw [source] at perm
      exact List.perm_nil.mp perm
  | some f =>
      rw [source] at perm
      exact List.perm_singleton.mp perm

/-- The path of the scanned directory itself is no path of a file in it. -/
theorem displayPath_ne_current {entries : List (String × Entry)}
    (wf : (Entry.directory entries).WellFormed) {loc : Location} {content : ByteArray}
    (found : (Entry.directory entries).at? loc = some (.file content)) : displayPath loc ≠ "." := by
  intro same
  have names := (wf.at? found).1
  have parts : loc = ["."] := by
    rw [displayPath_eq] at same
    rw [← Path.parts_intercalate (Entry.ne_nil_of_at?_file found)
      fun name member => (names name member).no_slash]
    exact (congrArg Path.parts same).trans (Path.parts_of_notMem (by decide))
  exact (names "." (parts ▸ List.mem_singleton_self _)).ne_current rfl

/-! ### Directories of source files -/

/-- Whether a file that has its path for a name is taken up by a scan of its directory. -/
structure Takes (p : Policy) (f : SourceFile) : Prop where
  isName : Entry.IsName f.path
  known : p.dialectOf? f.path = some f.dialect
  kept : p.ignored f.path = false

end Policy

def SourceFile.entry (f : SourceFile) : String × Entry :=
  (f.path, .file f.content)

def SourceFile.found (f : SourceFile) : FoundFile :=
  ⟨[f.path], f.dialect, f.content⟩

@[simp] theorem SourceFile.path_found (f : SourceFile) : f.found.path = f.path :=
  (Policy.displayPath_eq _).trans String.intercalate_singleton

@[simp] theorem SourceFile.source_found (f : SourceFile) : f.found.source = f := by
  rw [FoundFile.source, path_found]
  rfl

namespace Policy

theorem filesIn_entries (p : Policy) (files : List SourceFile) :
    p.filesIn [] (files.map SourceFile.entry) = files.map fun f => ([f.path], f.content) := by
  induction files with
  | nil => rfl
  | cons f files ih =>
      rw [List.map_cons, SourceFile.entry, filesIn, ih]
      rfl

theorem candidates_entries (p : Policy) {files : List SourceFile}
    (taken : ∀ f ∈ files, p.Takes f) :
    p.candidates (files.map fun f => ([f.path], f.content)) = files.map SourceFile.found := by
  rw [candidates, List.filterMap_map, ← List.filterMap_eq_map]
  refine List.filterMap_congr fun f member => ?_
  have ⟨isName, known, _⟩ := taken f member
  have byName : p.dialectAt? [f.path] = some f.dialect := by
    rw [← p.dialectOf?_displayPath (List.cons_ne_nil _ _) (List.forall_mem_singleton.mpr isName),
      ← known]
    exact congrArg p.dialectOf? f.path_found
  exact Option.map_eq_some_iff.mpr ⟨f.dialect, byName, rfl⟩

/-- In a directory of files that are taken up, in the order of their names, these files are
found. -/
theorem discoverIn_entries (p : Policy) {files : List SourceFile}
    (taken : ∀ f ∈ files, p.Takes f) (sorted : files.Pairwise fun f g => f.path ≤ g.path) :
    (p.discoverIn (files.map SourceFile.entry)).files = files := by
  have kept : (files.map SourceFile.found).filter (fun f => !p.ignored f.path) =
      files.map SourceFile.found := by
    rw [List.filter_eq_self, List.forall_mem_map]
    intro f member
    rw [f.path_found, (taken f member).kept]
    rfl
  have inOrder : (files.map SourceFile.found).Pairwise fun f g => f.path ≤ g.path := by
    simpa [List.pairwise_map] using sorted
  rw [discoverIn, filesIn_entries, candidates_entries p taken, discoveryOf,
    p.chosen_of_sorted kept inOrder, List.map_map, List.map_congr_left fun f _ => f.source_found]
  exact List.map_id _

end Policy

end LayerLint
