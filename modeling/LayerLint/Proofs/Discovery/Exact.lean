import LayerLint.Proofs.FileTree.Listing
import LayerLint.Proofs.FileTree.Name
import LayerLint.Proofs.Scan.Layers

/-! Discovery is exact. What a scan finds below its root is said by the settings, file by file, each
file once and in the order of the paths shown. Bytes that are no text are shown with replacements,
so that two files may have one path: then they stand in the order in which directories list them. No
other file does, and no file where all names are texts. -/

namespace LayerLint

/-! ### The language of a file -/

theorem Text.lowerAscii_lowerAscii (s : String) : lowerAscii (lowerAscii s) = lowerAscii s := by
  rw [lowerAscii, lowerAscii, String.map_map]
  congr 1
  funext c
  dsimp only [Function.comp_apply]
  by_cases upper : ('A' ≤ c && c ≤ 'Z') = true
  · rw [if_pos upper]
    obtain ⟨from_, upTo⟩ := Bool.and_eq_true_iff.mp upper
    have range : c.toNat ≤ 90 := of_decide_eq_true upTo
    have start : 65 ≤ c.toNat := of_decide_eq_true from_
    -- A capital letter becomes one that lies behind all capital letters.
    have small : (Char.ofNat (c.toNat + 32)).toNat = c.toNat + 32 := by
      have valid : (c.toNat + 32).isValidChar := .inl (by omega)
      rw [Char.ofNat, dif_pos valid]
      rfl
    have other : ¬ ('A' ≤ Char.ofNat (c.toNat + 32) && Char.ofNat (c.toNat + 32) ≤ 'Z') = true := by
      intro again
      have bound : (Char.ofNat (c.toNat + 32)).toNat ≤ 90 :=
        of_decide_eq_true (Bool.and_eq_true_iff.mp again).2
      omega
    rw [if_neg other]
  · rw [if_neg upper, if_neg upper]

theorem Dialect.ofExtension?_eq_some_iff {ext : String} {d : Dialect} :
    ofExtension? ext = some d ↔
      Text.lowerAscii ext = "java" ∧ d = .java ∨ Text.lowerAscii ext = "cs" ∧ d = .csharp := by
  unfold ofExtension?
  split
  · next java => simp [java, eq_comm]
  · next cs => simp [cs, eq_comm]
  · next notJava notCs =>
      constructor
      · intro found
        cases found
      · rintro (⟨java, -⟩ | ⟨cs, -⟩)
        · exact absurd java notJava
        · exact absurd cs notCs

theorem Dialect.ofExtension?_lowerAscii (ext : String) :
    ofExtension? (Text.lowerAscii ext) = ofExtension? ext := by
  rw [ofExtension?, ofExtension?, Text.lowerAscii_lowerAscii]

theorem Policy.dialectFor?_eq_some_iff {p : Policy} {ext : String} {d : Dialect} :
    p.dialectFor? ext = some d ↔
      Text.lowerAscii ext ∈ p.extensions ∧ Dialect.ofExtension? ext = some d := by
  rw [dialectFor?, Dialect.ofExtension?_lowerAscii]
  split
  · next known => simp [List.contains_iff_mem.mp known]
  · next unknown => simp [mt List.contains_iff_mem.mpr unknown]

/-- The language of the file at a location, whatever is to be scanned. -/
def Dialect.ofLocation? (loc : Location RawName) : Option Dialect :=
  (loc.getLast?.bind Naming.extension?).bind ofExtension?

/-! ### What settings ask of a file -/

namespace Settings

variable [Engine]

/-- What settings ask of the location of a regular file below the root of a scan, for the file to be
a source in a language. Directories and ignored paths go by what is shown of names, the extension by
their bytes. Extensions compare without dots at their start and in small letters. -/
structure Selects (s : Settings) (loc : Location RawName) (d : Dialect) : Prop where
  entered : ∀ dir ∈ loc.dropLast, dir.shown ∉ s.excludedDirs
  extension : ∃ stem ext, stem ≠ [] ∧ '.' ∉ ext.toList ∧
    loc.getLast? = some ⟨stem ++ 46 :: Text.utf8 ext⟩ ∧
    (∃ e ∈ s.extensions,
      Text.lowerAscii (String.ofList (e.toList.dropWhile (· == '.'))) = Text.lowerAscii ext) ∧
    (Text.lowerAscii ext = "java" ∧ d = .java ∨ Text.lowerAscii ext = "cs" ∧ d = .csharp)
  kept : ∀ pattern ∈ s.ignores, ∀ fits, Engine.glob pattern = .ok fits →
    fits (Policy.displayPath loc) = false

theorem Selects.ofLocation? {s : Settings} {loc : Location RawName} {d : Dialect}
    (selected : s.Selects loc d) (root : Location RawName) :
    Dialect.ofLocation? (root ++ loc) = some d := by
  obtain ⟨stem, ext, before, noDot, last, -, is⟩ := selected.extension
  have known : Naming.extension? (⟨stem ++ 46 :: Text.utf8 ext⟩ : RawName) = some ext :=
    RawName.extension?_eq_some_iff.mpr ⟨stem, before, noDot, rfl⟩
  rw [Dialect.ofLocation?, List.getLast?_append, last, Option.some_or, Option.bind_some, known,
    Option.bind_some]
  exact Dialect.ofExtension?_eq_some_iff.mpr is

variable {s : Settings} {p : Policy} (valid : s.policy = .ok p)
include valid

theorem ignored_eq_false_iff (path : String) :
    p.ignored path = false ↔
      ∀ pattern ∈ s.ignores, ∀ fits, Engine.glob pattern = .ok fits → fits path = false := by
  obtain ⟨globs, sensitiveData, genericTestNames, read, rfl⟩ := exists_of_policy valid
  have ignores : ∀ m, m ∈ (s.policyWith globs sensitiveData genericTestNames).ignores ↔
      m.pattern ∈ s.ignores ∧ Engine.glob m.pattern = .ok m.fits := fun m => mem_readMatchers read
  rw [Policy.ignored, List.any_eq_false]
  constructor
  · intro none pattern stated fits made
    exact Bool.eq_false_iff.mpr (none ⟨pattern, fits⟩ ((ignores _).mpr ⟨stated, made⟩))
  · intro none m member
    obtain ⟨stated, made⟩ := (ignores m).mp member
    exact Bool.eq_false_iff.mp (none m.pattern stated m.fits made)

theorem mem_extensions_iff (ext : String) :
    ext ∈ p.extensions ↔ ∃ e ∈ s.extensions,
      Text.lowerAscii (String.ofList (e.toList.dropWhile (· == '.'))) = ext := by
  obtain ⟨globs, sensitiveData, genericTestNames, -, rfl⟩ := exists_of_policy valid
  exact List.mem_map

theorem enters_iff (loc : Location RawName) :
    p.enters loc = true ↔ ∀ dir ∈ loc.dropLast, dir.shown ∉ s.excludedDirs := by
  obtain ⟨globs, sensitiveData, genericTestNames, -, rfl⟩ := exists_of_policy valid
  rw [Policy.enters, List.all_eq_true]
  simp only [policyWith, Bool.not_eq_true', List.contains_eq_mem, decide_eq_false_iff_not]
  rfl

theorem dialectAt?_iff (loc : Location RawName) (d : Dialect) :
    p.dialectAt? loc = some d ↔
      ∃ stem ext, stem ≠ [] ∧ '.' ∉ ext.toList ∧
        loc.getLast? = some ⟨stem ++ 46 :: Text.utf8 ext⟩ ∧
        (∃ e ∈ s.extensions,
          Text.lowerAscii (String.ofList (e.toList.dropWhile (· == '.'))) = Text.lowerAscii ext) ∧
        (Text.lowerAscii ext = "java" ∧ d = .java ∨ Text.lowerAscii ext = "cs" ∧ d = .csharp) := by
  simp only [Policy.dialectAt?, Option.bind_eq_some_iff, RawName.extension?_eq_some_iff,
    Policy.dialectFor?_eq_some_iff, mem_extensions_iff valid, Dialect.ofExtension?_eq_some_iff]
  constructor
  · rintro ⟨ext, ⟨⟨bytes⟩, last, stem, before, noDot, rfl⟩, known, is⟩
    exact ⟨stem, ext, before, noDot, last, known, is⟩
  · rintro ⟨stem, ext, before, noDot, last, known, is⟩
    exact ⟨ext, ⟨_, last, stem, before, noDot, rfl⟩, known, is⟩

/-- A policy takes up exactly the files that its settings select. -/
theorem selects_iff (loc : Location RawName) (d : Dialect) :
    s.Selects loc d ↔
      p.enters loc = true ∧ p.dialectAt? loc = some d ∧
        p.ignored (Policy.displayPath loc) = false := by
  rw [enters_iff valid, dialectAt?_iff valid, ignored_eq_false_iff valid]
  exact ⟨fun h => ⟨h.entered, h.extension, h.kept⟩, fun h => ⟨h.1, h.2.1, h.2.2⟩⟩

end Settings

/-! ### The order of the files found -/

/-- A list without repetitions that reads the same backwards has at most one member. -/
theorem eq_of_mem_palindrome {α : Type} {xs : List α} (once : xs.Nodup)
    (palindrome : xs.reverse = xs) {a b : α} (inA : a ∈ xs) (inB : b ∈ xs) : a = b := by
  cases xs with
  | nil => cases inA
  | cons x rest =>
      have last : rest.getLast? = none := by
        cases found : rest.getLast? with
        | none => rfl
        | some y =>
            have ends := congrArg List.head? palindrome
            rw [List.head?_reverse, List.getLast?_cons, found, List.head?_cons] at ends
            obtain rfl : y = x := Option.some.inj ends
            exact absurd (List.mem_of_getLast? found) (List.nodup_cons.mp once).1
      obtain rfl := List.getLast?_eq_none_iff.mp last
      rw [List.mem_singleton.mp inA, List.mem_singleton.mp inB]

def FoundFile.ToldApart {ν : Type} [Naming ν] (files : List (FoundFile ν)) : Prop :=
  ∀ f ∈ files, ∀ g ∈ files, f.path = g.path → f = g

namespace Policy

variable {ν : Type} [Naming ν] (p : Policy) {entries entries' : List (ν × Entry ν)}

theorem le_path_trans (f g h : FoundFile ν) (first : decide (f.path ≤ g.path) = true)
    (second : decide (g.path ≤ h.path) = true) : decide (f.path ≤ h.path) = true :=
  decide_eq_true (le_trans (of_decide_eq_true first) (of_decide_eq_true second))

theorem le_path_total (f g : FoundFile ν) :
    (decide (f.path ≤ g.path) || decide (g.path ≤ f.path)) = true := by
  simpa using le_total f.path g.path

theorem pairwise_filesBelow (entries : List (ν × Entry ν)) :
    (p.filesBelow entries).Pairwise fun f g => f.path ≤ g.path :=
  (List.pairwise_mergeSort le_path_trans le_path_total _).imp of_decide_eq_true

theorem toldApart_iff_nodup [BEq ν] [LawfulBEq ν] (distinct : (Entry.directory entries).Distinct) :
    FoundFile.ToldApart (p.filesBelow entries) ↔
      ((p.filesBelow entries).map FoundFile.path).Nodup :=
  (List.nodup_map_iff_inj_on (List.Nodup.of_map _ (p.nodup_filesBelow distinct))).symm

/-- The files found stand strictly in order exactly if no two of them have one path. -/
theorem pairwise_lt_iff [BEq ν] [LawfulBEq ν] (distinct : (Entry.directory entries).Distinct) :
    ((p.filesBelow entries).Pairwise fun f g => f.path < g.path) ↔
      FoundFile.ToldApart (p.filesBelow entries) := by
  rw [p.toldApart_iff_nodup distinct, List.Nodup, List.pairwise_map]
  constructor
  · exact fun strict => strict.imp ne_of_lt
  · intro apart
    exact ((p.pairwise_filesBelow entries).and apart).imp fun both => lt_of_le_of_ne both.1 both.2

theorem filesIn_relisted (listings : Entry.Relisted entries entries') (loc : Location ν) :
    (p.filesIn loc entries').Perm (p.filesIn loc entries) := by
  induction listings generalizing loc with
  | perm order =>
      rw [filesIn_eq_flatMap, filesIn_eq_flatMap]
      exact order.flatMap_right _
  | inside name rest below ih =>
      rw [filesIn, filesIn, filesAt, filesAt]
      split
      · exact .refl _
      · exact (ih _).append_right _
  | trans first second ih ih' => exact (ih' loc).trans (ih loc)

/-- The files found are the same in any order of listings, up to their order. -/
theorem filesBelow_relisted (listings : Entry.Relisted entries entries') :
    (p.filesBelow entries').Perm (p.filesBelow entries) :=
  (List.mergeSort_perm _ _).trans
    ((((p.filesIn_relisted listings []).filterMap _).filter _).trans (List.mergeSort_perm _ _).symm)

/-- The paths of the files found do not depend on the order of listings. -/
theorem path_filesBelow_relisted (listings : Entry.Relisted entries entries') :
    (p.filesBelow entries').map FoundFile.path = (p.filesBelow entries).map FoundFile.path := by
  refine ((p.filesBelow_relisted listings).map _).eq_of_pairwise
    (fun a b _ _ first second => le_antisymm first second) ?_ ?_
  · exact List.pairwise_map.mpr (p.pairwise_filesBelow entries')
  · exact List.pairwise_map.mpr (p.pairwise_filesBelow entries)

/-- Files that are told apart by their paths do not depend on the order of listings. -/
theorem filesBelow_eq_of_toldApart (apart : FoundFile.ToldApart (p.filesBelow entries))
    (listings : Entry.Relisted entries entries') :
    p.filesBelow entries' = p.filesBelow entries := by
  have order := p.filesBelow_relisted listings
  refine order.eq_of_pairwise ?_ (p.pairwise_filesBelow entries') (p.pairwise_filesBelow entries)
  intro f g inF inG before after
  exact apart f (order.mem_iff.mp inF) g inG (le_antisymm before after)

mutual

theorem filesIn_turnedAll (p : Policy) (loc : Location ν) :
    ∀ entries, p.filesIn loc (Entry.turnedAll entries) = (p.filesIn loc entries).reverse
  | [] => rfl
  | (name, e) :: rest => by
      rw [Entry.turnedAll, filesIn, List.reverse_append, ← filesIn_turnedAll p loc rest,
        ← filesAt_turned p loc name e, filesIn_eq_flatMap, List.flatMap_append,
        ← filesIn_eq_flatMap, List.flatMap_singleton]

theorem filesAt_turned (p : Policy) (loc : Location ν) (name : ν) :
    ∀ e, p.filesAt loc name e.turned = (p.filesAt loc name e).reverse
  | .file _ => rfl
  | .link _ => rfl
  | .directory entries => by
      rw [Entry.turned, filesAt, filesAt, filesIn_turnedAll p (loc ++ [name]) entries]
      split
      · rfl
      · rfl

end

/-- Files of one path stand the other way round if everything is listed the other way round. -/
theorem filter_filesBelow_turnedAll (entries : List (ν × Entry ν)) (path : String) :
    (p.filesBelow (Entry.turnedAll entries)).filter (fun f => f.path = path) =
      ((p.filesBelow entries).filter fun f => f.path = path).reverse := by
  have level : ∀ f g : FoundFile ν, decide (f.path = path) = true → decide (g.path = path) = true →
      decide (f.path ≤ g.path) = true := by
    intro f g atF atG
    exact decide_eq_true (le_of_eq ((of_decide_eq_true atF).trans (of_decide_eq_true atG).symm))
  have stable := filter_mergeSort_of_level (le_path_trans (ν := ν)) le_path_total level
  rw [filesBelow, filesBelow, chosen, chosen, stable, stable, filesIn_turnedAll, candidates,
    candidates, List.filterMap_reverse, List.filter_reverse, List.filter_reverse]

/-- Files that do not depend on the order of listings are told apart by their paths: two files of
one path change places if everything is listed the other way round. -/
theorem toldApart_of_turned [BEq ν] [LawfulBEq ν] (distinct : (Entry.directory entries).Distinct)
    (same : p.filesBelow (Entry.turnedAll entries) = p.filesBelow entries) :
    FoundFile.ToldApart (p.filesBelow entries) := by
  intro f inF g inG path
  let here := (p.filesBelow entries).filter fun h => h.path = g.path
  have once : here.Nodup := (List.Nodup.of_map _ (p.nodup_filesBelow distinct)).filter _
  have palindrome : here.reverse = here := by
    rw [← p.filter_filesBelow_turnedAll entries g.path, same]
  have first : f ∈ here := List.mem_filter.mpr ⟨inF, decide_eq_true path⟩
  have second : g ∈ here := List.mem_filter.mpr ⟨inG, decide_eq_true rfl⟩
  exact eq_of_mem_palindrome once palindrome first second

end Policy

/-! ### Names that are texts -/

def FoundFile.encoded (f : FoundFile) : FoundFile RawName :=
  ⟨f.location.map RawName.ofText, f.dialect, f.content⟩

theorem Policy.displayPath_map_ofText (loc : Location) :
    displayPath (loc.map RawName.ofText) = displayPath loc := by
  rw [displayPath, displayPath, List.map_map]
  exact congrArg _ (List.map_congr_left fun name _ => RawName.shown_ofText name)

@[simp] theorem FoundFile.path_encoded (f : FoundFile) : f.encoded.path = f.path :=
  Policy.displayPath_map_ofText f.location

@[simp] theorem FoundFile.source_encoded (f : FoundFile) : f.encoded.source = f.source := by
  rw [source, source, path_encoded]
  rfl

namespace Policy

mutual

theorem filesIn_encodedAll (p : Policy) (loc : Location) :
    ∀ entries, p.filesIn (loc.map RawName.ofText) (Entry.encodedAll entries) =
      (p.filesIn loc entries).map fun x => (x.1.map RawName.ofText, x.2)
  | [] => rfl
  | (name, e) :: rest => by
      rw [Entry.encodedAll, filesIn, filesIn, List.map_append, filesAt_encoded p loc name e,
        filesIn_encodedAll p loc rest]

theorem filesAt_encoded (p : Policy) (loc : Location) (name : String) :
    ∀ e, p.filesAt (loc.map RawName.ofText) (.ofText name) e.encoded =
      (p.filesAt loc name e).map fun x => (x.1.map RawName.ofText, x.2)
  | .file content => by
      rw [Entry.encoded, filesAt, filesAt, List.map_singleton, List.map_append, List.map_singleton]
  | .link _ => rfl
  | .directory entries => by
      have inside := filesIn_encodedAll p (loc ++ [name]) entries
      rw [List.map_append, List.map_singleton] at inside
      rw [Entry.encoded, filesAt, filesAt, RawName.shown_ofText, inside, Naming.shown_text]
      split
      · rfl
      · rfl

end

variable (p : Policy)

theorem candidates_encoded (files : List (Location × ByteArray)) :
    p.candidates (files.map fun x => (x.1.map RawName.ofText, x.2)) =
      (p.candidates files).map FoundFile.encoded := by
  rw [candidates, candidates, List.filterMap_map, List.map_filterMap]
  refine List.filterMap_congr fun x _ => ?_
  have extension : (x.1.map RawName.ofText).getLast?.bind Naming.extension? =
      x.1.getLast?.bind Naming.extension? := by
    rw [List.getLast?_map, Option.bind_map]
    exact congrArg _ (funext RawName.extension?_ofText)
  simp only [Function.comp_apply, extension, Option.map_map]
  rfl

theorem chosen_encoded (candidates : List FoundFile) :
    p.chosen (candidates.map FoundFile.encoded) = (p.chosen candidates).map FoundFile.encoded := by
  rw [chosen, chosen, List.filter_map]
  simp only [Function.comp_def, FoundFile.path_encoded]
  refine (List.map_mergeSort fun f _ g _ => ?_).symm
  rw [f.path_encoded, g.path_encoded]

/-- The files found in a tree of texts are those in the tree of their bytes. -/
theorem filesBelow_encodedAll (entries : List (String × Entry)) :
    p.filesBelow (Entry.encodedAll entries) = (p.filesBelow entries).map FoundFile.encoded := by
  have files := p.filesIn_encodedAll [] entries
  rw [List.map_nil] at files
  rw [filesBelow, filesBelow, files, candidates_encoded, chosen_encoded]

theorem discoverIn_encodedAll (entries : List (String × Entry)) :
    p.discoverIn (Entry.encodedAll entries) = p.discoverIn entries := by
  have files := p.filesIn_encodedAll [] entries
  rw [List.map_nil] at files
  rw [discoverIn, discoverIn, files, candidates_encoded, discoveryOf, discoveryOf, chosen_encoded,
    List.map_map, List.filter_map, List.map_map]
  simp only [Function.comp_def, FoundFile.path_encoded, FoundFile.source_encoded]

/-- Files in a tree of texts are told apart by their paths. -/
theorem toldApart_texts {entries : List (String × Entry)}
    (wf : (Entry.directory entries).WellFormed) : FoundFile.ToldApart (p.filesBelow entries) := by
  rw [p.toldApart_iff_nodup wf.distinct]
  have paths := p.nodup_discoverIn wf
  rwa [files_discoverIn, List.map_map] at paths

theorem toldApart_encodedAll {entries : List (String × Entry)}
    (wf : (Entry.directory entries).WellFormed) :
    FoundFile.ToldApart (p.filesBelow (Entry.encodedAll entries)) := by
  rw [filesBelow_encodedAll]
  intro f inF g inG
  obtain ⟨a, inA, rfl⟩ := List.mem_map.mp inF
  obtain ⟨b, inB, rfl⟩ := List.mem_map.mp inG
  rw [a.path_encoded, b.path_encoded]
  exact fun path => congrArg _ (p.toldApart_texts wf a inA b inB path)

end Policy

/-! ### Discovery in a file tree -/

theorem Path.fileName?_pathOf {loc : Location} (nonempty : loc ≠ [])
    (names : ∀ name ∈ loc, Entry.IsName name) :
    Path.fileName? (FileTree.pathOf loc) = loc.getLast? := by
  have components : components (FileTree.pathOf loc) = .root :: loc.map .normal := by
    have parts : (Text.pieces '/' (FileTree.pathOf loc).toList).map String.ofList = "" :: loc :=
      FileTree.parts_pathOf nonempty names
    have named : loc.filterMap component? = loc.map .normal := by
      rw [← List.filterMap_eq_map]
      exact List.filterMap_congr fun name member => component?_of_isName (names name member)
    simp only [Path.components, parts, FileTree.isAbsolute_pathOf, if_true, List.filterMap_cons,
      named]
    rfl
  obtain ⟨dir, name, rfl⟩ := (List.eq_nil_or_concat' loc).resolve_left nonempty
  have last : Component.root :: (dir ++ [name]).map .normal =
      (.root :: dir.map .normal) ++ [.normal name] := by
    simp
  rw [fileName?, components, last, List.getLast?_concat, List.getLast?_concat]
  rfl

/-- The language of the file at a location of texts is that of its path. -/
theorem Dialect.ofPath?_pathOf {loc : Location} (nonempty : loc ≠ [])
    (names : ∀ name ∈ loc, Entry.IsName name) :
    ofPath? (FileTree.pathOf loc) = ofLocation? (loc.map RawName.ofText) := by
  rw [ofPath?, ofLocation?, Path.extension?, Path.fileName?_pathOf nonempty names,
    List.getLast?_map, Option.bind_map]
  exact congrArg (Option.bind · _)
    (congrArg _ (funext fun name => (RawName.extension?_ofText name).symm))

theorem Settings.mem_filesBelow_iff [Engine] {s : Settings} {p : Policy} (valid : s.policy = .ok p)
    {entries : List (RawName × Entry RawName)} (distinct : (Entry.directory entries).Distinct)
    (f : FoundFile RawName) :
    f ∈ p.filesBelow entries ↔
      (Entry.directory entries).at? f.location = some (.file f.content) ∧
        s.Selects f.location f.dialect := by
  rw [p.mem_filesBelow distinct, selects_iff valid]
  rfl

/-- Every file found in a file tree lies at a location of its path and is in the language of it. -/
theorem FileTree.ofPath?_of_mem_discover [Engine] {t : FileTree} {s : Settings} {p : Policy}
    (valid : s.policy = .ok p) (wf : t.root.WellFormed) {root : Location}
    {entries : List (String × Entry)} (here : t.root.at? root = some (.directory entries))
    {f : SourceFile} (member : f ∈ (p.discoverIn entries).files) :
    ∃ loc, f.path = Policy.displayPath loc ∧ t.root.at? (root ++ loc) = some (.file f.content) ∧
      Dialect.ofPath? (pathOf (root ++ loc)) = some f.dialect := by
  have distinct := (wf.at? here).2.distinct
  rw [p.files_discoverIn] at member
  obtain ⟨g, found, rfl⟩ := List.mem_map.mp member
  have inside := ((p.mem_filesBelow distinct).mp found).1
  have file : t.root.at? (root ++ g.location) = some (.file g.content) := by
    rw [Entry.at?_append, here, Option.bind_some]
    exact inside
  have selected : s.Selects (g.location.map RawName.ofText) g.dialect := by
    refine ((s.mem_filesBelow_iff valid distinct.encoded g.encoded).mp ?_).2
    rw [p.filesBelow_encodedAll]
    exact List.mem_map_of_mem found
  refine ⟨g.location, rfl, file, ?_⟩
  have nonempty : root ++ g.location ≠ [] :=
    List.append_ne_nil_of_right_ne_nil root (Entry.ne_nil_of_at?_file inside)
  rw [Dialect.ofPath?_pathOf nonempty (wf.at? file).1, List.map_append]
  exact selected.ofLocation? _

/-- In trees that are alike the same files are found. -/
theorem FileTree.files_discover_alike {t t' : FileTree} (p : Policy) {path : String}
    {root : Location} {entries : List (String × Entry)} (wf : t.root.WellFormed)
    (located : t.locate path = .ok root) (here : t.root.at? root = some (.directory entries))
    (current : t'.current = t.current) (alike : t.root.Alike t'.root) :
    (t'.discover p path).files = (p.discoverIn entries).files := by
  have located' : t'.locate path = .ok root := locate_alike wf alike current located
  have both := alike.at? wf root
  rw [here] at both
  generalize there : t'.root.at? root = e at both
  cases both with
  | some inner =>
      cases inner with
      | refl => simp only [discover, located', there]
      | directory listings =>
          simp only [discover, located', there, Policy.files_discoverIn]
          rw [p.filesBelow_eq_of_toldApart (p.toldApart_texts (wf.at? here).2) listings]

/-- Discovery is exact, also where names are bytes that are no texts. Below a directory, the files
found are exactly the regular files that come by no link and that the settings select. Each is found
once, in the language of its path, and they stand in the order of the bytes of the paths that are
shown; no place is skipped. The order is strict exactly if no two files found have one path, and
exactly then the order in which directories list their entries has no part in the result; in any
case it has none in the files, nor in the list of their paths. Where all names are texts, no two
files have one path. -/
theorem FileTree.discover_exact [Engine] (s : Settings) (p : Policy) (valid : s.policy = .ok p) :
    (∀ entries : List (RawName × Entry RawName), (Entry.directory entries).Distinct →
      let found := p.filesBelow entries
      (p.discoverIn entries).files = found.map FoundFile.source ∧
        (p.discoverIn entries).skipped = 0 ∧
        (∀ f, f ∈ found ↔ (Entry.directory entries).at? f.location = some (.file f.content) ∧
          s.Selects f.location f.dialect) ∧
        (found.map FoundFile.location).Nodup ∧
        (∀ f ∈ found, ∀ root, Dialect.ofLocation? (root ++ f.location) = some f.dialect) ∧
        (found.Pairwise fun f g => ¬ Text.utf8 g.path < Text.utf8 f.path) ∧
        ((found.Pairwise fun f g => Text.utf8 f.path < Text.utf8 g.path) ↔
          FoundFile.ToldApart found) ∧
        ((∀ entries', Entry.Relisted entries entries' → p.filesBelow entries' = found) ↔
          FoundFile.ToldApart found) ∧
        ∀ entries', Entry.Relisted entries entries' →
          (p.filesBelow entries').Perm found ∧
            (p.filesBelow entries').map FoundFile.path = found.map FoundFile.path) ∧
      ∀ (t : FileTree) (path : String) (root : Location) (entries : List (String × Entry)),
        t.root.WellFormed → t.locate path = .ok root →
        t.root.at? root = some (.directory entries) →
        (Entry.directory (Entry.encodedAll entries)).Distinct ∧
          FoundFile.ToldApart (p.filesBelow (Entry.encodedAll entries)) ∧
          t.discover p path = p.discoverIn (Entry.encodedAll entries) ∧
          (∀ f ∈ (t.discover p path).files, ∃ loc, f.path = Policy.displayPath loc ∧
            t.root.at? (root ++ loc) = some (.file f.content) ∧
            Dialect.ofPath? (pathOf (root ++ loc)) = some f.dialect) ∧
          ∀ t' : FileTree, t'.current = t.current → t.root.Alike t'.root →
            (t'.discover p path).files = (t.discover p path).files := by
  refine ⟨fun entries distinct => ?_, fun t path root entries wf located here => ?_⟩
  · have exact := s.mem_filesBelow_iff valid distinct
    have bytes : ∀ f g : FoundFile RawName, Text.utf8 f.path < Text.utf8 g.path ↔ f.path < g.path :=
      fun f g => (Text.lt_iff_utf8_lt _ _).symm
    simp only [bytes]
    refine ⟨rfl, rfl, exact, p.nodup_filesBelow distinct, ?_, ?_, p.pairwise_lt_iff distinct, ?_,
      ?_⟩
    · exact fun f member root => ((exact f).mp member).2.ofLocation? root
    · exact (p.pairwise_filesBelow entries).imp not_lt_of_ge
    · refine ⟨fun same => ?_, fun apart entries' => p.filesBelow_eq_of_toldApart apart⟩
      exact p.toldApart_of_turned distinct (same _ (Entry.relisted_turnedAll entries))
    · exact fun entries' listings =>
        ⟨p.filesBelow_relisted listings, p.path_filesBelow_relisted listings⟩
  · have discovered : t.discover p path = p.discoverIn entries :=
      t.discover_of_scanRoot p path ((t.scanRoot_eq_ok_iff path).mpr ⟨root, located, here, rfl⟩)
    have wfEntries := (wf.at? here).2
    rw [discovered]
    refine ⟨wfEntries.distinct.encoded, p.toldApart_encodedAll wfEntries,
      (p.discoverIn_encodedAll entries).symm, fun f => ofPath?_of_mem_discover valid wf here, ?_⟩
    exact fun t' current alike => files_discover_alike p wf located here current alike

def Settings.skippingGenerated : Settings :=
  { ignores := ["gen/*"], sensitiveDataPatterns := [], genericTestNames := [] }

def Policy.skippingGenerated : Policy :=
  let glob : Glob := ⟨"gen/*", [.char 'g', .char 'e', .char 'n', .char '/', .sequence false]⟩
  Settings.skippingGenerated.policyWith [⟨"gen/*", glob.matchesPath⟩] [] []

/-- A name with a byte that begins no character, and an extension. -/
def RawName.broken (byte : UInt8) (ext : String) : RawName :=
  ⟨byte :: 46 :: Text.utf8 ext⟩

theorem RawName.extension?_broken (byte : UInt8) {ext : String} (noDot : '.' ∉ ext.toList) :
    Naming.extension? (broken byte ext) = some ext :=
  extension?_eq_some_iff.mpr ⟨[byte], List.cons_ne_nil _ _, noDot, rfl⟩

/-- Two source files, one of them with a broken name, beside one in an excluded directory and one
that is generated. -/
def mixedEntries : List (RawName × Entry RawName) :=
  [(.ofText "src", .directory [(.ofText "A.JAVA", .file ⟨#[]⟩), (.ofText "up", .link ".."),
      (.broken 0xFF "cs", .file ⟨#[]⟩)]),
    (.ofText "bin", .directory [(.ofText "B.java", .file ⟨#[]⟩)]),
    (.ofText "gen", .directory [(.ofText "C.cs", .file ⟨#[]⟩)])]

theorem distinct_mixedEntries : (Entry.directory mixedEntries).Distinct := by
  have lone : ∀ name : RawName, (Entry.directory [(name, .file ⟨#[]⟩)]).Distinct := fun name =>
    .directory (List.nodup_singleton name) (List.forall_mem_singleton.mpr (.file _))
  refine .directory (by decide +kernel) ?_
  refine List.forall_mem_cons.mpr ⟨.directory (by decide +kernel) ?_, ?_⟩
  · exact List.forall_mem_cons.mpr ⟨.file _, List.forall_mem_cons.mpr
      ⟨.link _, List.forall_mem_singleton.mpr (.file _)⟩⟩
  · exact List.forall_mem_cons.mpr ⟨lone _, List.forall_mem_singleton.mpr (lone _)⟩

/-- A source file of this tree with a name that is a text. -/
def plainFile : FoundFile RawName :=
  ⟨[.ofText "src", .ofText "A.JAVA"], .java, ⟨#[]⟩⟩

def brokenFile : FoundFile RawName :=
  ⟨[.ofText "src", .broken 0xFF "cs"], .csharp, ⟨#[]⟩⟩

theorem mem_filesBelow_mixedEntries (f : FoundFile RawName) :
    f ∈ Policy.skippingGenerated.filesBelow mixedEntries ↔ f = plainFile ∨ f = brokenFile := by
  have files : Policy.skippingGenerated.filesIn [] mixedEntries =
      [(plainFile.location, ⟨#[]⟩), (brokenFile.location, ⟨#[]⟩),
        ([.ofText "gen", .ofText "C.cs"], ⟨#[]⟩)] := by
    decide +kernel
  have lower : Text.lowerAscii "JAVA" = "java" :=
    String.toList_injective (by rw [Text.lowerAscii, String.toList_map]; decide)
  have capitals : Policy.skippingGenerated.dialectFor? "JAVA" = some .java :=
    Policy.dialectFor?_eq_some_iff.mpr ⟨lower ▸ by decide +kernel,
      Dialect.ofExtension?_eq_some_iff.mpr (.inl ⟨lower, rfl⟩)⟩
  have extension : Path.extensionOf? "A.JAVA" = some "JAVA" := by decide
  have java : Policy.skippingGenerated.dialectAt? plainFile.location = some .java := by
    show (Naming.extension? (RawName.ofText "A.JAVA")).bind _ = _
    rw [RawName.extension?_ofText, extension, Option.bind_some, capitals]
  have csharp : Policy.skippingGenerated.dialectAt? brokenFile.location = some .csharp := by
    show (Naming.extension? (RawName.broken 0xFF "cs")).bind _ = _
    rw [RawName.extension?_broken 0xFF (by decide), Option.bind_some]
    decide +kernel
  have kept : Policy.skippingGenerated.ignored plainFile.path = false := by decide +kernel
  have kept' : Policy.skippingGenerated.ignored brokenFile.path = false := by decide +kernel
  have generated : Policy.skippingGenerated.ignored
      (Policy.displayPath [.ofText "gen", RawName.ofText "C.cs"]) = true := by
    decide +kernel
  rw [Policy.mem_filesBelow_iff_filesIn, files]
  constructor
  · obtain ⟨loc, d, content⟩ := f
    rintro ⟨inside, known, shown⟩
    simp only [List.mem_cons, List.not_mem_nil, or_false, Prod.mk.injEq] at inside
    rcases inside with ⟨rfl, rfl⟩ | ⟨rfl, rfl⟩ | ⟨rfl, rfl⟩
    · obtain rfl := Option.some.inj (java.symm.trans known)
      exact .inl rfl
    · obtain rfl := Option.some.inj (csharp.symm.trans known)
      exact .inr rfl
    · cases generated.symm.trans shown
  · rintro (rfl | rfl)
    · exact ⟨List.mem_cons_self, java, kept⟩
    · exact ⟨List.mem_cons_of_mem _ List.mem_cons_self, csharp, kept'⟩

/-- In a tree with sources of three kinds those that are selected are found, each in its language
and strictly in order, also if all directories are listed the other way round, and the others are
not. -/
theorem FileTree.discover_exact_mixed_tree :
    let p := Policy.skippingGenerated
    let found := p.filesBelow mixedEntries
    Settings.skippingGenerated.policy = .ok p ∧ (Entry.directory mixedEntries).Distinct ∧
      (∀ f, f ∈ found ↔ f = plainFile ∨ f = brokenFile) ∧
      plainFile.path = "src/A.JAVA" ∧ brokenFile.path = "src/\uFFFD.cs" ∧
      Settings.skippingGenerated.Selects brokenFile.location .csharp ∧
      (found.Pairwise fun f g => Text.utf8 f.path < Text.utf8 g.path) ∧
      p.filesBelow (Entry.turnedAll mixedEntries) = found := by
  intro p found
  have valid : Settings.skippingGenerated.policy = .ok p := rfl
  have plain : plainFile.path = "src/A.JAVA" := by decide +kernel
  have broken : brokenFile.path = "src/\uFFFD.cs" := by decide +kernel
  have differ : plainFile.path ≠ brokenFile.path := by
    rw [plain, broken]
    decide
  have members : ∀ f, f ∈ found ↔ f = plainFile ∨ f = brokenFile := mem_filesBelow_mixedEntries
  have apart : FoundFile.ToldApart found := by
    intro f inF g inG same
    rcases (members f).mp inF with rfl | rfl <;> rcases (members g).mp inG with rfl | rfl
    · rfl
    · exact absurd same differ
    · exact absurd same.symm differ
    · rfl
  obtain ⟨-, -, sound, -, -, -, strict, listings, -⟩ :=
    (discover_exact Settings.skippingGenerated p valid).1 mixedEntries distinct_mixedEntries
  exact ⟨valid, distinct_mixedEntries, members, plain, broken,
    ((sound brokenFile).mp ((members _).mpr (.inr rfl))).2, strict.mpr apart,
    listings.mpr apart _ (Entry.relisted_turnedAll _)⟩

/-- Two files with names that are no texts, in the order in which they are listed. -/
def brokenEntries (first second : UInt8) : List (RawName × Entry RawName) :=
  [(.broken first "java", .file ⟨#[]⟩), (.broken second "java", .file ⟨#[]⟩)]

/-- Files with names that are shown alike are found in the order in which they are listed. -/
theorem filesBelow_brokenEntries {first second : UInt8}
    (alike : (RawName.broken first "java").shown = "\uFFFD.java")
    (alike' : (RawName.broken second "java").shown = "\uFFFD.java") :
    Policy.skippingGenerated.filesBelow (brokenEntries first second) =
      [⟨[.broken first "java"], .java, ⟨#[]⟩⟩, ⟨[.broken second "java"], .java, ⟨#[]⟩⟩] := by
  have noDot : '.' ∉ "java".toList := by decide
  have java : Policy.skippingGenerated.dialectFor? "java" = some .java := by decide +kernel
  have kept : Policy.skippingGenerated.ignored "\uFFFD.java" = false := by decide +kernel
  have shown {byte : UInt8} (is : (RawName.broken byte "java").shown = "\uFFFD.java") :
      FoundFile.path ⟨[RawName.broken byte "java"], .java, ⟨#[]⟩⟩ = "\uFFFD.java" := by
    rw [FoundFile.path, Policy.displayPath, List.map_singleton, String.intercalate_singleton]
    exact is
  have candidates : Policy.skippingGenerated.candidates
      (Policy.skippingGenerated.filesIn [] (brokenEntries first second)) =
      [⟨[.broken first "java"], .java, ⟨#[]⟩⟩, ⟨[.broken second "java"], .java, ⟨#[]⟩⟩] := by
    simp only [brokenEntries, Policy.filesIn, Policy.filesAt, List.nil_append, List.cons_append,
      Policy.candidates, List.filterMap_cons, List.filterMap_nil, List.getLast?_singleton,
      Option.bind_some, RawName.extension?_broken _ noDot, java, Option.map_some]
  refine Policy.chosen_of_sorted _ ?_ ?_
  · rw [candidates]
    simp [shown alike, shown alike', kept]
  · simp [shown alike, shown alike']

/-- Two files with names that are no texts have one path, so that the files found stand in no strict
order, and in another one if they are listed the other way round. -/
theorem FileTree.discover_depends_on_listing :
    let p := Policy.skippingGenerated
    let entries := brokenEntries 0xFE 0xFF
    (Entry.directory entries).Distinct ∧ Entry.Relisted entries entries.reverse ∧
      (p.filesBelow entries).map FoundFile.location =
        [[.broken 0xFE "java"], [.broken 0xFF "java"]] ∧
      (p.filesBelow entries.reverse).map FoundFile.location =
        [[.broken 0xFF "java"], [.broken 0xFE "java"]] ∧
      (p.filesBelow entries).map FoundFile.path = ["\uFFFD.java", "\uFFFD.java"] ∧
      ¬ (p.filesBelow entries).Pairwise fun f g => Text.utf8 f.path < Text.utf8 g.path := by
  intro p entries
  have distinct : (Entry.directory entries).Distinct :=
    .directory (by decide +kernel) (List.forall_mem_cons.mpr
      ⟨.file _, List.forall_mem_singleton.mpr (.file _)⟩)
  have low : (RawName.broken 0xFE "java").shown = "\uFFFD.java" := by decide +kernel
  have high : (RawName.broken 0xFF "java").shown = "\uFFFD.java" := by decide +kernel
  have files : p.filesBelow entries = _ := filesBelow_brokenEntries low high
  have turned : p.filesBelow entries.reverse = _ := filesBelow_brokenEntries high low
  have paths : (p.filesBelow entries).map FoundFile.path = ["\uFFFD.java", "\uFFFD.java"] := by
    rw [files]
    decide +kernel
  refine ⟨distinct, .perm (List.reverse_perm _), files ▸ rfl, turned ▸ rfl, paths, fun strict => ?_⟩
  have inOrder : ((p.filesBelow entries).map FoundFile.path).Pairwise fun a b =>
      Text.utf8 a < Text.utf8 b :=
    List.pairwise_map.mpr strict
  rw [paths] at inOrder
  exact List.lt_irrefl _ (List.rel_of_pairwise_cons inOrder (List.mem_singleton_self _))

end LayerLint
