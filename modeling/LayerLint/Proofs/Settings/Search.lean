import LayerLint.Proofs.FileTree.Child
import LayerLint.Settings.Search
import Mathlib.Data.List.Infix

/-! The search for settings. Each step leads to a shorter path, so that the search looks at a
directory and at all those above it, up to the root. It finds the nearest settings file unless the
mark of a repository stands in a directory nearer than that. -/

namespace LayerLint

/-! ### The directories above a path -/

namespace Path

theorem intercalate_parts (path : String) : "/".intercalate (parts path) = path := by
  have back : (parts path).map String.toList = Text.pieces '/' path.toList := by
    rw [parts, List.map_map]
    exact List.map_id'' (fun _ => String.toList_ofList) _
  rw [← String.toList_inj, String.toList_intercalate, back]
  exact Text.intercalate_pieces '/' path.toList

theorem intercalate_ne_empty {pieces : List String} {part : String} (member : part ∈ pieces)
    (nonempty : part ≠ "") (slashes : ∀ piece ∈ pieces, '/' ∉ piece.toList) :
    "/".intercalate pieces ≠ "" := by
  intro empty
  have same := parts_intercalate (List.ne_nil_of_mem member) slashes
  rw [empty] at same
  rw [← same] at member
  exact nonempty (List.mem_singleton.mp member)

theorem slashAfter_of_notMem {name : String} (nonempty : name ≠ "") (slash : '/' ∉ name.toList) :
    slashAfter name = "/" := by
  have last : name.toList.getLast? ≠ some '/' := fun is => slash (List.mem_of_getLast? is)
  rw [slashAfter, if_neg]
  simp only [Bool.or_eq_true, String.isEmpty_iff, beq_iff_eq, not_or]
  exact ⟨nonempty, last⟩

theorem slashAfter_intercalate {pieces : List String} {last : String} (nonempty : last ≠ "")
    (slash : '/' ∉ last.toList) : slashAfter ("/".intercalate (pieces ++ [last])) = "/" := by
  cases pieces with
  | nil => exact slashAfter_of_notMem nonempty slash
  | cons piece pieces =>
      rw [String.intercalate_append_of_ne_nil (List.cons_ne_nil _ _) (List.cons_ne_nil _ _),
        slashAfter_append _ (by exact nonempty)]
      exact slashAfter_of_notMem nonempty slash

/-- How the path of a directory and a path to something in it differ. -/
inductive Above : String → String → Prop where
  | start {path : String} (nonempty : path ≠ "") : Above "" path
  | root {path : String} (longer : 1 < path.length) : Above "/" path
  | directory {up rest : String} (bare : slashAfter up = "/") (nonempty : rest ≠ "") :
    Above up (up ++ "/" ++ rest)

theorem Above.length_lt {up path : String} (above : Above up path) : up.length < path.length := by
  cases above with
  | start nonempty => exact Text.length_pos nonempty
  | root longer => exact longer
  | directory bare nonempty =>
      have := Text.length_pos nonempty
      rw [String.length_append, String.length_append]
      omega

theorem Above.length_join_lt {up path entry : String} (above : Above up path)
    (relative : isAbsolute entry = false) :
    (join up entry).length < (join path entry).length := by
  rw [join_of_relative relative, join_of_relative relative]
  simp only [String.length_append]
  have shorter : up.length + (slashAfter up).length < path.length + (slashAfter path).length := by
    cases above with
    | start nonempty => exact Nat.lt_add_right _ (Text.length_pos nonempty)
    | root longer => exact Nat.lt_add_right _ longer
    | directory bare nonempty =>
        have wide := Text.length_pos nonempty
        have slash : "/".length = 1 := rfl
        rw [String.length_append, String.length_append, bare]
        omega
  omega

theorem dropEmptyEnd_suffix (pieces : List String) : dropEmptyEnd pieces <:+ pieces := by
  induction pieces with
  | nil => exact List.suffix_refl _
  | cons part rest ih =>
      rw [dropEmptyEnd]
      split
      · exact List.suffix_refl _
      · exact ih.trans (List.suffix_cons part rest)

theorem ne_empty_of_dropEmptyEnd {pieces rest : List String} {part : String}
    (dropped : dropEmptyEnd pieces = part :: rest) : part ≠ "" := by
  induction pieces with
  | nil => cases dropped
  | cons first pieces ih =>
      rw [dropEmptyEnd] at dropped
      split at dropped
      · next counts =>
          obtain rfl := (List.cons.inj dropped).1
          rintro rfl
          cases counts
      · exact ih dropped

theorem ne_empty_of_mem_parts {path part : String} (member : part ∈ parts path)
    (nonempty : part ≠ "") : path ≠ "" := by
  rintro rfl
  exact nonempty (List.mem_singleton.mp member)

theorem one_lt_length_of_isAbsolute {path part : String} (absolute : isAbsolute path = true)
    (member : part ∈ parts path) (nonempty : part ≠ "") : 1 < path.length := by
  obtain ⟨cs, chars⟩ := List.head?_eq_some_iff.mp (eq_of_beq absolute)
  have split : path = "" ++ "/" ++ String.ofList cs := by
    rw [← String.toList_inj]
    simp [chars]
  rw [split, parts_append List.not_mem_nil] at member
  have below := Text.length_pos <|
    ne_empty_of_mem_parts ((List.mem_cons.mp member).resolve_left nonempty) nonempty
  have slash : "/".length = 1 := rfl
  rw [split, String.length_append, String.length_append]
  omega

theorem parent?_eq (path : String) : parent? path =
    match dropEmptyEnd (parts path).reverse with
    | [] => none
    | _ :: rest =>
      match dropEmptyEnd rest with
      | [] => some (if isAbsolute path then "/" else "")
      | rest => some ("/".intercalate rest.reverse) :=
  rfl

theorem above_of_parent? {path up : String} (parent : parent? path = some up) : Above up path := by
  rw [parent?_eq] at parent
  split at parent
  · cases parent
  · next last rest kept =>
      have counts := ne_empty_of_dropEmptyEnd kept
      obtain ⟨front, whole⟩ := kept ▸ dropEmptyEnd_suffix (parts path).reverse
      have member : last ∈ parts path := by
        rw [← List.mem_reverse, ← whole]
        simp
      split at parent
      · next none =>
          obtain rfl := Option.some.inj parent
          split
          · next absolute => exact .root (one_lt_length_of_isAbsolute absolute member counts)
          · exact .start (ne_empty_of_mem_parts member counts)
      · next more nonempty =>
          -- The end that is cut off holds the last component and stands behind a slash.
          obtain rfl := Option.some.inj parent
          obtain ⟨gap, below⟩ := dropEmptyEnd_suffix rest
          generalize found : dropEmptyEnd rest = above at *
          cases above with
          | nil => exact absurd rfl nonempty
          | cons name above =>
              have inner := ne_empty_of_dropEmptyEnd found
              have all : parts path =
                  (above.reverse ++ [name]) ++ (gap.reverse ++ last :: front.reverse) := by
                rw [← List.reverse_reverse (parts path), ← whole, ← below]
                simp
              have slashes : ∀ part ∈ parts path, '/' ∉ part.toList :=
                fun part => slash_notMem_parts
              rw [all] at slashes
              obtain ⟨before, behind⟩ := List.forall_mem_append.mp slashes
              have path_eq := intercalate_parts path
              rw [all, String.intercalate_append_of_ne_nil (by simp) (by simp)] at path_eq
              rw [← path_eq, List.reverse_cons]
              exact .directory (slashAfter_intercalate inner (before name (by simp)))
                (intercalate_ne_empty (by simp) counts behind)

/-- A path and those of the directories above it, the nearest first. -/
def upward (path : String) : List String :=
  path :: match _ : parent? path with
    | some up => upward up
    | none => []
termination_by path.length
decreasing_by exact (above_of_parent? ‹_›).length_lt

theorem upward_of_parent? {path up : String} (parent : parent? path = some up) :
    upward path = path :: upward up := by
  rw [upward]
  split
  · next other found => rw [Option.some.inj (found.symm.trans parent)]
  · next none => cases none.symm.trans parent

theorem upward_of_top {path : String} (top : parent? path = none) : upward path = [path] := by
  rw [upward]
  split
  · next up found => cases top.symm.trans found
  · rfl

theorem exists_upward (path : String) : ∃ above, upward path = path :: above := by
  rw [upward]
  exact ⟨_, rfl⟩

/-- Under one name, what a directory of the chain holds has a longer path than what those above it
hold. -/
theorem pairwise_upward {entry : String} (relative : isAbsolute entry = false) (path : String) :
    (upward path).Pairwise fun dir up => (join up entry).length < (join dir entry).length := by
  induction path using upward.induct with
  | case1 path ih =>
      cases parent : parent? path with
      | none =>
          rw [upward_of_top parent]
          exact List.pairwise_singleton _ _
      | some up =>
          have step := (above_of_parent? parent).length_join_lt relative
          have further := ih up parent
          rw [upward_of_parent? parent]
          refine List.pairwise_cons.mpr ⟨fun dir member => ?_, further⟩
          obtain ⟨above, chain⟩ := exists_upward up
          rw [chain] at further member
          rcases List.mem_cons.mp member with rfl | later
          · exact step
          · exact ((List.pairwise_cons.mp further).1 dir later).trans step

end Path

namespace FileTree

variable {loc : Location} {name : String}

/-- The path of a location leads up to the location without its last name. -/
theorem parent?_pathOf_concat (names : ∀ n ∈ loc ++ [name], Entry.IsName n) :
    Path.parent? (pathOf (loc ++ [name])) = some (pathOf loc) := by
  have component {n : String} (isName : Entry.IsName n) (isFirst : Bool) :
      Path.isComponent isFirst n = true := by
    simp [Path.isComponent, isName.ne_empty, isName.ne_current]
  obtain ⟨before, last⟩ := List.forall_mem_append.mp names
  have own := component (last name List.mem_cons_self)
  rw [Path.parent?_eq, parts_pathOf (by simp) names, List.reverse_cons, List.reverse_concat,
    List.cons_append]
  simp only [Path.dropEmptyEnd, own, if_true]
  cases loc using List.reverseRecOn with
  | nil =>
      rw [isAbsolute_pathOf]
      rfl
  | append_singleton loc inner =>
      have inside := component (before inner (by simp))
      simp only [List.reverse_concat, List.cons_append, Path.dropEmptyEnd, inside, if_true]
      have turned : (inner :: (loc.reverse ++ [""])).reverse = [""] ++ (loc ++ [inner]) := by simp
      rw [turned, String.intercalate_append_of_ne_nil (List.cons_ne_nil _ _) (by simp)]
      rfl

/-- The chain above a location are the locations that lead to it. -/
theorem upward_pathOf (names : ∀ n ∈ loc, Entry.IsName n) :
    Path.upward (pathOf loc) = loc.inits.reverse.map pathOf := by
  induction loc using List.reverseRecOn with
  | nil => exact Path.upward_of_top (by decide)
  | append_singleton loc name ih =>
      rw [Path.upward_of_parent? (parent?_pathOf_concat names),
        ih fun n member => names n (List.mem_append_left _ member), List.inits_append]
      simp

/-- The settings file of the first directory that has one, if none before has the mark of a
repository. -/
def nearestIn (t : FileTree) : List String → Option String
  | [] => none
  | dir :: above =>
    if t.exists? (Path.join dir settingsFileName) then some (Path.join dir settingsFileName)
    else if t.exists? (Path.join dir repositoryMark) then none
    else t.nearestIn above

/-- The search goes along the chain of directories to its end. -/
theorem searchSettings_eq_nearestIn (t : FileTree) {path : String} {steps : Nat}
    (enough : path.length < steps) :
    t.searchSettings steps path = t.nearestIn (Path.upward path) := by
  induction steps generalizing path with
  | zero => exact absurd enough (Nat.not_lt_zero _)
  | succ steps ih =>
      cases parent : Path.parent? path with
      | none => rw [searchSettings, Path.upward_of_top parent, nearestIn, parent, nearestIn]
      | some up =>
          have shorter := (Path.above_of_parent? parent).length_lt
          rw [searchSettings, Path.upward_of_parent? parent, nearestIn, parent,
            ← ih (by omega : up.length < steps)]

theorem findSettings_eq_nearestIn (t : FileTree) (dir : String) :
    t.findSettings dir = t.nearestIn (Path.upward dir) :=
  searchSettings_eq_nearestIn t (Nat.lt_succ_self _)

/-- Whether a directory has an entry of a name that leads somewhere: a link that leads nowhere does
not count. -/
def Holds (t : FileTree) (dir name : String) : Prop :=
  t.exists? (Path.join dir name) = true

variable {t : FileTree}

/-- A directory holds what is listed in it; links apart, which need not lead anywhere. -/
theorem holds_iff_lookup {path : String} {dir : Location} {entries : List (String × Entry)}
    (located : t.locate path = .ok dir) (here : t.root.at? dir = some (.directory entries))
    (isName : Entry.IsName name) (noLink : ∀ target, entries.lookup name ≠ some (.link target)) :
    t.Holds path name ↔ (entries.lookup name).isSome = true := by
  unfold Holds
  cases found : entries.lookup name with
  | none => rw [exists?_child_of_absent located here isName found]; simp
  | some e =>
      have child := locate_child located here isName found fun target is =>
        noLink target (found.trans (congrArg some is))
      simp [exists?, entry?, child, Entry.at?_concat here, found]

/-- The search goes past a directory that has neither a settings file nor a mark. -/
theorem nearestIn_of_absent {path : String} {dir : Location} {entries : List (String × Entry)}
    (located : t.locate path = .ok dir) (here : t.root.at? dir = some (.directory entries))
    (noFile : entries.lookup settingsFileName = none)
    (noMark : entries.lookup repositoryMark = none) (above : List String) :
    t.nearestIn (path :: above) = t.nearestIn above := by
  have settings : Entry.IsName settingsFileName := by decide
  have mark : Entry.IsName repositoryMark := by decide
  rw [nearestIn, exists?_child_of_absent located here settings noFile,
    exists?_child_of_absent located here mark noMark, if_neg Bool.false_ne_true,
    if_neg Bool.false_ne_true]

theorem nearestIn_cons (t : FileTree) (dir : String) (above : List String) :
    (t.Holds dir settingsFileName ∧
      t.nearestIn (dir :: above) = some (Path.join dir settingsFileName)) ∨
    (¬ t.Holds dir settingsFileName ∧ t.Holds dir repositoryMark ∧
      t.nearestIn (dir :: above) = none) ∨
    (¬ t.Holds dir settingsFileName ∧ ¬ t.Holds dir repositoryMark ∧
      t.nearestIn (dir :: above) = t.nearestIn above) := by
  rw [nearestIn]
  split
  · next file => exact .inl ⟨file, rfl⟩
  · next noFile =>
      split
      · next mark => exact .inr (.inl ⟨noFile, mark, rfl⟩)
      · next noMark => exact .inr (.inr ⟨noFile, noMark, rfl⟩)

/-- What is found lies in the first directory of the chain that has a settings file or the mark. -/
theorem nearestIn_eq_some_iff {dirs : List String} {file : String} :
    t.nearestIn dirs = some file ↔ ∃ before dir above, dirs = before ++ dir :: above ∧
      file = Path.join dir settingsFileName ∧ t.Holds dir settingsFileName ∧
      ∀ d ∈ before, ¬ t.Holds d settingsFileName ∧ ¬ t.Holds d repositoryMark := by
  induction dirs with
  | nil =>
      refine iff_of_false nofun ?_
      rintro ⟨before, dir, above, parts, -⟩
      simp at parts
  | cons first rest ih =>
      constructor
      · intro found
        rcases nearestIn_cons t first rest with ⟨has, here⟩ | ⟨-, -, stopped⟩ | ⟨none, clear, on⟩
        · exact ⟨[], first, rest, rfl, Option.some.inj (found.symm.trans here), has,
            List.forall_mem_nil _⟩
        · cases stopped.symm.trans found
        · obtain ⟨before, dir, above, rfl, is, has, free⟩ := ih.mp (on.symm.trans found)
          exact ⟨first :: before, dir, above, rfl, is, has,
            List.forall_mem_cons.mpr ⟨⟨none, clear⟩, free⟩⟩
      · rintro ⟨before, dir, above, parts, rfl, has, free⟩
        cases before with
        | nil =>
            obtain ⟨rfl, rfl⟩ := List.cons.inj parts
            exact if_pos has
        | cons d before =>
            obtain ⟨rfl, rfl⟩ := List.cons.inj parts
            obtain ⟨⟨none, clear⟩, free⟩ := List.forall_mem_cons.mp free
            have on := ih.mpr ⟨before, dir, above, rfl, rfl, has, free⟩
            exact (if_neg none).trans ((if_neg clear).trans on)

/-- Nothing is found exactly if the mark comes before every settings file of the chain. -/
theorem nearestIn_eq_none_iff {dirs : List String} :
    t.nearestIn dirs = none ↔ ∀ before dir above, dirs = before ++ dir :: above →
      t.Holds dir settingsFileName → ∃ d ∈ before, t.Holds d repositoryMark := by
  induction dirs with
  | nil =>
      refine iff_of_true rfl fun before dir above parts => ?_
      simp at parts
  | cons first rest ih =>
      rcases nearestIn_cons t first rest with ⟨has, here⟩ | ⟨none, mark, here⟩ | ⟨none, clear, here⟩
      · refine iff_of_false (by rw [here]; nofun) fun marked => ?_
        obtain ⟨d, member, -⟩ := marked [] first rest rfl has
        cases member
      · refine iff_of_true here fun before dir above parts has => ?_
        cases before with
        | nil => exact absurd ((List.cons.inj parts).1 ▸ has) none
        | cons d before => exact ⟨d, List.mem_cons_self, (List.cons.inj parts).1 ▸ mark⟩
      · rw [here, ih]
        constructor
        · rintro marked (_ | ⟨d, before⟩) dir above parts has
          · exact absurd ((List.cons.inj parts).1 ▸ has) none
          · obtain ⟨e, member, mark⟩ := marked before dir above (List.cons.inj parts).2 has
            exact ⟨e, List.mem_cons_of_mem _ member, mark⟩
        · intro marked before dir above parts has
          obtain ⟨e, member, mark⟩ := marked (first :: before) dir above (congrArg _ parts) has
          rcases List.mem_cons.mp member with rfl | later
          · exact absurd mark clear
          · exact ⟨e, later, mark⟩

/-- What lies above a directory with the mark is not found. -/
theorem nearestIn_ne_above_mark {before above : List String} {dir up : String}
    (shrinks : (before ++ dir :: above).Pairwise fun d e =>
      (Path.join e settingsFileName).length < (Path.join d settingsFileName).length)
    (mark : t.Holds dir repositoryMark) (member : up ∈ above) :
    t.nearestIn (before ++ dir :: above) ≠ some (Path.join up settingsFileName) := by
  intro found
  have differ {d : String} {rest : List String} (later : up ∈ rest)
      (shrinks : (d :: rest).Pairwise fun d e =>
        (Path.join e settingsFileName).length < (Path.join d settingsFileName).length) :
      Path.join d settingsFileName ≠ Path.join up settingsFileName := fun same =>
    absurd (congrArg String.length same) ((List.pairwise_cons.mp shrinks).1 up later).ne'
  induction before with
  | nil =>
      rcases nearestIn_cons t dir above with ⟨-, here⟩ | ⟨-, -, here⟩ | ⟨-, clear, -⟩
      · exact differ member shrinks (Option.some.inj (here.symm.trans found))
      · cases here.symm.trans found
      · exact clear mark
  | cons d before ih =>
      rcases nearestIn_cons t d (before ++ dir :: above) with ⟨-, here⟩ | ⟨-, -, here⟩ | ⟨-, -, on⟩
      · exact differ (List.mem_append_right _ (List.mem_cons_of_mem _ member)) shrinks
          (Option.some.inj (here.symm.trans found))
      · cases here.symm.trans found
      · exact ih (List.pairwise_cons.mp shrinks).2 (on.symm.trans found)

/-- The search for settings comes to an end, however many steps it is given beyond those it
needs. It finds the settings file of the nearest directory that has one, from the start up to the
root, unless a directory nearer than that has the mark of a repository; then it finds nothing. A
file beside the mark is found, but none above it. A link that leads nowhere is neither a settings
file nor a mark. From the path of a location, the chain of directories is the locations that lead
to it. -/
theorem findSettings_nearest (t : FileTree) (start : String) :
    (∀ steps, start.length < steps → t.searchSettings steps start = t.findSettings start) ∧
    (∀ file, t.findSettings start = some file ↔
      ∃ before dir above, Path.upward start = before ++ dir :: above ∧
        file = Path.join dir settingsFileName ∧ t.Holds dir settingsFileName ∧
        ∀ d ∈ before, ¬ t.Holds d settingsFileName ∧ ¬ t.Holds d repositoryMark) ∧
    (t.findSettings start = none ↔
      ∀ before dir above, Path.upward start = before ++ dir :: above →
        t.Holds dir settingsFileName → ∃ d ∈ before, t.Holds d repositoryMark) ∧
    (∀ before dir above, Path.upward start = before ++ dir :: above → t.Holds dir repositoryMark →
      ((∀ d ∈ before, ¬ t.Holds d settingsFileName ∧ ¬ t.Holds d repositoryMark) →
        t.Holds dir settingsFileName →
        t.findSettings start = some (Path.join dir settingsFileName)) ∧
      ∀ up ∈ above, t.findSettings start ≠ some (Path.join up settingsFileName)) ∧
    ∀ path loc, t.locate path = .ok loc →
      Path.upward (pathOf loc) = loc.inits.reverse.map pathOf := by
  have search := t.findSettings_eq_nearestIn start
  refine ⟨fun steps enough => ?_, fun file => ?_, ?_, ?_, ?_⟩
  · rw [search, searchSettings_eq_nearestIn t enough]
  · rw [search, nearestIn_eq_some_iff]
  · rw [search, nearestIn_eq_none_iff]
  · intro before dir above chain mark
    rw [search]
    refine ⟨fun free has => nearestIn_eq_some_iff.mpr ⟨before, dir, above, chain, rfl, has, free⟩,
      fun up member => ?_⟩
    have shrinks :=
      Path.pairwise_upward (by decide : Path.isAbsolute settingsFileName = false) start
    rw [chain] at shrinks ⊢
    exact nearestIn_ne_above_mark shrinks mark member
  · intro path loc located
    rw [locate_eq_follow t (path_ne_empty located)] at located
    exact upward_pathOf (names_of_followed_path located)

/-- From `/work/src`, the file beside the mark in `/work` is found and not the one in the root. -/
theorem findSettings_nearest_beside_mark :
    let file := Entry.file ⟨#[]⟩
    let t : FileTree := { root := .directory [(".gtaarc.json", file),
      ("work", .directory [(".git", .directory []), (".gtaarc.json", file),
        ("src", .directory [])])] }
    Path.upward "/work/src" = ["/work/src", "/work", "/"] ∧
      t.findSettings "/work/src" = some "/work/.gtaarc.json" ∧
      t.findSettings "/work/src" ≠ some "/.gtaarc.json" := by
  intro file t
  have top : t.locate "/" = .ok [] := locate_root rfl
  have work : t.locate (Path.join "/" "work") = .ok ["work"] :=
    locate_child top rfl (by decide : Entry.IsName "work") rfl (by intro; nofun)
  rw [(by decide : Path.join "/" "work" = "/work")] at work
  have src : t.locate (Path.join "/work" "src") = .ok ["work", "src"] :=
    locate_child work rfl (by decide : Entry.IsName "src") rfl (by intro; nofun)
  rw [(by decide : Path.join "/work" "src" = "/work/src")] at src
  have law := findSettings_nearest t "/work/src"
  have chain : Path.upward "/work/src" = ["/work/src", "/work", "/"] :=
    (law.2.2.2.2 _ _ src).trans (by decide)
  have mark : t.Holds "/work" repositoryMark :=
    (holds_iff_lookup work rfl (by decide) (by intro; nofun)).mpr rfl
  have settings : t.Holds "/work" settingsFileName :=
    (holds_iff_lookup work rfl (by decide) (by
      intro target is
      cases (show some (Entry.file ⟨#[]⟩) = some (.link target) from is))).mpr rfl
  have free : ∀ d ∈ ["/work/src"],
      ¬ t.Holds d settingsFileName ∧ ¬ t.Holds d repositoryMark := by
    refine List.forall_mem_singleton.mpr ⟨?_, ?_⟩
    · exact mt (holds_iff_lookup src rfl (by decide) (by intro; nofun)).mp Bool.false_ne_true
    · exact mt (holds_iff_lookup src rfl (by decide) (by intro; nofun)).mp Bool.false_ne_true
  have beside := law.2.2.2.1 ["/work/src"] "/work" ["/"] chain mark
  exact ⟨chain, beside.1 free settings, beside.2 "/" List.mem_cons_self⟩

end FileTree
end LayerLint
