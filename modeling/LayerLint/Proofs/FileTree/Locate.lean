import LayerLint.Proofs.FileTree.WellFormed
import LayerLint.Proofs.Text.Pieces

/-! Locations and their paths. Between names without slashes a slash can be found again, so that two
locations with one path are equal, and the path of a location leads back to it. -/

namespace LayerLint

namespace Path

theorem slash_notMem_parts {path part : String} (member : part ∈ parts path) :
    '/' ∉ part.toList := by
  obtain ⟨piece, here, rfl⟩ := List.mem_map.mp member
  rw [String.toList_ofList]
  exact Text.sep_notMem_pieces here

theorem parts_of_notMem {name : String} (none : '/' ∉ name.toList) : parts name = [name] := by
  rw [parts, Text.pieces_of_notMem none, List.map_singleton, String.ofList_toList]

theorem parts_append {name : String} (none : '/' ∉ name.toList) (rest : String) :
    parts (name ++ "/" ++ rest) = name :: parts rest := by
  have chars : (name ++ "/" ++ rest).toList = name.toList ++ '/' :: rest.toList := by
    rw [String.toList_append, String.toList_append, List.append_assoc]
    rfl
  rw [parts, chars, Text.pieces_append none, List.map_cons, String.ofList_toList]
  rfl

/-- The pieces of names with slashes between them are the names. -/
theorem parts_intercalate {loc : Location} (nonempty : loc ≠ [])
    (names : ∀ name ∈ loc, '/' ∉ name.toList) : parts ("/".intercalate loc) = loc := by
  induction loc with
  | nil => exact absurd rfl nonempty
  | cons name loc ih =>
      obtain ⟨first, later⟩ := List.forall_mem_cons.mp names
      cases loc with
      | nil => exact parts_of_notMem first
      | cons next loc =>
          rw [String.intercalate_cons_cons, parts_append first, ih (List.cons_ne_nil _ _) later]

end Path

/-- A piece of a path that stands for no directory is a name. -/
theorem Entry.isName_of_part {part : String} (moves : ¬ (part == "" || part == ".") = true)
    (up : ¬ (part == "..") = true) (slash : '/' ∉ part.toList) : IsName part where
  ne_empty := by
    rintro rfl
    exact moves rfl
  ne_current := by
    rintro rfl
    exact moves rfl
  ne_parent := by
    rintro rfl
    exact up rfl
  no_slash := slash

namespace Path

theorem head?_parts_of_isAbsolute {path : String} (absolute : isAbsolute path = true) :
    (parts path).head? = some "" := by
  have first : path.toList.head? = some '/' := eq_of_beq absolute
  cases chars : path.toList with
  | nil =>
      rw [chars] at first
      cases first
  | cons c cs =>
      rw [chars] at first
      obtain rfl := Option.some.inj first
      rw [parts, chars, Text.pieces, beq_self_eq_true, if_pos rfl]
      rfl

theorem component?_of_isName {name : String} (isName : Entry.IsName name) :
    component? name = some (.normal name) := by
  unfold component?
  split
  · exact absurd rfl isName.ne_empty
  · exact absurd rfl isName.ne_current
  · exact absurd rfl isName.ne_parent
  · rfl

theorem components_intercalate {loc : Location} (nonempty : loc ≠ [])
    (names : ∀ name ∈ loc, Entry.IsName name) :
    components ("/".intercalate loc) = loc.map .normal := by
  have split : parts ("/".intercalate loc) = loc :=
    parts_intercalate nonempty fun name member => (names name member).no_slash
  have relative : isAbsolute ("/".intercalate loc) = false := by
    refine Bool.eq_false_iff.mpr fun absolute => ?_
    have first := head?_parts_of_isAbsolute absolute
    rw [split] at first
    exact (names "" (List.mem_of_head? first)).ne_empty rfl
  have start : (loc.head? == some ".") = false := by
    refine beq_eq_false_iff_ne.mpr fun first => ?_
    exact (names "." (List.mem_of_head? first)).ne_current rfl
  unfold components
  change (if isAbsolute ("/".intercalate loc) then _ else
    if (parts ("/".intercalate loc)).head? == some "." then _ else _) ++
      (parts ("/".intercalate loc)).filterMap component? = _
  rw [split, relative, start, ← List.filterMap_eq_map]
  exact List.filterMap_congr fun name member => component?_of_isName (names name member)

end Path

namespace FileTree

/-- The pieces of a path lead to locations made of names. -/
theorem names_of_follow {root : Entry} {create : Bool} {links : Nat} {loc loc' : Location}
    {parts : List String} (names : ∀ name ∈ loc, Entry.IsName name)
    (slashes : ∀ part ∈ parts, '/' ∉ part.toList)
    (followed : follow root create links loc parts = .ok loc') :
    ∀ name ∈ loc', Entry.IsName name := by
  have extended : ∀ {loc : Location} {part : String}, (∀ name ∈ loc, Entry.IsName name) →
      Entry.IsName part → ∀ name ∈ loc ++ [part], Entry.IsName name := by
    intro loc part names isName
    exact List.forall_mem_append.mpr ⟨names, List.forall_mem_singleton.mpr isName⟩
  fun_induction follow root create links loc parts with
  | case1 links loc => exact Except.ok.inj followed ▸ names
  | case2 links loc part rest entries here skip ih =>
      exact ih names (List.forall_mem_cons.mp slashes).2 followed
  | case3 links loc part rest entries here moves up ih =>
      exact ih (fun name member => names name ((List.dropLast_sublist loc).mem member))
        (List.forall_mem_cons.mp slashes).2 followed
  | case4 links loc part rest entries here moves up absent last =>
      have isName := Entry.isName_of_part moves up (List.forall_mem_cons.mp slashes).1
      exact Except.ok.inj followed ▸ extended names isName
  | case5 => cases followed
  | case6 => cases followed
  | case7 loc part rest entries here moves up target found links ih =>
      refine ih ?_ ?_ followed
      · split
        · exact List.forall_mem_nil _
        · exact names
      · exact List.forall_mem_append.mpr
          ⟨fun _ => Path.slash_notMem_parts, (List.forall_mem_cons.mp slashes).2⟩
  | case8 links loc part rest entries here moves up e noLink found ih =>
      have isName := Entry.isName_of_part moves up (List.forall_mem_cons.mp slashes).1
      exact ih (extended names isName) (List.forall_mem_cons.mp slashes).2 followed
  | case9 => cases followed

theorem names_of_followed_path {root : Entry} {create : Bool} {path : String} {loc : Location}
    (followed : follow root create linkLimit [] (Path.parts path) = .ok loc) :
    ∀ name ∈ loc, Entry.IsName name :=
  names_of_follow (List.forall_mem_nil _) (fun _ => Path.slash_notMem_parts) followed

/-- An empty piece of a path leads nowhere else. -/
theorem follow_empty {root : Entry} {create : Bool} {links : Nat} {loc : Location}
    {entries : List (String × Entry)} (here : root.at? loc = some (.directory entries))
    (rest : List String) :
    follow root create links loc ("" :: rest) = follow root create links loc rest := by
  rw [follow, here]
  rfl

/-- What stands at the end of a location is reached by the names of the location. -/
theorem follow_of_at? {root : Entry} (create : Bool) (links : Nat) {loc rest : Location}
    {e : Entry} (found : root.at? (loc ++ rest) = some e) (noLink : ∀ target, e ≠ .link target)
    (names : ∀ name ∈ rest, Entry.IsName name) :
    follow root create links loc rest = .ok (loc ++ rest) := by
  induction rest generalizing loc with
  | nil => rw [follow, List.append_nil]
  | cons part rest ih =>
      obtain ⟨isName, later⟩ := List.forall_mem_cons.mp names
      obtain ⟨d, here, below⟩ := Option.bind_eq_some_iff.mp (Entry.at?_append root loc _ ▸ found)
      obtain ⟨inner, child, end_⟩ := Option.bind_eq_some_iff.mp below
      cases d with
      | file content => cases child
      | link target => cases child
      | directory entries =>
          have looked : entries.lookup part = some inner := child
          have passes : ∀ target, inner ≠ .link target := by
            rintro target rfl
            cases rest with
            | nil => exact noLink target (Option.some.inj end_).symm
            | cons name rest => cases end_
          have further : root.at? (loc ++ [part] ++ rest) = some e := by
            rwa [List.append_assoc]
          have step := ih further later
          rw [follow, here]
          simp only [beq_false_of_ne isName.ne_empty, beq_false_of_ne isName.ne_current,
            beq_false_of_ne isName.ne_parent, Bool.or_self, Bool.false_eq_true, if_false, looked]
          cases inner with
          | link target => exact absurd rfl (passes target)
          | file content => rw [step, List.append_assoc]; rfl
          | directory inside => rw [step, List.append_assoc]; rfl

theorem parts_pathOf {loc : Location} (nonempty : loc ≠ [])
    (names : ∀ name ∈ loc, Entry.IsName name) : Path.parts (pathOf loc) = "" :: loc := by
  have slash : pathOf loc = "" ++ "/" ++ "/".intercalate loc := by
    rw [pathOf, String.empty_append]
  rw [slash, Path.parts_append List.not_mem_nil,
    Path.parts_intercalate nonempty fun name member => (names name member).no_slash]

theorem isAbsolute_pathOf (loc : Location) : Path.isAbsolute (pathOf loc) = true := by
  rw [Path.isAbsolute, pathOf, String.toList_append]
  rfl

theorem join_pathOf (base : String) (loc : Location) :
    Path.join base (pathOf loc) = pathOf loc := by
  rw [Path.join, isAbsolute_pathOf, if_pos rfl]

/-- The path of a location leads to it. -/
theorem locate_pathOf {t : FileTree} (wf : t.root.WellFormed) {loc : Location} (nonempty : loc ≠ [])
    {e : Entry} (found : t.root.at? loc = some e) (noLink : ∀ target, e ≠ .link target) :
    t.locate (pathOf loc) = .ok loc := by
  have names := (wf.at? found).1
  have notEmpty : (pathOf loc).isEmpty = false := by
    rw [Bool.eq_false_iff]
    intro empty
    have absolute := isAbsolute_pathOf loc
    rw [String.isEmpty_iff.mp empty] at absolute
    cases absolute
  have atRoot : ∃ entries, t.root.at? [] = some (.directory entries) := by
    obtain ⟨name, rest, rfl⟩ := List.exists_cons_of_ne_nil nonempty
    obtain ⟨inner, child, -⟩ := Option.bind_eq_some_iff.mp found
    cases root : t.root with
    | directory entries => exact ⟨entries, rfl⟩
    | _ => rw [root] at child; cases child
  obtain ⟨entries, root⟩ := atRoot
  rw [locate, notEmpty, if_neg Bool.false_ne_true, join_pathOf, parts_pathOf nonempty names,
    follow_empty root]
  exact follow_of_at? false linkLimit found noLink names

/-- The path of the root leads to it. -/
theorem locate_root {t : FileTree} {entries : List (String × Entry)}
    (root : t.root = .directory entries) : t.locate "/" = .ok [] := by
  have parts : Path.parts (Path.join t.current "/") = ["", ""] := by
    rw [Path.join, if_pos (by decide)]
    decide
  have here : t.root.at? [] = some (.directory entries) := congrArg some root
  rw [locate, if_neg (by decide), parts, follow_empty here, follow_empty here, follow]

theorem read_pathOf {t : FileTree} (wf : t.root.WellFormed) {loc : Location} (nonempty : loc ≠ [])
    {content : ByteArray} (found : t.root.at? loc = some (.file content)) :
    t.read (pathOf loc) = .ok content := by
  have located : t.locate (pathOf loc) = .ok loc :=
    locate_pathOf wf nonempty found fun _ => nofun
  simp only [read, located, bind, Except.bind, found]
  rfl

end FileTree

end LayerLint
