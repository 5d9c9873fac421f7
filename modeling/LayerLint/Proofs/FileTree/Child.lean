import LayerLint.Proofs.FileTree.Growth

/-! Paths into a directory. A path with a name behind it leads to the entry of this name in the
directory that the path leads to, by whatever links and detours it does so, and whether it ends in a
slash or not. -/

namespace LayerLint

namespace Path

theorem parts_append_slash (base rest : String) :
    parts (base ++ "/" ++ rest) = parts base ++ parts rest := by
  have chars : (base ++ "/" ++ rest).toList = base.toList ++ '/' :: rest.toList := by
    rw [String.toList_append, String.toList_append, List.append_assoc]
    rfl
  rw [parts, chars, Text.pieces_append_sep, List.map_append]
  rfl

theorem isAbsolute_of_isName {name : String} (isName : Entry.IsName name) :
    isAbsolute name = false := by
  rw [Bool.eq_false_iff]
  intro absolute
  exact isName.no_slash (List.mem_of_mem_head? (eq_of_beq absolute))

theorem isAbsolute_append {path : String} (nonempty : path ≠ "") (rest : String) :
    isAbsolute (path ++ rest) = isAbsolute path := by
  have chars : path.toList ≠ [] := by
    simpa using nonempty
  rw [isAbsolute, isAbsolute, String.toList_append, List.head?_append_of_ne_nil _ chars]

def slashAfter (base : String) : String :=
  if base.isEmpty || base.toList.getLast? == some '/' then "" else "/"

theorem join_of_relative {entry : String} (relative : isAbsolute entry = false) (base : String) :
    join base entry = base ++ slashAfter base ++ entry := by
  rw [join, relative, if_neg Bool.false_ne_true, slashAfter]
  split
  · rw [String.append_empty]
  · rfl

theorem append_ne_empty (base : String) {path : String} (nonempty : path ≠ "") :
    base ++ path ≠ "" := by
  intro empty
  exact nonempty (String.append_eq_empty_iff.mp empty).2

theorem slashAfter_append (base : String) {path : String} (nonempty : path ≠ "") :
    slashAfter (base ++ path) = slashAfter path := by
  have chars : path.toList ≠ [] := by
    simpa using nonempty
  have last : (base ++ path).toList.getLast? = path.toList.getLast? := by
    rw [String.toList_append, List.getLast?_append_of_ne_nil _ chars]
  have whole : (base ++ path).isEmpty = path.isEmpty := by
    rw [Bool.eq_iff_iff, String.isEmpty_iff, String.isEmpty_iff]
    exact iff_of_false (append_ne_empty base nonempty) nonempty
  rw [slashAfter, slashAfter, last, whole]

theorem join_join (base : String) {path name : String} (nonempty : path ≠ "")
    (relative : isAbsolute name = false) :
    join base (join path name) = join (join base path) name := by
  have whole : isAbsolute (join path name) = isAbsolute path := by
    rw [join_of_relative relative, String.append_assoc, isAbsolute_append nonempty]
  cases absolute : isAbsolute path with
  | true => rw [join, whole, absolute, if_pos rfl, join.eq_1 base path, absolute, if_pos rfl]
  | false =>
      rw [join_of_relative (whole.trans absolute), join_of_relative absolute,
        join_of_relative relative, join_of_relative relative, slashAfter_append _ nonempty]
      simp only [String.append_assoc]

theorem join_ne_empty (base : String) {path : String} (nonempty : path ≠ "") :
    join base path ≠ "" := by
  unfold join
  split
  · exact nonempty
  · split
    · exact append_ne_empty base nonempty
    · exact append_ne_empty _ nonempty

end Path

namespace FileTree

/-- The pieces of a path are followed one after the other: those at its end from where those at its
beginning lead, unless these lead nowhere. -/
theorem follow_append (root : Entry) (links : Nat) (loc : Location) (parts : List String) :
    (∃ mid links', follow root false links loc parts = .ok mid ∧
      ∀ create rest, follow root create links loc (parts ++ rest) =
        follow root create links' mid rest) ∨
      ∃ fault, ∀ rest, follow root false links loc (parts ++ rest) = .error fault := by
  fun_induction follow root false links loc parts with
  | case1 links loc => exact .inl ⟨loc, links, rfl, fun create rest => rfl⟩
  | case2 links loc part rest entries here skip ih =>
      simp only [List.cons_append, follow_skip here skip]
      exact ih
  | case3 links loc part rest entries here moves up ih =>
      simp only [List.cons_append, follow_up here moves up]
      exact ih
  | case4 links loc part rest entries here moves down absent last => cases last
  | case5 links loc part rest entries here moves down absent last =>
      have nothing : root.at? (loc ++ [part]) = none := (Entry.at?_concat here part).trans absent
      refine .inr ⟨.notFound, ?_⟩
      intro rest'
      rw [List.cons_append, follow_absent here moves down nothing]
      rfl
  | case6 loc part rest entries here moves down target found =>
      refine .inr ⟨.tooManyLinks, ?_⟩
      intro rest'
      rw [List.cons_append, follow, here]
      simp only [moves, down, found, Bool.false_eq_true, if_false]
  | case7 loc part rest entries here moves down target found links ih =>
      have link : root.at? (loc ++ [part]) = some (.link target) :=
        (Entry.at?_concat here part).trans found
      simp only [List.cons_append, follow_link here moves down link, ← List.append_assoc]
      exact ih
  | case8 links loc part rest entries here moves down e noLink found ih =>
      have entry : root.at? (loc ++ [part]) = some e := (Entry.at?_concat here part).trans found
      have passes : ∀ target, e.kind ≠ .link target := by
        intro target link
        exact noLink target (Entry.kind_eq_link_iff.mp link)
      simp only [List.cons_append, follow_entry here moves down entry passes]
      exact ih
  | case9 links loc part rest noDirectory =>
      refine .inr ⟨.notDirectory, ?_⟩
      intro rest'
      rw [List.cons_append, follow]
      split
      · next entries here => exact absurd here (noDirectory entries)
      · rfl

theorem follow_join {root : Entry} {dir : Location} {path name : String} (nonempty : path ≠ "")
    (isName : Entry.IsName name) {links : Nat}
    (followed : follow root false links [] (Path.parts path) = .ok dir) :
    ∃ links', ∀ create, follow root create links [] (Path.parts (Path.join path name)) =
      follow root create links' dir [name] := by
  have piece : Path.parts name = [name] := Path.parts_of_notMem isName.no_slash
  rw [Path.join_of_relative (Path.isAbsolute_of_isName isName), Path.slashAfter]
  split
  · next slash =>
      obtain ⟨front, rfl⟩ : ∃ front, path = front ++ "/" := by
        rcases Bool.or_eq_true_iff.mp slash with empty | last
        · exact absurd (String.isEmpty_iff.mp empty) nonempty
        · obtain ⟨front, chars⟩ := List.getLast?_eq_some_iff.mp (eq_of_beq last)
          refine ⟨String.ofList front, String.toList_injective ?_⟩
          rw [chars, String.toList_append, String.toList_ofList]
          rfl
      have ended : Path.parts (front ++ "/") = Path.parts front ++ [""] := by
        have split := Path.parts_append_slash front ""
        rwa [String.append_empty] at split
      rw [ended] at followed
      rw [String.append_empty, Path.parts_append_slash, piece]
      rcases follow_append root links [] (Path.parts front) with
        ⟨mid, links', -, further⟩ | ⟨fault, nowhere⟩
      · rw [further] at followed
        obtain ⟨inside, middle⟩ := directory_of_follow (List.cons_ne_nil _ _) followed
        rw [follow_empty middle, follow] at followed
        obtain rfl := Except.ok.inj followed
        exact ⟨links', fun create => further create [name]⟩
      · rw [nowhere] at followed
        cases followed
  · rw [Path.parts_append_slash, piece]
    rcases follow_append root links [] (Path.parts path) with
      ⟨mid, links', leads, further⟩ | ⟨fault, nowhere⟩
    · obtain rfl := Except.ok.inj (leads.symm.trans followed)
      exact ⟨links', fun create => further create [name]⟩
    · have failed := nowhere []
      rw [List.append_nil, followed] at failed
      cases failed

/-! ### Entries of a directory -/

section

variable {t : FileTree} {path : String} {dir : Location} {entries : List (String × Entry)}
  (located : t.locate path = .ok dir) (here : t.root.at? dir = some (.directory entries))
  {name : String} (isName : Entry.IsName name)

include located isName

/-- Behind the path of a directory, a name is followed from the directory. -/
theorem follow_child : ∃ links, ∀ create,
    follow t.root create linkLimit [] (Path.parts (Path.join t.current (Path.join path name))) =
      follow t.root create links dir [name] := by
  have nonempty := path_ne_empty located
  rw [Path.join_join t.current nonempty (Path.isAbsolute_of_isName isName)]
  rw [locate_eq_follow t nonempty] at located
  exact follow_join (Path.join_ne_empty t.current nonempty) isName located

include here

theorem locate_child {e : Entry} (found : entries.lookup name = some e)
    (noLink : ∀ target, e ≠ .link target) :
    t.locate (Path.join path name) = .ok (dir ++ [name]) := by
  obtain ⟨links, child⟩ := follow_child located isName
  rw [locate_eq_follow t (Path.join_ne_empty path isName.ne_empty), child]
  exact follow_of_at? false links ((Entry.at?_concat here name).trans found) noLink
    (List.forall_mem_singleton.mpr isName)

variable (absent : entries.lookup name = none)
include absent

theorem follow_child_of_absent (create : Bool) :
    follow t.root create linkLimit [] (Path.parts (Path.join t.current (Path.join path name))) =
      if create then .ok (dir ++ [name]) else .error .notFound := by
  obtain ⟨links, child⟩ := follow_child located isName
  have moves : ¬ (name == "" || name == ".") = true := by
    simp [isName.ne_empty, isName.ne_current]
  have down : ¬ (name == "..") = true := by
    simp [isName.ne_parent]
  rw [child, follow_absent here moves down ((Entry.at?_concat here name).trans absent),
    List.isEmpty_nil, Bool.and_true]

theorem locate_child_of_absent : t.locate (Path.join path name) = .error .notFound := by
  rw [locate_eq_follow t (Path.join_ne_empty path isName.ne_empty),
    follow_child_of_absent located here isName absent false]
  rfl

theorem exists?_child_of_absent : t.exists? (Path.join path name) = false := by
  rw [exists?, entry?, locate_child_of_absent located here isName absent]
  rfl

theorem readText_child_of_absent : t.readText (Path.join path name) = .error .notFound := by
  rw [readText, read, locate_child_of_absent located here isName absent]
  rfl

theorem write_child_of_absent (content : ByteArray) :
    t.write (Path.join path name) content = .ok (t.withFile (dir ++ [name]) content) := by
  have new := follow_child_of_absent located here isName absent true
  rw [write, new]
  simp only [bind, Except.bind, if_true, Entry.at?_concat here, absent]
  rfl

end

end FileTree

end LayerLint
