import LayerLint.Proofs.FileTree.Locate

/-! Trees that grow. Where a path leads depends on which entries are directories and where links
point, so that it leads to the same location in every tree that keeps what it comes by. Writing a
file is growth of this kind, and the path it was written by leads to it. -/

namespace LayerLint

namespace Entry

/-- What a path comes by at a location. -/
inductive Kind where
  | file
  | link (target : String)
  | directory
  deriving DecidableEq, Repr

def kind : Entry → Kind
  | .file _ => .file
  | .link target => .link target
  | .directory _ => .directory

theorem kind_eq_directory_iff {e : Entry} :
    e.kind = .directory ↔ ∃ entries, e = .directory entries := by
  cases e <;> simp [kind]

theorem kind_eq_link_iff {e : Entry} {target : String} :
    e.kind = .link target ↔ e = .link target := by
  cases e <;> simp [kind]

theorem kind_eq_file_iff {e : Entry} : e.kind = .file ↔ ∃ content, e = .file content := by
  cases e <;> simp [kind]

/-- Every location of the first tree is one of the second tree, of the same kind. -/
def KeptIn (root root' : Entry) : Prop :=
  ∀ loc e, root.at? loc = some e → ∃ e', root'.at? loc = some e' ∧ e'.kind = e.kind

theorem KeptIn.directory {root root' : Entry} (kept : root.KeptIn root') {loc : Location}
    {entries : List (String × Entry)} (here : root.at? loc = some (.directory entries)) :
    ∃ entries', root'.at? loc = some (.directory entries') := by
  obtain ⟨e, found, same⟩ := kept loc _ here
  obtain ⟨entries', rfl⟩ := kind_eq_directory_iff.mp same
  exact ⟨entries', found⟩

theorem at?_concat {root : Entry} {loc : Location} {entries : List (String × Entry)}
    (here : root.at? loc = some (.directory entries)) (name : String) :
    root.at? (loc ++ [name]) = entries.lookup name := by
  rw [at?_append, here]
  simp [Entry.at?, Entry.child?]

/-- What stands at a location below the root stands in a directory. -/
theorem directory_of_at?_concat {root : Entry} {dir : Location} {name : String} {e : Entry}
    (found : root.at? (dir ++ [name]) = some e) :
    ∃ entries, root.at? dir = some (.directory entries) ∧ entries.lookup name = some e := by
  obtain ⟨d, here, below⟩ := Option.bind_eq_some_iff.mp (at?_append root dir _ ▸ found)
  cases d with
  | directory entries => exact ⟨entries, here, at?_concat here name ▸ found⟩
  | file content => cases below
  | link target => cases below

theorem directory_dropLast {root : Entry} {loc : Location} {entries : List (String × Entry)}
    (here : root.at? loc = some (.directory entries)) :
    ∃ entries', root.at? loc.dropLast = some (.directory entries') := by
  rcases List.eq_nil_or_concat' loc with rfl | ⟨dir, name, rfl⟩
  · exact ⟨entries, here⟩
  · rw [List.dropLast_concat]
    obtain ⟨entries', above, -⟩ := directory_of_at?_concat here
    exact ⟨entries', above⟩

theorem lookup_setIn (entries : List (String × Entry)) (name : String) (e : Entry) (n : String) :
    (setIn name e entries).lookup n = if n = name then some e else entries.lookup n := by
  induction entries with
  | nil =>
      rw [setIn, List.lookup_cons]
      by_cases same : n = name
      · simp [same]
      · simp [same, beq_false_of_ne same]
  | cons head rest ih =>
      obtain ⟨m, old⟩ := head
      unfold setIn
      split
      · next first =>
          obtain rfl := eq_of_beq first
          rw [List.lookup_cons, List.lookup_cons]
          by_cases same : n = m
          · simp [same]
          · simp [same, beq_false_of_ne same]
      · next other =>
          rw [List.lookup_cons, List.lookup_cons, ih]
          by_cases same : n = m
          · subst same
            have differ : ¬ n = name := by
              rintro rfl
              exact other (beq_self_eq_true n)
            simp [differ]
          · rw [beq_false_of_ne same]

theorem directory_root {root : Entry} {loc : Location} {entries : List (String × Entry)}
    (here : root.at? loc = some (.directory entries)) : ∃ entries', root = .directory entries' := by
  cases loc with
  | nil => exact ⟨entries, Option.some.inj here⟩
  | cons name loc =>
      obtain ⟨e, child, -⟩ := Option.bind_eq_some_iff.mp here
      cases root with
      | directory entries' => exact ⟨entries', rfl⟩
      | file content => cases child
      | link target => cases child

/-- A file put into a directory is an entry of it. -/
theorem at?_put {root : Entry} {dir : Location} {entries : List (String × Entry)}
    (above : root.at? dir = some (.directory entries)) (name : String) (e : Entry) :
    (root.put (dir ++ [name]) e).at? dir = some (.directory (setIn name e entries)) := by
  induction dir generalizing root with
  | nil =>
      obtain rfl := Option.some.inj above
      rfl
  | cons first dir ih =>
      obtain ⟨inner, child, below⟩ := Option.bind_eq_some_iff.mp above
      cases root with
      | file content => cases child
      | link target => cases child
      | directory outer =>
          have found : outer.lookup first = some inner := child
          rw [List.cons_append, Entry.put, Entry.at?, Entry.child?, lookup_setIn, if_pos rfl, found]
          exact ih below

/-- Where no link and no directory stands, a file can be put and all else is kept. -/
theorem keptIn_put_file {root : Entry} {loc : Location}
    (free : ∀ e, root.at? loc = some e → e.kind = .file) (content : ByteArray) :
    root.KeptIn (root.put loc (.file content)) := by
  induction loc generalizing root with
  | nil =>
      obtain ⟨old, rfl⟩ := kind_eq_file_iff.mp (free root rfl)
      intro l e found
      cases l with
      | nil => exact ⟨_, rfl, Option.some.inj found ▸ rfl⟩
      | cons name l => cases found
  | cons name loc ih =>
      cases root with
      | file old => exact fun l e found => ⟨e, found, rfl⟩
      | link target => exact fun l e found => ⟨e, found, rfl⟩
      | directory entries =>
          intro l e found
          cases l with
          | nil => exact ⟨_, rfl, Option.some.inj found ▸ rfl⟩
          | cons first l =>
              obtain ⟨inner, child, below⟩ := Option.bind_eq_some_iff.mp found
              have looked : entries.lookup first = some inner := child
              rw [Entry.put, Entry.at?, Entry.child?, lookup_setIn]
              by_cases same : first = name
              · subst same
                rw [if_pos rfl, looked]
                refine ih ?_ l e below
                intro e' there
                exact free e' (by rw [Entry.at?, child]; exact there)
              · rw [if_neg same, looked]
                exact ⟨e, below, rfl⟩

/-- Where nothing stands, an entry can be put, and files and links are as before. -/
theorem at?_put_of_absent {root : Entry} {loc : Location} (absent : root.at? loc = none)
    (new : Entry) {l : Location} {e : Entry} (found : root.at? l = some e)
    (noDirectory : e.kind ≠ .directory) : (root.put loc new).at? l = some e := by
  induction loc generalizing root l with
  | nil => cases absent
  | cons name loc ih =>
      cases root with
      | file old => exact found
      | link target => exact found
      | directory entries =>
          cases l with
          | nil => exact absurd (congrArg kind (Option.some.inj found)).symm noDirectory
          | cons first l =>
              obtain ⟨inner, child, below⟩ := Option.bind_eq_some_iff.mp found
              have looked : entries.lookup first = some inner := child
              rw [Entry.put, Entry.at?, Entry.child?, lookup_setIn]
              by_cases same : first = name
              · subst same
                rw [Entry.at?, child, Option.bind_some] at absent
                rw [if_pos rfl, looked]
                exact ih absent below
              · rw [if_neg same, looked]
                exact below

end Entry

namespace FileTree

variable {root root' : Entry} {create : Bool} {links : Nat} {loc l : Location} {part : String}
  {rest : List String}

/-! ### One piece of a path -/

section

variable {entries : List (String × Entry)} (here : root.at? loc = some (.directory entries))
include here

theorem follow_skip (skip : (part == "" || part == ".") = true) :
    follow root create links loc (part :: rest) = follow root create links loc rest := by
  rw [follow, here]
  simp only [skip, if_true]

theorem follow_up (moves : ¬ (part == "" || part == ".") = true) (up : (part == "..") = true) :
    follow root create links loc (part :: rest) = follow root create links loc.dropLast rest := by
  rw [follow, here]
  simp only [moves, up, Bool.false_eq_true, if_false, if_true]

variable (moves : ¬ (part == "" || part == ".") = true) (down : ¬ (part == "..") = true)
include moves down

theorem follow_absent (absent : root.at? (loc ++ [part]) = none) :
    follow root create links loc (part :: rest) =
      if create && rest.isEmpty then .ok (loc ++ [part]) else .error .notFound := by
  rw [Entry.at?_concat here] at absent
  rw [follow, here]
  simp only [moves, down, absent, Bool.false_eq_true, if_false]

theorem follow_link {target : String}
    (found : root.at? (loc ++ [part]) = some (.link target)) :
    follow root create (links + 1) loc (part :: rest) =
      follow root create links (if Path.isAbsolute target then [] else loc)
        (Path.parts target ++ rest) := by
  rw [Entry.at?_concat here] at found
  rw [follow, here]
  simp only [moves, down, found, Bool.false_eq_true, if_false]

theorem follow_entry {e : Entry} (found : root.at? (loc ++ [part]) = some e)
    (noLink : ∀ target, e.kind ≠ .link target) :
    follow root create links loc (part :: rest) =
      follow root create links (loc ++ [part]) rest := by
  rw [Entry.at?_concat here] at found
  rw [follow, here]
  simp only [moves, down, found, Bool.false_eq_true, if_false]
  cases e with
  | link target => exact absurd rfl (noLink target)
  | file content => rfl
  | directory inner => rfl

end

/-! ### Where paths lead -/

/-- Where a path can lead to: an entry that is no link, or a new name in a directory. -/
inductive Reached (root : Entry) (create : Bool) (l : Location) : Prop
  | entry {e : Entry} (found : root.at? l = some e) (noLink : ∀ target, e.kind ≠ .link target)
  | new {dir : Location} {name : String} {entries : List (String × Entry)} (asked : create = true)
      (place : l = dir ++ [name]) (above : root.at? dir = some (.directory entries))
      (absent : root.at? l = none)

theorem reached_of_follow {e : Entry} (start : root.at? loc = some e)
    (noLink : ∀ target, e.kind ≠ .link target) {parts : List String}
    (followed : follow root create links loc parts = .ok l) : Reached root create l := by
  have isDirectory : ∀ (entries : List (String × Entry)) (target : String),
      (Entry.directory entries).kind ≠ .link target := by
    intro entries target
    exact Entry.Kind.noConfusion
  fun_induction follow root create links loc parts generalizing e with
  | case1 links loc => exact .entry (Except.ok.inj followed ▸ start) noLink
  | case2 links loc part rest entries here skip ih => exact ih here (isDirectory _) followed
  | case3 links loc part rest entries here moves up ih =>
      obtain ⟨above, there⟩ := Entry.directory_dropLast here
      exact ih there (isDirectory _) followed
  | case4 links loc part rest entries here moves down absent last =>
      obtain rfl := Except.ok.inj followed
      exact .new (Bool.and_eq_true_iff.mp last).1 rfl here
        ((Entry.at?_concat here part).trans absent)
  | case5 => cases followed
  | case6 => cases followed
  | case7 loc part rest entries here moves down target found links ih =>
      obtain ⟨top, rfl⟩ := Entry.directory_root here
      -- The target of a link is followed from the root or from the directory of the link.
      cases absolute : Path.isAbsolute target with
      | true =>
          rw [absolute] at ih followed
          exact ih rfl (isDirectory top) followed
      | false =>
          rw [absolute] at ih followed
          exact ih here (isDirectory entries) followed
  | case8 links loc part rest entries here moves down e other found ih =>
      refine ih ((Entry.at?_concat here part).trans found) ?_ followed
      intro target link
      exact other target (Entry.kind_eq_link_iff.mp link)
  | case9 => cases followed

/-- In a tree that keeps what a path comes by, the path leads to the same location. A location that
was new must stand there, or the path may again make it. -/
theorem follow_of_keptIn (kept : root.KeptIn root') {parts : List String}
    (followed : follow root create links loc parts = .ok l)
    (made : create = true → ∃ e, root'.at? l = some e ∧ ∀ target, e.kind ≠ .link target) :
    follow root' false links loc parts = .ok l := by
  fun_induction follow root create links loc parts with
  | case1 links loc => rw [follow, ← followed]
  | case2 links loc part rest entries here skip ih =>
      obtain ⟨entries', here'⟩ := kept.directory here
      rw [follow_skip here' skip]
      exact ih followed
  | case3 links loc part rest entries here moves up ih =>
      obtain ⟨entries', here'⟩ := kept.directory here
      rw [follow_up here' moves up]
      exact ih followed
  | case4 links loc part rest entries here moves down absent last =>
      obtain ⟨entries', here'⟩ := kept.directory here
      obtain rfl := Except.ok.inj followed
      obtain ⟨asked, ended⟩ := Bool.and_eq_true_iff.mp last
      obtain ⟨e, found, noLink⟩ := made asked
      rw [follow_entry here' moves down found noLink, List.isEmpty_iff.mp ended, follow]
  | case5 => cases followed
  | case6 => cases followed
  | case7 loc part rest entries here moves down target found links ih =>
      obtain ⟨entries', here'⟩ := kept.directory here
      obtain ⟨e, found', same⟩ := kept _ _ ((Entry.at?_concat here part).trans found)
      rw [Entry.kind_eq_link_iff.mp same] at found'
      rw [follow_link here' moves down found']
      exact ih followed
  | case8 links loc part rest entries here moves down e noLink found ih =>
      obtain ⟨entries', here'⟩ := kept.directory here
      obtain ⟨e', found', same⟩ := kept _ _ ((Entry.at?_concat here part).trans found)
      rw [follow_entry here' moves down found' ?_]
      · exact ih followed
      · intro target link
        exact noLink target (Entry.kind_eq_link_iff.mp (same.symm.trans link))
  | case9 => cases followed

theorem locate_eq_follow (t : FileTree) {path : String} (nonempty : path ≠ "") :
    t.locate path = follow t.root false linkLimit [] (Path.parts (Path.join t.current path)) := by
  rw [locate, if_neg]
  exact fun empty => nonempty (String.isEmpty_iff.mp empty)

theorem path_ne_empty {t : FileTree} {path : String} (located : t.locate path = .ok l) :
    path ≠ "" := by
  rintro rfl
  cases located

theorem locate_of_keptIn {t t' : FileTree} (current : t'.current = t.current)
    (kept : t.root.KeptIn t'.root) {path : String} (located : t.locate path = .ok l) :
    t'.locate path = .ok l := by
  have nonempty := path_ne_empty located
  rw [locate_eq_follow _ nonempty] at located ⊢
  rw [current]
  exact follow_of_keptIn kept located Bool.noConfusion

/-! ### Writing -/

def withFile (t : FileTree) (loc : Location) (content : ByteArray) : FileTree :=
  { t with root := t.root.put loc (.file content) }

@[simp]
theorem root_withFile (t : FileTree) (loc : Location) (content : ByteArray) :
    (t.withFile loc content).root = t.root.put loc (.file content) :=
  rfl

@[simp]
theorem current_withFile (t : FileTree) (loc : Location) (content : ByteArray) :
    (t.withFile loc content).current = t.current :=
  rfl

/-- Pieces of a path are followed in a directory only. -/
theorem directory_of_follow {parts : List String} (nonempty : parts ≠ [])
    (followed : follow root create links loc parts = .ok l) :
    ∃ entries, root.at? loc = some (.directory entries) := by
  cases parts with
  | nil => exact absurd rfl nonempty
  | cons part rest =>
      rw [follow] at followed
      split at followed
      · next entries here => exact ⟨entries, here⟩
      · cases followed

theorem parts_ne_nil (path : String) : Path.parts path ≠ [] := by
  intro none
  exact Text.pieces_ne_nil '/' path.toList (List.map_eq_nil_iff.mp none)

/-- A file is written into a directory, where nothing stood or a file. -/
theorem exists_of_write {t t' : FileTree} {path : String} {content : ByteArray}
    (written : t.write path content = .ok t') :
    ∃ dir name entries, t.root.at? dir = some (.directory entries) ∧
      follow t.root true linkLimit [] (Path.parts (Path.join t.current path)) =
        .ok (dir ++ [name]) ∧
      (∀ e, t.root.at? (dir ++ [name]) = some e → e.kind = .file) ∧
      t' = t.withFile (dir ++ [name]) content := by
  cases followed : follow t.root true linkLimit [] (Path.parts (Path.join t.current path)) with
  | error e =>
      rw [write, followed] at written
      cases written
  | ok l =>
      simp only [write, followed, bind, Except.bind] at written
      split at written
      · cases written
      · next other =>
          obtain rfl := Except.ok.inj written
          obtain ⟨top, start⟩ := directory_of_follow (parts_ne_nil _) followed
          have free : ∀ e, t.root.at? l = some e → (∀ target, e.kind ≠ .link target) →
              e.kind = .file := by
            intro e found noLink
            cases e with
            | file old => rfl
            | link target => exact absurd rfl (noLink target)
            | directory inner => exact absurd found (other inner)
          cases reached_of_follow start (fun _ => Entry.Kind.noConfusion) followed with
          | @entry e found noLink =>
              rcases List.eq_nil_or_concat' l with rfl | ⟨dir, name, rfl⟩
              · exact absurd start (other top)
              · obtain ⟨entries, above, -⟩ := Entry.directory_of_at?_concat found
                refine ⟨dir, name, entries, above, rfl, ?_, rfl⟩
                intro e' found'
                obtain rfl := Option.some.inj (found.symm.trans found')
                exact free e found noLink
          | @new dir name entries asked place above absent =>
              subst place
              refine ⟨dir, name, entries, above, rfl, ?_, rfl⟩
              intro e found
              rw [absent] at found
              cases found

/-- The path that a file was written by leads to the file. -/
theorem entry?_of_write {t t' : FileTree} {path : String} {content : ByteArray}
    (nonempty : path ≠ "") (written : t.write path content = .ok t') :
    t'.entry? path = some (.file content) := by
  obtain ⟨dir, name, entries, above, followed, free, rfl⟩ := exists_of_write written
  have there : (t.root.put (dir ++ [name]) (.file content)).at? (dir ++ [name]) =
      some (.file content) := by
    rw [Entry.at?_concat (Entry.at?_put above name _), Entry.lookup_setIn, if_pos rfl]
  have located : follow (t.root.put (dir ++ [name]) (.file content)) false linkLimit []
      (Path.parts (Path.join t.current path)) = .ok (dir ++ [name]) :=
    follow_of_keptIn (Entry.keptIn_put_file free content) followed
      fun _ => ⟨_, there, fun _ => Entry.Kind.noConfusion⟩
  unfold entry?
  rw [locate_eq_follow _ nonempty, root_withFile, current_withFile, located]
  exact there

/-- A file that is written where a path leads to nothing stands where nothing stood. -/
theorem absent_of_write {t t' : FileTree} {path : String} {content : ByteArray}
    (nonempty : path ≠ "") (fresh : t.exists? path = false)
    (written : t.write path content = .ok t') :
    ∃ loc, t.root.at? loc = none ∧ t' = t.withFile loc content := by
  obtain ⟨dir, name, entries, -, followed, free, rfl⟩ := exists_of_write written
  refine ⟨dir ++ [name], ?_, rfl⟩
  cases found : t.root.at? (dir ++ [name]) with
  | none => rfl
  | some e =>
      have noLink : ∀ target, e.kind ≠ .link target := by
        intro target link
        exact Entry.Kind.noConfusion ((free e found).symm.trans link)
      have reached : follow t.root false linkLimit [] (Path.parts (Path.join t.current path)) =
          .ok (dir ++ [name]) :=
        follow_of_keptIn (fun loc e found => ⟨e, found, rfl⟩) followed
          fun _ => ⟨e, found, noLink⟩
      unfold exists? entry? at fresh
      rw [locate_eq_follow _ nonempty, reached] at fresh
      simp [found] at fresh

end FileTree

end LayerLint
