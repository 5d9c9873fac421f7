import LayerLint.FileTree.Basic
import Mathlib.Data.List.Nodup

/-! Well-formed file trees. A directory holds every name once, and a name is one component of a
path: it is not empty, stands for no other directory and has no slash in it. This makes a location
and its path two spellings of one thing. -/

namespace LayerLint

/-- A text that can be the name of an entry. -/
structure Entry.IsName (name : String) : Prop where
  ne_empty : name ≠ ""
  ne_current : name ≠ "."
  ne_parent : name ≠ ".."
  no_slash : '/' ∉ name.toList

instance (name : String) : Decidable (Entry.IsName name) :=
  decidable_of_iff (name ≠ "" ∧ name ≠ "." ∧ name ≠ ".." ∧ '/' ∉ name.toList)
    ⟨fun ⟨a, b, c, d⟩ => ⟨a, b, c, d⟩, fun ⟨a, b, c, d⟩ => ⟨a, b, c, d⟩⟩

/-- A tree whose directories hold every name once, whatever counts as a name. -/
inductive Entry.Distinct {ν : Type} : Entry ν → Prop
  | file (content : ByteArray) : Distinct (.file content)
  | link (target : String) : Distinct (.link target)
  | directory {entries : List (ν × Entry ν)} (distinct : (entries.map Prod.fst).Nodup)
      (below : ∀ e ∈ entries, Distinct e.2) : Distinct (.directory entries)

/-- A tree whose directories hold every name once, and names only. -/
inductive Entry.WellFormed : Entry → Prop
  | file (content : ByteArray) : WellFormed (.file content)
  | link (target : String) : WellFormed (.link target)
  | directory {entries : List (String × Entry)} (distinct : (entries.map Prod.fst).Nodup)
      (names : ∀ e ∈ entries, IsName e.1) (below : ∀ e ∈ entries, WellFormed e.2) :
      WellFormed (.directory entries)

namespace Entry

theorem WellFormed.distinct {e : Entry} (wf : e.WellFormed) : e.Distinct := by
  induction wf with
  | file content => exact .file content
  | link target => exact .link target
  | directory distinct names below ih => exact .directory distinct ih

section

variable {ν : Type} [BEq ν] [LawfulBEq ν]

theorem mem_of_lookup {entries : List (ν × Entry ν)} {name : ν} {e : Entry ν}
    (found : entries.lookup name = some e) : (name, e) ∈ entries := by
  obtain ⟨front, back, split, -⟩ := List.lookup_eq_some_iff.mp found
  exact split ▸ List.mem_append_right front List.mem_cons_self

/-- Where names are distinct, every entry is found by its name. -/
theorem lookup_of_mem {entries : List (ν × Entry ν)} (distinct : (entries.map Prod.fst).Nodup)
    {name : ν} {e : Entry ν} (member : (name, e) ∈ entries) : entries.lookup name = some e := by
  induction entries with
  | nil => cases member
  | cons head rest ih =>
      obtain ⟨n, old⟩ := head
      have apart := List.nodup_cons.mp distinct
      rw [List.lookup_cons]
      rcases List.mem_cons.mp member with same | later
      · obtain ⟨rfl, rfl⟩ := Prod.mk.inj same
        rw [beq_self_eq_true]
      · have differ : name ≠ n := fun same => apart.1 (List.mem_map.mpr ⟨_, later, same⟩)
        rw [beq_false_of_ne differ]
        exact ih apart.2 later

omit [LawfulBEq ν]

theorem at?_append (root : Entry ν) (loc rest : Location ν) :
    root.at? (loc ++ rest) = (root.at? loc).bind (·.at? rest) := by
  induction loc generalizing root with
  | nil => rfl
  | cons name loc ih =>
      rw [List.cons_append, at?, at?, Option.bind_assoc]
      exact congrArg (Option.bind _) (funext ih)

theorem ne_nil_of_at?_file {entries : List (ν × Entry ν)} {loc : Location ν}
    {content : ByteArray} (found : (Entry.directory entries).at? loc = some (.file content)) :
    loc ≠ [] := by
  rintro rfl
  cases found

end

theorem WellFormed.of_lookup {entries : List (String × Entry)}
    (wf : (Entry.directory entries).WellFormed) {name : String} {e : Entry}
    (found : entries.lookup name = some e) : IsName name ∧ e.WellFormed := by
  cases wf with
  | directory distinct names below =>
      exact ⟨names _ (mem_of_lookup found), below _ (mem_of_lookup found)⟩

/-- What stands at a location of a well-formed tree is well formed, and the location is made of
names. -/
theorem WellFormed.at? {root : Entry} (wf : root.WellFormed) {loc : Location} {e : Entry}
    (found : root.at? loc = some e) : (∀ name ∈ loc, IsName name) ∧ e.WellFormed := by
  induction loc generalizing root with
  | nil => exact ⟨nofun, Option.some.inj found ▸ wf⟩
  | cons name loc ih =>
      obtain ⟨inner, child, rest⟩ := Option.bind_eq_some_iff.mp found
      cases root with
      | file content => cases child
      | link target => cases child
      | directory entries =>
          obtain ⟨isName, innerWf⟩ := wf.of_lookup child
          obtain ⟨names, eWf⟩ := ih innerWf rest
          exact ⟨List.forall_mem_cons.mpr ⟨isName, names⟩, eWf⟩

end Entry

end LayerLint
