import LayerLint.Proofs.FileTree.Growth

/-! Trees whose directories list the same entries in different orders. As a directory holds every
name once, no path tells two such trees apart. -/

namespace LayerLint

namespace Entry

/-- Listings of a directory that hold the same entries in some order, at every depth. -/
inductive Relisted {ν : Type} : List (ν × Entry ν) → List (ν × Entry ν) → Prop
  | perm {entries entries' : List (ν × Entry ν)} (order : entries'.Perm entries) :
      Relisted entries entries'
  | inside {inner inner' : List (ν × Entry ν)} (name : ν) (rest : List (ν × Entry ν))
      (below : Relisted inner inner') :
      Relisted ((name, .directory inner) :: rest) ((name, .directory inner') :: rest)
  | trans {entries entries' entries'' : List (ν × Entry ν)} (first : Relisted entries entries')
      (second : Relisted entries' entries'') : Relisted entries entries''

section

variable {ν : Type}

theorem Relisted.cons (head : ν × Entry ν) {entries entries' : List (ν × Entry ν)}
    (listings : Relisted entries entries') : Relisted (head :: entries) (head :: entries') := by
  induction listings with
  | perm order => exact .perm (order.cons head)
  | inside name rest below ih =>
      exact .trans (.perm (.swap _ _ _)) (.trans (.inside name (head :: rest) below)
        (.perm (.swap _ _ _)))
  | trans first second ih ih' => exact .trans ih ih'

mutual

def turned : Entry ν → Entry ν
  | .file content => .file content
  | .link target => .link target
  | .directory entries => .directory (turnedAll entries)

def turnedAll : List (ν × Entry ν) → List (ν × Entry ν)
  | [] => []
  | (name, e) :: rest => turnedAll rest ++ [(name, e.turned)]

end

theorem relisted_turnedAll : ∀ entries : List (ν × Entry ν), Relisted entries (turnedAll entries)
  | [] => .perm (.refl _)
  | (name, e) :: rest => by
      have last : Relisted ((name, e.turned) :: turnedAll rest) (turnedAll ((name, e) :: rest)) :=
        .perm (by rw [turnedAll]; exact List.perm_append_singleton _ _)
      have others : Relisted ((name, e.turned) :: rest) ((name, e.turned) :: turnedAll rest) :=
        (relisted_turnedAll rest).cons _
      refine .trans ?_ (.trans others last)
      match e with
      | .file _ | .link _ => exact .perm (.refl _)
      | .directory inner => exact .inside name rest (relisted_turnedAll inner)

end

/-- Entries that differ in the order of listings only. -/
inductive Alike : Entry → Entry → Prop
  | refl (e : Entry) : Alike e e
  | directory {entries entries' : List (String × Entry)} (listings : Relisted entries entries') :
      Alike (.directory entries) (.directory entries')

theorem Alike.trans {e e' e'' : Entry} (first : Alike e e') (second : Alike e' e'') :
    Alike e e'' := by
  cases first with
  | refl => exact second
  | directory listings =>
      cases second with
      | refl => exact .directory listings
      | directory listings' => exact .directory (.trans listings listings')

theorem Relisted.names {entries entries' : List (String × Entry)}
    (listings : Relisted entries entries') :
    (entries'.map Prod.fst).Perm (entries.map Prod.fst) := by
  induction listings with
  | perm order => exact order.map Prod.fst
  | inside name rest below ih => exact .refl _
  | trans first second ih ih' => exact ih'.trans ih

theorem lookup_eq_some_iff_mem {entries : List (String × Entry)}
    (distinct : (entries.map Prod.fst).Nodup) {name : String} {e : Entry} :
    entries.lookup name = some e ↔ (name, e) ∈ entries :=
  ⟨mem_of_lookup, lookup_of_mem distinct⟩

/-- Both listings hold nothing under a name, or entries that are alike. -/
theorem Relisted.lookup {entries entries' : List (String × Entry)}
    (listings : Relisted entries entries') (distinct : (entries.map Prod.fst).Nodup)
    (name : String) : Option.Rel Alike (entries.lookup name) (entries'.lookup name) := by
  have same : ∀ o : Option Entry, Option.Rel Alike o o := by
    intro o
    cases o with
    | none => exact .none
    | some e => exact .some (.refl e)
  induction listings with
  | @perm entries entries' order =>
      have distinct' : (entries'.map Prod.fst).Nodup := (order.map _).nodup_iff.mpr distinct
      have equal : entries'.lookup name = entries.lookup name := by
        ext e
        rw [lookup_eq_some_iff_mem distinct', lookup_eq_some_iff_mem distinct, order.mem_iff]
      rw [equal]
      exact same _
  | inside head rest below ih =>
      rw [List.lookup_cons, List.lookup_cons]
      cases name == head with
      | true => exact .some (.directory below)
      | false => exact same _
  | trans first second ih ih' =>
      have middle := ih distinct
      have last := ih' (first.names.nodup_iff.mpr distinct)
      generalize List.lookup name _ = a at middle
      generalize List.lookup name _ = b at middle last
      generalize List.lookup name _ = c at last ⊢
      cases middle with
      | none => exact last
      | some alike =>
          cases last with
          | some alike' => exact .some (alike.trans alike')

/-- Trees that are alike hold alike entries at every location. -/
theorem Alike.at? {root root' : Entry} (alike : Alike root root') (wf : root.WellFormed)
    (loc : Location) : Option.Rel Alike (root.at? loc) (root'.at? loc) := by
  induction loc generalizing root root' with
  | nil => exact .some alike
  | cons name loc ih =>
      have child : Option.Rel Alike (root.child? name) (root'.child? name) := by
        cases alike with
        | refl =>
            cases root.child? name with
            | none => exact .none
            | some e => exact .some (.refl e)
        | directory listings =>
            cases wf with
            | directory distinct names below => exact listings.lookup distinct name
      have inner : ∀ e, root.child? name = some e → e.WellFormed := by
        intro e found
        cases root with
        | directory entries => exact (wf.of_lookup found).2
        | file content => cases found
        | link target => cases found
      rw [Entry.at?, Entry.at?]
      generalize root.child? name = a at child inner
      generalize root'.child? name = b at child
      cases child with
      | none => exact .none
      | some alike => exact ih alike (inner _ rfl)

theorem Alike.kind {e e' : Entry} (alike : Alike e e') : e'.kind = e.kind := by
  cases alike with
  | refl => rfl
  | directory listings => rfl

theorem Alike.keptIn {root root' : Entry} (alike : Alike root root') (wf : root.WellFormed) :
    root.KeptIn root' := by
  intro loc e found
  have both := alike.at? wf loc
  rw [found] at both
  generalize root'.at? loc = o at both
  cases both with
  | some inner => exact ⟨_, rfl, inner.kind⟩

end Entry

namespace FileTree

/-- A path leads to the same location in trees that are alike. -/
theorem locate_alike {t t' : FileTree} (wf : t.root.WellFormed) (alike : t.root.Alike t'.root)
    (current : t'.current = t.current) {path : String} {loc : Location}
    (located : t.locate path = .ok loc) : t'.locate path = .ok loc :=
  locate_of_keptIn current (alike.keptIn wf) located

end FileTree

end LayerLint
