import LayerLint.FileTree.Name
import LayerLint.Proofs.FileTree.WellFormed
import LayerLint.Proofs.Text.Decode
import Mathlib.Data.List.TakeWhile

/-! Names as bytes and names as texts. A text is shown as it is, and its extension is that of its
bytes; a tree of texts is a tree of bytes in which every name is that of a text. -/

namespace LayerLint

/-! ### The extension of a name -/

namespace Path

variable {α : Type} {dot : α}

/-- Every name with a dot has a last one. -/
theorem exists_last_dot {name : List α} (dotted : dot ∈ name) :
    ∃ stem ext, name = stem ++ dot :: ext ∧ dot ∉ ext := by
  obtain ⟨after, before, backwards, noDot⟩ :=
    List.eq_append_cons_of_mem (List.mem_reverse.mpr dotted)
  refine ⟨before.reverse, after.reverse, ?_, by simpa using noDot⟩
  rw [← List.reverse_reverse name, backwards]
  simp

variable [BEq α] [LawfulBEq α]

theorem afterLastDot?_of_notMem {name : List α} (noDot : dot ∉ name) :
    afterLastDot? dot name = none := by
  have dropped : name.reverse.dropWhile (· != dot) = [] := by
    apply List.dropWhile_eq_nil_iff.mpr
    intro c member
    rw [bne_iff_ne]
    rintro rfl
    exact noDot (List.mem_reverse.mp member)
  simp [afterLastDot?, dropped]

theorem afterLastDot?_append (stem : List α) {ext : List α} (noDot : dot ∉ ext) :
    afterLastDot? dot (stem ++ dot :: ext) = if stem.isEmpty then none else some ext := by
  have passes : ∀ c ∈ ext.reverse, (c != dot) = true := by
    intro c member
    rw [bne_iff_ne]
    rintro rfl
    exact noDot (List.mem_reverse.mp member)
  have backwards : (stem ++ dot :: ext).reverse = ext.reverse ++ dot :: stem.reverse := by
    simp
  simp only [afterLastDot?, backwards, List.dropWhile_append_of_pos passes,
    List.takeWhile_append_of_pos passes]
  rcases List.eq_nil_or_concat' stem with rfl | ⟨front, c, rfl⟩
  · simp
  · simp

/-- An extension follows the last dot of a name, if something stands before this dot. -/
theorem afterLastDot?_eq_some_iff {name ext : List α} :
    afterLastDot? dot name = some ext ↔
      ∃ stem, stem ≠ [] ∧ dot ∉ ext ∧ name = stem ++ dot :: ext := by
  constructor
  · intro found
    by_cases dotted : dot ∈ name
    · obtain ⟨stem, after, rfl, noDot⟩ := exists_last_dot dotted
      rw [afterLastDot?_append stem noDot] at found
      split at found
      · cases found
      · next nonempty =>
          obtain rfl := Option.some.inj found
          exact ⟨stem, by simpa using nonempty, noDot, rfl⟩
    · rw [afterLastDot?_of_notMem dotted] at found
      cases found
  · rintro ⟨stem, nonempty, noDot, rfl⟩
    rw [afterLastDot?_append stem noDot, if_neg (by simpa using nonempty)]

end Path

/-! ### The bytes of a name -/

namespace Text

theorem utf8_injective : Function.Injective utf8 := by
  intro s t same
  apply String.toList_injective
  rw [← charsOfBytes_utf8, same, charsOfBytes_utf8]

theorem utf8_ofList (cs : List Char) :
    utf8 (String.ofList cs) = cs.flatMap String.utf8EncodeChar := by
  rw [utf8_eq, String.toList_ofList]

/-- Only the dot has the byte of a dot in its code. -/
theorem dot_mem_utf8EncodeChar {c : Char} : 46 ∈ String.utf8EncodeChar c ↔ c = '.' := by
  have below := val_lt c
  have same : c = '.' ↔ c.val.toNat = 46 :=
    ⟨fun is => is ▸ rfl, fun is => Char.ext (UInt32.toNat_inj.mp is)⟩
  have byte {n : Nat} (small : n < 256) : (46 : UInt8) = .ofNat n ↔ n = 46 := by
    rw [← UInt8.toNat_inj, toNat_byte small]
    exact eq_comm
  rw [same]
  unfold String.utf8EncodeChar
  generalize c.val.toNat = n at below
  simp only
  split_ifs
  · rw [List.mem_singleton, byte (by omega)]
  all_goals
    simp only [List.mem_cons, List.not_mem_nil, or_false]
    rw [byte (by omega), byte (by omega)]
    try rw [byte (by omega)]
    try rw [byte (by omega)]
    omega

theorem dot_mem_utf8 {s : String} : 46 ∈ utf8 s ↔ '.' ∈ s.toList := by
  rw [utf8_eq, List.mem_flatMap]
  constructor
  · rintro ⟨c, member, dot⟩
    exact dot_mem_utf8EncodeChar.mp dot ▸ member
  · exact fun member => ⟨'.', member, dot_mem_utf8EncodeChar.mpr rfl⟩

end Text

theorem Naming.shown_text (name : String) : Naming.shown name = name :=
  rfl

namespace RawName

theorem ofText_injective : Function.Injective ofText := by
  intro s t same
  exact Text.utf8_injective (congrArg bytes same)

/-- A text is shown as it is. -/
@[simp] theorem shown_ofText (name : String) : Naming.shown (ofText name) = name := by
  show String.ofList (Text.charsOfBytes (Text.utf8 name)) = name
  rw [Text.charsOfBytes_utf8, String.ofList_toList]

/-- A name has an extension exactly if its last bytes are a dot and a text, with something before
them. -/
theorem extension?_eq_some_iff {name : RawName} {ext : String} :
    Naming.extension? name = some ext ↔
      ∃ stem, stem ≠ [] ∧ '.' ∉ ext.toList ∧ name.bytes = stem ++ 46 :: Text.utf8 ext := by
  show name.extension?.bind Text.ofUtf8? = some ext ↔ _
  simp only [Option.bind_eq_some_iff, Text.ofUtf8?_eq_some_iff, exists_eq_right, extension?,
    Path.afterLastDot?_eq_some_iff, Text.dot_mem_utf8]

/-- The extension of a text is that of its bytes. -/
theorem extension?_ofText (name : String) :
    Naming.extension? (ofText name) = Path.extensionOf? name := by
  show (Path.afterLastDot? 46 (Text.utf8 name)).bind Text.ofUtf8? =
    (Path.afterLastDot? '.' name.toList).map String.ofList
  by_cases dotted : '.' ∈ name.toList
  · obtain ⟨stem, ext, chars, noDot⟩ := Path.exists_last_dot dotted
    have bytes : Text.utf8 name =
        Text.utf8 (String.ofList stem) ++ 46 :: Text.utf8 (String.ofList ext) := by
      rw [Text.utf8_eq, chars, List.flatMap_append, List.flatMap_cons, Text.utf8_ofList,
        Text.utf8_ofList]
      rfl
    have noByte : 46 ∉ Text.utf8 (String.ofList ext) := by
      rwa [Text.dot_mem_utf8, String.toList_ofList]
    have empty : (Text.utf8 (String.ofList stem)).isEmpty = stem.isEmpty := by
      rw [Text.utf8_ofList]
      cases stem with
      | nil => rfl
      | cons c stem => simp [String.utf8EncodeChar_ne_nil]
    rw [bytes, chars, Path.afterLastDot?_append _ noByte, Path.afterLastDot?_append _ noDot, empty]
    cases stem.isEmpty with
    | true => rfl
    | false => exact Text.ofUtf8?_eq_some_iff.mpr rfl
  · rw [Path.afterLastDot?_of_notMem dotted,
      Path.afterLastDot?_of_notMem (mt Text.dot_mem_utf8.mp dotted)]
    rfl

end RawName

/-! ### Trees of texts as trees of bytes -/

namespace Entry

mutual

def encoded : Entry → Entry RawName
  | .file content => .file content
  | .link target => .link target
  | .directory entries => .directory (encodedAll entries)

def encodedAll : List (String × Entry) → List (RawName × Entry RawName)
  | [] => []
  | (name, e) :: rest => (.ofText name, e.encoded) :: encodedAll rest

end

theorem encodedAll_eq_map (entries : List (String × Entry)) :
    encodedAll entries = entries.map fun e => (.ofText e.1, e.2.encoded) := by
  induction entries with
  | nil => rfl
  | cons head rest ih => rw [encodedAll, ih, List.map_cons]

theorem Distinct.encoded {e : Entry} (distinct : e.Distinct) : e.encoded.Distinct := by
  induction distinct with
  | file content => exact .file content
  | link target => exact .link target
  | @directory entries distinct below ih =>
      rw [Entry.encoded, encodedAll_eq_map]
      refine .directory ?_ (List.forall_mem_map.mpr ih)
      have names : (entries.map fun e => (RawName.ofText e.1, e.2.encoded)).map Prod.fst =
          (entries.map Prod.fst).map RawName.ofText := by
        simp
      rw [names]
      exact distinct.map RawName.ofText_injective

end Entry

end LayerLint
