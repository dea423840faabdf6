import SentinelEdge.Foundation.Dict

/-! # File trees

The files of a tree under their paths. Directories are where files lie below: a
directory that holds none leaves no trace. A path is its parts from the top.
-/

namespace SentinelEdge.Foundation

abbrev FilePath := List String

namespace FilePath

def isAbsolute (text : String) : Bool := text.toList.head? = some '/'

/-- The parts of a text, without the empty ones and those that name the directory they are in. -/
def parts (text : String) : FilePath :=
  ((text.toList.splitOn '/').map String.ofList).filter fun part => part ≠ "" && part ≠ "."

/-- Walk along one part. -/
def walk (path : FilePath) (part : String) : FilePath := if part = ".." then path.dropLast else path ++ [part]

/-- Where a text leads from a directory. -/
def resolve (base : FilePath) (text : String) : FilePath :=
  (parts text).foldl walk (if isAbsolute text then [] else base)

/-- A relative path that never goes up leads below the directory it starts from. -/
theorem resolve_eq_append {text : String} (relative : isAbsolute text = false) (down : ".." ∉ parts text) (base : FilePath) :
    resolve base text = base ++ parts text := by
  rw [resolve, relative, if_neg Bool.false_ne_true]
  generalize parts text = rest at down ⊢
  induction rest generalizing base with
  | nil => rw [List.foldl_nil, List.append_nil]
  | cons part rest ih =>
      obtain ⟨here, later⟩ := not_or.mp (List.mem_cons.not.mp down)
      rw [List.foldl_cons, walk, if_neg (Ne.symm here), ih _ later, List.append_assoc, List.singleton_append]

/-- Text without the separator goes to the last of the parts. -/
theorem splitOn_append {c : Char} {back : List Char} (plain : c ∉ back) (front : List Char) :
    ∃ init last, (front ++ back).splitOn c = init ++ [last ++ back] := by
  induction front with
  | nil =>
      refine ⟨[], [], ?_⟩
      rw [List.nil_append, List.splitOn_eq_splitOnP, List.splitOnP_eq_singleton]
      · rfl
      · intro x member
        rw [beq_eq_false_iff_ne]
        rintro rfl
        exact plain member
  | cons x front ih =>
      obtain ⟨init, last, parts⟩ := ih
      rw [List.cons_append, List.splitOn_eq_splitOnP, List.splitOnP_cons_eq_if_modifyHead, ← List.splitOn_eq_splitOnP, parts]
      split
      · exact ⟨[] :: init, last, rfl⟩
      · cases init with
        | nil => exact ⟨[], x :: last, rfl⟩
        | cons first init => exact ⟨(x :: first) :: init, last, rfl⟩

/-- A path leads to where its last part says. -/
theorem resolve_eq_concat {text last : String} {init : FilePath} (ends : parts text = init ++ [last]) (down : last ≠ "..")
    (base : FilePath) : ∃ above, resolve base text = above ++ [last] := by
  rw [resolve, ends, List.foldl_append, List.foldl_cons, List.foldl_nil, walk, if_neg down]
  exact ⟨_, rfl⟩

end FilePath

abbrev FileTree := Dict FilePath (List UInt8)

namespace FileTree

def isFile (t : FileTree) (path : FilePath) : Bool := (t.get? path).isSome

/-- A file at the path, or below it. -/
def isPresent (t : FileTree) (path : FilePath) : Bool := t.keys.any path.isPrefixOf

/-- Remove what is at the path and below. -/
def remove (t : FileTree) (path : FilePath) : FileTree := t.restrict fun other => !path.isPrefixOf other

/-- A file lies where the path needs a directory. -/
def isCutOff (t : FileTree) (path : FilePath) : Bool := t.keys.any fun other => other ≠ path && other.isPrefixOf path

/-- The path is the top, or files lie below it. -/
def isDirectory (t : FileTree) (path : FilePath) : Bool :=
  path.isEmpty || t.keys.any fun other => other ≠ path && path.isPrefixOf other

/-- The files below a path, by the rest of their paths. -/
def below (t : FileTree) (path : FilePath) : FileTree where
  items := (t.items.filter fun item => path.isPrefixOf item.1).map fun item => (item.1.drop path.length, item.2)
  nodup := by
    rw [List.map_map]
    have distinct : ((t.items.filter fun item => path.isPrefixOf item.1).map Prod.fst).Nodup :=
      t.nodup.sublist (List.filter_sublist.map Prod.fst)
    refine List.Nodup.of_map (path ++ ·) ?_
    rw [List.map_map]
    refine (List.map_congr_left ?_).symm ▸ distinct
    intro item member
    obtain ⟨rest, whole⟩ := List.isPrefixOf_iff_prefix.mp (List.mem_filter.mp member).2
    show path ++ item.1.drop path.length = item.1
    rw [← whole, List.drop_left]

/-- Put the files of another tree below a path. -/
def graft (t : FileTree) (path : FilePath) (other : FileTree) : FileTree :=
  other.items.foldl (fun t item => t.insert (path ++ item.1) item.2) t

/-- Put another tree in the place of what is at the path. -/
def replace (t : FileTree) (path : FilePath) (other : FileTree) : FileTree := (t.remove path).graft path other

theorem get?_remove (t : FileTree) (path other : FilePath) :
    (t.remove path).get? other = if path <+: other then none else t.get? other := by
  rw [remove, Dict.get?_restrict]
  by_cases inside : path <+: other
  · rw [if_pos inside, List.isPrefixOf_iff_prefix.mpr inside, Bool.not_true, if_neg Bool.false_ne_true]
  · rw [if_neg inside, Bool.eq_false_iff.mpr (mt List.isPrefixOf_iff_prefix.mp inside), Bool.not_false, if_pos rfl]

theorem get?_below (t : FileTree) (path rest : FilePath) : (t.below path).get? rest = t.get? (path ++ rest) := by
  apply Option.ext
  intro content
  rw [Dict.get?_eq_some_iff, Dict.get?_eq_some_iff]
  constructor
  · intro member
    obtain ⟨⟨whole, bytes⟩, inside, same⟩ := List.mem_map.mp member
    obtain ⟨inside, starts⟩ := List.mem_filter.mp inside
    obtain ⟨tail, rfl⟩ := List.isPrefixOf_iff_prefix.mp starts
    cases same
    rw [List.drop_left]
    exact inside
  · intro member
    refine List.mem_map.mpr ⟨(path ++ rest, content), List.mem_filter.mpr ⟨member, ?_⟩, ?_⟩
    · exact List.isPrefixOf_iff_prefix.mpr (List.prefix_append path rest)
    · rw [List.drop_left]

theorem get?_graft_of_not_prefix (t : FileTree) {path other : FilePath} (outside : ¬ path <+: other) (sub : FileTree) :
    (t.graft path sub).get? other = t.get? other := by
  unfold graft
  generalize sub.items = items
  induction items generalizing t with
  | nil => rfl
  | cons item items ih =>
      rw [List.foldl_cons, ih, Dict.get?_insert, if_neg]
      rintro rfl
      exact outside (List.prefix_append _ _)

/-- Into an empty place a tree is copied as it is. -/
theorem get?_graft (t : FileTree) (path rest : FilePath) (sub : FileTree) (empty : t.get? (path ++ rest) = none) :
    (t.graft path sub).get? (path ++ rest) = sub.get? rest := by
  obtain ⟨items, nodup⟩ := sub
  have looked : ∀ (t : FileTree) (items : List (FilePath × List UInt8)), (items.map Prod.fst).Nodup →
      (items.foldl (fun (t : FileTree) item => t.insert (path ++ item.1) item.2) t).get? (path ++ rest) =
        ((items.find? fun item => item.1 = rest).map Prod.snd).or (t.get? (path ++ rest)) := by
    intro t items nodup
    induction items generalizing t with
    | nil => rfl
    | cons item items ih =>
        obtain ⟨new, nodup⟩ := List.nodup_cons.mp nodup
        rw [List.foldl_cons, ih _ nodup, Dict.get?_insert]
        by_cases here : item.1 = rest
        · have later : items.find? (fun item => item.1 = rest) = none := by
            rw [List.find?_eq_none]
            intro other member
            simp only [decide_eq_true_eq]
            rintro rfl
            exact new (here ▸ List.mem_map_of_mem member)
          rw [List.find?_cons_of_pos (by simpa using here), later, if_pos (by rw [here])]
          rfl
        · rw [List.find?_cons_of_neg (by simpa using here), if_neg]
          intro same
          exact here (List.append_cancel_left same).symm
  show (items.foldl _ t).get? _ = _
  rw [looked t items nodup, empty, Option.or_none]
  rfl

/-- What is put in the place of something else is there as it was given. -/
theorem get?_below_replace (t : FileTree) (path rest : FilePath) (sub : FileTree) :
    ((t.replace path sub).below path).get? rest = sub.get? rest := by
  rw [get?_below, replace, get?_graft]
  rw [get?_remove, if_pos (List.prefix_append _ _)]

/-- What is elsewhere stays. -/
theorem get?_replace_of_not_prefix (t : FileTree) {path other : FilePath} (outside : ¬ path <+: other) (sub : FileTree) :
    (t.replace path sub).get? other = t.get? other := by
  rw [replace, get?_graft_of_not_prefix _ outside, get?_remove, if_neg outside]

/-- Nothing is left below what was removed. -/
theorem not_isPresent_remove {t : FileTree} {path other : FilePath} (inside : path <+: other) :
    (t.remove path).isPresent other = false := by
  rw [isPresent, List.any_eq_false]
  intro whole member
  have here : ((t.remove path).get? whole).isSome := Dict.mem_keys_iff.mp member
  rw [List.isPrefixOf_iff_prefix]
  intro starts
  rw [get?_remove, if_pos (inside.trans starts)] at here
  cases here

/-- Nothing lies below a path that is no directory. -/
theorem get?_of_not_isDirectory {t : FileTree} {path : FilePath} {name : String} {rest : FilePath}
    (leaf : t.isDirectory path = false) : t.get? (path ++ name :: rest) = none := by
  cases here : t.get? (path ++ name :: rest) with
  | none => rfl
  | some content =>
      have member : path ++ name :: rest ∈ t.keys := Dict.mem_keys_iff.mpr (by rw [here]; rfl)
      have apart := (List.any_eq_false.mp (Bool.or_eq_false_iff.mp leaf).2) _ member
      simp at apart

theorem isPresent_iff {t : FileTree} {path : FilePath} :
    t.isPresent path = true ↔ ∃ rest, (t.get? (path ++ rest)).isSome = true := by
  simp only [isPresent, List.any_eq_true, List.isPrefixOf_iff_prefix, Dict.mem_keys_iff]
  constructor
  · rintro ⟨whole, found, rest, rfl⟩
    exact ⟨rest, found⟩
  · rintro ⟨rest, found⟩
    exact ⟨path ++ rest, found, List.prefix_append _ _⟩

theorem isDirectory_of_isPresent {t : FileTree} {path : FilePath} (present : t.isPresent path = true)
    (leafless : t.get? path = none) : t.isDirectory path = true := by
  obtain ⟨other, member, starts⟩ := List.any_eq_true.mp present
  refine Bool.or_eq_true_iff.mpr (Or.inr (List.any_eq_true.mpr ⟨other, member, ?_⟩))
  rw [Bool.and_eq_true, decide_eq_true_eq]
  refine ⟨?_, starts⟩
  rintro rfl
  have found := Dict.mem_keys_iff.mp member
  rw [leafless] at found
  cases found

/-- A file elsewhere makes no directory. -/
theorem isDirectory_insert {t : FileTree} {path other : FilePath} (apart : ¬ path <+: other) (content : List UInt8) :
    FileTree.isDirectory (t.insert other content) path = t.isDirectory path := by
  have elsewhere : path.isPrefixOf other = false := Bool.eq_false_iff.mpr (mt List.isPrefixOf_iff_prefix.mp apart)
  unfold isDirectory
  rw [Dict.keys_insert]
  split
  · rfl
  · rw [List.any_append, List.any_cons, List.any_nil, elsewhere, Bool.and_false, Bool.or_false, Bool.or_false]

end FileTree

end SentinelEdge.Foundation
