import MavBridge.Store.FileSystem
import Mathlib.Data.List.Basic
import Mathlib.Data.List.Induction
import Mathlib.Data.List.TakeWhile

/-!
# Where paths lead

A name leads into a directory, to the directory above or nowhere.  A path that ends in the name of a
file leads to that name in the place of its parent.
-/

namespace MavBridge.FilePath

variable {path base names : FilePath} {name : String}

/-! ## Following names -/

theorem enter_of_proper (proper : name ≠ ".." ∧ name ≠ ".") : base.enter name = base ++ [name] := by
  rw [enter, if_neg proper.1, if_neg proper.2]

theorem enter_dot (base : FilePath) : base.enter "." = base := by
  rw [enter, if_neg (by decide), if_pos rfl]

@[simp]
theorem follow_nil (base : FilePath) : base.follow [] = base := rfl

@[simp]
theorem follow_cons (base : FilePath) (name : String) (names : FilePath) :
    base.follow (name :: names) = (base.enter name).follow names := rfl

theorem follow_append (base first second : FilePath) :
    base.follow (first ++ second) = (base.follow first).follow second := List.foldl_append

theorem place_append (path names : FilePath) :
    (path ++ names).place = path.place.follow names := follow_append [] path names

theorem place_concat (path : FilePath) (proper : name ≠ ".." ∧ name ≠ ".") :
    (path ++ [name]).place = path.place ++ [name] :=
  (path.place_append [name]).trans (enter_of_proper proper)

theorem follow_dots (base : FilePath) (dots : ∀ name ∈ names, name = ".") :
    base.follow names = base := by
  induction names with
  | nil => rfl
  | cons name names inductionHypothesis =>
      rw [List.forall_mem_cons] at dots
      rw [follow_cons, dots.1, enter_dot, inductionHypothesis dots.2]

/-- Names that never lead up lead below where they start. -/
theorem prefix_enter (base : FilePath) (down : name ≠ "..") : base <+: base.enter name := by
  rw [enter, if_neg down]
  split
  · exact List.prefix_rfl
  · exact List.prefix_append base [name]

theorem prefix_follow (base : FilePath) (down : ".." ∉ names) : base <+: base.follow names := by
  induction names generalizing base with
  | nil => exact List.prefix_rfl
  | cons name names inductionHypothesis =>
      rw [List.mem_cons, not_or] at down
      exact (prefix_enter base (Ne.symm down.1)).trans (inductionHypothesis _ down.2)

/-! ## The end of a path -/

/-- Only slashes are trimmed away. -/
theorem exists_slashes (path : FilePath) :
    ∃ dots, path = path.trimmed ++ dots ∧ ∀ name ∈ dots, name = "." := by
  refine ⟨(path.reverse.takeWhile (· == ".")).reverse, ?_, ?_⟩
  · rw [trimmed, ← List.reverse_append, List.takeWhile_append_dropWhile, List.reverse_reverse]
  · intro name membership
    rw [List.mem_reverse] at membership
    simpa using List.mem_takeWhile_imp membership

theorem place_trimmed (path : FilePath) : path.trimmed.place = path.place := by
  rcases path.exists_slashes with ⟨dots, whole, stay⟩
  conv_rhs => rw [whole, place_append, follow_dots _ stay]

theorem trimmed_concat (path : FilePath) (proper : name ≠ ".") :
    (path ++ [name]).trimmed = path ++ [name] := by
  rw [trimmed, List.reverse_concat, List.dropWhile_cons_of_neg (by simpa using proper),
    List.reverse_cons, List.reverse_reverse]

theorem parent_concat (path : FilePath) (proper : name ≠ ".") :
    (path ++ [name]).parent = path := by
  rw [parent, trimmed_concat path proper, List.dropLast_concat]

theorem getLast?_trimmed_ne_dot (path : FilePath) : path.trimmed.getLast? ≠ some "." := by
  rw [trimmed, List.getLast?_reverse]
  intro dot
  have kept := List.head?_dropWhile_not (· == ".") path.reverse
  rw [dot] at kept
  simp at kept

/-- A path with the name of a file ends in it, with slashes behind. -/
theorem trimmed_of_fileName? (named : path.fileName? = some name) :
    path.trimmed = path.parent ++ [name] ∧ name ≠ ".." ∧ name ≠ "." := by
  rw [fileName?, Option.filter_eq_some_iff] at named
  rcases named with ⟨last, notAbove⟩
  refine ⟨?_, of_decide_eq_true notAbove, ?_⟩
  · rw [parent, List.dropLast_append_getLast? name last]
  · rintro rfl
    exact path.getLast?_trimmed_ne_dot last

theorem place_of_fileName? (named : path.fileName? = some name) :
    path.place = path.parent.place ++ [name] := by
  rcases trimmed_of_fileName? named with ⟨ending, proper⟩
  rw [← place_trimmed, ending, place_concat _ proper]

/-- Behind the name of a file there are only slashes. -/
theorem exists_dots (named : path.fileName? = some name) :
    ∃ dots, path = path.parent ++ name :: dots ∧ ∀ name ∈ dots, name = "." := by
  rcases path.exists_slashes with ⟨dots, whole, stay⟩
  refine ⟨dots, ?_, stay⟩
  rw [(trimmed_of_fileName? named).1] at whole
  rwa [← List.append_cons] at whole

theorem exists_dropLast (named : path.fileName? = some name) :
    ∃ dots, path.dropLast = path.parent ++ (name :: dots).dropLast ∧ ∀ name ∈ dots, name = "." := by
  rcases exists_dots named with ⟨dots, whole, stay⟩
  refine ⟨dots, ?_, stay⟩
  conv_lhs => rw [whole, List.dropLast_append_cons]

theorem fileName?_concat (path : FilePath) (proper : name ≠ ".." ∧ name ≠ ".") :
    (path ++ [name]).fileName? = some name := by
  rw [fileName?, trimmed_concat path proper.2, List.getLast?_concat, Option.filter_some,
    if_pos (decide_eq_true proper.1)]

theorem parent_subset (path : FilePath) : path.parent ⊆ path := by
  rcases path.exists_slashes with ⟨dots, ending, -⟩
  intro name membership
  rw [ending]
  exact List.mem_append_left _ (List.dropLast_subset _ membership)

/-- Directories on the way to a path that never leads up are not where it leads. -/
theorem place_ne_of_prefix (named : path.fileName? = some name) (down : ".." ∉ path)
    {front : FilePath} (before : front <+: path.parent) : front.place ≠ path.place := by
  rcases before with ⟨back, whole⟩
  have downBack : ".." ∉ back := fun above =>
    down (path.parent_subset (whole ▸ List.mem_append_right front above))
  have shorter := (prefix_follow front.place downBack).length_le
  rw [← place_append, whole] at shorter
  intro same
  rw [same, place_of_fileName? named, List.length_append, List.length_singleton] at shorter
  omega

end MavBridge.FilePath
