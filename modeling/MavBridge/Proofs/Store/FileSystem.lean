import MavBridge.Proofs.Store.Path
import MavBridge.Proofs.Text.Utf8

/-!
# What stands where after a change

A change at one place leaves the others as they were.  A path that can be followed can still be
followed as long as no directory goes, and making directories changes nothing about a path unless
one was missing on the way.
-/

namespace MavBridge

namespace FileSystem

variable {files after other : FileSystem} {path base place names : FilePath} {name : String}
  {content : Bytes} {made : Bool}

theorem node?_put_self (named : place ≠ []) (node : FileNode) :
    (files.put place node).node? place = some node := by
  simp [node?, put, named]

theorem find?_filter_of_ne (nodes : List (FilePath × FileNode)) {elsewhere : FilePath}
    (different : elsewhere ≠ place) :
    (nodes.filter fun entry => entry.1 != place).find? (fun entry => entry.1 == elsewhere) =
      nodes.find? fun entry => entry.1 == elsewhere := by
  rw [List.find?_filter]
  congr 1
  funext entry
  by_cases here : entry.1 = elsewhere
  · simp [here, different]
  · simp [here]

theorem node?_put_of_ne {elsewhere : FilePath} (different : elsewhere ≠ place) (node : FileNode) :
    (files.put place node).node? elsewhere = files.node? elsewhere := by
  have notHere : (place == elsewhere) = false := by simpa using fun same => different same.symm
  simp only [node?, put, List.find?_cons, notHere, find?_filter_of_ne files.nodes different]

theorem node?_remove_of_ne {elsewhere : FilePath} (different : elsewhere ≠ place) :
    (files.remove place).node? elsewhere = files.node? elsewhere := by
  simp only [node?, remove, find?_filter_of_ne files.nodes different]

theorem node?_remove_self (named : place ≠ []) : (files.remove place).node? place = none := by
  simp [node?, remove, named, List.find?_filter]

/-- The root is always there. -/
theorem ne_nil_of_node? (free : files.node? place ≠ some .directory) : place ≠ [] := by
  rintro rfl
  exact free rfl

theorem ne_nil_of_absent (absent : files.node? place = none) : place ≠ [] := by
  rintro rfl
  cases absent

/-! ## Following a path -/

theorem pass_eq_ok : files.pass base name = .ok () ↔
    name.utf8ByteSize ≤ nameLimit ∧ files.node? (base.enter name) = some .directory := by
  rw [pass, ← Nat.not_lt]
  split
  next long => simp [long]
  next short =>
    split
    next directory => simp [short, directory]
    next content file => simp [file]
    next absent => simp [absent]

theorem walk_cons_eq_ok : files.walk base (name :: names) = .ok () ↔
    files.pass base name = .ok () ∧ files.walk (base.enter name) names = .ok () := by
  rw [walk]
  cases files.pass base name with
  | error kind => simp
  | ok => simp

theorem node?_of_pass (missing : files.pass base name = .error .notFound) :
    files.node? (base.enter name) = none := by
  unfold pass at missing
  split at missing
  next => cases missing
  next =>
    split at missing
    next => cases missing
    next => cases missing
    next absent => exact absent

theorem walk_append_of_error {kind : IoKind} (stuck : files.walk base names = .error kind)
    (more : FilePath) : files.walk base (names ++ more) = .error kind := by
  induction names generalizing base with
  | nil => cases stuck
  | cons name names inductionHypothesis =>
      rw [walk] at stuck
      rw [List.cons_append, walk]
      cases passed : files.pass base name with
      | error cause =>
          rw [passed] at stuck
          exact stuck
      | ok =>
          rw [passed] at stuck
          exact inductionHypothesis stuck

theorem walk_append_of_ok (passed : files.walk base names = .ok ()) (more : FilePath) :
    files.walk base (names ++ more) = files.walk (base.follow names) more := by
  induction names generalizing base with
  | nil => rfl
  | cons name names inductionHypothesis =>
      rw [walk_cons_eq_ok] at passed
      rw [List.cons_append, walk, passed.1, FilePath.follow_cons, ← inductionHypothesis passed.2]

/-- Only what the names lead to matters. -/
theorem walk_congr (same : ∀ front, front <+: names → front ≠ [] →
    files.node? (base.follow front) = other.node? (base.follow front)) :
    files.walk base names = other.walk base names := by
  induction names generalizing base with
  | nil => rfl
  | cons name names inductionHypothesis =>
      have here : files.node? (base.enter name) = other.node? (base.enter name) :=
        same [name] (List.cons_prefix_cons.mpr ⟨rfl, List.nil_prefix⟩) (List.cons_ne_nil _ _)
      have later : files.walk (base.enter name) names = other.walk (base.enter name) names := by
        apply inductionHypothesis
        intro front before _
        exact same (name :: front) (List.cons_prefix_cons.mpr ⟨rfl, before⟩)
          (List.cons_ne_nil _ _)
      rw [walk, walk, pass, pass, here, later]

theorem directory_of_walk (start : files.node? base = some .directory)
    (passed : files.walk base names = .ok ()) :
    files.node? (base.follow names) = some .directory := by
  induction names generalizing base with
  | nil => exact start
  | cons name names inductionHypothesis =>
      rw [walk_cons_eq_ok, pass_eq_ok] at passed
      exact inductionHypothesis passed.1.2 passed.2

theorem check_concat (files : FileSystem) (path : FilePath) (name : String) :
    files.check (path ++ [name]) =
      match files.walk [] path with
      | .error kind => .error kind
      | .ok () => if nameLimit < name.utf8ByteSize then .error .invalidFilename else .ok () := by
  cases walked : files.walk [] path with
  | error kind => simp only [check, List.getLast?_concat, List.dropLast_concat, walked]
  | ok => simp only [check, List.getLast?_concat, List.dropLast_concat, walked]

theorem check_concat_eq_ok : files.check (path ++ [name]) = .ok () ↔
    files.walk [] path = .ok () ∧ name.utf8ByteSize ≤ nameLimit := by
  rw [check_concat, ← Nat.not_lt]
  cases files.walk [] path with
  | error kind => simp
  | ok => simp

theorem check_of_stuck {kind : IoKind} (named : path ≠ [])
    (stuck : files.walk [] path.dropLast = .error kind) : files.check path = .error kind := by
  rw [check, List.getLast?_eq_some_getLast named, stuck]

theorem check_congr (same : files.walk [] path.dropLast = other.walk [] path.dropLast) :
    files.check path = other.check path := by
  rw [check, check, same]

theorem exists_of_check (checked : files.check path = .ok ()) :
    ∃ front name, path = front ++ [name] := by
  cases path using List.reverseRecOn with
  | nil => cases checked
  | append_singleton front name => exact ⟨front, name, rfl⟩

/-- No directory has gone. -/
def Keeps (files after : FileSystem) : Prop :=
  ∀ place, files.node? place = some .directory → after.node? place = some .directory

namespace Keeps

theorem put (free : files.node? place ≠ some .directory) (node : FileNode) :
    Keeps files (files.put place node) := by
  intro elsewhere directory
  rwa [node?_put_of_ne]
  rintro rfl
  exact free directory

theorem remove (free : files.node? place ≠ some .directory) : Keeps files (files.remove place) := by
  intro elsewhere directory
  rwa [node?_remove_of_ne]
  rintro rfl
  exact free directory

theorem walk (keeps : Keeps files after) (passed : files.walk base names = .ok ()) :
    after.walk base names = .ok () := by
  induction names generalizing base with
  | nil => rfl
  | cons name names inductionHypothesis =>
      rw [walk_cons_eq_ok, pass_eq_ok] at passed ⊢
      exact ⟨⟨passed.1.1, keeps _ passed.1.2⟩, inductionHypothesis passed.2⟩

theorem check (keeps : Keeps files after) (checked : files.check path = .ok ()) :
    after.check path = .ok () := by
  rcases exists_of_check checked with ⟨front, name, rfl⟩
  rw [check_concat_eq_ok] at checked ⊢
  exact ⟨keeps.walk checked.1, checked.2⟩

end Keeps

/-! ## Operations that succeed -/

theorem read_eq_ok : files.read path = .ok content ↔
    files.check path = .ok () ∧ files.node? path.place = some (.file content) := by
  unfold read
  constructor
  · intro found
    split at found
    next => cases found
    next checked =>
      split at found
      next content here =>
        cases found
        exact ⟨checked, here⟩
      next => cases found
      next => cases found
  · rintro ⟨checked, here⟩
    rw [checked, here]

theorem checkFile_eq_ok {slash : IoKind} : files.checkFile path slash = .ok () ↔
    path.trimmed = path ∧ files.check path = .ok () ∧
      files.node? path.place ≠ some .directory := by
  unfold checkFile
  split
  next slashes =>
    cases files.walk [] path.parent with
    | error kind => simp [slashes]
    | ok => simp [slashes]
  next none =>
    rw [not_not] at none
    cases files.check path with
    | error kind => simp
    | ok => simp [none]

theorem write_eq_ok (written : files.write path content = (.ok (), after)) :
    files.check path = .ok () ∧ files.node? path.place ≠ some .directory ∧
      after = files.put path.place (.file content) := by
  unfold write at written
  split at written
  next => cases written
  next allowed =>
    cases written
    have facts := checkFile_eq_ok.mp allowed
    exact ⟨facts.2.1, facts.2.2, rfl⟩

/-- A file that is put where a path leads is read there. -/
theorem read_put (checked : files.check path = .ok ())
    (free : files.node? path.place ≠ some .directory) (content : Bytes) :
    (files.put path.place (.file content)).read path = .ok content := by
  rw [read_eq_ok, node?_put_self (ne_nil_of_node? free)]
  exact ⟨(Keeps.put free _).check checked, rfl⟩

/-- What was written is what is read. -/
theorem read_of_write (written : files.write path content = (.ok (), after)) :
    after.read path = .ok content := by
  obtain ⟨checked, free, rfl⟩ := write_eq_ok written
  exact read_put checked free content

theorem readText_of_read {text : List Char} (read : files.read path = .ok (Utf8.encode text)) :
    files.readText path = .ok text := by
  rw [readText, read]
  simp only [Utf8.decode?_encode]

theorem rename_eq_ok {source target : FilePath}
    (renamed : files.rename source target = (.ok (), after)) :
    ∃ content, files.read source = .ok content ∧ files.check target = .ok () ∧
      files.node? target.place ≠ some .directory ∧
      after = (files.remove source.place).put target.place (.file content) := by
  unfold rename at renamed
  split at renamed
  next => cases renamed
  next => cases renamed
  next content found allowed =>
    cases renamed
    have facts := checkFile_eq_ok.mp allowed
    exact ⟨content, found, facts.2.1, facts.2.2, rfl⟩

/-! ## Directories that are made -/

/-- What stands somewhere stays there while directories are made. -/
theorem node?_makeDirectories_of_some {node : FileNode} (here : files.node? place = some node) :
    (files.makeDirectories made base names).2.node? place = some node := by
  fun_induction makeDirectories made files base names with
  | case1 | case2 | case4 => exact here
  | case3 made files base name rest _ directory inductionHypothesis =>
      exact inductionHypothesis here
  | case5 made files base name rest _ free inductionHypothesis =>
      apply inductionHypothesis
      rwa [node?_put_of_ne]
      rintro rfl
      rw [here] at free
      cases free

/-- Directories are made nowhere but on the way. -/
theorem node?_makeDirectories_of_apart
    (apart : ∀ front, front <+: names → place ≠ base.follow front) :
    (files.makeDirectories made base names).2.node? place = files.node? place := by
  fun_induction makeDirectories made files base names with
  | case1 | case2 | case4 => rfl
  | case3 made files base name rest _ directory inductionHypothesis =>
      apply inductionHypothesis
      intro front before
      exact apart (name :: front) (List.cons_prefix_cons.mpr ⟨rfl, before⟩)
  | case5 made files base name rest _ free inductionHypothesis =>
      rw [inductionHypothesis]
      · apply node?_put_of_ne
        exact apart [name] (List.cons_prefix_cons.mpr ⟨rfl, List.nil_prefix⟩)
      · intro front before
        exact apart (name :: front) (List.cons_prefix_cons.mpr ⟨rfl, before⟩)

/-- Directories that have been made lead to the end. -/
theorem walk_makeDirectories (done : (files.makeDirectories made base names).1 = .ok ()) :
    (files.makeDirectories made base names).2.walk base names = .ok () := by
  fun_induction makeDirectories made files base names with
  | case1 => rfl
  | case2 => cases done
  | case3 made files base name rest short directory inductionHypothesis =>
      rw [walk_cons_eq_ok, pass_eq_ok]
      exact ⟨⟨Nat.not_lt.mp short, node?_makeDirectories_of_some directory⟩,
        inductionHypothesis done⟩
  | case4 => cases done
  | case5 made files base name rest short free inductionHypothesis =>
      have directory : (files.put (base.enter name) .directory).node? (base.enter name) =
          some .directory := node?_put_self (ne_nil_of_absent free) _
      rw [walk_cons_eq_ok, pass_eq_ok]
      exact ⟨⟨Nat.not_lt.mp short, node?_makeDirectories_of_some directory⟩,
        inductionHypothesis done⟩

/-- Directories are made only where one is missing. -/
theorem makeDirectories_eq_self (there : files.walk base names ≠ .error .notFound) :
    (files.makeDirectories made base names).2 = files := by
  fun_induction makeDirectories made files base names with
  | case1 | case2 | case4 => rfl
  | case3 made files base name rest short directory inductionHypothesis =>
      apply inductionHypothesis
      rwa [walk, pass_eq_ok.mpr ⟨Nat.not_lt.mp short, directory⟩] at there
  | case5 made files base name rest short free inductionHypothesis =>
      refine absurd ?_ there
      rw [walk, pass, if_neg short, free]

/-- Names that are not too long, and none of which leads to a file, become a way of directories. -/
theorem makeDirectories_of_clear (short : ∀ name ∈ names, name.utf8ByteSize ≤ nameLimit)
    (clear : ∀ front content, front <+: names →
      files.node? (base.follow front) ≠ some (.file content)) :
    (files.makeDirectories made base names).1 = .ok () := by
  fun_induction makeDirectories made files base names with
  | case1 => rfl
  | case2 made files base name rest long =>
      exact absurd long (Nat.not_lt.mpr (short name List.mem_cons_self))
  | case3 made files base name rest _ directory inductionHypothesis =>
      apply inductionHypothesis
      · exact fun other among => short other (List.mem_cons_of_mem _ among)
      · intro front content before
        exact clear (name :: front) content (List.cons_prefix_cons.mpr ⟨rfl, before⟩)
  | case4 made files base name rest _ content file =>
      exact absurd file (clear [name] content (List.cons_prefix_cons.mpr ⟨rfl, List.nil_prefix⟩))
  | case5 made files base name rest _ free inductionHypothesis =>
      apply inductionHypothesis
      · exact fun other among => short other (List.mem_cons_of_mem _ among)
      · intro front content before
        by_cases here : (base.enter name).follow front = base.enter name
        · rw [here, node?_put_self (ne_nil_of_absent free)]
          exact nofun
        · rw [node?_put_of_ne here]
          exact clear (name :: front) content (List.cons_prefix_cons.mpr ⟨rfl, before⟩)

/-- Everything is still there, and only directories are new. -/
structure Extended (files after : FileSystem) : Prop where
  kept {place : FilePath} {node : FileNode} :
    files.node? place = some node → after.node? place = some node
  added {place : FilePath} :
    files.node? place = none → after.node? place = none ∨ after.node? place = some .directory

theorem extended_makeDirectories (made : Bool) (files : FileSystem) (base names : FilePath) :
    Extended files (files.makeDirectories made base names).2 where
  kept := node?_makeDirectories_of_some
  added {place} absent := by
    fun_induction makeDirectories made files base names with
    | case1 | case2 | case4 => exact .inl absent
    | case3 made files base name rest _ directory inductionHypothesis =>
        exact inductionHypothesis absent
    | case5 made files base name rest _ free inductionHypothesis =>
        by_cases here : place = base.enter name
        · -- The directory that is made now stays while the others are made.
          have directory : (files.put place .directory).node? place = some .directory :=
            node?_put_self (ne_nil_of_absent absent) _
          rw [← here]
          exact .inr (node?_makeDirectories_of_some directory)
        · apply inductionHypothesis
          rwa [node?_put_of_ne here]

/-! ## Trees -/

/-- Whatever is there is in a directory. -/
def Rooted (files : FileSystem) : Prop :=
  ∀ place, files.node? place ≠ none → files.node? place.dropLast = some .directory

namespace Rooted

theorem empty : ({} : FileSystem).Rooted := by
  intro place here
  cases place with
  | nil => rfl
  | cons name rest => exact absurd rfl here

theorem ne_none_of_append (rooted : files.Rooted) {below : FilePath}
    (here : files.node? (base ++ below) ≠ none) : files.node? base ≠ none := by
  induction below using List.reverseRecOn with
  | nil => rwa [List.append_nil] at here
  | append_singleton below name inductionHypothesis =>
      have above := rooted _ here
      rw [← List.append_assoc, List.dropLast_concat] at above
      apply inductionHypothesis
      rw [above]
      exact Option.some_ne_none _

/-- From a directory names lead to something below it, or stay, or lead to the directory above. -/
theorem enter_cases (rooted : files.Rooted) (start : files.node? base = some .directory)
    (name : String) : files.node? (base.enter name) = some .directory ∨
      base.enter name = base ++ [name] := by
  unfold FilePath.enter
  split
  · exact .inl (rooted base (by simp [start]))
  · split
    · exact .inl start
    · exact .inr rfl

theorem put (rooted : files.Rooted) (parent : files.node? place.dropLast = some .directory)
    (free : files.node? place ≠ some .directory) (node : FileNode) :
    (files.put place node).Rooted := by
  intro elsewhere here
  by_cases same : elsewhere = place
  · have above : place.dropLast ≠ place := by
      intro unchanged
      rw [unchanged] at parent
      exact free parent
    rw [same, node?_put_of_ne above, parent]
  · rw [node?_put_of_ne same] at here
    have inDirectory := rooted elsewhere here
    rwa [node?_put_of_ne]
    intro within
    rw [within] at inDirectory
    exact free inDirectory

theorem remove (rooted : files.Rooted) (free : files.node? place ≠ some .directory) :
    (files.remove place).Rooted := by
  intro elsewhere here
  have kept : elsewhere ≠ place := by
    rintro rfl
    exact here (node?_remove_self (ne_nil_of_node? free))
  rw [node?_remove_of_ne kept] at here
  have inDirectory := rooted elsewhere here
  rwa [node?_remove_of_ne]
  intro within
  rw [within] at inDirectory
  exact free inDirectory

theorem makeDirectories (rooted : files.Rooted) (start : files.node? base = some .directory)
    (made : Bool) (names : FilePath) : (files.makeDirectories made base names).2.Rooted := by
  fun_induction FileSystem.makeDirectories made files base names with
  | case1 | case2 | case4 => exact rooted
  | case3 made files base name rest _ directory inductionHypothesis =>
      exact inductionHypothesis rooted directory
  | case5 made files base name rest _ free inductionHypothesis =>
      have missing : files.node? (base.enter name) ≠ some .directory := by simp [free]
      have below : base.enter name = base ++ [name] :=
        (rooted.enter_cases start name).resolve_left missing
      apply inductionHypothesis
      · apply rooted.put _ missing
        rwa [below, List.dropLast_concat]
      · exact node?_put_self (ne_nil_of_node? missing) _

/-- Where a path leads that can be followed there is something in a directory, or a directory. -/
theorem parent_of_check (rooted : files.Rooted) (checked : files.check path = .ok ())
    (free : files.node? path.place ≠ some .directory) :
    files.node? path.place.dropLast = some .directory := by
  rcases exists_of_check checked with ⟨front, name, rfl⟩
  have passed := (check_concat_eq_ok.mp checked).1
  have start : files.node? (FilePath.place front) = some .directory :=
    directory_of_walk rfl passed
  rw [FilePath.place_append, FilePath.follow_cons, FilePath.follow_nil] at free ⊢
  rw [(rooted.enter_cases start name).resolve_left free, List.dropLast_concat]
  exact start

end Rooted

/-- Nothing is below a directory that is missing. -/
theorem Rooted.absent_of_walk (rooted : files.Rooted) (down : ".." ∉ names)
    (missing : files.walk base names = .error .notFound) :
    files.node? (base.follow names) = none := by
  induction names generalizing base with
  | nil => cases missing
  | cons name names inductionHypothesis =>
      rw [List.mem_cons, not_or] at down
      rw [walk] at missing
      cases passed : files.pass base name with
      | ok =>
          rw [passed] at missing
          exact inductionHypothesis down.2 missing
      | error kind =>
          rw [passed] at missing
          cases missing
          rcases FilePath.prefix_follow (base.enter name) down.2 with ⟨below, lower⟩
          by_contra something
          rw [FilePath.follow_cons, ← lower] at something
          exact rooted.ne_none_of_append something (node?_of_pass passed)

/-! ## A path in new directories -/

/-- Names lead to a directory, to something missing or to a long name, but to no file. -/
def MeetsNoFile (files : FileSystem) (base names : FilePath) : Prop :=
  files.walk base names = .ok () ∨ files.walk base names = .error .notFound ∨
    files.walk base names = .error .invalidFilename ∧
      ∃ name ∈ names, nameLimit < name.utf8ByteSize

theorem MeetsNoFile.cons
    (clear : ∀ content, files.node? (base.enter name) ≠ some (.file content))
    (later : files.MeetsNoFile (base.enter name) names) :
    files.MeetsNoFile base (name :: names) := by
  unfold MeetsNoFile
  by_cases long : nameLimit < name.utf8ByteSize
  · have refused : files.pass base name = .error .invalidFilename := if_pos long
    rw [walk, refused]
    exact .inr (.inr ⟨rfl, name, List.mem_cons_self, long⟩)
  · rw [walk, pass, if_neg long]
    cases here : files.node? (base.enter name) with
    | none => exact .inr (.inl rfl)
    | some node =>
        cases node with
        | file content => exact absurd here (clear content)
        | directory =>
            refine later.imp_right (Or.imp_right ?_)
            rintro ⟨refused, other, among, tooLong⟩
            exact ⟨refused, other, List.mem_cons_of_mem _ among, tooLong⟩

/-- Below a place without files, names that never lead up meet none. -/
theorem meetsNoFile_of_clear (down : ".." ∉ names)
    (clear : ∀ below content, files.node? (base ++ below) ≠ some (.file content)) :
    files.MeetsNoFile base names := by
  induction names generalizing base with
  | nil => exact .inl rfl
  | cons name names inductionHypothesis =>
      rw [List.mem_cons, not_or] at down
      rcases FilePath.prefix_enter base (Ne.symm down.1) with ⟨step, lower⟩
      have clearBelow (below : FilePath) (content : Bytes) :
          files.node? (base.enter name ++ below) ≠ some (.file content) := by
        rw [← lower, List.append_assoc]
        exact clear _ content
      apply MeetsNoFile.cons
      · rw [← lower]
        exact clear step
      · exact inductionHypothesis down.2 clearBelow

/-- Names that never lead up, and led to something missing, meet no file in new directories. -/
theorem Extended.meetsNoFile (extended : Extended files after) (rooted : files.Rooted)
    (start : files.node? base = some .directory) (down : ".." ∉ names)
    (missing : files.walk base names = .error .notFound) : after.MeetsNoFile base names := by
  induction names generalizing base with
  | nil => cases missing
  | cons name names inductionHypothesis =>
      have downLater : ".." ∉ names := fun above => down (List.mem_cons_of_mem _ above)
      cases passed : files.pass base name with
      | ok =>
          have there := (pass_eq_ok.mp passed).2
          rw [walk, passed] at missing
          apply MeetsNoFile.cons
          · rw [extended.kept there]
            exact nofun
          · exact inductionHypothesis there downLater missing
      | error kind =>
          rw [walk, passed] at missing
          cases missing
          have absent := node?_of_pass passed
          have below : base.enter name = base ++ [name] :=
            (rooted.enter_cases start name).resolve_left (by simp [absent])
          -- Nothing was below the missing directory, so no file is below the new one.
          have clear (step : FilePath) (content : Bytes) :
              after.node? (base.enter name ++ step) ≠ some (.file content) := by
            have nothing : files.node? (base.enter name ++ step) = none := by
              by_contra something
              exact rooted.ne_none_of_append something absent
            rcases extended.added nothing with still | directory
            · simp [still]
            · simp [directory]
          apply MeetsNoFile.cons
          · simpa using clear []
          · exact meetsNoFile_of_clear downLater clear

/-- A path that meets no file is read as nothing, unless a name is too long. -/
theorem MeetsNoFile.read (meets : files.MeetsNoFile [] path.dropLast) (named : path ≠ [])
    (absent : files.node? path.place = none) :
    files.read path = .error .notFound ∨
      files.read path = .error .invalidFilename ∧
        ∃ name ∈ path, nameLimit < name.utf8ByteSize := by
  rcases meets with passed | missing | ⟨refused, name, among, long⟩
  · by_cases long : nameLimit < (path.getLast named).utf8ByteSize
    · have refused : files.check path = .error .invalidFilename := by
        rw [check, List.getLast?_eq_some_getLast named, passed]
        exact if_pos long
      refine .inr ⟨?_, path.getLast named, List.getLast_mem named, long⟩
      rw [FileSystem.read, refused]
    · have checked : files.check path = .ok () := by
        rw [check, List.getLast?_eq_some_getLast named, passed]
        exact if_neg long
      rw [FileSystem.read, checked, absent]
      exact .inl rfl
  · rw [FileSystem.read, check_of_stuck named missing]
    exact .inl rfl
  · refine .inr ⟨?_, name, List.dropLast_subset _ among, long⟩
    rw [FileSystem.read, check_of_stuck named refused]

end FileSystem

end MavBridge
