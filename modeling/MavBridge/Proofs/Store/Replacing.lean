import MavBridge.Proofs.Store.OutputFile

/-!
# Replacing the file of outputs

Wherever a replacement stops, all it leaves behind are directories and a file beside the old one.
Both change nothing about the old file, and almost nothing about how it is read.
-/

namespace MavBridge.OutputFile

open FileSystem (nameLimit Rooted)

variable {files after : FileSystem} {path : FilePath} {mishap : Mishap}
  {outputs : List OutputConfig} {fault : Fault}

/-! ## The file beside -/

section Beside

variable {name beside : String}

theorem Beside.place_ne (isBeside : Beside path name beside)
    (named : path.fileName? = some name) : path.place ≠ (temporary path).place := by
  intro same
  rw [FilePath.place_of_fileName? named, isBeside.place, List.append_cancel_left_eq] at same
  exact isBeside.ne (List.singleton_inj.mp same).symm

theorem temporary_ne (named : path.fileName? = some name) :
    temporary path ≠ path ∧ (temporary path).place ≠ path.place := by
  rcases exists_beside named with ⟨beside, isBeside⟩
  refine ⟨fun same => ?_, (isBeside.place_ne named).symm⟩
  exact isBeside.place_ne named (congrArg FilePath.place same).symm

/-- What is left when the list has been written beside its file, or has not. -/
inductive Staged (files : FileSystem) (path : FilePath) : FileSystem → Prop where
  | nothing : Staged files path files
  | file (content : Bytes) : files.check (temporary path) = .ok () →
      files.node? (temporary path).place ≠ some .directory →
      Staged files path (files.put (temporary path).place (.file content))

theorem Staged.node? (staged : Staged files path after) {place : FilePath}
    (elsewhere : place ≠ (temporary path).place) : after.node? place = files.node? place := by
  cases staged with
  | nothing => rfl
  | file content checked free => exact FileSystem.node?_put_of_ne elsewhere _

/-- A file beside another changes nothing about how that one is read. -/
theorem Staged.read (staged : Staged files path after) (named : path.fileName? = some name) :
    after.read path = files.read path := by
  rcases exists_beside named with ⟨beside, isBeside⟩
  have here := staged.node? (isBeside.place_ne named)
  rcases FilePath.exists_dropLast named with ⟨dots, whole, stay⟩
  have sameWalk : after.walk [] path.dropLast = files.walk [] path.dropLast := by
    cases staged with
    | nothing => rfl
    | file content checked free =>
        rw [isBeside.eq, FileSystem.check_concat_eq_ok] at checked
        have passed := (FileSystem.Keeps.put free (.file content)).walk checked.1
        rw [whole, FileSystem.walk_append_of_ok checked.1, FileSystem.walk_append_of_ok passed]
        -- Behind the parent there are only the name itself and slashes.
        apply FileSystem.walk_congr
        intro front before some
        cases front with
        | nil => exact absurd rfl some
        | cons first later =>
            have within := List.cons_prefix_cons.mp (before.trans (List.dropLast_prefix _))
            have still : ∀ name ∈ later, name = "." := fun name membership =>
              stay name (within.2.subset membership)
            have proper := (FilePath.trimmed_of_fileName? named).2
            have there : FilePath.follow (FilePath.follow [] path.parent) (first :: later) =
                path.place := by
              rw [FilePath.follow_cons, FilePath.follow_dots _ still, within.1,
                FilePath.enter_of_proper proper, FilePath.place_of_fileName? named]
              rfl
            rw [there]
            exact here
  rw [FileSystem.read, FileSystem.read, FileSystem.check_congr sameWalk, here]

end Beside

/-! ## What is left behind -/

/-- What a replacement may leave behind that fails: directories, where making them stopped, or what
it comes to with any mishap. -/
inductive LeftBehind (files : FileSystem) (path : FilePath) (outputs : List OutputConfig) :
    FileSystem → Prop where
  | directories (depth : Nat) :
      LeftBehind files path outputs (files.createDirectories [] (path.parent.take depth)).2
  | failed {mishap : Mishap} {fault : Fault} {after : FileSystem} :
      save mishap path outputs files = (.error fault, after) → LeftBehind files path outputs after

theorem prepare_snd (mishap : Mishap) (path : FilePath) (files : FileSystem) :
    ∃ depth, (prepare mishap path files).2 =
      (files.createDirectories [] (path.parent.take depth)).2 := by
  unfold prepare
  split
  next => exact ⟨0, rfl⟩
  next =>
    refine ⟨path.parent.length, ?_⟩
    rw [List.take_length]

theorem staged_write (files : FileSystem) (path : FilePath) (content : Bytes) :
    Staged files path (files.write (temporary path) content).2 := by
  unfold FileSystem.write
  split
  next => exact .nothing
  next allowed =>
    have facts := FileSystem.checkFile_eq_ok.mp allowed
    exact .file content facts.2.1 facts.2.2

theorem staged_stage (mishap : Mishap) (path : FilePath) (outputs : List OutputConfig)
    (files : FileSystem) : Staged files path (stage mishap path outputs files).2 := by
  simp only [stage]
  split
  next => exact .nothing
  next => exact .nothing
  next => exact staged_write files path _
  next => exact staged_write files path _

theorem commit_of_error (refused : commit mishap path files = (.error fault, after)) :
    after = files := by
  unfold commit FileSystem.rename at refused
  split at refused
  next => exact (congrArg Prod.snd refused).symm
  next =>
    split at refused
    next => exact (congrArg Prod.snd refused).symm
    next => exact (congrArg Prod.snd refused).symm
    next => cases refused

/-- Directories and a file beside the old one are all there is. -/
theorem LeftBehind.staged (left : LeftBehind files path outputs after) :
    ∃ depth, Staged (files.createDirectories [] (path.parent.take depth)).2 path after := by
  cases left with
  | directories depth => exact ⟨depth, .nothing⟩
  | @failed mishap fault after refused =>
      rcases prepare_snd mishap path files with ⟨depth, made⟩
      refine ⟨depth, ?_⟩
      rw [← made]
      unfold save at refused
      split at refused
      next stopped preparing =>
        cases refused
        rw [preparing]
        exact .nothing
      next prepared preparing =>
        rw [preparing]
        have staged := staged_stage mishap path outputs prepared
        split at refused
        next stopped staging =>
          cases refused
          rwa [staging] at staged
        next written staging =>
          rw [staging] at staged
          rwa [commit_of_error refused]

theorem load_congr (same : after.read path = files.read path) :
    load after path = load files path := by
  rw [load, load, entries, entries, FileSystem.readText, FileSystem.readText, same]

theorem load_of_notFound (missing : files.read path = .error .notFound) :
    load files path = .ok [] := by
  rw [load, entries, FileSystem.readText, missing]
  rfl

theorem load_of_invalidFilename (refused : files.read path = .error .invalidFilename) :
    load files path = .error (.ofSystem .invalidFilename) := by
  rw [load, entries, FileSystem.readText, refused]
  rfl

/-- What a replacement that failed comes to. -/
structure Undone (files : FileSystem) (path : FilePath) (after : FileSystem) : Prop where
  /-- But for the file beside, nothing is changed, and only directories are new. -/
  kept : ∀ place, place ≠ (temporary path).place →
    after.node? place = files.node? place ∨
      files.node? place = none ∧ after.node? place = some .directory
  /-- Whatever is read has stood there before. -/
  old : ∀ content, after.read path = .ok content → files.node? path.place = some (.file content)
  /-- Unless a directory was missing, the list is loaded as before. -/
  same : files.walk [] path.parent ≠ .error .notFound →
    after.node? path.place = files.node? path.place ∧ load after path = load files path
  /-- If one was missing there was no list, and there is none now; but a name that is too long may
  be found out, and a path that leads up may lead to what has stood at its end. -/
  missing : files.walk [] path.parent = .error .notFound →
    load files path = .ok [] ∧
      (".." ∉ path → after.node? path.place = files.node? path.place ∧
        (load after path = .ok [] ∨
          (∃ name ∈ path, nameLimit < name.utf8ByteSize) ∧
            load after path = .error (.ofSystem .invalidFilename)))

section Undoing

variable {name : String} {depth : Nat}

theorem Staged.kept
    (staged : Staged (files.createDirectories [] (path.parent.take depth)).2 path after)
    {place : FilePath} (elsewhere : place ≠ (temporary path).place) :
    after.node? place = files.node? place ∨
      files.node? place = none ∧ after.node? place = some .directory := by
  have extended := FileSystem.extended_makeDirectories false files [] (path.parent.take depth)
  rw [staged.node? elsewhere]
  cases here : files.node? place with
  | some node => exact .inl (extended.kept here)
  | none => exact (extended.added here).imp_right fun directory => ⟨rfl, directory⟩

theorem Staged.old (named : path.fileName? = some name)
    (staged : Staged (files.createDirectories [] (path.parent.take depth)).2 path after)
    {content : Bytes} (found : after.read path = .ok content) :
    files.node? path.place = some (.file content) := by
  have stands := (FileSystem.read_eq_ok.mp found).2
  rcases staged.kept (temporary_ne named).2.symm with same | ⟨-, directory⟩
  · rwa [same] at stands
  · rw [directory] at stands
    cases stands

/-- No directory is made where none is missing. -/
theorem Staged.same (named : path.fileName? = some name)
    (staged : Staged (files.createDirectories [] (path.parent.take depth)).2 path after)
    (there : files.walk [] path.parent ≠ .error .notFound) :
    after.node? path.place = files.node? path.place ∧ load after path = load files path := by
  have nothingMade : (files.createDirectories [] (path.parent.take depth)).2 = files := by
    apply FileSystem.makeDirectories_eq_self
    intro missing
    apply there
    rw [← List.take_append_drop depth path.parent]
    exact FileSystem.walk_append_of_error missing _
  rw [nothingMade] at staged
  exact ⟨staged.node? (temporary_ne named).2.symm, load_congr (staged.read named)⟩

theorem walk_dropLast_of_missing (named : path.fileName? = some name)
    (missing : files.walk [] path.parent = .error .notFound) :
    files.walk [] path.dropLast = .error .notFound := by
  rcases FilePath.exists_dropLast named with ⟨dots, front, -⟩
  rw [front]
  exact FileSystem.walk_append_of_error missing _

theorem load_of_missing (named : path.fileName? = some name)
    (missing : files.walk [] path.parent = .error .notFound) : load files path = .ok [] := by
  apply load_of_notFound
  rw [FileSystem.read, FileSystem.check_of_stuck _ (walk_dropLast_of_missing named missing)]
  rintro rfl
  cases named

/-- Directories that are made for a path that never leads up do not stand where it leads, and none
of them is a file. -/
theorem Staged.still (rooted : files.Rooted) (named : path.fileName? = some name)
    (staged : Staged (files.createDirectories [] (path.parent.take depth)).2 path after)
    (missing : files.walk [] path.parent = .error .notFound) (down : ".." ∉ path) :
    after.node? path.place = files.node? path.place ∧
      (load after path = .ok [] ∨ (∃ name ∈ path, nameLimit < name.utf8ByteSize) ∧
        load after path = .error (.ofSystem .invalidFilename)) := by
  have extended := FileSystem.extended_makeDirectories false files [] (path.parent.take depth)
  have nonempty : path ≠ [] := by
    rintro rfl
    cases named
  have sameRead := staged.read named
  have still : (files.createDirectories [] (path.parent.take depth)).2.node? path.place =
      files.node? path.place := by
    apply FileSystem.node?_makeDirectories_of_apart
    intro front before
    exact (FilePath.place_ne_of_prefix named down (before.trans (List.take_prefix _ _))).symm
  have downParent : ".." ∉ path.parent := fun above => down (FilePath.parent_subset path above)
  have absent : files.node? path.place = none := by
    by_contra something
    rw [FilePath.place_of_fileName? named] at something
    exact rooted.ne_none_of_append something (rooted.absent_of_walk downParent missing)
  have meets := extended.meetsNoFile rooted rfl
    (fun above => down (List.dropLast_subset _ above)) (walk_dropLast_of_missing named missing)
  refine ⟨(staged.node? (temporary_ne named).2.symm).trans still, ?_⟩
  rcases meets.read nonempty (still.trans absent) with notFound | ⟨refused, long⟩
  · exact .inl (load_of_notFound (sameRead.trans notFound))
  · exact .inr ⟨long, load_of_invalidFilename (sameRead.trans refused)⟩

theorem LeftBehind.undone (left : LeftBehind files path outputs after) (rooted : files.Rooted)
    (named : path.fileName? = some name) : Undone files path after := by
  rcases left.staged with ⟨depth, staged⟩
  refine ⟨?_, ?_, ?_, ?_⟩
  · intro place elsewhere
    exact staged.kept elsewhere
  · intro content found
    exact staged.old named found
  · intro there
    exact staged.same named there
  · intro missing
    exact ⟨load_of_missing named missing, staged.still rooted named missing⟩

end Undoing

theorem node?_temporary_of_save {name : String} (named : path.fileName? = some name)
    (saved : save mishap path outputs files = (.ok (), after)) :
    after.node? (temporary path).place = none := by
  unfold save at saved
  split at saved
  next => cases saved
  next =>
    split at saved
    next => cases saved
    next written staging =>
      have freeBeside := (FileSystem.write_eq_ok (stage_eq_ok staging)).2.1
      rcases FileSystem.rename_eq_ok (commit_eq_ok saved) with ⟨content, -, -, -, rfl⟩
      rw [FileSystem.node?_put_of_ne (temporary_ne named).2,
        FileSystem.node?_remove_self (FileSystem.ne_nil_of_node? freeBeside)]

/-! ## Trees stay trees -/

theorem rooted_write (rooted : files.Rooted) (path : FilePath) (content : Bytes) :
    (files.write path content).2.Rooted := by
  unfold FileSystem.write
  split
  next => exact rooted
  next allowed =>
    have facts := FileSystem.checkFile_eq_ok.mp allowed
    exact rooted.put (rooted.parent_of_check facts.2.1 facts.2.2) facts.2.2 _

theorem rooted_rename (rooted : files.Rooted) (source target : FilePath) :
    (files.rename source target).2.Rooted := by
  unfold FileSystem.rename
  split
  next => exact rooted
  next => exact rooted
  next content found allowed =>
    have facts := FileSystem.checkFile_eq_ok.mp allowed
    have leaf : files.node? source.place ≠ some .directory := by
      rw [(FileSystem.read_eq_ok.mp found).2]
      exact nofun
    apply (rooted.remove leaf).put
    · exact FileSystem.Keeps.remove leaf _ (rooted.parent_of_check facts.2.1 facts.2.2)
    · by_cases same : target.place = source.place
      · rw [same, FileSystem.node?_remove_self (FileSystem.ne_nil_of_node? leaf)]
        exact nofun
      · rw [FileSystem.node?_remove_of_ne same]
        exact facts.2.2

/-- Replacing the list, whether it succeeds or not, leaves a tree behind. -/
theorem rooted_save (rooted : files.Rooted) : (save mishap path outputs files).2.Rooted := by
  have prepared : (prepare mishap path files).2.Rooted := by
    rcases prepare_snd mishap path files with ⟨depth, made⟩
    rw [made]
    exact rooted.makeDirectories rfl _ _
  have staged {files : FileSystem} (rooted : files.Rooted) :
      (stage mishap path outputs files).2.Rooted := by
    simp only [stage]
    split
    next => exact rooted
    next => exact rooted
    next => exact rooted_write rooted _ _
    next => exact rooted_write rooted _ _
  have committed {files : FileSystem} (rooted : files.Rooted) :
      (commit mishap path files).2.Rooted := by
    unfold commit
    split
    next => exact rooted
    next => exact rooted_rename rooted _ _
  unfold save
  split
  next preparing => rwa [preparing] at prepared
  next preparing =>
    rw [preparing] at prepared
    have writing := staged prepared
    split
    next refused => rwa [refused] at writing
    next written =>
      rw [written] at writing
      exact committed writing

/-! ## Replacements -/

/-- A replacement that succeeds leaves the new list and nothing beside it.  One that fails is undone
but for a file beside the old one and new directories, wherever it stopped: the list is loaded as
before, unless a directory was missing on the way, and with it the list. -/
theorem replacement_is_atomic (rooted : files.Rooted) (named : path.fileName?.isSome = true) :
    temporary path ≠ path ∧ (temporary path).place ≠ path.place ∧
    (∀ mishap outputs after, save mishap path outputs files = (.ok (), after) →
      load after path = .ok outputs ∧ after.node? (temporary path).place = none) ∧
    ∀ outputs after, LeftBehind files path outputs after → Undone files path after := by
  rcases Option.isSome_iff_exists.mp named with ⟨name, named⟩
  refine ⟨(temporary_ne named).1, (temporary_ne named).2, ?_, ?_⟩
  · intro mishap outputs after saved
    exact ⟨load_of_save saved, node?_temporary_of_save named saved⟩
  · intro outputs after left
    exact left.undone rooted named

/-- A list that is kept already, and a disk that is full. -/
theorem replacement_is_atomic_fullDisk :
    let path := ["outputs.json"]
    let files := (({} : FileSystem).write path (Utf8.encode "[7]".toList)).2
    let full : Mishap := { write := some (.ofSystem .other, some 1) }
    files.Rooted ∧ (FilePath.fileName? path).isSome = true ∧
      (save full path [] files).1 = .error (.ofSystem .other) ∧
      (save full path [] files).2.node? (temporary path).place =
        some (.file (Utf8.encode ['['])) ∧
      (save full path [] files).2.node? (FilePath.place path) =
        files.node? (FilePath.place path) ∧
      load (save full path [] files).2 path = load files path := by
  intro path files full
  have rooted : files.Rooted := rooted_write Rooted.empty _ _
  have named : (FilePath.fileName? path).isSome = true := by decide
  have failed : (save full path [] files).1 = .error (.ofSystem .other) ∧
      (save full path [] files).2.node? (temporary path).place =
        some (.file (Utf8.encode ['['])) := by
    decide +kernel
  have left : LeftBehind files path [] (save full path [] files).2 :=
    .failed (Prod.ext failed.1 rfl)
  have undone := (replacement_is_atomic rooted named).2.2.2 [] _ left
  exact ⟨rooted, named, failed.1, failed.2, undone.same (by decide +kernel)⟩

/-- A name that no file has. -/
def longName : String := String.ofList (List.replicate 300 'a')

theorem utf8ByteSize_replicate (count : Nat) :
    (String.ofList (List.replicate count 'a')).utf8ByteSize = count := by
  induction count with
  | zero => rfl
  | succ count inductionHypothesis =>
      rw [List.replicate_succ', String.ofList_append, String.utf8ByteSize_append,
        inductionHypothesis]
      rfl

theorem plain_replicate (count : Nat) :
    ∀ char ∈ (String.ofList (List.replicate count 'a')).toList, char ≠ '.' := by
  intro char membership
  rw [String.toList_ofList] at membership
  rw [List.eq_of_mem_replicate membership]
  decide

section LongName

variable {name : String}

theorem proper_of_no_dot (plain : ∀ char ∈ name.toList, char ≠ '.') : name ≠ ".." ∧ name ≠ "." := by
  constructor
  · rintro rfl
    exact plain '.' (by decide) rfl
  · rintro rfl
    exact plain '.' (by decide) rfl

theorem temporary_of_no_dot (plain : ∀ char ∈ name.toList, char ≠ '.') :
    temporary ["dir", name] = ["dir", name ++ ".json.tmp"] := by
  have none : name.toList.reverse.dropWhile (· ≠ '.') = [] := by
    rw [List.dropWhile_eq_nil_iff]
    intro char membership
    exact decide_eq_true (plain char (List.mem_reverse.mp membership))
  have stemmed : FilePath.stem name.toList = name.toList := by
    rw [FilePath.stem, none]
    rfl
  have proper := proper_of_no_dot plain
  have named : FilePath.fileName? ["dir", name] = some name :=
    FilePath.fileName?_concat ["dir"] proper
  have parent : FilePath.parent ["dir", name] = ["dir"] := FilePath.parent_concat ["dir"] proper.2
  rw [temporary, FilePath.withExtension, named, parent]
  dsimp only
  rw [stemmed, String.ofList_append, String.ofList_toList]
  rfl

theorem check_longName (long : nameLimit < name.utf8ByteSize) :
    (⟨[(["dir"], .directory)]⟩ : FileSystem).check ["dir", name] = .error .invalidFilename := by
  have passed : (⟨[(["dir"], .directory)]⟩ : FileSystem).walk [] ["dir"] = .ok () := by decide
  have checked := FileSystem.check_concat ⟨[(["dir"], .directory)]⟩ ["dir"] name
  rw [passed] at checked
  exact checked.trans (if_pos long)

theorem save_longName (long : nameLimit < name.utf8ByteSize)
    (plain : ∀ char ∈ name.toList, char ≠ '.') (outputs : List OutputConfig) :
    save {} ["dir", name] outputs {} =
      (.error (.ofSystem .invalidFilename), ⟨[(["dir"], .directory)]⟩) := by
  have longBeside : nameLimit < (name ++ ".json.tmp").utf8ByteSize := by
    rw [String.utf8ByteSize_append]
    exact Nat.lt_add_right _ long
  have parent : FilePath.parent ["dir", name] = ["dir"] :=
    FilePath.parent_concat ["dir"] (proper_of_no_dot plain).2
  have prepared : prepare {} ["dir", name] {} = (.ok (), ⟨[(["dir"], .directory)]⟩) := by
    rw [prepare, parent]
    rfl
  have bare : FilePath.trimmed ["dir", name ++ ".json.tmp"] = ["dir", name ++ ".json.tmp"] := by
    apply FilePath.trimmed_concat ["dir"]
    intro dot
    rw [dot] at longBeside
    exact absurd longBeside (by decide)
  rw [save, prepared]
  simp only [stage, temporary_of_no_dot plain, FileSystem.write, FileSystem.checkFile, bare,
    ne_eq, not_true_eq_false, if_false, check_longName longBeside, Except.mapError]

end LongName

/-- A list that stands where a path leads that goes through a missing directory and up again, and a
directory where the list is written first. -/
def beyond : FileSystem :=
  ⟨[(["outputs.json"], .file (Utf8.encode (text [awkward]).toList)),
    (["outputs.json.tmp"], .directory)]⟩

theorem rooted_beyond : beyond.Rooted := by
  have top : (⟨[]⟩ : FileSystem).node? [] = some .directory := rfl
  have directory : (⟨[(["outputs.json.tmp"], .directory)]⟩ : FileSystem).Rooted :=
    FileSystem.Rooted.empty.makeDirectories top false ["outputs.json.tmp"]
  exact rooted_write directory ["outputs.json"] (Utf8.encode (text [awkward]).toList)

theorem save_beyond (outputs : List OutputConfig) :
    save {} ["missing", "..", "outputs.json"] outputs beyond =
      (.error (.ofSystem .isADirectory), ⟨(["missing"], .directory) :: beyond.nodes⟩) := by
  have prepared : prepare {} ["missing", "..", "outputs.json"] beyond =
      (.ok (), ⟨(["missing"], .directory) :: beyond.nodes⟩) := rfl
  have refused : (⟨(["missing"], .directory) :: beyond.nodes⟩ : FileSystem).checkFile
      (temporary ["missing", "..", "outputs.json"]) .isADirectory = .error .isADirectory := rfl
  rw [save, prepared]
  simp only [stage, FileSystem.write, refused, Except.mapError]

theorem load_beyond :
    load ⟨(["missing"], .directory) :: beyond.nodes⟩ ["missing", "..", "outputs.json"] =
      .ok [awkward] := by
  have read : (⟨(["missing"], .directory) :: beyond.nodes⟩ : FileSystem).read
      ["missing", "..", "outputs.json"] = .ok (Utf8.encode (text [awkward]).toList) :=
    FileSystem.read_eq_ok.mpr ⟨rfl, rfl⟩
  rw [load_of_text (FileSystem.readText_of_read read) (ofText?_text [awkward]), List.filterMap_map]
  rfl

/-- Directories that a failed replacement has made may show: there was no list as long as they were
missing, and now a name is found to be too long, or a list that stands behind them is found. -/
theorem new_directories_show :
    (save {} ["dir", longName] [] {} =
        (.error (.ofSystem .invalidFilename), ⟨[(["dir"], .directory)]⟩) ∧
      load {} ["dir", longName] = .ok [] ∧
      load ⟨[(["dir"], .directory)]⟩ ["dir", longName] = .error (.ofSystem .invalidFilename)) ∧
    (beyond.Rooted ∧
      save {} ["missing", "..", "outputs.json"] [] beyond =
        (.error (.ofSystem .isADirectory), ⟨(["missing"], .directory) :: beyond.nodes⟩) ∧
      load beyond ["missing", "..", "outputs.json"] = .ok [] ∧
      load ⟨(["missing"], .directory) :: beyond.nodes⟩ ["missing", "..", "outputs.json"] =
        .ok [awkward]) := by
  have long : nameLimit < longName.utf8ByteSize :=
    Nat.lt_of_lt_of_eq (by decide) (utf8ByteSize_replicate 300).symm
  have refused : load ⟨[(["dir"], .directory)]⟩ ["dir", longName] =
      .error (.ofSystem .invalidFilename) := by
    apply load_of_invalidFilename
    rw [FileSystem.read, check_longName long]
  exact ⟨⟨save_longName long (plain_replicate 300) [], load_of_notFound rfl, refused⟩,
    rooted_beyond, save_beyond [], load_of_notFound rfl, load_beyond⟩

end MavBridge.OutputFile
