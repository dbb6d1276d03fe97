import MavBridge.Proofs.Output.Config
import MavBridge.Proofs.Store.FileSystem
import MavBridge.Store.OutputFile

/-!
# Outputs that are kept in a file

What was saved is loaded again.  Of a list in any text, just those elements are loaded that are
configurations on their own.
-/

namespace MavBridge.OutputFile

open FileSystem (nameLimit)

/-! ## The text of a list -/

section Listing

variable (outputs : List OutputConfig)

theorem isPlain_listing : Json.isPlainItems (outputs.map (·.toJson)) = true := by
  induction outputs with
  | nil => rfl
  | cons output outputs inductionHypothesis =>
      rw [List.map_cons, Json.isPlainItems, output.isPlain_toJson, inductionHypothesis,
        Bool.and_self]

theorem depth_listing : (Json.arr (outputs.map (·.toJson))).depth ≤ Json.depthLimit := by
  have shallow : Json.depthItems (outputs.map (·.toJson)) ≤ 1 := by
    rw [Json.depthItems_le_iff, List.forall_mem_map]
    intro output membership
    rw [output.depth_toJson]
  rw [Json.depth]
  exact (Nat.succ_le_succ shallow).trans (by decide)

theorem parse?_text : Json.parse? (text outputs).toList =
    some (.arr (outputs.map (·.toJson))) := by
  apply Json.parse?_render Json.Style.onlySpaces_pretty
  · rw [Json.isPlain]
    exact isPlain_listing outputs
  · exact depth_listing outputs

theorem ofText?_text : ofText? (text outputs).toList = some (outputs.map some) := by
  have each (output : OutputConfig) :
      OutputConfig.ofJson? output.toJson.lastWins = some output := by
    rw [output.lastWins_toJson, output.ofJson?_toJson]
  rw [ofText?, parse?_text]
  simp only [List.map_map, Function.comp_def, each]

end Listing

/-! ## Loading -/

variable {files after : FileSystem} {path : FilePath}

theorem load_of_text {content : List Char} (read : files.readText path = .ok content)
    {found : List (Option OutputConfig)} (listed : ofText? content = some found) :
    load files path = .ok (found.filterMap id) := by
  rw [load, entries, read]
  simp only [listed, Except.map]

/-- The outputs of the items of an array, each on its own. -/
theorem load_of_items {content : List Char} (read : files.readText path = .ok content)
    {items : List Json} (parsed : Json.parse? content = some (.arr items)) :
    load files path = .ok (items.filterMap fun item => OutputConfig.ofJson? item.lastWins) := by
  have listed : ofText? content =
      some (items.map fun item => OutputConfig.ofJson? item.lastWins) := by
    rw [ofText?, parsed]
  rw [load_of_text read listed, List.filterMap_map]
  rfl

/-- The configuration that a text is on its own. -/
def own? (element : List Char) : Option OutputConfig :=
  (Json.parse? element).bind fun value => OutputConfig.ofJson? value.lastWins

/-- A text that may stand in an array, a configuration or not. -/
def IsElement (element : List Char) : Prop :=
  ∃ value, Json.parse? element = some value ∧ value.depth < Json.depthLimit

/-- The file is an array of the given texts, with blanks around it. -/
structure Lists (files : FileSystem) (path : FilePath) (elements : List (List Char)) : Prop where
  separate : ∀ element ∈ elements, IsElement element
  framed : ∃ before later,
    files.readText path = .ok (before ++ (Json.arrayText elements ++ later)) ∧
    (∀ char ∈ before, Json.Token.isSpace char = true) ∧
    ∀ char ∈ later, Json.Token.isSpace char = true

/-- The outputs of an array of texts. -/
theorem Lists.load_eq {elements : List (List Char)} (lists : Lists files path elements) :
    load files path = .ok (elements.filterMap own?) := by
  have parsed (element : List Char) (membership : element ∈ elements) :
      Json.parse? element = some ((Json.parse? element).getD .null) ∧
        ((Json.parse? element).getD .null).depth < Json.depthLimit := by
    rcases lists.separate element membership with ⟨value, isValue, shallow⟩
    rw [isValue]
    exact ⟨rfl, shallow⟩
  rcases lists.framed with ⟨before, later, read, blankBefore, blankLater⟩
  have listed := Json.parse?_surrounded (Json.parse?_arrayText parsed) blankBefore blankLater
  rw [load_of_items read listed, List.filterMap_map]
  refine congrArg Except.ok (List.filterMap_congr ?_)
  intro element membership
  rw [Function.comp_apply, own?, (parsed element membership).1]
  rfl

/-- The texts that are configurations. -/
def configurations (elements : List (List Char)) : List (List Char) :=
  elements.filter fun element => (own? element).isSome

theorem filterMap_configurations (elements : List (List Char)) :
    (configurations elements).filterMap own? = elements.filterMap own? := by
  induction elements with
  | nil => rfl
  | cons element elements inductionHypothesis =>
      unfold configurations at inductionHypothesis ⊢
      rw [List.filter_cons, List.filterMap_cons, ← inductionHypothesis]
      cases decoded : own? element with
      | none => rfl
      | some output =>
          rw [Option.isSome_some, if_pos rfl, List.filterMap_cons, decoded]

/-! ## Saving -/

/-- A text that ends in the new extension has a stem that ends in a part of it. -/
theorem stem_append_ne (before : List Char) :
    FilePath.stem (before ++ '.' :: "json.tmp".toList) ≠ before := by
  have stemmed : FilePath.stem (before ++ '.' :: "json.tmp".toList) =
      before ++ ['.', 'j', 's', 'o', 'n'] := by
    simp [FilePath.stem]
  rw [stemmed]
  simp

/-- The list is written beside its file, under another name. -/
structure Beside (path : FilePath) (name beside : String) : Prop where
  eq : temporary path = path.parent ++ [beside]
  ne : beside ≠ name
  proper : beside ≠ ".." ∧ beside ≠ "."

theorem exists_beside {name : String} (named : path.fileName? = some name) :
    ∃ beside, Beside path name beside := by
  have other (direction : String) (short : direction.length < 9) :
      String.ofList (FilePath.stem name.toList ++ '.' :: "json.tmp".toList) ≠ direction := by
    rintro rfl
    have added : "json.tmp".length = 8 := rfl
    simp only [String.length_ofList, List.length_append, List.length_cons, String.length_toList]
      at short
    omega
  refine ⟨String.ofList (FilePath.stem name.toList ++ '.' :: "json.tmp".toList), ?_, ?_, ?_⟩
  · rw [temporary, FilePath.withExtension, named]
  · intro same
    have texts := congrArg String.toList same
    rw [String.toList_ofList] at texts
    apply stem_append_ne (FilePath.stem name.toList)
    rw [texts]
  · exact ⟨other ".." (by decide), other "." (by decide)⟩

section Beside

variable {name beside : String} (isBeside : Beside path name beside)

include isBeside

theorem Beside.trimmed : (temporary path).trimmed = temporary path := by
  rw [isBeside.eq, FilePath.trimmed_concat _ isBeside.proper.2]

theorem Beside.parent : (temporary path).parent = path.parent := by
  rw [isBeside.eq, FilePath.parent_concat _ isBeside.proper.2]

theorem Beside.fileName? : (temporary path).fileName? = some beside := by
  rw [isBeside.eq, FilePath.fileName?_concat _ isBeside.proper]

theorem Beside.place : (temporary path).place = path.parent.place ++ [beside] := by
  rw [isBeside.eq, FilePath.place_concat _ isBeside.proper]

end Beside

variable {mishap : Mishap} {outputs : List OutputConfig}

theorem stage_eq_ok (staged : stage mishap path outputs files = (.ok (), after)) :
    files.write (temporary path) (Utf8.encode (text outputs).toList) = (.ok (), after) := by
  unfold stage at staged
  dsimp only at staged
  split at staged
  next => cases staged
  next => cases staged
  next => cases staged
  next =>
    rcases written : files.write (temporary path) (Utf8.encode (text outputs).toList) with
      ⟨outcome, files⟩
    rw [written] at staged
    cases outcome <;> cases staged
    rfl

theorem commit_eq_ok (committed : commit mishap path files = (.ok (), after)) :
    files.rename (temporary path) path = (.ok (), after) := by
  unfold commit at committed
  split at committed
  next => cases committed
  next =>
    rcases renamed : files.rename (temporary path) path with ⟨outcome, files⟩
    rw [renamed] at committed
    cases outcome <;> cases committed
    rfl

/-- A file of text that was put where a path leads is read there. -/
theorem readText_put (checked : files.check path = .ok ())
    (free : files.node? path.place ≠ some .directory) (content : List Char) :
    (files.put path.place (.file (Utf8.encode content))).readText path = .ok content :=
  FileSystem.readText_of_read (FileSystem.read_put checked free _)

/-- What was saved is loaded again, whatever was there before. -/
theorem load_of_save (saved : save mishap path outputs files = (.ok (), after)) :
    load after path = .ok outputs := by
  unfold save at saved
  split at saved
  next => cases saved
  next prepared preparing =>
    split at saved
    next => cases saved
    next staged staging =>
      rcases FileSystem.write_eq_ok (stage_eq_ok staging) with ⟨checkedBeside, freeBeside, rfl⟩
      rcases FileSystem.rename_eq_ok (commit_eq_ok saved) with
        ⟨content, found, checked, free, rfl⟩
      have here := (FileSystem.read_eq_ok.mp found).2
      rw [FileSystem.node?_put_self (FileSystem.ne_nil_of_node? freeBeside)] at here
      cases here
      have named := FileSystem.ne_nil_of_node? freeBeside
      have isFile : (prepared.put (temporary path).place _).node? (temporary path).place = _ :=
        FileSystem.node?_put_self named (.file (Utf8.encode (text outputs).toList))
      generalize prepared.put (temporary path).place _ = staged at checked free isFile ⊢
      have leaf : staged.node? (temporary path).place ≠ some .directory := by
        rw [isFile]
        exact nofun
      have freeStill : (staged.remove (temporary path).place).node? path.place ≠
          some .directory := by
        by_cases same : path.place = (temporary path).place
        · rw [same, FileSystem.node?_remove_self (FileSystem.ne_nil_of_node? leaf)]
          exact nofun
        · rwa [FileSystem.node?_remove_of_ne same]
      have content := readText_put ((FileSystem.Keeps.remove leaf).check checked) freeStill
        (text outputs).toList
      rw [load_of_text content (ofText?_text outputs), List.filterMap_map]
      exact congrArg Except.ok List.filterMap_some

/-- A path that a list can be written to: it ends in the name of a file, no name is too long, no
file stands where a directory has to be, and no directory stands where the list goes or is written
first, nor comes to stand there for a path that leads up on the way. -/
structure Usable (files : FileSystem) (path : FilePath) : Prop where
  named : path.fileName?.isSome = true
  bare : path.trimmed = path
  short : ∀ name ∈ path ++ temporary path, name.utf8ByteSize ≤ nameLimit
  clear : ∀ front content, front <+: path.parent →
    files.node? (FilePath.place front) ≠ some (.file content)
  free : files.node? path.place ≠ some .directory
  freeBeside : files.node? (temporary path).place ≠ some .directory
  apart : ".." ∈ path → ∀ front, front <+: path.parent →
    path.place ≠ FilePath.place front ∧ (temporary path).place ≠ FilePath.place front

/-- No directory is made where the list goes or is written first. -/
theorem Usable.ne_place (usable : Usable files path) {front : FilePath}
    (before : front <+: path.parent) :
    path.place ≠ front.place ∧ (temporary path).place ≠ front.place := by
  by_cases up : ".." ∈ path
  · exact usable.apart up front before
  · rcases Option.isSome_iff_exists.mp usable.named with ⟨name, named⟩
    rcases exists_beside named with ⟨beside, isBeside⟩
    have downBeside : ".." ∉ temporary path := by
      rw [isBeside.eq, List.mem_append, List.mem_singleton, not_or]
      exact ⟨fun above => up (FilePath.parent_subset path above), isBeside.proper.1.symm⟩
    constructor
    · exact (FilePath.place_ne_of_prefix named up before).symm
    · apply Ne.symm
      apply FilePath.place_ne_of_prefix isBeside.fileName? downBeside
      rwa [isBeside.parent]

theorem exists_prepare (usable : Usable files path) :
    ∃ directories, prepare {} path files = (.ok (), directories) ∧
      directories.check path = .ok () ∧ directories.check (temporary path) = .ok () ∧
      directories.node? path.place ≠ some .directory ∧
      directories.node? (temporary path).place ≠ some .directory := by
  rcases Option.isSome_iff_exists.mp usable.named with ⟨name, named⟩
  rcases exists_beside named with ⟨beside, isBeside⟩
  have ending := (FilePath.trimmed_of_fileName? named).1
  rw [usable.bare] at ending
  have shortWay (name : String) (membership : name ∈ path.parent) :
      name.utf8ByteSize ≤ nameLimit := by
    apply usable.short
    rw [ending, List.append_assoc]
    exact List.mem_append_left _ membership
  have made : (files.createDirectories [] path.parent).1 = .ok () :=
    FileSystem.makeDirectories_of_clear shortWay usable.clear
  have passable := FileSystem.walk_makeDirectories made
  have kept {place : FilePath}
      (apart : ∀ front, front <+: path.parent → place ≠ FilePath.place front) :
      (files.createDirectories [] path.parent).2.node? place = files.node? place :=
    FileSystem.node?_makeDirectories_of_apart apart
  refine ⟨(files.createDirectories [] path.parent).2, ?_, ?_, ?_, ?_, ?_⟩
  · simp only [prepare, made, Except.mapError]
  · have checked := FileSystem.check_concat_eq_ok.mpr
      ⟨passable, usable.short name (by rw [ending]; simp)⟩
    rwa [← ending] at checked
  · rw [isBeside.eq, FileSystem.check_concat_eq_ok]
    exact ⟨passable, usable.short beside (by simp [isBeside.eq])⟩
  · rw [kept fun front before => (usable.ne_place before).1]
    exact usable.free
  · rw [kept fun front before => (usable.ne_place before).2]
    exact usable.freeBeside

theorem stage_of_check (bare : (temporary path).trimmed = temporary path)
    (checkedBeside : files.check (temporary path) = .ok ())
    (freeBeside : files.node? (temporary path).place ≠ some .directory)
    (outputs : List OutputConfig) :
    stage {} path outputs files =
      (.ok (), files.put (temporary path).place (.file (Utf8.encode (text outputs).toList))) := by
  have allowed : files.checkFile (temporary path) .isADirectory = .ok () :=
    FileSystem.checkFile_eq_ok.mpr ⟨bare, checkedBeside, freeBeside⟩
  simp only [stage, FileSystem.write, allowed, Except.mapError]

theorem commit_of_check (bare : path.trimmed = path)
    (checkedBeside : files.check (temporary path) = .ok ())
    (freeBeside : files.node? (temporary path).place ≠ some .directory)
    (checked : files.check path = .ok ()) (free : files.node? path.place ≠ some .directory)
    (content : Bytes) :
    (commit {} path (files.put (temporary path).place (.file content))).1 = .ok () := by
  have read := FileSystem.read_put checkedBeside freeBeside content
  have freeStill : (files.put (temporary path).place (.file content)).node? path.place ≠
      some .directory := by
    by_cases same : path.place = (temporary path).place
    · rw [same, FileSystem.node?_put_self (FileSystem.ne_nil_of_node? freeBeside)]
      simp
    · rwa [FileSystem.node?_put_of_ne same]
  have allowed : (files.put (temporary path).place (.file content)).checkFile path
      .notADirectory = .ok () :=
    FileSystem.checkFile_eq_ok.mpr
      ⟨bare, (FileSystem.Keeps.put freeBeside _).check checked, freeStill⟩
  simp only [commit, FileSystem.rename, read, allowed, Except.mapError]

/-- Saving succeeds unless something happens. -/
theorem save_of_usable (usable : Usable files path) (outputs : List OutputConfig) :
    (save {} path outputs files).1 = .ok () := by
  rcases Option.isSome_iff_exists.mp usable.named with ⟨name, named⟩
  rcases exists_beside named with ⟨beside, isBeside⟩
  rcases exists_prepare usable with
    ⟨directories, prepared, checked, checkedBeside, free, freeBeside⟩
  rw [save, prepared]
  simp only [stage_of_check isBeside.trimmed checkedBeside freeBeside]
  exact commit_of_check usable.bare checkedBeside freeBeside checked free _

/-- Saving succeeds where the path can be used, and whatever list was saved is loaded again.  Of any
array just the items that are configurations are loaded, each as it is on its own, so that two
arrays with the same configurations among their texts are the same list. -/
theorem kept_outputs_survive (path : FilePath) :
    (∀ files outputs, Usable files path →
      ∃ after, save {} path outputs files = (.ok (), after) ∧ load after path = .ok outputs) ∧
    (∀ mishap files outputs after, save mishap path outputs files = (.ok (), after) →
      load after path = .ok outputs) ∧
    (∀ files content items, files.readText path = .ok content →
      Json.parse? content = some (.arr items) →
      load files path = .ok (items.filterMap fun item => OutputConfig.ofJson? item.lastWins)) ∧
    ∀ files others elements more, Lists files path elements → Lists others path more →
      configurations elements = configurations more → load files path = load others path := by
  refine ⟨?_, fun _ _ _ _ => load_of_save, fun _ _ _ read => load_of_items read, ?_⟩
  · intro files outputs usable
    have saved : save {} path outputs files = (.ok (), (save {} path outputs files).2) :=
      Prod.ext (save_of_usable usable outputs) rfl
    exact ⟨_, saved, load_of_save saved⟩
  · intro files others elements more lists listsMore same
    rw [lists.load_eq, listsMore.load_eq, ← filterMap_configurations elements, same,
      filterMap_configurations]

/-! An output with a quote, a backslash, a control character and a further one in its texts, and
arrays with and without another item. -/

def awkward : OutputConfig where
  id := "\"\\\u0001"
  kind := .unsupported
  host := "\u2028"
  port := 65535
  name := ""
  enabled := false

def awkwardText : List Char := (awkward.toJson.render .pretty).toList

/-- A file that is an array of the given texts. -/
def holding (elements : List (List Char)) : FileSystem :=
  ({} : FileSystem).put ["outputs.json"] (.file (Utf8.encode (Json.arrayText elements)))

theorem readText_holding (elements : List (List Char)) :
    (holding elements).readText ["outputs.json"] = .ok (Json.arrayText elements) := by
  have checked : ({} : FileSystem).check ["outputs.json"] = .ok () := rfl
  exact readText_put checked (by decide) (Json.arrayText elements)

theorem parse?_awkwardText : Json.parse? awkwardText = some awkward.toJson :=
  Json.parse?_render Json.Style.onlySpaces_pretty awkward.isPlain_toJson
    (by rw [awkward.depth_toJson]; decide)

theorem own?_awkwardText : own? awkwardText = some awkward := by
  rw [own?, parse?_awkwardText, Option.bind_some, awkward.lastWins_toJson, awkward.ofJson?_toJson]

theorem lists_holding {elements : List (List Char)} (separate : ∀ text ∈ elements, IsElement text) :
    Lists (holding elements) ["outputs.json"] elements where
  separate := separate
  framed := by
    refine ⟨[], [], ?_, by simp, by simp⟩
    rw [List.nil_append, List.append_nil, readText_holding]

theorem kept_outputs_survive_awkward :
    (∃ after, save {} ["outputs.json"] [awkward, awkward] {} = (.ok (), after) ∧
      load after ["outputs.json"] = .ok [awkward, awkward]) ∧
    load (holding [['7']]) ["outputs.json"] = .ok [] ∧
    load (holding [awkwardText]) ["outputs.json"] =
      load (holding [['7'], awkwardText, ['7']]) ["outputs.json"] := by
  have isElement : IsElement awkwardText :=
    ⟨awkward.toJson, parse?_awkwardText, by rw [awkward.depth_toJson]; decide⟩
  have isNumber : IsElement ['7'] := ⟨.int 7, rfl, by decide⟩
  have noOutput : own? ['7'] = none := rfl
  have usable : Usable {} ["outputs.json"] :=
    { named := by decide
      bare := by decide
      short := by decide
      clear := by
        intro front content before
        rw [List.prefix_nil.mp before]
        exact nofun
      free := by decide
      freeBeside := by decide
      apart := by
        intro up
        exact absurd up (by decide) }
  rcases kept_outputs_survive ["outputs.json"] with ⟨saves, keeps, separates, ignores⟩
  rcases saves {} [awkward, awkward] usable with ⟨after, saved, -⟩
  refine ⟨⟨after, saved, keeps {} {} [awkward, awkward] after saved⟩, ?_, ?_⟩
  · exact separates (holding [['7']]) ['[', '7', ']'] [.int 7] (readText_holding [['7']]) rfl
  · apply ignores (holding [awkwardText]) (holding [['7'], awkwardText, ['7']]) [awkwardText]
      [['7'], awkwardText, ['7']]
    · exact lists_holding (List.forall_mem_singleton.mpr isElement)
    · apply lists_holding
      rw [List.forall_mem_cons, List.forall_mem_cons, List.forall_mem_singleton]
      exact ⟨isNumber, isElement, isNumber⟩
    · simp [configurations, own?_awkwardText, noOutput]

end MavBridge.OutputFile
