import MavBridge.Output.Network
import MavBridge.Output.Recorder
import MavBridge.Proofs.Router.Guarded
import MavBridge.Proofs.Router.Registry

/-!
# What the operations of a router leave and tell

A request that fails tells nothing and leaves everything as it was, except for a restart, which has
stopped its output by then.  One that succeeds is told once, when the registry, the outputs that run
and the list that is kept show it; a list that could not be written is not waited for.  None of them
touches the other outputs.
-/

namespace MavBridge

namespace Registry

variable {ω χ : Type} {outlets : Outlets ω χ} {number : χ → Nat} {ledger : ω → Ledger}
  {rewritten : Bool} {router after : Router χ} {world afterWorld : ω}

/-! ## Outputs as they stand -/

/-- A registered output: its configuration, which channel it has, whether it runs, and its
counts. -/
structure Standing where
  config : OutputConfig
  channel : Nat
  isRunning : Bool
  stats : OutputStats
  deriving DecidableEq

section Standings

variable (outlets number)

def standings (router : Router χ) : List Standing :=
  router.entries.map fun entry =>
    ⟨entry.config, number entry.channel, outlets.isRunning entry.channel, entry.stats⟩

def others (router : Router χ) (id : String) : List Standing :=
  (standings outlets number router).filter fun standing => standing.config.id != id

/-- Nothing has been done that is to be seen. -/
structure Undisturbed (ledger : ω → Ledger) (router : Router χ) (world : ω) (after : Router χ)
    (afterWorld : ω) : Prop where
  standings : standings outlets number after = standings outlets number router
  retired : after.retired = router.retired
  ledger : ledger afterWorld = ledger world

/-- Nothing has been done but that one output does not run any more. -/
structure LeftStopped (ledger : ω → Ledger) (id : String) (router : Router χ) (world : ω)
    (after : Router χ) (afterWorld : ω) : Prop where
  standings : standings outlets number after =
    (standings outlets number router).map fun standing =>
      if standing.config.id = id then { standing with isRunning := false } else standing
  retired : after.retired = router.retired
  ledger : ledger afterWorld = ledger world

end Standings

/-- The registered outputs with their counts. -/
def listing (router : Router χ) : List (OutputConfig × OutputStats) :=
  router.entries.map fun entry => (entry.config, entry.stats)

theorem Undisturbed.of_ledger (router : Router χ) (unrecorded : ledger afterWorld = ledger world) :
    Undisturbed outlets number ledger router world router afterWorld :=
  ⟨rfl, rfl, unrecorded⟩

/-- Only one output has changed, in whether it runs. -/
theorem standings_setChannel {id : String} {channel : χ}
    (held : router.Holds number id (number channel)) :
    standings outlets number (router.setChannel id channel) =
      (standings outlets number router).map fun standing =>
        if standing.config.id = id then { standing with isRunning := outlets.isRunning channel }
        else standing := by
  simp only [standings, Router.setChannel, Router.alter, List.map_map]
  apply List.map_congr_left
  intro entry membership
  by_cases mine : entry.config.id = id
  · simp [mine, held entry membership mine]
  · simp [mine]

theorem standings_eq_self {standings : List Standing} {id : String} {isRunning : Bool}
    (same : ∀ standing ∈ standings, standing.config.id = id → standing.isRunning = isRunning) :
    (standings.map fun standing =>
      if standing.config.id = id then { standing with isRunning } else standing) = standings := by
  refine (List.map_congr_left ?_).trans (List.map_id _)
  intro standing membership
  by_cases mine : standing.config.id = id
  · simp [mine, ← same standing membership mine]
  · simp [mine]

theorem holds_entry (distinct : (router.configs.map (·.id)).Nodup) {id : String}
    {entry : RouterEntry χ} (found : router.find? id = some entry) :
    ∀ standing ∈ standings outlets number router, standing.config.id = id →
      standing.isRunning = outlets.isRunning entry.channel := by
  intro standing membership named
  obtain ⟨other, otherMembership, rfl⟩ := List.mem_map.mp membership
  have otherFound := (Router.find?_eq_some_iff distinct).mpr ⟨otherMembership, named⟩
  rw [found] at otherFound
  rw [Option.some.inj otherFound]

section Others

variable (outlets number) (router)

/-- An output that keeps its identifier may change as it likes. -/
theorem others_alter {id : String} {change : RouterEntry χ → RouterEntry χ}
    (sameId : ∀ entry, entry.config.id = id → (change entry).config.id = id) :
    others outlets number (router.alter id change) id = others outlets number router id := by
  simp only [others, standings, Router.alter]
  induction router.entries with
  | nil => rfl
  | cons entry rest inductionHypothesis =>
      by_cases mine : entry.config.id = id
      · simpa [mine, sameId entry mine] using inductionHypothesis
      · simpa [mine] using inductionHypothesis

theorem others_setChannel (id : String) (channel : χ) :
    others outlets number (router.setChannel id channel) id = others outlets number router id :=
  others_alter outlets number router fun _ named => named

theorem others_register (config : OutputConfig) (channel : χ) :
    others outlets number (router.register config channel) config.id =
      others outlets number router config.id := by
  simp [others, standings, Router.register]

theorem others_without (id : String) :
    others outlets number (router.without id) id = others outlets number router id := by
  simp [others, standings, Router.without, List.filter_map, Function.comp_def]

end Others

section Listing

variable (router)

theorem listing_setChannel (id : String) (channel : χ) :
    listing (router.setChannel id channel) = listing router := by
  simp only [listing, Router.setChannel, Router.alter, List.map_map]
  apply List.map_congr_left
  intro entry membership
  by_cases mine : entry.config.id = id <;> simp [mine]

theorem map_fst_listing : (listing router).map Prod.fst = router.configs := by
  simp [listing, Router.configs, Function.comp_def]

theorem listing_register (config : OutputConfig) (channel : χ) :
    listing (router.register config channel) =
      listing router ++ [(config, ({} : OutputStats))] := by
  simp [listing, Router.register]

theorem listing_without (id : String) :
    listing (router.without id) = (listing router).filter fun output => output.1.id != id := by
  simp [listing, Router.without, List.filter_map, Function.comp_def]

end Listing

theorem listing_replaced (distinct : (router.configs.map (·.id)).Nodup) {id : String}
    {old : RouterEntry χ} (found : router.find? id = some old) (change : OutputUpdate)
    (channel : χ) :
    listing (router.alter id fun entry =>
        { entry with config := old.config.update change, channel }) =
      (listing router).map fun output =>
        if output.1.id = id then (output.1.update change, output.2) else output := by
  simp only [listing, Router.alter, List.map_map]
  apply List.map_congr_left
  intro entry membership
  by_cases mine : entry.config.id = id
  · have entryFound := (Router.find?_eq_some_iff distinct).mpr ⟨membership, mine⟩
    rw [found] at entryFound
    cases entryFound
    simp [mine]
  · simp [mine]

theorem find?_alter {id : String} {entry : RouterEntry χ} (found : router.find? id = some entry)
    {change : RouterEntry χ → RouterEntry χ}
    (sameId : ∀ entry, entry.config.id = id → (change entry).config.id = id) :
    (router.alter id change).find? id = some (change entry) := by
  have named : entry.config.id = id := by simpa using List.find?_some found
  have sameTest (other : RouterEntry χ) :
      ((if other.config.id = id then change other else other).config.id == id) =
        (other.config.id == id) := by
    by_cases mine : other.config.id = id
    · simp [mine, sameId other mine]
    · simp [mine]
  unfold Router.find? at found ⊢
  simp only [Router.alter, List.find?_map, Function.comp_def, sameTest, found, Option.map_some,
    if_pos named]

theorem find?_setChannel {id : String} {entry : RouterEntry χ}
    (found : router.find? id = some entry) (channel : χ) :
    (router.setChannel id channel).find? id = some { entry with channel } :=
  find?_alter found fun _ named => named

/-! ## What is asked of channels, and what is shown by a success -/

/-- A start that fails leaves the channel running as much as before. -/
def FailsAtomically (outlets : Outlets ω χ) (channel : χ) (world : ω) : Prop :=
  (outlets.start channel world).1.isOk = false →
    outlets.isRunning (outlets.start channel world).2.1 = outlets.isRunning channel

/-- A channel whose start succeeds runs. -/
def StartsRunning (outlets : Outlets ω χ) : Prop :=
  ∀ channel world, (outlets.start channel world).1.isOk = true →
    outlets.isRunning (outlets.start channel world).2.1 = true

/-- An output is registered, and runs or does not. -/
def Stands (outlets : Outlets ω χ) (router : Router χ) (id : String) (isRunning : Bool) : Prop :=
  ∃ entry, router.find? id = some entry ∧ outlets.isRunning entry.channel = isRunning

/-- An output has a fresh channel in its place: `channel` is what was built for it, and `started`
the outcome of starting that, if it was to be started. -/
structure Freshly (outlets : Outlets ω χ) (world : ω) (router : Router χ) (config : OutputConfig)
    (wanted : Prop) (channel : χ) (started : Option (Except Fault String))
    (placed : RouterEntry χ) : Prop where
  built : ∃ createdWorld, outlets.create config world = (.ok channel, createdWorld)
  found : router.find? config.id = some placed
  asked : started.isSome = true ↔ wanted
  waits : started = none → placed.channel = channel
  starts : ∀ outcome, started = some outcome → ∃ startWorld laterWorld,
    outlets.start channel startWorld = (outcome, placed.channel, laterWorld)
  runs : ∀ message, started = some (.ok message) → outlets.isRunning placed.channel = true
  idles : (∀ startWorld, FailsAtomically outlets channel startWorld) →
    (∀ message, started ≠ some (.ok message)) →
      outlets.isRunning placed.channel = outlets.isRunning channel

namespace Request

/-- The output that a request is about. -/
def id : Request → String
  | add config => config.id
  | remove id | update id _ | start id | stop id | restart id => id

/-- The registry and what runs show what was asked for. -/
def Shows (outlets : Outlets ω χ) (before : Router χ) (world : ω) (after : Router χ) :
    Request → Prop
  | add config => listing after = listing before ++ [(config, {})] ∧
      ∃ channel started placed,
        Freshly outlets world after config (config.startsItself = true) channel started placed
  | remove id => listing after = (listing before).filter fun output => output.1.id != id
  | update id change =>
      (listing after = (listing before).map fun output =>
        if output.1.id = id then (output.1.update change, output.2) else output) ∧
      ∃ old channel started placed, before.find? id = some old ∧
        Freshly outlets world after (old.config.update change)
          (outlets.isRunning old.channel = true ∧ (old.config.update change).enabled = true)
          channel started placed
  | start id => listing after = listing before ∧ Stands outlets after id true
  | stop id => listing after = listing before ∧ Stands outlets after id false
  | restart id => listing after = listing before ∧ Stands outlets after id true

/-- The list of outputs that a request comes to write can be written then. -/
def IsWritable (outlets : Outlets ω χ) (router : Router χ) (world : ω) : Request → Prop
  | add config => ∀ channel afterWorld,
      outlets.create config world = (.ok channel, afterWorld) →
        (outlets.save (router.configs ++ [config]) afterWorld).1.isOk = true
  | remove id => ∀ entry, router.find? id = some entry →
      (outlets.save (router.configs.filter fun config => config.id != id)
        (outlets.stop entry.channel world).2).1.isOk = true
  | update id change => ∀ old channel afterWorld, router.find? id = some old →
      outlets.create (old.config.update change) world = (.ok channel, afterWorld) →
        (outlets.save
          (router.configs.map fun config => if config.id = id then config.update change else config)
          (if outlets.isRunning old.channel then (outlets.stop old.channel afterWorld).2
            else afterWorld)).1.isOk = true
  | start _ | stop _ | restart _ => True

/-- The list that is kept shows what was asked for, if it could be written. -/
def IsKept (outlets : Outlets ω χ) (router : Router χ) (world : ω) (after : Router χ)
    (before ledger : Ledger) : Request → Prop
  | start _ | stop _ | restart _ => ledger = before
  | request => request.IsWritable outlets router world → ledger.kept = after.configs

/-- The start that a request asks for leaves everything as it was if it fails. -/
def IsAtomic (outlets : Outlets ω χ) (router : Router χ) (world : ω) : Request → Prop
  | start id => ∀ entry, router.find? id = some entry →
      FailsAtomically outlets entry.channel world
  | restart id => ∀ entry, router.find? id = some entry →
      FailsAtomically outlets (outlets.stop entry.channel world).1
        (outlets.stop entry.channel world).2
  | _ => True

end Request

/-- A fresh channel in its place is started there, or waits. -/
theorem freshly_startChannel_if (starts : StartsRunning outlets) {config : OutputConfig}
    {channel : χ} {createWorld : ω}
    (created : outlets.create config createWorld = (.ok channel, afterWorld))
    {entry : RouterEntry χ} (found : router.find? config.id = some entry)
    (placed : entry.channel = channel) (world : ω) (wanted : Prop) [Decidable wanted] :
    ∃ started later, Freshly outlets createWorld
      (if wanted then (router.startChannel outlets config.id channel world).2
        else (router, world)).1 config wanted channel started later := by
  by_cases isWanted : wanted
  · refine ⟨some (outlets.start channel world).1,
      { entry with channel := (outlets.start channel world).2.1 }, ⟨afterWorld, created⟩, ?_,
      iff_of_true rfl isWanted, nofun, ?_, ?_, ?_⟩
    · rw [if_pos isWanted]
      exact find?_setChannel found _
    · rintro outcome ⟨rfl⟩
      exact ⟨world, _, rfl⟩
    · intro message succeeded
      apply starts channel world
      rw [Option.some.inj succeeded]
      rfl
    · intro atomic failed
      apply atomic world
      cases outcome : (outlets.start channel world).1 with
      | ok message => exact absurd (congrArg some outcome) (failed message)
      | error fault => rfl
  · refine ⟨none, entry, ⟨afterWorld, created⟩, ?_, iff_of_false Bool.false_ne_true isWanted,
      fun _ => placed, nofun, nofun, ?_⟩
    · rw [if_neg isWanted]
      exact found
    · intro _ _
      rw [placed]

theorem kept_of_eq (listed : listing after = listing router)
    (unrecorded : ledger afterWorld = ledger world) (kept : (ledger world).kept = router.configs) :
    (ledger afterWorld).kept = after.configs := by
  rw [unrecorded, kept, ← map_fst_listing, ← map_fst_listing, listed]

section Sections

variable (recorded : outlets.Recorded number ledger)
include recorded

theorem kept_persist {router : Router χ} {world : ω}
    (written : (outlets.save router.configs world).1.isOk = true) :
    (ledger (router.persist outlets world)).kept = router.configs := by
  unfold Router.persist
  rcases saved : outlets.save router.configs world with ⟨outcome, after⟩
  rw [saved] at written
  cases outcome with
  | error fault => cases written
  | ok done => rw [recorded.save _ _ _ saved]

/-- A start changes neither what is registered nor what is kept. -/
theorem startChannel_if_eq (router : Router χ) (id : String) (channel : χ) (world : ω)
    (wanted : Prop) [Decidable wanted] :
    let done := if wanted then (router.startChannel outlets id channel world).2 else (router, world)
    listing done.1 = listing router ∧ ledger done.2 = ledger world ∧
      others outlets number done.1 id = others outlets number router id := by
  dsimp only
  split
  · exact ⟨listing_setChannel router id _, (recorded.start channel world).2,
      others_setChannel outlets number router id _⟩
  · exact ⟨rfl, rfl, rfl⟩

end Sections

section Settling

variable (outlets number ledger)

/-- What a request leaves.  A failure disturbs nothing, or is that of a restart, which leaves its
output stopped; a success shows what was asked for. -/
structure Settles (request : Request) (router : Router χ) (world : ω)
    (done : Except Fault String × Router χ × ω) : Prop where
  undisturbed : done.1.isOk = false → (∀ id, ¬ request.IsRestart router id) →
    request.IsAtomic outlets router world →
    Undisturbed outlets number ledger router world done.2.1 done.2.2
  stopped : done.1.isOk = false → ∀ id, request.IsRestart router id →
    request.IsAtomic outlets router world →
    LeftStopped outlets number ledger id router world done.2.1 done.2.2
  shown : done.1.isOk = true → request.Shows outlets router world done.2.1 ∧
    request.IsKept outlets router world done.2.1 (ledger world) (ledger done.2.2)
  elsewhere : others outlets number done.2.1 request.id = others outlets number router request.id

end Settling

theorem Request.not_isRestart {request : Request} (different : ∀ id, request ≠ .restart id)
    (id : String) : ¬ request.IsRestart router id :=
  fun isRestart => different id isRestart.1

/-- Nothing but the world has changed, in what is not recorded. -/
theorem Settles.refused {request : Request} (notRestart : ∀ id, ¬ request.IsRestart router id)
    (fault : Fault) (unrecorded : ledger afterWorld = ledger world) :
    Settles outlets number ledger request router world (.error fault, router, afterWorld) where
  undisturbed _ _ _ := .of_ledger router unrecorded
  stopped _ id isRestart := absurd isRestart (notRestart id)
  shown succeeded := by cases succeeded
  elsewhere := rfl

theorem Settles.done {request : Request} (message : String)
    (shown : request.Shows outlets router world after)
    (kept : request.IsKept outlets router world after (ledger world) (ledger afterWorld))
    (elsewhere : others outlets number after request.id =
      others outlets number router request.id) :
    Settles outlets number ledger request router world (.ok message, after, afterWorld) where
  undisturbed failed := by cases failed
  stopped failed := by cases failed
  shown _ := ⟨shown, kept⟩
  elsewhere := elsewhere

section Sections

variable (recorded : outlets.Recorded number ledger)
include recorded

theorem settles_addSection (starts : StartsRunning outlets) (config : OutputConfig) :
    Settles outlets number ledger (.add config) router world
      (router.addSection outlets config world) := by
  have notRestart : ∀ other, ¬ (Request.add config).IsRestart router other :=
    Request.not_isRestart nofun
  unfold Router.addSection
  split
  next unsupported => exact .refused notRestart _ rfl
  next supported =>
    split
    next taken => exact .refused notRestart _ rfl
    next untaken =>
      have free : router.find? config.id = none := by simpa using untaken
      split
      next fault afterWorld created =>
        exact .refused notRestart _ (recorded.createFailed _ _ _ _ created)
      next channel afterWorld created =>
        have placed : (router.register config channel).find? config.id =
            some ⟨config, channel, {}⟩ := by
          unfold Router.find? at free ⊢
          simp [Router.register, List.find?_append, free]
        have fresh := freshly_startChannel_if starts created placed rfl
          ((router.register config channel).persist outlets afterWorld)
          (config.startsItself = true)
        have started := startChannel_if_eq recorded (router.register config channel) config.id
          channel ((router.register config channel).persist outlets afterWorld)
          (config.startsItself = true)
        dsimp only at started
        rw [← startNote_snd] at started fresh
        rcases started with ⟨listed, unrecorded, elsewhere⟩
        rcases fresh with ⟨started, later, fresh⟩
        have isListed := listed.trans (listing_register router config channel)
        have isElsewhere := elsewhere.trans (others_register outlets number router config channel)
        refine .done _ ⟨isListed, channel, started, later, fresh⟩ ?_ isElsewhere
        intro writable
        have sameConfigs :
            (router.register config channel).configs = router.configs ++ [config] := by
          simp [Router.register, Router.configs]
        have written := writable channel afterWorld created
        rw [← sameConfigs] at written
        exact kept_of_eq listed unrecorded (kept_persist recorded written)

theorem settles_removeSection (id : String) :
    Settles outlets number ledger (.remove id) router world
      (router.removeSection outlets id world) := by
  have notRestart : ∀ other, ¬ (Request.remove id).IsRestart router other :=
    Request.not_isRestart nofun
  unfold Router.removeSection
  split
  next missing => exact .refused notRestart _ rfl
  next entry found =>
    refine .done _ (listing_without router id) ?_ (others_without outlets number router id)
    intro writable
    have sameConfigs :
        ((router.without id).retire id (outlets.stop entry.channel world).1).configs =
          router.configs.filter fun config => config.id != id := by
      simp [Router.without, Router.retire, Router.configs, List.filter_map, Function.comp_def]
    have written := writable entry found
    rw [← sameConfigs] at written
    exact kept_persist recorded written

/-- The registry with an output replaced, before it is started again. -/
theorem shows_replace (distinct : (router.configs.map (·.id)).Nodup) {old : RouterEntry χ}
    (found : router.find? old.config.id = some old) (change : OutputUpdate) (channel : χ)
    (world : ω) :
    let config := old.config.update change
    let done := router.replace outlets old config channel world
    done.1.find? config.id = some { old with config, channel } ∧
      (listing done.1 = (listing router).map fun output =>
        if output.1.id = old.config.id then (output.1.update change, output.2) else output) ∧
      ((outlets.save
          (router.configs.map fun config =>
            if config.id = old.config.id then config.update change else config)
          (if outlets.isRunning old.channel then (outlets.stop old.channel world).2
            else world)).1.isOk = true → (ledger done.2).kept = done.1.configs) ∧
      others outlets number done.1 old.config.id = others outlets number router old.config.id := by
  have sameId (entry : RouterEntry χ) (named : entry.config.id = old.config.id) :
      ({ entry with config := old.config.update change, channel } : RouterEntry χ).config.id =
        old.config.id := rfl
  have listed := listing_replaced distinct found change channel
  have sameConfigs : (router.alter old.config.id fun entry =>
        { entry with config := old.config.update change, channel }).configs =
      router.configs.map fun config =>
        if config.id = old.config.id then config.update change else config := by
    rw [← map_fst_listing, listed, ← map_fst_listing, List.map_map, List.map_map]
    apply List.map_congr_left
    intro output membership
    dsimp only [Function.comp_apply]
    split <;> rfl
  have sameWorld : (if outlets.isRunning old.channel then outlets.stop old.channel world
      else (old.channel, world)).2 =
      if outlets.isRunning old.channel then (outlets.stop old.channel world).2 else world := by
    split <;> rfl
  rw [← sameConfigs, ← sameWorld]
  refine ⟨find?_alter found sameId, listed, ?_, others_alter outlets number router sameId⟩
  exact kept_persist recorded

theorem settles_updateSection (starts : StartsRunning outlets)
    (distinct : (router.configs.map (·.id)).Nodup) (id : String) (change : OutputUpdate) :
    Settles outlets number ledger (.update id change) router world
      (router.updateSection outlets id change world) := by
  have notRestart : ∀ other, ¬ (Request.update id change).IsRestart router other :=
    Request.not_isRestart nofun
  unfold Router.updateSection
  split
  next unsupported => exact .refused notRestart _ rfl
  next supported =>
    split
    next missing => exact .refused notRestart _ rfl
    next old found =>
      rcases (Router.find?_eq_some_iff distinct).mp found with ⟨membership, rfl⟩
      dsimp only
      split
      next fault afterWorld failed =>
        exact .refused notRestart _ (recorded.createFailed _ _ _ _ failed)
      next channel afterWorld created =>
        have replaced := shows_replace recorded distinct found change channel afterWorld
        dsimp only at replaced
        generalize router.replace outlets old (old.config.update change) channel afterWorld =
          before at replaced ⊢
        rcases replaced with ⟨placed, listedBefore, keptBefore, elsewhereBefore⟩
        have fresh := freshly_startChannel_if starts created placed rfl before.2
          (outlets.isRunning old.channel = true ∧ (old.config.update change).enabled = true)
        have started := startChannel_if_eq recorded before.1 (old.config.update change).id
          channel before.2
          (outlets.isRunning old.channel = true ∧ (old.config.update change).enabled = true)
        dsimp only at started
        rw [← restartNote_snd] at fresh
        rw [← restartNote_snd] at started
        rcases started with ⟨listed, unrecorded, elsewhere⟩
        rcases fresh with ⟨started, later, fresh⟩
        have isListed := listed.trans listedBefore
        have isElsewhere := elsewhere.trans elsewhereBefore
        refine .done _ ⟨isListed, old, channel, started, later, found, fresh⟩ ?_ isElsewhere
        intro writable
        have written := writable old channel afterWorld found created
        exact kept_of_eq listed unrecorded (keptBefore written)

theorem settles_startSection (starts : StartsRunning outlets)
    (distinct : (router.configs.map (·.id)).Nodup) (id : String) :
    Settles outlets number ledger (.start id) router world
      (router.startSection outlets id world) := by
  have notRestart : ∀ other, ¬ (Request.start id).IsRestart router other :=
    Request.not_isRestart nofun
  unfold Router.startSection
  split
  next missing => exact .refused notRestart _ rfl
  next entry found =>
    split
    next running => exact .refused notRestart _ rfl
    next stopped =>
      rcases recorded.start entry.channel world with ⟨same, unrecorded⟩
      have held := Router.holds_of_find? number distinct found
      rw [← same] at held
      constructor
      · intro failed _ atomic
        have idle := atomic entry found failed
        refine ⟨?_, rfl, unrecorded⟩
        refine (standings_setChannel held).trans (standings_eq_self ?_)
        rw [idle]
        exact holds_entry distinct found
      · intro _ other isRestart
        exact absurd isRestart (notRestart other)
      · intro succeeded
        exact ⟨⟨listing_setChannel router id _, _, find?_setChannel found _,
          starts entry.channel world succeeded⟩, unrecorded⟩
      · exact others_setChannel outlets number router id _

theorem settles_stopSection (id : String) :
    Settles outlets number ledger (.stop id) router world
      (router.stopSection outlets id world) := by
  have notRestart : ∀ other, ¬ (Request.stop id).IsRestart router other :=
    Request.not_isRestart nofun
  unfold Router.stopSection
  split
  next missing => exact .refused notRestart _ rfl
  next entry found =>
    split
    next running =>
      rcases recorded.stop entry.channel world with ⟨-, unrecorded, isStopped⟩
      have isShown : Stands outlets (router.setChannel id (outlets.stop entry.channel world).1) id
          false := ⟨_, find?_setChannel found _, isStopped⟩
      exact .done _ ⟨listing_setChannel router id _, isShown⟩ unrecorded
        (others_setChannel outlets number router id _)
    next stopped => exact .refused notRestart _ rfl

theorem settles_restartSection (starts : StartsRunning outlets)
    (distinct : (router.configs.map (·.id)).Nodup) (id : String) :
    Settles outlets number ledger (.restart id) router world
      (router.restartSection outlets id world) := by
  unfold Router.restartSection
  split
  next missing =>
    refine .refused ?_ _ rfl
    rintro other ⟨isRestart, registered⟩
    cases isRestart
    rw [missing] at registered
    cases registered
  next entry found =>
    rcases recorded.stop entry.channel world with ⟨sameStopped, unrecordedStop, isIdle⟩
    rcases recorded.start (outlets.stop entry.channel world).1 (outlets.stop entry.channel world).2
      with ⟨same, unrecorded⟩
    have held := Router.holds_of_find? number distinct found
    rw [← sameStopped] at held
    have placed := find?_setChannel found (outlets.stop entry.channel world).1
    constructor
    · intro _ notRestart
      exact absurd ⟨rfl, by rw [found]; rfl⟩ (notRestart id)
    · rintro failed other ⟨isRestart, -⟩ atomic
      cases isRestart
      have idle := (atomic entry found failed).trans isIdle
      have stoppedStandings : standings outlets number _ = _ := standings_setChannel held
      rw [isIdle] at stoppedStandings
      refine ⟨?_, rfl, unrecorded.trans unrecordedStop⟩
      have heldStopped : (router.setChannel id (outlets.stop entry.channel world).1).Holds number id
          (number (outlets.start (outlets.stop entry.channel world).1
            (outlets.stop entry.channel world).2).2.1) := by
        rw [same]
        exact holds_alter number fun _ => rfl
      refine ((standings_setChannel heldStopped).trans ?_).trans stoppedStandings
      rw [idle]
      apply standings_eq_self
      rw [stoppedStandings]
      intro standing membership named
      rcases List.mem_map.mp membership with ⟨before, -, rfl⟩
      by_cases mine : before.config.id = id
      · simp [mine]
      · simp [mine] at named
    · intro succeeded
      refine ⟨⟨?_, _, find?_setChannel placed _, starts _ _ succeeded⟩,
        unrecorded.trans unrecordedStop⟩
      exact (listing_setChannel _ id _).trans (listing_setChannel router id _)
    · exact (others_setChannel outlets number _ id _).trans
        (others_setChannel outlets number router id _)

theorem Request.settles (starts : StartsRunning outlets)
    (distinct : (router.configs.map (·.id)).Nodup) (request : Request) :
    Settles outlets number ledger request router world (request.perform outlets router world) := by
  cases request with
  | add config => exact settles_addSection recorded starts config
  | remove id => exact settles_removeSection recorded id
  | update id change => exact settles_updateSection recorded starts distinct id change
  | start id => exact settles_startSection recorded starts distinct id
  | stop id => exact settles_stopSection recorded id
  | restart id => exact settles_restartSection recorded starts distinct id

end Sections

/-! ## Channels that run once they have started -/

theorem StartsRunning.ledgered (starts : StartsRunning outlets) :
    StartsRunning outlets.ledgered :=
  fun channel world => starts channel.1 world.1

theorem startsRunning_recorders : StartsRunning Recorder.outlets := by
  intro recorder bench started
  simp only [Recorder.outlets, Recorder.start] at started ⊢
  split at started
  next refused => cases started
  next accepted => rw [if_neg accepted]

theorem isRunning_server {server : TcpServer} {calls : ListenCalls}
    (started : (server.start calls).1.isOk = true) : (server.start calls).2.isRunning = true := by
  revert started
  unfold TcpServer.start
  split
  next running => exact fun _ => running
  next idle => split <;> intro started <;> first | rfl | cases started

theorem isRunning_client {client : TcpClient} {calls : ConnectCalls}
    (started : (client.start calls).1.isOk = true) : (client.start calls).2.isRunning = true := by
  revert started
  unfold TcpClient.start
  split
  next running => exact fun _ => running
  next idle => split <;> intro started <;> first | rfl | cases started

theorem isRunning_datagram {output : UdpOutput} {calls : DatagramCalls}
    (started : (output.start calls).1.isOk = true) : (output.start calls).2.isRunning = true := by
  revert started
  unfold UdpOutput.start
  split
  next refused =>
    intro started
    cases started
  next closed =>
    split
    case h_5 =>
      dsimp only
      split <;> intro started <;> rfl
    all_goals
      intro started
      cases started

/-- The outputs over the network are such channels. -/
theorem startsRunning_networkOutputs : StartsRunning NetworkOutput.outlets := by
  intro output machine started
  cases output with
  | server output =>
      simp only [NetworkOutput.outlets, NetworkOutput.start] at started ⊢
      by_cases running : output.isRunning = true
      · rw [if_pos running] at started
        cases started
      · rw [if_neg running] at started ⊢
        exact isRunning_server started
  | client output => exact isRunning_client started
  | datagram output => exact isRunning_datagram started

/-! ## Whole requests -/

theorem Request.isTold_of_isOk {request : Request} {outcome : Except Fault String}
    (done : request.perform outlets router world = (outcome, after, afterWorld))
    (succeeded : outcome.isOk = true) : request.isTold router outcome = true := by
  cases request with
  | restart id =>
      simp only [perform, Router.restartSection] at done
      cases found : router.find? id with
      | none =>
          rw [found] at done
          cases done
          cases succeeded
      | some entry => simp [isTold, found]
  | _ => exact succeeded

theorem Request.isTold_of_isRestart {request : Request} {id : String}
    (isRestart : request.IsRestart router id) (outcome : Except Fault String) :
    request.isTold router outcome = true := by
  rcases isRestart with ⟨rfl, registered⟩
  exact registered

theorem Request.not_isTold {request : Request} {outcome : Except Fault String}
    (failed : outcome.isOk = false) (notRestart : ∀ id, ¬ request.IsRestart router id) :
    request.isTold router outcome = false := by
  cases request with
  | restart id => exact Bool.eq_false_iff.mpr fun registered => notRestart id ⟨rfl, registered⟩
  | _ => exact failed

/-- In every state that a router reaches, a request comes to an end, with both locks free, and
touches no other output.  If it succeeds, that is told once, with both locks free, when the registry
and what runs show it, and so does the list that is kept, if it could be written.  If it fails,
nothing is told, and if it was not a start that failed half-way, nothing has changed; only a restart
of a registered output is told once as well when it fails, and leaves that output stopped and
everything else as it was. -/
theorem told_or_undisturbed (recorded : outlets.Recorded number ledger)
    (starts : StartsRunning outlets) {start : ω} (fresh : (ledger start).built = [])
    (reached : Reached outlets number ledger start rewritten router world) (request : Request) :
    ∃ outcome caller,
      request.guarded outlets { router, world } = some (outcome, caller) ∧
      request.whole outlets router world = (outcome, caller.router, caller.world) ∧
      caller.held = [] ∧
      others outlets number caller.router request.id = others outlets number router request.id ∧
      (outcome.isOk = true → ∃ news, caller.told = [news] ∧ news.held = [] ∧
        request.Shows outlets router world news.router ∧
        request.IsKept outlets router world news.router (ledger world) (ledger news.world) ∧
        caller.router = news.router ∧ ledger caller.world = ledger news.world) ∧
      (outcome.isOk = false → (∀ id, ¬ request.IsRestart router id) → caller.told = [] ∧
        (request.IsAtomic outlets router world →
          Undisturbed outlets number ledger router world caller.router caller.world)) ∧
      (outcome.isOk = false → ∀ id, request.IsRestart router id →
        ∃ news, caller.told = [news] ∧ news.held = [] ∧
          caller.router = news.router ∧ ledger caller.world = ledger news.world ∧
          (request.IsAtomic outlets router world →
            LeftStopped outlets number ledger id router world news.router news.world)) := by
  have distinct := (reached.sound recorded fresh).distinct
  have settled : Settles outlets number ledger request router world
      (request.perform outlets router world) := request.settles recorded starts distinct
  have guarded := request.guarded_run outlets router world
  have whole := request.whole_eq_finished outlets router world
  rcases performed : request.perform outlets router world with ⟨outcome, after, afterWorld⟩
  rw [performed] at settled guarded whole
  refine ⟨outcome, _, guarded, whole, ?_⟩
  have unrecorded := recorded.announce (after.status outlets) afterWorld
  cases isTold : request.isTold router outcome with
  | true =>
      refine ⟨rfl, settled.elsewhere, ?_, ?_, ?_⟩
      · intro succeeded
        have isShown := settled.shown succeeded
        exact ⟨_, rfl, rfl, isShown.1, isShown.2, rfl, unrecorded⟩
      · intro failed notRestart
        rw [request.not_isTold failed notRestart] at isTold
        cases isTold
      · intro failed id isRestart
        exact ⟨_, rfl, rfl, rfl, unrecorded, settled.stopped failed id isRestart⟩
  | false =>
      refine ⟨rfl, settled.elsewhere, ?_, ?_, ?_⟩
      · intro succeeded
        rw [request.isTold_of_isOk performed succeeded] at isTold
        cases isTold
      · intro failed notRestart
        exact ⟨rfl, settled.undisturbed failed notRestart⟩
      · intro failed id isRestart
        rw [request.isTold_of_isRestart isRestart] at isTold
        cases isTold

/-- Outputs that send datagrams, where every start meets the same outcomes. -/
def datagramOutlets : Outlets DatagramCalls UdpOutput where
  create config calls := (.ok (.create config.id config.address), calls)
  start output calls := ((output.start calls).1, (output.start calls).2, calls)
  stop output calls := (output.stop, calls)
  send _ output calls := (output.send fun _ => .ok (), output, calls)
  isRunning := UdpOutput.isRunning
  peers _ := 0
  localAddress output := output.localAddress.map (·.text)
  load _ := .ok []
  save _ calls := (.ok (), calls)
  announce _ calls := calls

/-- An addition is told although its list could not be written; and an output whose start fails when
its reader is at work already is not stopped after a failed restart. -/
theorem told_unwritten_and_unstopped :
    let east : OutputConfig := { OutputConfig.create "east" .udp "10.0.0.1" 14550 with
      autoStart := false }
    let unwritable : RouterBench := { store := .unwritable [] }
    let calls : DatagramCalls :=
      { resolve := .ok ⟨.v4 [10, 0, 0, 1], 14550⟩
        bind := .ok ()
        localAddress := .error (.other "no local address") }
    let added := Operation.run datagramOutlets [.add east] (false, Router.empty, calls)
    (∃ message caller news,
      (Request.add east).guarded Recorder.outlets { router := Router.empty, world := unwritable } =
        some (.ok message, caller) ∧
      caller.told = [news] ∧ news.router.configs = [east] ∧
      Recorder.outlets.load news.world = .ok []) ∧
    ∃ fault caller news,
      (Request.restart "east").guarded datagramOutlets
        { router := added.2.1, world := added.2.2 } = some (.error fault, caller) ∧
      caller.told = [news] ∧ Stands datagramOutlets news.router "east" true :=
  ⟨⟨_, _, _, rfl, rfl, rfl, rfl⟩, _, _, _, rfl, rfl, _, rfl, rfl⟩

/-- A restart that fails: its output cannot be started, and the one beside it goes on running. -/
theorem told_or_undisturbed_failedRestart :
    let east : OutputConfig := .create "east" .udp "10.0.0.1" 14550
    let west : OutputConfig := .create "west" .tcpServer "nostart" 5760
    let outlets := Recorder.outlets.ledgered
    let done := Operation.run outlets [.add east, .add west] (false, Router.empty, {}, {})
    let router := done.2.1
    let world := done.2.2
    let request := Request.restart "west"
    request.IsRestart router "west" ∧ request.IsAtomic outlets router world ∧
      (request.perform outlets router world).1.isOk = false ∧
      ∃ outcome caller,
        request.guarded outlets { router, world } = some (outcome, caller) ∧
        request.whole outlets router world = (outcome, caller.router, caller.world) ∧
        caller.held = [] ∧
        others outlets Prod.snd caller.router request.id =
          others outlets Prod.snd router request.id ∧
        (outcome.isOk = true → ∃ news, caller.told = [news] ∧ news.held = [] ∧
          request.Shows outlets router world news.router ∧
          request.IsKept outlets router world news.router world.2 news.world.2 ∧
          caller.router = news.router ∧ caller.world.2 = news.world.2) ∧
        (outcome.isOk = false → (∀ id, ¬ request.IsRestart router id) → caller.told = [] ∧
          (request.IsAtomic outlets router world →
            Undisturbed outlets Prod.snd Prod.snd router world caller.router caller.world)) ∧
        (outcome.isOk = false → ∀ id, request.IsRestart router id →
          ∃ news, caller.told = [news] ∧ news.held = [] ∧
            caller.router = news.router ∧ caller.world.2 = news.world.2 ∧
            (request.IsAtomic outlets router world →
              LeftStopped outlets Prod.snd Prod.snd id router world news.router news.world)) := by
  intro east west outlets done router world request
  have atomic : request.IsAtomic outlets router world := by
    intro entry found
    cases found
    intro failed
    rfl
  exact ⟨⟨rfl, rfl⟩, atomic, rfl, told_or_undisturbed
    (Outlets.recorded_ledgered fun _ _ => rfl) startsRunning_recorders.ledgered rfl
    (Reached.run .initial [.add east, .add west]) request⟩

end Registry

end MavBridge
