import MavBridge.Proofs.Router.Registry

/-!
# What outputs are sent, and what is counted of it

A `Journal` has every send through some outlets.  No operation on the registry sends anything except
for forwarding, and none but adding, restoring and removing touches the counts of an output.
-/

namespace MavBridge

/-- A channel: the output that it was built for, and how many channels were built before it. -/
structure ChannelTag where
  output : String
  number : Nat
  deriving DecidableEq

/-- A frame that was sent through a channel. -/
structure Delivery where
  channel : ChannelTag
  frame : Bytes
  outcome : Except Fault Nat

namespace Delivery

/-- Somebody took the frame. -/
def hasReached (delivery : Delivery) : Bool :=
  match delivery.outcome with
  | .ok reached => reached != 0
  | .error _ => false

def hasFailed (delivery : Delivery) : Bool := !delivery.outcome.isOk

end Delivery

/-- How many channels were built, and what was sent through them, in order. -/
structure Journal where
  built : Nat := 0
  sent : List Delivery := []

/-- Channels that are told apart by their tags, and a journal of what they are sent. -/
structure Outlets.Journaled {ω χ : Type} (outlets : Outlets ω χ) (tag : χ → ChannelTag)
    (journal : ω → Journal) : Prop where
  create : ∀ config world channel after, outlets.create config world = (.ok channel, after) →
    tag channel = ⟨config.id, (journal world).built⟩ ∧
      journal after = { journal world with built := (journal world).built + 1 }
  createFailed : ∀ config world fault after,
    outlets.create config world = (.error fault, after) → journal after = journal world
  start : ∀ channel world, tag (outlets.start channel world).2.1 = tag channel ∧
    journal (outlets.start channel world).2.2 = journal world
  stop : ∀ channel world, tag (outlets.stop channel world).1 = tag channel ∧
    journal (outlets.stop channel world).2 = journal world
  send : ∀ frame channel world, tag (outlets.send frame channel world).2.1 = tag channel ∧
    journal (outlets.send frame channel world).2.2 =
      { journal world with
        sent := (journal world).sent ++
          [⟨tag channel, frame, (outlets.send frame channel world).1⟩] }
  save : ∀ configs world, journal (outlets.save configs world).2 = journal world
  announce : ∀ status world, journal (outlets.announce status world) = journal world

theorem Outlets.Journaled.named_of_create {ω χ : Type} {outlets : Outlets ω χ}
    {tag : χ → ChannelTag} {journal : ω → Journal} (journaled : outlets.Journaled tag journal)
    {config : OutputConfig} {channel : χ} {world after : ω}
    (created : outlets.create config world = (.ok channel, after)) :
    (tag channel).output = config.id ∧ (journal after).sent = (journal world).sent := by
  obtain ⟨tagged, built⟩ := journaled.create config world channel after created
  constructor
  · rw [tagged]
  · rw [built]

theorem Outlets.Journaled.stop_if_running {ω χ : Type} {outlets : Outlets ω χ}
    {tag : χ → ChannelTag} {journal : ω → Journal} (journaled : outlets.Journaled tag journal)
    (channel : χ) (world : ω) :
    let stopped :=
      if outlets.isRunning channel then outlets.stop channel world else (channel, world)
    tag stopped.1 = tag channel ∧ (journal stopped.2).sent = (journal world).sent := by
  intro stopped
  unfold stopped
  split
  · obtain ⟨same, unsent⟩ := journaled.stop channel world
    exact ⟨same, congrArg Journal.sent unsent⟩
  · exact ⟨rfl, rfl⟩

/-- Outlets that tag their channels and keep a journal, and are no different otherwise. -/
def Outlets.journaled {ω χ : Type} (outlets : Outlets ω χ) :
    Outlets (ω × Journal) (χ × ChannelTag) where
  create config world :=
    match outlets.create config world.1 with
    | (.ok channel, after) =>
        (.ok (channel, ⟨config.id, world.2.built⟩), after,
          { world.2 with built := world.2.built + 1 })
    | (.error fault, after) => (.error fault, after, world.2)
  start channel world :=
    let (outcome, started, after) := outlets.start channel.1 world.1
    (outcome, (started, channel.2), after, world.2)
  stop channel world :=
    let (stopped, after) := outlets.stop channel.1 world.1
    ((stopped, channel.2), after, world.2)
  send frame channel world :=
    let (outcome, sent, after) := outlets.send frame channel.1 world.1
    (outcome, (sent, channel.2), after,
      { world.2 with sent := world.2.sent ++ [⟨channel.2, frame, outcome⟩] })
  isRunning channel := outlets.isRunning channel.1
  peers channel := outlets.peers channel.1
  localAddress channel := outlets.localAddress channel.1
  load world := outlets.load world.1
  save configs world :=
    let (outcome, after) := outlets.save configs world.1
    (outcome, after, world.2)
  announce status world := (outlets.announce status world.1, world.2)

/-- Whatever the channels do, a journal can be kept of it. -/
theorem Outlets.journaled_journaled {ω χ : Type} (outlets : Outlets ω χ) :
    outlets.journaled.Journaled Prod.snd Prod.snd where
  create config world channel after created := by
    simp only [Outlets.journaled] at created
    split at created
    next => cases created; exact ⟨rfl, rfl⟩
    next => cases created
  createFailed config world fault after failed := by
    simp only [Outlets.journaled] at failed
    split at failed
    next => cases failed
    next => cases failed; rfl
  start channel world := ⟨rfl, rfl⟩
  stop channel world := ⟨rfl, rfl⟩
  send frame channel world := ⟨rfl, rfl⟩
  save configs world := rfl
  announce status world := rfl

/-- The counts of an output, if there is one. -/
def Router.stats? {χ : Type} (router : Router χ) (id : String) : Option OutputStats :=
  (router.find? id).map (·.stats)

namespace Registry

variable {ω χ : Type}

/-- Distinct outputs, with channels that were built for them. -/
structure Marked (tag : χ → ChannelTag) (router : Router χ) : Prop where
  distinct : (router.configs.map (·.id)).Nodup
  named : ∀ entry ∈ router.entries, (tag entry.channel).output = entry.config.id

/-- The outputs with their counts. -/
def tallies (router : Router χ) : List (String × OutputStats) :=
  router.entries.map fun entry => (entry.config.id, entry.stats)

theorem stats?_eq_find?_tallies (router : Router χ) (id : String) :
    router.stats? id = ((tallies router).find? (·.1 == id)).map (·.2) := by
  unfold Router.stats? Router.find? tallies
  rw [List.find?_map, Option.map_map]
  rfl

theorem map_id_configs (router : Router χ) :
    router.configs.map (·.id) = (tallies router).map (·.1) := by
  simp [Router.configs, tallies]

theorem stats?_eq_none_iff {router : Router χ} {id : String} :
    router.stats? id = none ↔ id ∉ (tallies router).map (·.1) := by
  rw [stats?_eq_find?_tallies, Option.map_eq_none_iff]
  exact find?_key_eq_none_iff Prod.fst

theorem Marked.named_of_find? {tag : χ → ChannelTag} {router : Router χ}
    (marked : Marked tag router) {id : String} {entry : RouterEntry χ}
    (found : router.find? id = some entry) : (tag entry.channel).output = id := by
  obtain ⟨membership, rfl⟩ := (Router.find?_eq_some_iff marked.distinct).mp found
  exact marked.named entry membership

theorem Marked.of_entries {tag : χ → ChannelTag} {router after : Router χ}
    (marked : Marked tag router)
    (same : (after.entries.map fun entry => (entry.config, tag entry.channel)) =
      router.entries.map fun entry => (entry.config, tag entry.channel)) : Marked tag after where
  distinct := by
    have configs := congrArg (List.map Prod.fst) same
    simp only [List.map_map] at configs
    have sameConfigs : after.configs = router.configs := configs
    rw [sameConfigs]
    exact marked.distinct
  named entry membership := by
    have listed : (entry.config, tag entry.channel) ∈
        after.entries.map fun entry => (entry.config, tag entry.channel) :=
      List.mem_map_of_mem membership
    rw [same] at listed
    obtain ⟨old, oldMembership, sameEntry⟩ := List.mem_map.mp listed
    obtain ⟨sameConfig, sameTag⟩ := Prod.mk.inj sameEntry
    rw [← sameConfig, ← sameTag]
    exact marked.named old oldMembership

/-- Nothing is sent, and the outputs keep their counts; outputs with these identifiers are new. -/
structure Grows (tag : χ → ChannelTag) (journal : ω → Journal) (fresh : List String)
    (router : Router χ) (world : ω) (after : Router χ) (afterWorld : ω) : Prop where
  tallies : tallies after = tallies router ++ fresh.map fun id => (id, ({} : OutputStats))
  marked : Marked tag router → Marked tag after
  unsent : (journal afterWorld).sent = (journal world).sent

variable {outlets : Outlets ω χ} {tag : χ → ChannelTag} {journal : ω → Journal}
  {fresh later : List String} {router after last : Router χ} {world afterWorld lastWorld : ω}

namespace Grows

theorem of_unsent (router : Router χ) (unsent : (journal afterWorld).sent = (journal world).sent) :
    Grows tag journal [] router world router afterWorld where
  tallies := by simp
  marked marked := marked
  unsent := unsent

theorem trans (first : Grows tag journal fresh router world after afterWorld)
    (second : Grows tag journal later after afterWorld last lastWorld) :
    Grows tag journal (fresh ++ later) router world last lastWorld where
  tallies := by rw [second.tallies, first.tallies, List.map_append, List.append_assoc]
  marked marked := second.marked (first.marked marked)
  unsent := second.unsent.trans first.unsent

theorem of_entries
    (same : (after.entries.map fun entry => (entry.config, entry.stats, tag entry.channel)) =
      router.entries.map fun entry => (entry.config, entry.stats, tag entry.channel))
    (unsent : (journal afterWorld).sent = (journal world).sent) :
    Grows tag journal [] router world after afterWorld where
  tallies := by
    have shown := congrArg (List.map fun row => (row.1.id, row.2.1)) same
    simpa [Registry.tallies, Function.comp_def] using shown
  marked marked := by
    have tags := congrArg (List.map fun row => (row.1, row.2.2)) same
    exact marked.of_entries (by simpa [Function.comp_def] using tags)
  unsent := unsent

theorem alter (router : Router χ) {id : String} {change : RouterEntry χ → RouterEntry χ}
    (sameId : ∀ entry, entry.config.id = id → (change entry).config.id = id)
    (sameStats : ∀ entry, (change entry).stats = entry.stats)
    (named : ∀ entry, (tag (change entry).channel).output = id)
    (unsent : (journal afterWorld).sent = (journal world).sent) :
    Grows tag journal [] router world (router.alter id change) afterWorld where
  tallies := by
    simp only [Registry.tallies, Router.alter, List.map_nil, List.append_nil, List.map_map]
    refine List.map_congr_left ?_
    intro entry membership
    by_cases mine : entry.config.id = id
    · simp [mine, sameId entry mine, sameStats]
    · simp [mine]
  marked marked := by
    constructor
    · have sameIds : (router.alter id change).configs.map (·.id) = router.configs.map (·.id) := by
        simp only [Router.configs, Router.alter, List.map_map]
        refine List.map_congr_left ?_
        intro entry membership
        by_cases mine : entry.config.id = id
        · simp [mine, sameId entry mine]
        · simp [mine]
      rw [sameIds]
      exact marked.distinct
    · intro entry membership
      obtain ⟨old, oldMembership, rfl⟩ := List.mem_map.mp membership
      by_cases mine : old.config.id = id
      · simp [mine, named, sameId old mine]
      · simpa [mine] using marked.named old oldMembership
  unsent := unsent

theorem register {config : OutputConfig} {channel : χ} (free : router.find? config.id = none)
    (named : (tag channel).output = config.id)
    (unsent : (journal afterWorld).sent = (journal world).sent) :
    Grows tag journal [config.id] router world (router.register config channel) afterWorld where
  tallies := by simp [Registry.tallies, Router.register]
  marked marked := by
    constructor
    · have apart := Router.find?_eq_none_iff.mp free
      simpa [Router.configs, Router.register, List.nodup_append] using
        And.intro (by simpa [Router.configs] using marked.distinct)
          (by simpa [Router.configs] using apart)
    · intro entry membership
      rcases List.mem_append.mp membership with old | new
      · exact marked.named entry old
      · rw [List.mem_singleton.mp new]
        exact named
  unsent := unsent

/-- The channels that are out of service do not count. -/
theorem retire (grows : Grows tag journal fresh router world after afterWorld) (id : String)
    (channel : χ) : Grows tag journal fresh router world (after.retire id channel) afterWorld where
  tallies := grows.tallies
  marked marked := ⟨(grows.marked marked).distinct, (grows.marked marked).named⟩
  unsent := grows.unsent

end Grows

/-! ## The sections -/

section Sections

variable (journaled : outlets.Journaled tag journal)
include journaled

theorem Grows.startChannel (router : Router χ) {id : String} {channel : χ}
    (named : (tag channel).output = id) (world : ω) :
    Grows tag journal [] router world (router.startChannel outlets id channel world).2.1
      (router.startChannel outlets id channel world).2.2 := by
  obtain ⟨same, unsent⟩ := journaled.start channel world
  exact .alter router (fun _ mine => mine) (fun _ => rfl) (fun _ => by rw [same, named])
    (congrArg Journal.sent unsent)

theorem Grows.startChannel_if (router : Router χ) {id : String} {channel : χ}
    (named : (tag channel).output = id) (world : ω) (starts : Prop) [Decidable starts] :
    Grows tag journal [] router world
      (if starts then (router.startChannel outlets id channel world).2 else (router, world)).1
      (if starts then (router.startChannel outlets id channel world).2 else (router, world)).2 := by
  split
  · exact .startChannel journaled router named world
  · exact .of_unsent router rfl

theorem Grows.stopChannel (router : Router χ) {id : String} {channel : χ}
    (named : (tag channel).output = id) (world : ω) :
    Grows tag journal [] router world (router.stopChannel outlets id channel world).1
      (router.stopChannel outlets id channel world).2 := by
  obtain ⟨same, unsent⟩ := journaled.stop channel world
  exact .alter router (fun _ mine => mine) (fun _ => rfl) (fun _ => by rw [same, named])
    (congrArg Journal.sent unsent)

theorem Grows.persist (router : Router χ) (world : ω) :
    Grows tag journal [] router world router (router.persist outlets world) :=
  .of_unsent router (congrArg Journal.sent (journaled.save _ _))

theorem Grows.addSection (router : Router χ) (config : OutputConfig) (world : ω) :
    Grows tag journal (if (router.addSection outlets config world).1.isOk then [config.id] else [])
      router world (router.addSection outlets config world).2.1
      (router.addSection outlets config world).2.2 := by
  unfold Router.addSection
  split
  next => exact .of_unsent router rfl
  next =>
    split
    next => exact .of_unsent router rfl
    next untaken =>
      have free : router.find? config.id = none := by simpa using untaken
      split
      next fault afterWorld failed =>
        exact .of_unsent router (congrArg Journal.sent (journaled.createFailed _ _ _ _ failed))
      next channel afterWorld created =>
        obtain ⟨named, unsent⟩ := journaled.named_of_create created
        have registered := Grows.register free named unsent
        have persisted := registered.trans (.persist journaled _ afterWorld)
        have started := persisted.trans
          (.startChannel_if journaled _ named _ (config.startsItself = true))
        rw [← startNote_snd] at started
        exact started

theorem Grows.replace (router : Router χ) (old : RouterEntry χ) {config : OutputConfig}
    {channel : χ} (named : (tag channel).output = config.id) (world : ω) :
    Grows tag journal [] router world (router.replace outlets old config channel world).1
      (router.replace outlets old config channel world).2 := by
  obtain ⟨-, stopped⟩ := journaled.stop_if_running old.channel world
  unfold Router.replace
  dsimp only at stopped ⊢
  have altered : Grows tag journal [] router world
      (router.alter config.id fun entry => { entry with config, channel }) _ :=
    .alter router (fun _ _ => rfl) (fun _ => rfl) (fun _ => named) stopped
  exact (altered.retire config.id _).trans (.persist journaled _ _)

theorem Grows.updateSection (router : Router χ) (id : String) (change : OutputUpdate)
    (world : ω) :
    Grows tag journal [] router world (router.updateSection outlets id change world).2.1
      (router.updateSection outlets id change world).2.2 := by
  unfold Router.updateSection
  split
  next => exact .of_unsent router rfl
  next =>
    split
    next => exact .of_unsent router rfl
    next old found =>
      dsimp only
      split
      next fault afterWorld failed =>
        exact .of_unsent router (congrArg Journal.sent (journaled.createFailed _ _ _ _ failed))
      next channel afterWorld created =>
        obtain ⟨named, unsent⟩ := journaled.named_of_create created
        have replaced :=
          (of_unsent router unsent).trans (.replace journaled router old named afterWorld)
        have started := replaced.trans (.startChannel_if journaled _ named _
          (outlets.isRunning old.channel = true ∧ (old.config.update change).enabled = true))
        rw [← restartNote_snd] at started
        exact started

theorem Grows.startSection (marked : Marked tag router) (id : String) (world : ω) :
    Grows tag journal [] router world (router.startSection outlets id world).2.1
      (router.startSection outlets id world).2.2 := by
  unfold Router.startSection
  split
  next => exact .of_unsent router rfl
  next entry found =>
    split
    next => exact .of_unsent router rfl
    next => exact .startChannel journaled router (marked.named_of_find? found) world

theorem Grows.stopSection (marked : Marked tag router) (id : String) (world : ω) :
    Grows tag journal [] router world (router.stopSection outlets id world).2.1
      (router.stopSection outlets id world).2.2 := by
  unfold Router.stopSection
  split
  next => exact .of_unsent router rfl
  next entry found =>
    split
    next => exact .stopChannel journaled router (marked.named_of_find? found) world
    next => exact .of_unsent router rfl

theorem Grows.restartSection (marked : Marked tag router) (id : String) (world : ω) :
    Grows tag journal [] router world (router.restartSection outlets id world).2.1
      (router.restartSection outlets id world).2.2 := by
  unfold Router.restartSection
  split
  next => exact .of_unsent router rfl
  next entry found =>
    have named := marked.named_of_find? found
    have stopped : (tag (outlets.stop entry.channel world).1).output = id := by
      rw [(journaled.stop entry.channel world).1, named]
    exact (Grows.stopChannel journaled router named world).trans
      (.startChannel journaled _ stopped _)

theorem stopEntries_unsent (entries : List (RouterEntry χ)) (world : ω) :
    ((Router.stopEntries outlets entries world).1.map
        fun entry => (entry.config, entry.stats, tag entry.channel)) =
      (entries.map fun entry => (entry.config, entry.stats, tag entry.channel)) ∧
    (journal (Router.stopEntries outlets entries world).2).sent = (journal world).sent := by
  induction entries generalizing world with
  | nil => exact ⟨rfl, rfl⟩
  | cons entry rest inductionHypothesis =>
      obtain ⟨same, unsent⟩ := journaled.stop_if_running entry.channel world
      unfold Router.stopEntries
      dsimp only at same unsent ⊢
      generalize (if outlets.isRunning entry.channel then outlets.stop entry.channel world
        else (entry.channel, world)) = stopped at same unsent ⊢
      obtain ⟨others, unsentAfter⟩ := inductionHypothesis stopped.2
      exact ⟨by rw [List.map_cons, List.map_cons, others, same], unsentAfter.trans unsent⟩

theorem Grows.stopAll (router : Router χ) (world : ω) :
    Grows tag journal [] router world (router.stopAll outlets world).1
      (router.stopAll outlets world).2 := by
  obtain ⟨same, unsent⟩ := stopEntries_unsent journaled router.entries world
  exact .of_entries same unsent

/-! ## Restoring and removing -/

theorem Grows.restore (router : Router χ) (config : OutputConfig) (world : ω) :
    ∃ fresh, Grows tag journal fresh router world (router.restore outlets config world).2.1
      (router.restore outlets config world).2.2 := by
  unfold Router.restore
  split
  next => exact ⟨[], .of_unsent router rfl⟩
  next =>
    split
    next => exact ⟨[], .of_unsent router rfl⟩
    next untaken =>
      have free : router.find? config.id = none := by simpa using untaken
      split
      next fault afterWorld failed =>
        have unsent := congrArg Journal.sent (journaled.createFailed _ _ _ _ failed)
        exact ⟨[], .of_unsent router unsent⟩
      next channel afterWorld created =>
        obtain ⟨named, unsent⟩ := journaled.named_of_create created
        have registered := Grows.register free named unsent
        have started := registered.trans (.startChannel journaled _ named afterWorld)
        dsimp only
        split
        next startsItself =>
          split
          next message after lastWorld result =>
            rw [result] at started
            exact ⟨_, started⟩
          next fault after lastWorld result =>
            rw [result] at started
            exact ⟨_, started⟩
        next waits => exact ⟨_, registered⟩

theorem Grows.restoreAll (configs : List OutputConfig) (router : Router χ) (world : ω) :
    ∃ fresh, Grows tag journal fresh router world
      (Router.restoreAll outlets configs router world).2.1
      (Router.restoreAll outlets configs router world).2.2 := by
  induction configs generalizing router world with
  | nil => exact ⟨[], .of_unsent router rfl⟩
  | cons config rest inductionHypothesis =>
      obtain ⟨first, restored⟩ := Grows.restore journaled router config world
      obtain ⟨others, restoredAll⟩ := inductionHypothesis
        (router.restore outlets config world).2.1 (router.restore outlets config world).2.2
      exact ⟨first ++ others, restored.trans restoredAll⟩

theorem Grows.restoreKept (router : Router χ) (world : ω) :
    ∃ fresh, Grows tag journal fresh router world (restoreKept outlets router world).1
      (restoreKept outlets router world).2 := by
  unfold Registry.restoreKept
  split
  next => exact ⟨[], .of_unsent router rfl⟩
  next configs loaded => exact Grows.restoreAll journaled configs router world

/-- An output that is removed goes with its counts, and the others keep theirs. -/
theorem removeSection_unsent (marked : Marked tag router) (id : String) (world : ω) :
    tallies (router.removeSection outlets id world).2.1 =
        (tallies router).filter (fun tally => tally.1 != id) ∧
      Marked tag (router.removeSection outlets id world).2.1 ∧
      (journal (router.removeSection outlets id world).2.2).sent = (journal world).sent := by
  unfold Router.removeSection
  split
  next missing =>
    refine ⟨(List.filter_eq_self.mpr ?_).symm, marked, rfl⟩
    intro tally membership
    obtain ⟨entry, entryMembership, rfl⟩ := List.mem_map.mp membership
    have theirs := List.find?_eq_none.mp missing entry entryMembership
    simpa using theirs
  next entry found =>
    refine ⟨?_, ⟨?_, ?_⟩, ?_⟩
    · simp [tallies, Router.retire, List.filter_map, Function.comp_def]
    · have fewer : ((router.without id).retire id (outlets.stop entry.channel world).1).configs
          |>.Sublist router.configs := List.filter_sublist.map _
      exact marked.distinct.sublist (fewer.map _)
    · intro other membership
      exact marked.named other (List.mem_filter.mp membership).1
    · obtain ⟨-, unsent⟩ := journaled.stop entry.channel world
      have persisted := congrArg Journal.sent (journaled.save
        ((router.without id).retire id (outlets.stop entry.channel world).1).configs
        (outlets.stop entry.channel world).2)
      exact persisted.trans (congrArg Journal.sent unsent)

end Sections

/-! ## What becomes of the counts -/

/-- A section of an operation: whether it changed the list of outputs, the registry before and after
it, and what was sent. -/
structure Episode (χ : Type) where
  operation : Operation
  hasChanged : Bool
  before : Router χ
  after : Router χ
  sent : List Delivery

namespace Episode

def of (outlets : Outlets ω χ) (journal : ω → Journal) (operation : Operation) (router : Router χ)
    (world : ω) : Episode χ where
  operation
  hasChanged := (operation.perform outlets router world).1
  before := router
  after := (operation.perform outlets router world).2.1
  sent := (journal (operation.perform outlets router world).2.2).sent.drop
    (journal world).sent.length

/-- An output is added, or restored. -/
def registers (id : String) (episode : Episode χ) : Bool :=
  match episode.operation with
  | .add config => episode.hasChanged && config.id = id
  | .load => (episode.before.stats? id).isNone && (episode.after.stats? id).isSome
  | _ => false

/-- An output that is registered was not before, and has not counted anything; every other one keeps
its counts until it is removed. -/
def Carries (episode : Episode χ) (id : String) : Prop :=
  if episode.registers id then
    episode.before.stats? id = none ∧ episode.after.stats? id = some {}
  else
    episode.after.stats? id = episode.before.stats? id ∨
      (episode.after.stats? id = none ∧ episode.operation = .remove id)

theorem carries_of_registers {episode : Episode χ} {id : String}
    (registered : episode.registers id = true) (absent : episode.before.stats? id = none)
    (new : episode.after.stats? id = some {}) : episode.Carries id := by
  unfold Carries
  rw [if_pos registered]
  exact ⟨absent, new⟩

theorem carries_of_kept {episode : Episode χ} {id : String}
    (unregistered : episode.registers id = false)
    (kept : episode.after.stats? id = episode.before.stats? id ∨
      (episode.after.stats? id = none ∧ episode.operation = .remove id)) : episode.Carries id := by
  unfold Carries
  rw [unregistered, if_neg Bool.false_ne_true]
  exact kept

end Episode

theorem Grows.stats?_eq (grows : Grows tag journal fresh router world after afterWorld)
    (marked : Marked tag router) (id : String) :
    if id ∈ fresh then router.stats? id = none ∧ after.stats? id = some {}
    else after.stats? id = router.stats? id := by
  have shown : after.stats? id = (router.stats? id).or
      ((fresh.find? (· == id)).map fun _ => {}) := by
    rw [stats?_eq_find?_tallies, stats?_eq_find?_tallies, grows.tallies, List.find?_append,
      List.find?_map, Option.map_or, Option.map_map]
    rfl
  cases found : fresh.find? (· == id) with
  | none =>
      have old : id ∉ fresh := by simpa using List.find?_eq_none.mp found id
      rw [found, Option.map_none, Option.or_none] at shown
      rwa [if_neg old]
  | some other =>
      have same : other = id := by simpa using List.find?_some found
      have new : id ∈ fresh := same ▸ List.mem_of_find?_eq_some found
      -- Identifiers are distinct afterwards, so what is new was not there before.
      have distinct := (grows.marked marked).distinct
      rw [map_id_configs, grows.tallies, List.map_append] at distinct
      have absent : router.stats? id = none := by
        refine stats?_eq_none_iff.mpr fun old => ?_
        exact (List.nodup_append.mp distinct).2.2 id old id (by simpa using new) rfl
      rw [absent, found] at shown
      rw [if_pos new]
      exact ⟨absent, shown⟩

theorem Grows.carries {operation : Operation}
    (grows : Grows tag journal fresh router world (operation.perform outlets router world).2.1
      (operation.perform outlets router world).2.2)
    (marked : Marked tag router)
    (registers : ∀ id, (Episode.of outlets journal operation router world).registers id =
      decide (id ∈ fresh)) (id : String) :
    (Episode.of outlets journal operation router world).Carries id := by
  have shown := grows.stats?_eq marked id
  by_cases new : id ∈ fresh
  · rw [if_pos new] at shown
    exact Episode.carries_of_registers ((registers id).trans (decide_eq_true new)) shown.1 shown.2
  · rw [if_neg new] at shown
    exact Episode.carries_of_kept ((registers id).trans (decide_eq_false new)) (.inl shown)

/-- Whatever is done except for forwarding sends nothing and carries every count over. -/
theorem perform_unsent (journaled : outlets.Journaled tag journal) (marked : Marked tag router)
    {operation : Operation} (unforwarded : ∀ frame, operation ≠ .forward frame) (world : ω) :
    Marked tag (operation.perform outlets router world).2.1 ∧
      (journal (operation.perform outlets router world).2.2).sent = (journal world).sent ∧
      ∀ id, (Episode.of outlets journal operation router world).Carries id := by
  have settled {fresh : List String}
      (grows : Grows tag journal fresh router world (operation.perform outlets router world).2.1
        (operation.perform outlets router world).2.2)
      (registers : ∀ id, (Episode.of outlets journal operation router world).registers id =
        decide (id ∈ fresh)) :
      Marked tag (operation.perform outlets router world).2.1 ∧
        (journal (operation.perform outlets router world).2.2).sent = (journal world).sent ∧
        ∀ id, (Episode.of outlets journal operation router world).Carries id :=
    ⟨grows.marked marked, grows.unsent, grows.carries marked registers⟩
  cases operation with
  | forward frame => exact absurd rfl (unforwarded frame)
  | load =>
      obtain ⟨fresh, grows⟩ := Grows.restoreKept journaled router world
      refine settled grows fun id => ?_
      have shown := grows.stats?_eq marked id
      by_cases new : id ∈ fresh
      · rw [if_pos new] at shown
        simp [Episode.registers, Episode.of, Operation.perform, shown, new]
      · rw [if_neg new] at shown
        cases before : router.stats? id <;>
          simp [Episode.registers, Episode.of, Operation.perform, shown, before, new]
  | add config =>
      refine settled (Grows.addSection journaled router config world) fun id => ?_
      cases added : (router.addSection outlets config world).1.isOk <;>
        simp [Episode.registers, Episode.of, Operation.perform, added, eq_comm]
  | update id change => exact settled (.updateSection journaled router id change world) fun _ => rfl
  | start id => exact settled (.startSection journaled marked id world) fun _ => rfl
  | stop id => exact settled (.stopSection journaled marked id world) fun _ => rfl
  | restart id => exact settled (.restartSection journaled marked id world) fun _ => rfl
  | stopAll => exact settled (.stopAll journaled router world) fun _ => rfl
  | remove id =>
      obtain ⟨fewer, stillMarked, unsent⟩ := removeSection_unsent journaled marked id world
      refine ⟨stillMarked, unsent, fun other => Episode.carries_of_kept rfl ?_⟩
      simp only [Episode.of, Operation.perform, stats?_eq_find?_tallies, fewer, List.find?_filter]
      by_cases mine : other = id
      · simp [mine]
      · have theirs (tally : String × OutputStats) :
            decide ((tally.1 != id) = true ∧ (tally.1 == other) = true) = (tally.1 == other) := by
          by_cases same : tally.1 = other
          · simp [same, mine]
          · simp [same]
        simp only [theirs, true_or]

end Registry

end MavBridge
