import MavBridge.Proofs.Output.Starting
import MavBridge.Proofs.Router.Announcing

/-!
# Updating an output

An update puts a new configuration and a new channel in the place of the old ones, and changes
nothing else.  What it asks for is taken field by field, so two updates are one that has the fields
of both.
-/

namespace MavBridge

/-! ## Fields -/

/-- A field is what was given, or as before. -/
def Overrides {α : Type} (given : Option α) (before after : α) : Prop :=
  (∀ value, given = some value → after = value) ∧ (given = none → after = before)

theorem overrides_getD {α : Type} (given : Option α) (before : α) :
    Overrides given before (given.getD before) := by
  constructor
  · rintro value rfl
    rfl
  · rintro rfl
    rfl

theorem Overrides.eq_getD {α : Type} {given : Option α} {before after : α}
    (overrides : Overrides given before after) : after = given.getD before := by
  cases given with
  | none => exact overrides.2 rfl
  | some value => exact overrides.1 value rfl

namespace OutputUpdate

/-- A configuration after an update, field by field. -/
structure Updates (change : OutputUpdate) (before after : OutputConfig) : Prop where
  id : after.id = before.id
  kind : Overrides change.kind before.kind after.kind
  host : Overrides change.host before.host after.host
  port : Overrides change.port before.port after.port
  name : Overrides change.name before.name after.name
  enabled : Overrides change.enabled before.enabled after.enabled
  autoStart : Overrides change.autoStart before.autoStart after.autoStart

theorem updates_update (change : OutputUpdate) (config : OutputConfig) :
    change.Updates config (config.update change) where
  id := rfl
  kind := overrides_getD change.kind config.kind
  host := overrides_getD change.host config.host
  port := overrides_getD change.port config.port
  name := overrides_getD change.name config.name
  enabled := overrides_getD change.enabled config.enabled
  autoStart := overrides_getD change.autoStart config.autoStart

theorem Updates.eq_update {change : OutputUpdate} {before after : OutputConfig}
    (updates : change.Updates before after) : after = before.update change := by
  rcases after with ⟨id, kind, host, port, name, enabled, autoStart⟩
  rw [OutputConfig.update, ← updates.id, ← updates.kind.eq_getD, ← updates.host.eq_getD,
    ← updates.port.eq_getD, ← updates.name.eq_getD, ← updates.enabled.eq_getD,
    ← updates.autoStart.eq_getD]

/-- Two updates in one; where both give a field, the second is taken. -/
def merge (first second : OutputUpdate) : OutputUpdate where
  kind := second.kind.or first.kind
  host := second.host.or first.host
  port := second.port.or first.port
  name := second.name.or first.name
  enabled := second.enabled.or first.enabled
  autoStart := second.autoStart.or first.autoStart

theorem update_merge (config : OutputConfig) (first second : OutputUpdate) :
    config.update (first.merge second) = (config.update first).update second := by
  simp only [OutputConfig.update, merge, Option.getD_or]

end OutputUpdate

namespace Registry

variable {ω χ : Type} {outlets : Outlets ω χ} {number : χ → Nat} {ledger : ω → Ledger}
  {rewritten : Bool} {router after : Router χ} {world afterWorld createdWorld : ω} {id : String}
  {change : OutputUpdate} {channel : χ} {old : RouterEntry χ}

/-! ## Channels as they are built -/

/-- A channel does not run, and will exactly if its start succeeds. -/
def Truthful (outlets : Outlets ω χ) (channel : χ) : Prop :=
  outlets.isRunning channel = false ∧
    ∀ world, outlets.isRunning (outlets.start channel world).2.1 =
      (outlets.start channel world).1.isOk

theorem Truthful.ledgered {channel : χ × Nat} (truthful : Truthful outlets channel.1) :
    Truthful outlets.ledgered channel :=
  ⟨truthful.1, fun world => truthful.2 world.1⟩

theorem truthful_recorders {config : OutputConfig} {bench afterBench : RouterBench}
    {recorder : Recorder}
    (created : Recorder.outlets.create config bench = (.ok recorder, afterBench)) :
    Truthful Recorder.outlets recorder := by
  have idle : recorder.isRunning = false := by
    simp only [Recorder.outlets, Recorder.create] at created
    split at created
    next built building =>
      cases created
      split at building <;> cases building
      rfl
    next => cases created
  refine ⟨idle, ?_⟩
  intro bench
  simp only [Recorder.outlets, Recorder.start]
  split
  next => exact idle
  next => rfl

/-- On a machine no start fails late. -/
theorem exists_calls {output : NetworkOutput} (stopped : output.IsStopped) (network : Network) :
    ∃ calls, ¬ output.FailsLate calls (.ok ()) ∧
      ((output.start network).1, (output.start network).2.1) =
        output.startWith calls (.ok ()) := by
  have onTime (address : String) : ¬ (network.datagramCalls address).FailLate (.ok ()) := by
    rintro ⟨resolved, -, -, -, -, unanswered⟩
    unfold Network.datagramCalls at resolved unanswered
    split at resolved
    next => cases resolved
    next isResolved =>
      rw [isResolved] at unanswered
      cases unanswered
  let calls (address : String) : SocketCalls :=
    ⟨(network.listen address).1, network.connectCalls address, network.datagramCalls address⟩
  cases output with
  | server server =>
      have idle : server.isRunning = false := stopped.isRunning
      refine ⟨calls server.bindAddress, id, ?_⟩
      rw [NetworkOutput.startWith_ok, NetworkOutput.start, idle]
      rfl
  | client client =>
      refine ⟨calls client.remote, id, ?_⟩
      rw [NetworkOutput.startWith_ok]
      rfl
  | datagram udp =>
      refine ⟨calls udp.remote, onTime udp.remote, ?_⟩
      rw [NetworkOutput.startWith_ok]
      rfl

theorem truthful_networkOutputs {config : OutputConfig} {machine afterMachine : Machine}
    {output : NetworkOutput}
    (created : NetworkOutput.outlets.create config machine = (.ok output, afterMachine)) :
    Truthful NetworkOutput.outlets output := by
  have stopped := NetworkOutput.isStopped_create (congrArg Prod.fst created)
  refine ⟨stopped.isRunning, ?_⟩
  intro machine
  have running := startsRunning_networkOutputs output machine
  rcases exists_calls stopped machine.network with ⟨calls, onTime, same⟩
  simp only [NetworkOutput.outlets] at running ⊢
  generalize output.start machine.network = done at running same ⊢
  rcases done with ⟨outcome, after, network⟩
  cases outcome with
  | ok message => exact running rfl
  | error fault =>
      rcases NetworkOutput.failed_cases stopped same.symm with ⟨-, unchanged⟩ | ⟨late, -⟩
      · rw [unchanged]
        exact stopped.isRunning
      · exact absurd late onTime

/-! ## In the place of the old entry -/

/-- Identifiers are distinct, so changing an output changes the entry in one place. -/
theorem alter_eq_set (distinct : (router.configs.map (·.id)).Nodup) {position : Nat}
    (placed : router.entries[position]? = some old) (replace : RouterEntry χ → RouterEntry χ) :
    (router.alter old.config.id replace).entries = router.entries.set position (replace old) := by
  apply List.ext_getElem?
  intro place
  rw [Router.alter, List.getElem?_map, List.getElem?_set]
  split
  next here =>
    rw [← here, placed, if_pos (List.getElem?_eq_some_iff.mp placed).1]
    simp
  next elsewhere =>
    cases there : router.entries[place]? with
    | none => rfl
    | some entry =>
        have different : entry.config.id ≠ old.config.id := by
          intro same
          rw [Router.configs, List.map_map] at distinct
          have listed : (router.entries.map fun entry => entry.config.id)[place]? =
              (router.entries.map fun entry => entry.config.id)[position]? := by
            rw [List.getElem?_map, List.getElem?_map, there, placed, Option.map_some, same]
            rfl
          have inside : place < (router.entries.map fun entry => entry.config.id).length := by
            rw [List.length_map]
            exact (List.getElem?_eq_some_iff.mp there).1
          exact elsewhere ((List.getElem?_inj inside distinct).mp listed).symm
        rw [Option.map_some, if_neg different]

theorem alter_alter (router : Router χ) (first : RouterEntry χ → RouterEntry χ)
    (sameId : ∀ entry, entry.config.id = id → (first entry).config.id = id)
    (second : RouterEntry χ → RouterEntry χ) :
    (router.alter id first).alter id second =
      router.alter id fun entry => second (first entry) := by
  simp only [Router.alter, List.map_map]
  congr 1
  apply List.map_congr_left
  intro entry membership
  by_cases mine : entry.config.id = id
  · simp [mine, sameId entry mine]
  · simp [mine]

theorem exists_place (distinct : (router.configs.map (·.id)).Nodup)
    (found : router.find? id = some old) :
    old.config.id = id ∧ ∃ position : Nat, router.entries[position]? = some old := by
  rcases (Router.find?_eq_some_iff distinct).mp found with ⟨membership, named⟩
  exact ⟨named, List.mem_iff_getElem?.mp membership⟩

/-! ## Updates that succeed -/

/-- What an update says of the start that came with it, if one did. -/
def restartText : Option (Except Fault String) → String
  | none => ""
  | some (.ok _) => " and restarted"
  | some (.error fault) => ", but restart failed: " ++ fault.message

theorem restartNote_eq (router : Router χ) (config : OutputConfig) (channel : χ) (wasRunning : Bool)
    (world : ω) :
    router.restartNote outlets config channel wasRunning world =
      if wasRunning ∧ config.enabled then
        (restartText (some (outlets.start channel world).1),
          router.setChannel config.id (outlets.start channel world).2.1,
          (outlets.start channel world).2.2)
      else (restartText none, router, world) := by
  unfold Router.restartNote Router.startChannel
  split
  · rcases outlets.start channel world with ⟨outcome, started, laterWorld⟩
    cases outcome <;> rfl
  · rfl

/-- An output has been updated: `placed` is where `old` was, `stopped` is its former channel, and
`started` is the outcome of starting the new one, if that was done. -/
structure Renewed (outlets : Outlets ω χ) (number : χ → Nat) (change : OutputUpdate)
    (channel : χ) (router : Router χ) (old : RouterEntry χ) (after : Router χ)
    (placed : RouterEntry χ) (stopped : χ) (started : Option (Except Fault String)) : Prop where
  entries : ∃ position : Nat, router.entries[position]? = some old ∧
    after.entries = router.entries.set position placed
  config : change.Updates old.config placed.config
  stats : placed.stats = old.stats
  retired : after.retired = router.retired ++ [(old.config.id, stopped)]
  former : number stopped = number old.channel ∧ outlets.isRunning stopped = false
  restarts : started.isSome = true ↔
    outlets.isRunning old.channel = true ∧ placed.config.enabled = true
  waits : started = none → placed.channel = channel
  starts : ∀ outcome, started = some outcome → ∃ startWorld laterWorld,
    outlets.start channel startWorld = (outcome, placed.channel, laterWorld)

theorem Renewed.isRunning {placed : RouterEntry χ} {stopped : χ}
    {started : Option (Except Fault String)}
    (renewed : Renewed outlets number change channel router old after placed stopped started)
    (truthful : Truthful outlets channel) :
    outlets.isRunning placed.channel = true ↔
      outlets.isRunning old.channel = true ∧ placed.config.enabled = true ∧
        ∃ message, started = some (.ok message) := by
  rw [← and_assoc, ← renewed.restarts]
  cases started with
  | none => simp [renewed.waits rfl, truthful.1]
  | some outcome =>
      rcases renewed.starts outcome rfl with ⟨startWorld, laterWorld, started⟩
      have same := truthful.2 startWorld
      rw [started] at same
      rw [same]
      cases outcome with
      | ok message => simp [Except.isOk, Except.toBool]
      | error fault => simp [Except.isOk, Except.toBool]

theorem update_eq (found : router.find? id = some old) (supported : change.kind ≠ some .unsupported)
    (created : outlets.create (old.config.update change) world = (.ok channel, createdWorld)) :
    let config := old.config.update change
    let replaced := router.replace outlets old config channel createdWorld
    let noted := replaced.1.restartNote outlets config channel (outlets.isRunning old.channel)
      replaced.2
    router.update outlets id change world =
      (.ok ("Output '" ++ id ++ "' updated" ++ noted.1), noted.2.1,
        noted.2.1.announce outlets noted.2.2) := by
  simp only [Router.update, Router.updateSection, if_neg supported, found, created, Router.conclude]

theorem update_eq_ok {message : String}
    (updated : router.update outlets id change world = (.ok message, after, afterWorld)) :
    change.kind ≠ some .unsupported ∧ ∃ old channel createdWorld, router.find? id = some old ∧
      outlets.create (old.config.update change) world = (.ok channel, createdWorld) := by
  by_cases supported : change.kind = some .unsupported
  · simp [Router.update, Router.updateSection, supported, Router.conclude] at updated
  refine ⟨supported, ?_⟩
  cases found : router.find? id with
  | none => simp [Router.update, Router.updateSection, supported, found, Router.conclude] at updated
  | some old =>
      rcases created : outlets.create (old.config.update change) world with ⟨outcome, createdWorld⟩
      cases outcome with
      | ok channel => exact ⟨old, channel, createdWorld, rfl, created⟩
      | error fault =>
          simp [Router.update, Router.updateSection, supported, found, created, Router.conclude]
            at updated

section Updates

variable (recorded : outlets.Recorded number ledger) (distinct : (router.configs.map (·.id)).Nodup)

include recorded distinct

theorem renewed_update (found : router.find? id = some old)
    (supported : change.kind ≠ some .unsupported)
    (created : outlets.create (old.config.update change) world = (.ok channel, createdWorld)) :
    ∃ after afterWorld placed stopped started,
      router.update outlets id change world =
        (.ok ("Output '" ++ id ++ "' updated" ++ restartText started), after, afterWorld) ∧
      Renewed outlets number change channel router old after placed stopped started := by
  rcases exists_place distinct found with ⟨rfl, position, place⟩
  have updates := change.updates_update old.config
  have former := stop_if_running recorded old.channel createdWorld
  rw [update_eq found supported created]
  dsimp only [Router.replace] at former ⊢
  generalize (if outlets.isRunning old.channel = true then outlets.stop old.channel createdWorld
    else (old.channel, createdWorld)) = halted at former ⊢
  generalize Router.persist outlets _ _ = startWorld
  rw [restartNote_eq]
  have sameId : (old.config.update change).id = old.config.id := updates.id
  generalize old.config.update change = config at updates sameId ⊢
  split
  next restarts =>
    refine ⟨_, _, ⟨config, (outlets.start channel startWorld).2.1, old.stats⟩, halted.1,
      some (outlets.start channel startWorld).1, rfl, ?_⟩
    constructor
    case entries =>
      refine ⟨position, place, ?_⟩
      rw [sameId]
      have again := alter_alter router (fun entry => { entry with config, channel })
        (fun _ _ => sameId) fun entry =>
          { entry with channel := (outlets.start channel startWorld).2.1 }
      exact (congrArg Router.entries again).trans (alter_eq_set distinct place _)
    case config => exact updates
    case stats => rfl
    case retired => exact sameId ▸ rfl
    case former => exact ⟨former.1, former.2.2⟩
    case restarts => exact iff_of_true rfl restarts
    case waits => exact nofun
    case starts =>
      intro outcome isOutcome
      cases isOutcome
      exact ⟨startWorld, _, rfl⟩
  next waits =>
    refine ⟨_, _, ⟨config, channel, old.stats⟩, halted.1, none, rfl, ?_⟩
    constructor
    case entries =>
      rw [sameId]
      exact ⟨position, place, alter_eq_set distinct place _⟩
    case config => exact updates
    case stats => rfl
    case retired => exact sameId ▸ rfl
    case former => exact ⟨former.1, former.2.2⟩
    case restarts => exact iff_of_false nofun waits
    case waits => exact fun _ => rfl
    case starts => exact nofun

theorem configs_of_update {message : String}
    (updated : router.update outlets id change world = (.ok message, after, afterWorld)) :
    after.configs = router.configs.map fun config =>
      if config.id = id then config.update change else config := by
  rcases update_eq_ok updated with ⟨supported, old, channel, createdWorld, found, created⟩
  rcases renewed_update recorded distinct found supported created with
    ⟨_, _, placed, stopped, started, again, renewed⟩
  rw [updated] at again
  cases again
  rcases exists_place distinct found with ⟨rfl, -⟩
  rcases renewed.entries with ⟨position, place, replaced⟩
  have altered := alter_eq_set distinct place fun _ => placed
  rw [Router.configs, replaced, ← altered, Router.alter, Router.configs, List.map_map, List.map_map]
  apply List.map_congr_left
  intro entry membership
  by_cases mine : entry.config.id = old.config.id
  · have theSame := (Router.find?_eq_some_iff distinct).mpr ⟨membership, mine⟩
    rw [found] at theSame
    cases theSame
    simp [renewed.config.eq_update]
  · simp [mine]

end Updates

/-- An update of a registered output that is of a supported kind, and for which a channel is built,
succeeds.  In the place of the old entry is one with the same counts, the fields that were given,
the others as before, and the new channel; the other entries are the same, and the old channel is
stopped.  The new one has been started exactly if the old one ran and the new configuration is
enabled, and if it is true to its starts it runs exactly if that one succeeded.  A further update
leaves the configurations that both in one leave. -/
theorem update_replaces_in_place (recorded : outlets.Recorded number ledger) {start : ω}
    (fresh : (ledger start).built = [])
    (reached : Reached outlets number ledger start rewritten router world)
    (found : router.find? id = some old) (supported : change.kind ≠ some .unsupported)
    (created : outlets.create (old.config.update change) world = (.ok channel, createdWorld)) :
    ∃ after afterWorld placed stopped started,
      router.update outlets id change world =
        (.ok ("Output '" ++ id ++ "' updated" ++ restartText started), after, afterWorld) ∧
      Renewed outlets number change channel router old after placed stopped started ∧
      (Truthful outlets channel → (outlets.isRunning placed.channel = true ↔
        outlets.isRunning old.channel = true ∧ placed.config.enabled = true ∧
          ∃ message, started = some (.ok message))) ∧
      ∀ further laterWorld text twice twiceWorld otherWorld otherText once onceWorld,
        after.update outlets id further laterWorld = (.ok text, twice, twiceWorld) →
        router.update outlets id (change.merge further) otherWorld =
          (.ok otherText, once, onceWorld) →
        once.configs = twice.configs := by
  have distinct := (reached.sound recorded fresh).distinct
  rcases renewed_update recorded distinct found supported created with
    ⟨after, afterWorld, placed, stopped, started, updated, renewed⟩
  refine ⟨after, afterWorld, placed, stopped, started, updated, renewed, renewed.isRunning, ?_⟩
  intro further laterWorld text twice twiceWorld otherWorld otherText once onceWorld second single
  have whole := reached.whole (.update id change)
  simp only [Operation.whole, updated] at whole
  have distinctAfter := (whole.sound recorded fresh).distinct
  rw [configs_of_update recorded distinct single, configs_of_update recorded distinctAfter second,
    configs_of_update recorded distinct updated, List.map_map]
  apply List.map_congr_left
  intro config membership
  by_cases mine : config.id = id
  · have sameId : (config.update change).id = id := mine
    simp [mine, sameId, OutputUpdate.update_merge]
  · simp [mine]

/-- A running output is moved to where it cannot be started. -/
theorem update_replaces_in_place_failedRestart :
    let outlets := Recorder.outlets.ledgered
    let east : OutputConfig := .create "east" .udp "10.0.0.1" 14550
    let moved : OutputConfig := { east with host := "nostart" }
    let done := Operation.run outlets [.add east] (false, Router.empty, {}, {})
    let old : RouterEntry (Recorder × Nat) := ⟨east, ({ config := east, isRunning := true }, 0), {}⟩
    let change : OutputUpdate := { host := some "nostart" }
    outlets.isRunning old.channel = true ∧ moved.enabled = true ∧
      ∃ after afterWorld placed stopped started,
        done.2.1.update outlets "east" change done.2.2 =
          (.ok ("Output 'east' updated" ++ restartText started), after, afterWorld) ∧
        Renewed outlets Prod.snd change ({ config := moved }, 1) done.2.1 old after placed stopped
          started ∧
        started = some (.error (.addrInUse moved.address)) ∧
        outlets.isRunning placed.channel = false := by
  intro outlets east moved done old change
  have recorded : (Recorder.outlets.create moved {}).1 = .ok { config := moved } := rfl
  have truthful : Truthful outlets (({ config := moved } : Recorder), 1) :=
    (truthful_recorders (Prod.ext recorded rfl)).ledgered
  have reached : Reached outlets Prod.snd Prod.snd ({}, {}) done.1 done.2.1 done.2.2 :=
    Reached.run .initial [.add east]
  have found : done.2.1.find? "east" = some old := rfl
  have supported : change.kind ≠ some .unsupported := by decide
  have created : (outlets.create (old.config.update change) done.2.2).1 =
      .ok (({ config := moved } : Recorder), 1) := rfl
  rcases update_replaces_in_place (Outlets.recorded_ledgered fun _ _ => rfl) rfl reached found
    supported (Prod.ext created rfl) with
    ⟨after, afterWorld, placed, stopped, started, updated, renewed, running, -⟩
  have failed : started = some (.error (.addrInUse moved.address)) := by
    have restarted := renewed.restarts.mpr ⟨rfl, by rw [renewed.config.eq_update]; rfl⟩
    rcases Option.isSome_iff_exists.mp restarted with ⟨outcome, isOutcome⟩
    rcases renewed.starts outcome isOutcome with ⟨startWorld, laterWorld, refused⟩
    have isRefusal : .error (.addrInUse moved.address) = outcome := congrArg Prod.fst refused
    rw [isOutcome, isRefusal]
  refine ⟨rfl, rfl, after, afterWorld, placed, stopped, started, updated, renewed, failed, ?_⟩
  rw [Bool.eq_false_iff, ne_eq, running truthful, failed]
  rintro ⟨-, -, message, succeeded⟩
  cases succeeded

end Registry

end MavBridge
