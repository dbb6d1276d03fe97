import MavBridge.Proofs.Lookup
import MavBridge.Router.Load
import Mathlib.Data.List.Forall2

/-!
# What happens to registered channels

A `Ledger` has what was done through some outlets: which channels were built, and which list of
outputs is kept.  `Registry.Sound` relates a router to it.  A channel changes hands only when it is
registered, replaced or removed, and each of these keeps the relation; everything else is `Steady`.
-/

namespace MavBridge

/-- What was done through some outlets. -/
structure Ledger where
  /-- The identifiers of the channels that were built, in order. -/
  built : List String := []
  /-- The list of outputs that is kept. -/
  kept : List OutputConfig := []
  /-- Whether a list could not be written. -/
  hasFailed : Bool := false

/-- Channels and outputs as they are told apart: a channel has the number of channels that were
built before it, and keeps it. -/
structure Outlets.Recorded {ω χ : Type} (outlets : Outlets ω χ) (number : χ → Nat)
    (ledger : ω → Ledger) : Prop where
  create : ∀ config world channel after, outlets.create config world = (.ok channel, after) →
    number channel = (ledger world).built.length ∧
      ledger after = { ledger world with built := (ledger world).built ++ [config.id] }
  createFailed : ∀ config world fault after,
    outlets.create config world = (.error fault, after) → ledger after = ledger world
  start : ∀ channel world, number (outlets.start channel world).2.1 = number channel ∧
    ledger (outlets.start channel world).2.2 = ledger world
  stop : ∀ channel world, number (outlets.stop channel world).1 = number channel ∧
    ledger (outlets.stop channel world).2 = ledger world ∧
      outlets.isRunning (outlets.stop channel world).1 = false
  send : ∀ frame channel world, number (outlets.send frame channel world).2.1 = number channel ∧
    ledger (outlets.send frame channel world).2.2 = ledger world
  load : ∀ world configs, outlets.load world = .ok configs → configs = (ledger world).kept
  save : ∀ configs world after, outlets.save configs world = (.ok (), after) →
    ledger after = { ledger world with kept := configs }
  saveFailed : ∀ configs world fault after, outlets.save configs world = (.error fault, after) →
    (ledger after).built = (ledger world).built ∧ (ledger after).hasFailed = true
  announce : ∀ status world, ledger (outlets.announce status world) = ledger world

/-- Outlets that number their channels in the order in which they are built, and keep a ledger out
of which the list of outputs is read. -/
def Outlets.ledgered {ω χ : Type} (outlets : Outlets ω χ) : Outlets (ω × Ledger) (χ × Nat) where
  create config world :=
    match outlets.create config world.1 with
    | (.ok channel, after) =>
        (.ok (channel, world.2.built.length), after,
          { world.2 with built := world.2.built ++ [config.id] })
    | (.error fault, after) => (.error fault, after, world.2)
  start channel world :=
    let (outcome, started, after) := outlets.start channel.1 world.1
    (outcome, (started, channel.2), after, world.2)
  stop channel world :=
    let (stopped, after) := outlets.stop channel.1 world.1
    ((stopped, channel.2), after, world.2)
  send frame channel world :=
    let (outcome, sent, after) := outlets.send frame channel.1 world.1
    (outcome, (sent, channel.2), after, world.2)
  isRunning channel := outlets.isRunning channel.1
  peers channel := outlets.peers channel.1
  localAddress channel := outlets.localAddress channel.1
  load world := (outlets.load world.1).map fun _ => world.2.kept
  save configs world :=
    match outlets.save configs world.1 with
    | (.ok (), after) => (.ok (), after, { world.2 with kept := configs })
    | (.error fault, after) => (.error fault, after, { world.2 with hasFailed := true })
  announce status world := (outlets.announce status world.1, world.2)

/-- Any outlets can be recorded whose channels do not run once they are stopped. -/
theorem Outlets.recorded_ledgered {ω χ : Type} {outlets : Outlets ω χ}
    (stops : ∀ channel world, outlets.isRunning (outlets.stop channel world).1 = false) :
    outlets.ledgered.Recorded Prod.snd Prod.snd where
  create config world channel after created := by
    simp only [Outlets.ledgered] at created
    split at created
    next => cases created; exact ⟨rfl, rfl⟩
    next => cases created
  createFailed config world fault after failed := by
    simp only [Outlets.ledgered] at failed
    split at failed
    next => cases failed
    next => cases failed; rfl
  start channel world := ⟨rfl, rfl⟩
  stop channel world := ⟨rfl, rfl, stops channel.1 world.1⟩
  send frame channel world := ⟨rfl, rfl⟩
  load world configs loaded := by
    simp only [Outlets.ledgered] at loaded
    cases inner : outlets.load world.1 with
    | error fault => rw [inner] at loaded; cases loaded
    | ok found => rw [inner] at loaded; cases loaded; rfl
  save configs world after saved := by
    simp only [Outlets.ledgered] at saved
    split at saved
    next => cases saved; rfl
    next => cases saved
  saveFailed configs world fault after failed := by
    simp only [Outlets.ledgered] at failed
    split at failed
    next => cases failed
    next => cases failed; exact ⟨rfl, rfl⟩
  announce status world := rfl

namespace Router

variable {ω χ : Type} {router : Router χ}

/-- The channels of a router, registered or not, with the identifiers that they were built for. -/
def channels (router : Router χ) : List (String × χ) :=
  (router.entries.map fun entry => (entry.config.id, entry.channel)) ++ router.retired

theorem find?_eq_some_iff (distinct : (router.configs.map (·.id)).Nodup) {id : String}
    {entry : RouterEntry χ} :
    router.find? id = some entry ↔ entry ∈ router.entries ∧ entry.config.id = id := by
  rw [configs, List.map_map] at distinct
  exact find?_key_eq_some_iff (fun entry : RouterEntry χ => entry.config.id) distinct

theorem find?_eq_none_iff {id : String} :
    router.find? id = none ↔ id ∉ router.configs.map (·.id) := by
  rw [configs, List.map_map]
  exact find?_key_eq_none_iff fun entry : RouterEntry χ => entry.config.id

/-- The other outputs. -/
def without (router : Router χ) (id : String) : Router χ :=
  { router with entries := router.entries.filter fun other => other.config.id != id }

theorem channels_register (config : OutputConfig) (channel : χ) :
    (router.register config channel).channels.Perm (router.channels ++ [(config.id, channel)]) := by
  simp only [channels, register, List.map_append, List.append_assoc]
  exact List.perm_append_comm.append_left _

theorem channels_retire (id : String) (channel : χ) :
    (router.retire id channel).channels = router.channels ++ [(id, channel)] := by
  simp [channels, retire]

theorem channels_perm_without (distinct : (router.configs.map (·.id)).Nodup)
    {entry : RouterEntry χ} (membership : entry ∈ router.entries) :
    router.channels.Perm
      ((entry.config.id, entry.channel) :: (router.without entry.config.id).channels) := by
  rw [configs, List.map_map] at distinct
  have parted := perm_cons_filter_key (fun entry : RouterEntry χ => entry.config.id) distinct
    membership
  exact (parted.map _).append_right _

/-- A changed entry keeps its place beside the others. -/
theorem channels_alter (distinct : (router.configs.map (·.id)).Nodup) {entry : RouterEntry χ}
    (membership : entry ∈ router.entries) (change : RouterEntry χ → RouterEntry χ)
    (sameId : (change entry).config.id = entry.config.id) :
    (router.alter entry.config.id change).channels.Perm
      ((entry.config.id, (change entry).channel) :: (router.without entry.config.id).channels) := by
  rw [configs, List.map_map] at distinct
  have parted := perm_cons_filter_key (fun entry : RouterEntry χ => entry.config.id) distinct
    membership
  have others : (router.without entry.config.id).entries.map (fun other =>
      if other.config.id = entry.config.id then change other else other) =
        (router.without entry.config.id).entries := by
    refine (List.map_congr_left ?_).trans (List.map_id _)
    intro other otherMembership
    have theirs : other.config.id ≠ entry.config.id := by
      simpa using (List.mem_filter.mp otherMembership).2
    exact if_neg theirs
  have altered := parted.map fun other =>
    if other.config.id = entry.config.id then change other else other
  rw [List.map_cons, if_pos rfl] at altered
  have registered := (altered.trans (.of_eq (congrArg _ others))).map
    fun other : RouterEntry χ => (other.config.id, other.channel)
  rw [List.map_cons, sameId] at registered
  exact registered.append_right _

/-- Every channel that is registered under an identifier has this number. -/
def Holds (number : χ → Nat) (router : Router χ) (id : String) (held : Nat) : Prop :=
  ∀ entry ∈ router.entries, entry.config.id = id → number entry.channel = held

theorem holds_of_find? (number : χ → Nat) (distinct : (router.configs.map (·.id)).Nodup)
    {id : String} {entry : RouterEntry χ} (found : router.find? id = some entry) :
    router.Holds number id (number entry.channel) := by
  intro other membership named
  have otherFound := (find?_eq_some_iff distinct).mpr ⟨membership, named⟩
  rw [found] at otherFound
  rw [Option.some.inj otherFound]

end Router

namespace Registry

variable {ω χ : Type}

/-! ## Channels that stay where they are -/

section Steady

variable (outlets : Outlets ω χ) (number : χ → Nat) (ledger : ω → Ledger)

/-- The same outputs with the same channels, and nothing done that is recorded.  Registered channels
may start and stop, the others may only stop. -/
structure Steady (router : Router χ) (world : ω) (after : Router χ) (afterWorld : ω) : Prop where
  entries : (after.entries.map fun entry => (entry.config, number entry.channel)) =
    router.entries.map fun entry => (entry.config, number entry.channel)
  retired : List.Forall₂
    (fun old new : String × χ => new.1 = old.1 ∧ number new.2 = number old.2 ∧
      (outlets.isRunning old.2 = false → outlets.isRunning new.2 = false))
    router.retired after.retired
  ledger : ledger afterWorld = ledger world

end Steady

variable {outlets : Outlets ω χ} {number : χ → Nat} {ledger : ω → Ledger}
  {router after : Router χ} {world afterWorld : ω}

namespace Steady

/-- Only registered channels have changed, in what does not tell them apart. -/
theorem of_entries
    (entries : (after.entries.map fun entry => (entry.config, number entry.channel)) =
      router.entries.map fun entry => (entry.config, number entry.channel))
    (retired : after.retired = router.retired) (recorded : ledger afterWorld = ledger world) :
    Steady outlets number ledger router world after afterWorld := by
  refine ⟨entries, ?_, recorded⟩
  rw [retired]
  exact List.forall₂_same.mpr fun held membership => ⟨rfl, rfl, fun idle => idle⟩

theorem of_ledger (router : Router χ) (recorded : ledger afterWorld = ledger world) :
    Steady outlets number ledger router world router afterWorld :=
  .of_entries rfl rfl recorded

/-- A registered channel is put in its own place. -/
theorem setChannel {id : String} {channel : χ}
    (same : router.Holds number id (number channel)) (recorded : ledger afterWorld = ledger world) :
    Steady outlets number ledger router world (router.setChannel id channel) afterWorld := by
  refine .of_entries ?_ rfl recorded
  simp only [Router.setChannel, Router.alter, List.map_map]
  refine List.map_congr_left ?_
  intro entry membership
  by_cases mine : entry.config.id = id
  · simp [mine, same entry membership mine]
  · simp [mine]

theorem configs_eq (steady : Steady outlets number ledger router world after afterWorld) :
    after.configs = router.configs := by
  have projected := congrArg (List.map Prod.fst) steady.entries
  simpa [Router.configs, Function.comp_def] using projected

/-- No channel gets lost, or passes for another. -/
theorem channels_eq (steady : Steady outlets number ledger router world after afterWorld) :
    (after.channels.map fun held => (held.1, number held.2)) =
      router.channels.map fun held => (held.1, number held.2) := by
  have registered := congrArg (List.map fun tag : OutputConfig × Nat => (tag.1.id, tag.2))
    steady.entries
  have gone : (after.retired.map fun held => (held.1, number held.2)) =
      router.retired.map fun held => (held.1, number held.2) := by
    have retired := steady.retired
    generalize router.retired = olds, after.retired = news at retired ⊢
    induction retired with
    | nil => rfl
    | cons same rest inductionHypothesis =>
        rw [List.map_cons, List.map_cons, inductionHypothesis, same.1, same.2.1]
  simp only [List.map_map] at registered
  simp only [Router.channels, List.map_append, List.map_map, gone]
  exact congrArg (· ++ _) registered

theorem idle (steady : Steady outlets number ledger router world after afterWorld)
    (idle : ∀ held ∈ router.retired, outlets.isRunning held.2 = false) :
    ∀ held ∈ after.retired, outlets.isRunning held.2 = false := by
  have retired := steady.retired
  generalize router.retired = olds, after.retired = news at retired idle ⊢
  induction retired with
  | nil => exact idle
  | cons same rest inductionHypothesis =>
      rw [List.forall_mem_cons] at idle ⊢
      exact ⟨same.2.2 idle.1, inductionHypothesis idle.2⟩

end Steady

/-! ## Channels that change hands -/

section Sound

variable (outlets : Outlets ω χ) (number : χ → Nat)

/-- A router that accounts for every channel that was built, and for the list that is kept once it
was rewritten. -/
structure Sound (rewritten : Bool) (router : Router χ) (ledger : Ledger) : Prop where
  distinct : (router.configs.map (·.id)).Nodup
  supported : ∀ config ∈ router.configs, config.kind ≠ .unsupported
  complete : (router.channels.map fun held => (held.1, number held.2)).Perm ledger.built.zipIdx
  idle : ∀ held ∈ router.retired, outlets.isRunning held.2 = false
  kept : rewritten = true → ledger.hasFailed = false → ledger.kept = router.configs

end Sound

namespace Sound

variable {rewritten : Bool}

theorem empty {start : Ledger} (fresh : start.built = []) :
    Sound outlets number false Router.empty start where
  distinct := List.nodup_nil
  supported config membership := by cases membership
  complete := by simp [Router.channels, Router.empty, fresh]
  idle held membership := by cases membership
  kept given := by cases given

theorem steady (sound : Sound outlets number rewritten router (ledger world))
    (steady : Steady outlets number ledger router world after afterWorld) :
    Sound outlets number rewritten after (ledger afterWorld) where
  distinct := by
    rw [steady.configs_eq]
    exact sound.distinct
  supported := by
    rw [steady.configs_eq]
    exact sound.supported
  complete := by
    rw [steady.channels_eq, steady.ledger]
    exact sound.complete
  idle := steady.idle sound.idle
  kept := by
    rw [steady.configs_eq, steady.ledger]
    exact sound.kept

/-- A fresh channel is registered under a free identifier; the list is not rewritten yet. -/
theorem register (recorded : outlets.Recorded number ledger)
    (sound : Sound outlets number rewritten router (ledger world)) {config : OutputConfig}
    {channel : χ} (supported : config.kind ≠ .unsupported) (free : router.find? config.id = none)
    (created : outlets.create config world = (.ok channel, afterWorld)) :
    Sound outlets number false (router.register config channel) (ledger afterWorld) := by
  rcases recorded.create config world channel afterWorld created with ⟨numbered, built⟩
  refine ⟨?_, ?_, ?_, sound.idle, by simp⟩
  · have apart := Router.find?_eq_none_iff.mp free
    simpa [Router.configs, Router.register, List.nodup_append] using
      And.intro (by simpa [Router.configs] using sound.distinct)
        (by simpa [Router.configs] using apart)
  · intro other membership
    simp only [Router.configs, Router.register, List.map_append, List.map_cons, List.map_nil,
      List.mem_append, List.mem_singleton] at membership
    rcases membership with old | rfl
    · exact sound.supported other old
    · exact supported
  · rw [built, List.zipIdx_append]
    refine ((Router.channels_register config channel).map _).trans ?_
    simpa [numbered] using sound.complete.append_right [(config.id, number channel)]

/-- The list is written, or that is known to have failed. -/
theorem persist (recorded : outlets.Recorded number ledger)
    (sound : Sound outlets number rewritten router (ledger world)) :
    Sound outlets number true router (ledger (router.persist outlets world)) := by
  unfold Router.persist
  cases saved : outlets.save router.configs world with
  | mk outcome after =>
      cases outcome with
      | ok done =>
          rw [recorded.save _ _ _ saved]
          exact ⟨sound.distinct, sound.supported, sound.complete, sound.idle, fun _ _ => rfl⟩
      | error fault =>
          rcases recorded.saveFailed _ _ _ _ saved with ⟨built, failed⟩
          refine ⟨sound.distinct, sound.supported, ?_, sound.idle, ?_⟩
          · rw [built]
            exact sound.complete
          · intro given unfailed
            rw [failed] at unfailed
            cases unfailed

/-- A stopped channel is taken out of the registry. -/
theorem remove (sound : Sound outlets number rewritten router (ledger world))
    {entry : RouterEntry χ} (membership : entry ∈ router.entries) {stopped : χ}
    (same : number stopped = number entry.channel) (isIdle : outlets.isRunning stopped = false) :
    Sound outlets number false
      ((router.without entry.config.id).retire entry.config.id stopped) (ledger world) := by
  have fewer : ((router.without entry.config.id).retire entry.config.id stopped).configs.Sublist
      router.configs := List.filter_sublist.map _
  refine ⟨sound.distinct.sublist (fewer.map _), ?_, ?_, ?_, by simp⟩
  · intro config configMembership
    exact sound.supported config (fewer.subset configMembership)
  · rw [Router.channels_retire]
    refine List.Perm.trans ?_ sound.complete
    refine .trans ?_ ((Router.channels_perm_without sound.distinct membership).map _).symm
    simp [same, List.perm_append_singleton]
  · intro held heldMembership
    rcases List.mem_append.mp heldMembership with old | new
    · exact sound.idle held old
    · rw [List.mem_singleton.mp new]
      exact isIdle

/-- A fresh channel takes the place of one that has been stopped. -/
theorem replace (recorded : outlets.Recorded number ledger)
    (sound : Sound outlets number rewritten router (ledger world)) {entry : RouterEntry χ}
    (membership : entry ∈ router.entries) {config : OutputConfig} {channel stopped : χ}
    (sameId : config.id = entry.config.id) (supported : config.kind ≠ .unsupported)
    (created : outlets.create config world = (.ok channel, afterWorld))
    (same : number stopped = number entry.channel) (isIdle : outlets.isRunning stopped = false) :
    Sound outlets number false
      ((router.alter config.id fun entry => { entry with config, channel }).retire
        config.id stopped) (ledger afterWorld) := by
  rcases recorded.create config world channel afterWorld created with ⟨numbered, built⟩
  rw [sameId]
  refine ⟨?_, ?_, ?_, ?_, by simp⟩
  · have sameIds :
        ((router.alter entry.config.id fun entry => { entry with config, channel }).retire
          entry.config.id stopped).configs.map (·.id) = router.configs.map (·.id) := by
      simp only [Router.configs, Router.retire, Router.alter, List.map_map]
      refine List.map_congr_left ?_
      intro other otherMembership
      by_cases mine : other.config.id = entry.config.id
      · simp [mine, sameId]
      · simp [mine]
    rw [sameIds]
    exact sound.distinct
  · intro other otherMembership
    simp only [Router.configs, Router.retire, Router.alter, List.map_map, List.mem_map,
      Function.comp_apply] at otherMembership
    rcases otherMembership with ⟨old, oldMembership, rfl⟩
    by_cases mine : old.config.id = entry.config.id
    · simpa [mine] using supported
    · simpa [mine] using sound.supported old.config (List.mem_map_of_mem oldMembership)
  · -- The fresh channel comes to the entries, and the old one goes from there to the retired.
    rw [built, List.zipIdx_append, Router.channels_retire]
    generalize others : (router.without entry.config.id).channels.map
      (fun held => (held.1, number held.2)) = rest
    have before := ((Router.channels_perm_without sound.distinct membership).map
      fun held => (held.1, number held.2)).symm.trans sound.complete
    have after := (Router.channels_alter sound.distinct membership
      (fun entry => { entry with config, channel }) sameId).map
        fun held => (held.1, number held.2)
    rw [List.map_cons, others] at before after
    rw [List.map_append]
    refine (after.append_right _).trans ?_
    refine .trans ?_ (before.append_right _)
    simp only [List.map_cons, List.map_nil, List.zipIdx_cons, List.zipIdx_nil, same, numbered,
      sameId, List.cons_append, Nat.zero_add]
    exact (((List.perm_append_singleton _ rest).cons _).trans (.swap _ _ rest)).trans
      ((List.perm_append_singleton _ rest).symm.cons _)
  · intro held heldMembership
    rcases List.mem_append.mp heldMembership with old | new
    · exact sound.idle held old
    · rw [List.mem_singleton.mp new]
      exact isIdle

/-- A channel that runs is the one that is registered. -/
theorem registered (sound : Sound outlets number rewritten router (ledger world)) {id : String}
    {channel : χ} (membership : (id, channel) ∈ router.channels)
    (running : outlets.isRunning channel = true) :
    ∃ entry, router.find? id = some entry ∧ entry.channel = channel := by
  rcases List.mem_append.mp membership with held | gone
  · rcases List.mem_map.mp held with ⟨entry, entryMembership, tagged⟩
    cases tagged
    exact ⟨entry, (Router.find?_eq_some_iff sound.distinct).mpr ⟨entryMembership, rfl⟩, rfl⟩
  · have isIdle := sound.idle _ gone
    simp [running] at isIdle

end Sound

end Registry

end MavBridge
