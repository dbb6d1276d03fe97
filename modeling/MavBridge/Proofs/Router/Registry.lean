import MavBridge.Output.Recorder
import MavBridge.Proofs.Router.Changes

/-!
# The registry of outputs over whole runs

Operations run their sections one after the other, and between them channels and announcements do
what they do.  Throughout, identifiers are distinct, no output is of an unsupported kind, no channel
runs that is not registered, and the list that is kept is the list of registered outputs once an
operation has changed it.
-/

namespace MavBridge

namespace Registry

/-- The operations on a router. -/
inductive Operation where
  | load
  | add (config : OutputConfig)
  | remove (id : String)
  | update (id : String) (change : OutputUpdate)
  | start (id : String)
  | stop (id : String)
  | restart (id : String)
  | stopAll
  | forward (frame : Bytes)

variable {ω χ : Type}

section Runs

variable (outlets : Outlets ω χ) (number : χ → Nat) (ledger : ω → Ledger)

/-- Restore the outputs that were kept, beside those that are registered. -/
def restoreKept (router : Router χ) (world : ω) : Router χ × ω :=
  match outlets.load world with
  | .error _ => (router, world)
  | .ok configs => (Router.restoreAll outlets configs router world).2

/-- The section of an operation; the answer is whether it has changed the list of outputs. -/
def Operation.perform (operation : Operation) (router : Router χ) (world : ω) :
    Bool × Router χ × ω :=
  match operation with
  | load => (false, restoreKept outlets router world)
  | add config =>
      let (outcome, done) := router.addSection outlets config world
      (outcome.isOk, done)
  | remove id =>
      let (outcome, done) := router.removeSection outlets id world
      (outcome.isOk, done)
  | update id change =>
      let (outcome, done) := router.updateSection outlets id change world
      (outcome.isOk, done)
  | start id => (false, (router.startSection outlets id world).2)
  | stop id => (false, (router.stopSection outlets id world).2)
  | restart id => (false, (router.restartSection outlets id world).2)
  | stopAll => (false, router.stopAll outlets world)
  | forward frame => (false, router.forward outlets frame world)

/-- An operation from start to end, with what it tells. -/
def Operation.whole (operation : Operation) (router : Router χ) (world : ω) : Router χ × ω :=
  match operation with
  | load => restoreKept outlets router world
  | add config => (router.add outlets config world).2
  | remove id => (router.remove outlets id world).2
  | update id change => (router.update outlets id change world).2
  | start id => (router.start outlets id world).2
  | stop id => (router.stop outlets id world).2
  | restart id => (router.restart outlets id world).2
  | stopAll => router.stopAll outlets world
  | forward frame => router.forward outlets frame world

/-- What a router comes to that starts without outputs in some world.  Announcements, and what
channels do by themselves, may come between any two sections. -/
inductive Reached (start : ω) : Bool → Router χ → ω → Prop where
  | initial : Reached start false Router.empty start
  | perform {rewritten : Bool} {router : Router χ} {world : ω} (operation : Operation) :
      Reached start rewritten router world →
      Reached start (rewritten || (operation.perform outlets router world).1)
        (operation.perform outlets router world).2.1 (operation.perform outlets router world).2.2
  | announce {rewritten : Bool} {router : Router χ} {world : ω} :
      Reached start rewritten router world →
      Reached start rewritten router (router.announce outlets world)
  | drift {rewritten : Bool} {router after : Router χ} {world afterWorld : ω} :
      Reached start rewritten router world →
      Steady outlets number ledger router world after afterWorld →
      Reached start rewritten after afterWorld

end Runs

variable {outlets : Outlets ω χ} {number : χ → Nat} {ledger : ω → Ledger} {rewritten : Bool}
  {router : Router χ} {world : ω}

/-! ## The parts of the sections -/

theorem holds_register (number : χ → Nat) {config : OutputConfig}
    (free : router.find? config.id = none) (channel : χ) :
    (router.register config channel).Holds number config.id (number channel) := by
  intro entry membership named
  rcases List.mem_append.mp membership with old | new
  · exact absurd (named ▸ List.mem_map_of_mem (List.mem_map_of_mem old))
      (Router.find?_eq_none_iff.mp free)
  · rw [List.mem_singleton.mp new]

theorem holds_alter (number : χ → Nat) {id : String} {change : RouterEntry χ → RouterEntry χ}
    {channel : χ} (changed : ∀ entry, (change entry).channel = channel) :
    (router.alter id change).Holds number id (number channel) := by
  intro entry membership named
  rcases List.mem_map.mp membership with ⟨old, oldMembership, rfl⟩
  by_cases mine : old.config.id = id
  · simp [mine, changed]
  · simp [mine] at named

theorem startNote_snd (router : Router χ) (config : OutputConfig) (channel : χ) (world : ω) :
    (router.startNote outlets config channel world).2 =
      if config.startsItself then (router.startChannel outlets config.id channel world).2
      else (router, world) := by
  unfold Router.startNote
  split
  · rcases router.startChannel outlets config.id channel world with ⟨outcome, done⟩
    cases outcome <;> rfl
  · rfl

theorem restartNote_snd (router : Router χ) (config : OutputConfig) (channel : χ)
    (wasRunning : Bool) (world : ω) :
    (router.restartNote outlets config channel wasRunning world).2 =
      if wasRunning ∧ config.enabled then (router.startChannel outlets config.id channel world).2
      else (router, world) := by
  unfold Router.restartNote
  split
  · rcases router.startChannel outlets config.id channel world with ⟨outcome, done⟩
    cases outcome <;> rfl
  · rfl

theorem supported_update {config : OutputConfig} {change : OutputUpdate}
    (before : config.kind ≠ .unsupported) (supported : change.kind ≠ some .unsupported) :
    (config.update change).kind ≠ .unsupported := by
  cases kind : change.kind with
  | none => simpa [OutputConfig.update, kind] using before
  | some other => simpa [OutputConfig.update, kind] using supported

section Parts

variable (recorded : outlets.Recorded number ledger)
include recorded

theorem stop_if_running (channel : χ) (world : ω) :
    let stopped :=
      if outlets.isRunning channel then outlets.stop channel world else (channel, world)
    number stopped.1 = number channel ∧ ledger stopped.2 = ledger world ∧
      outlets.isRunning stopped.1 = false := by
  by_cases running : outlets.isRunning channel = true
  · simpa [running] using recorded.stop channel world
  · simp [running]

variable (sound : Sound outlets number rewritten router (ledger world))
include sound

theorem Sound.startChannel {id : String} {channel : χ}
    (held : router.Holds number id (number channel)) :
    Sound outlets number rewritten (router.startChannel outlets id channel world).2.1
      (ledger (router.startChannel outlets id channel world).2.2) := by
  rcases recorded.start channel world with ⟨same, unrecorded⟩
  exact sound.steady (.setChannel (same ▸ held) unrecorded)

/-- A channel that was put in a place is started there, or waits. -/
theorem Sound.startChannel_if {id : String} {channel : χ}
    (held : router.Holds number id (number channel)) (starts : Prop) [Decidable starts] :
    Sound outlets number rewritten
      (if starts then (router.startChannel outlets id channel world).2 else (router, world)).1
      (ledger (if starts then (router.startChannel outlets id channel world).2
        else (router, world)).2) := by
  split
  · exact sound.startChannel recorded held
  · exact sound

end Parts

/-! ## The sections -/

theorem Sound.unchanged {after : Ledger} (sound : Sound outlets number rewritten router after) :
    Sound outlets number (rewritten || false) router after := by
  rw [Bool.or_false]
  exact sound

theorem Sound.changed {after : Ledger} (sound : Sound outlets number true router after) :
    Sound outlets number (rewritten || true) router after := by
  rw [Bool.or_true]
  exact sound

section Sections

variable (recorded : outlets.Recorded number ledger)
  (sound : Sound outlets number rewritten router (ledger world))

include recorded sound

theorem Sound.addSection (config : OutputConfig) :
    Sound outlets number (rewritten || (router.addSection outlets config world).1.isOk)
      (router.addSection outlets config world).2.1
      (ledger (router.addSection outlets config world).2.2) := by
  unfold Router.addSection
  split
  next unsupported => exact sound.unchanged
  next supported =>
    split
    next taken => exact sound.unchanged
    next untaken =>
      have free : router.find? config.id = none := by simpa using untaken
      split
      next fault afterWorld failed =>
        exact (sound.steady (.of_ledger router (recorded.createFailed _ _ _ _ failed))).unchanged
      next channel afterWorld created =>
        have registered := sound.register recorded supported free created
        have persisted := registered.persist recorded
        have started := persisted.startChannel_if recorded (holds_register number free channel)
          (config.startsItself = true)
        rw [← startNote_snd] at started
        exact started.changed

theorem Sound.removeSection (id : String) :
    Sound outlets number (rewritten || (router.removeSection outlets id world).1.isOk)
      (router.removeSection outlets id world).2.1
      (ledger (router.removeSection outlets id world).2.2) := by
  unfold Router.removeSection
  split
  next missing => exact sound.unchanged
  next entry found =>
    rcases (Router.find?_eq_some_iff sound.distinct).mp found with ⟨membership, rfl⟩
    rcases recorded.stop entry.channel world with ⟨same, unrecorded, isIdle⟩
    have removed := sound.remove membership same isIdle
    rw [← unrecorded] at removed
    exact (removed.persist recorded).changed

theorem Sound.updateSection (id : String) (change : OutputUpdate) :
    Sound outlets number (rewritten || (router.updateSection outlets id change world).1.isOk)
      (router.updateSection outlets id change world).2.1
      (ledger (router.updateSection outlets id change world).2.2) := by
  unfold Router.updateSection
  split
  next unsupported => exact sound.unchanged
  next supported =>
    split
    next missing => exact sound.unchanged
    next old found =>
      rcases (Router.find?_eq_some_iff sound.distinct).mp found with ⟨membership, rfl⟩
      have supportedAfter := supported_update
        (sound.supported old.config (List.mem_map_of_mem membership)) supported
      dsimp only
      split
      next fault afterWorld failed =>
        exact (sound.steady (.of_ledger router (recorded.createFailed _ _ _ _ failed))).unchanged
      next channel afterWorld created =>
        rcases stop_if_running recorded old.channel afterWorld with ⟨same, unrecorded, isIdle⟩
        have sameId : (old.config.update change).id = old.config.id := rfl
        have replaced := sound.replace recorded membership sameId supportedAfter created same isIdle
        rw [← unrecorded] at replaced
        have started := (replaced.persist recorded).startChannel_if recorded
          (holds_alter number fun _ => rfl)
          (outlets.isRunning old.channel = true ∧ (old.config.update change).enabled = true)
        rw [← restartNote_snd] at started
        exact started.changed

theorem Sound.startSection (id : String) :
    Sound outlets number rewritten (router.startSection outlets id world).2.1
      (ledger (router.startSection outlets id world).2.2) := by
  unfold Router.startSection
  split
  next missing => exact sound
  next entry found =>
    split
    next running => exact sound
    next stopped =>
      exact sound.startChannel recorded (Router.holds_of_find? number sound.distinct found)

theorem Sound.stopChannel {id : String} {channel : χ}
    (held : router.Holds number id (number channel)) :
    Sound outlets number rewritten (router.stopChannel outlets id channel world).1
      (ledger (router.stopChannel outlets id channel world).2) := by
  rcases recorded.stop channel world with ⟨same, unrecorded, -⟩
  exact sound.steady (.setChannel (same ▸ held) unrecorded)

theorem Sound.stopSection (id : String) :
    Sound outlets number rewritten (router.stopSection outlets id world).2.1
      (ledger (router.stopSection outlets id world).2.2) := by
  unfold Router.stopSection
  split
  next missing => exact sound
  next entry found =>
    split
    next running =>
      exact sound.stopChannel recorded (Router.holds_of_find? number sound.distinct found)
    next stopped => exact sound

theorem Sound.restartSection (id : String) :
    Sound outlets number rewritten (router.restartSection outlets id world).2.1
      (ledger (router.restartSection outlets id world).2.2) := by
  unfold Router.restartSection
  split
  next missing => exact sound
  next entry found =>
    have held := Router.holds_of_find? number sound.distinct found
    have stopped := sound.stopChannel recorded held
    exact stopped.startChannel recorded (holds_alter number fun _ => rfl)

end Sections

/-! ## Many channels at once -/

section Many

variable (recorded : outlets.Recorded number ledger)
include recorded

theorem stopEntries_steady (entries : List (RouterEntry χ)) (world : ω) :
    ((Router.stopEntries outlets entries world).1.map
        fun entry => (entry.config, number entry.channel)) =
      (entries.map fun entry => (entry.config, number entry.channel)) ∧
    ledger (Router.stopEntries outlets entries world).2 = ledger world := by
  induction entries generalizing world with
  | nil => exact ⟨rfl, rfl⟩
  | cons entry rest inductionHypothesis =>
      rcases stop_if_running recorded entry.channel world with ⟨same, unrecorded, -⟩
      unfold Router.stopEntries
      dsimp only at same unrecorded ⊢
      generalize (if outlets.isRunning entry.channel then outlets.stop entry.channel world
        else (entry.channel, world)) = stopped at same unrecorded ⊢
      rcases inductionHypothesis stopped.2 with ⟨others, unrecordedAfter⟩
      exact ⟨by rw [List.map_cons, List.map_cons, others, same],
        unrecordedAfter.trans unrecorded⟩

theorem sendEntries_steady (frame : Bytes) (entries : List (RouterEntry χ)) (world : ω) :
    ((Router.sendEntries outlets frame entries world).1.map
        fun entry => (entry.config, number entry.channel)) =
      (entries.map fun entry => (entry.config, number entry.channel)) ∧
    ledger (Router.sendEntries outlets frame entries world).2 = ledger world := by
  induction entries generalizing world with
  | nil => exact ⟨rfl, rfl⟩
  | cons entry rest inductionHypothesis =>
      unfold Router.sendEntries
      split
      next running =>
        rcases recorded.send frame entry.channel world with ⟨same, unrecorded⟩
        rcases inductionHypothesis (outlets.send frame entry.channel world).2.2 with
          ⟨others, unrecordedAfter⟩
        dsimp only
        exact ⟨by rw [List.map_cons, List.map_cons, others, same],
          unrecordedAfter.trans unrecorded⟩
      next idle =>
        rcases inductionHypothesis world with ⟨others, unrecorded⟩
        dsimp only
        exact ⟨by rw [List.map_cons, List.map_cons, others], unrecorded⟩

variable (sound : Sound outlets number rewritten router (ledger world))
include sound

theorem Sound.stopAll : Sound outlets number rewritten (router.stopAll outlets world).1
    (ledger (router.stopAll outlets world).2) := by
  rcases stopEntries_steady recorded router.entries world with ⟨same, unrecorded⟩
  exact sound.steady (.of_entries same rfl unrecorded)

theorem Sound.forward (frame : Bytes) :
    Sound outlets number rewritten (router.forward outlets frame world).1
      (ledger (router.forward outlets frame world).2) := by
  rcases sendEntries_steady recorded frame router.entries world with ⟨same, unrecorded⟩
  exact sound.steady (.of_entries same rfl unrecorded)

end Many

/-! ## Restoring the list that is kept -/

/-- A router that is loaded restores what was kept, beside nothing. -/
theorem load_eq_restoreKept (outlets : Outlets ω χ) (world : ω) :
    (Router.load outlets world).2 = restoreKept outlets Router.empty world := by
  unfold Router.load restoreKept
  cases outlets.load world <;> rfl

theorem restoreAll_of_registered (router : Router χ) (world : ω) {configs : List OutputConfig}
    (registered : ∀ config ∈ configs, (router.find? config.id).isSome = true) :
    (Router.restoreAll outlets configs router world).2 = (router, world) := by
  induction configs with
  | nil => rfl
  | cons config rest inductionHypothesis =>
      rw [List.forall_mem_cons] at registered
      have passedOver : (router.restore outlets config world).2 = (router, world) := by
        unfold Router.restore
        rw [if_pos registered.1]
        split <;> rfl
      rcases result : router.restore outlets config world with ⟨note, after, afterWorld⟩
      rw [result] at passedOver
      cases passedOver
      unfold Router.restoreAll
      rw [result]
      exact inductionHypothesis registered.2

section Restoring

variable (recorded : outlets.Recorded number ledger)
include recorded

theorem Sound.restore (sound : Sound outlets number false router (ledger world))
    (config : OutputConfig) :
    Sound outlets number false (router.restore outlets config world).2.1
        (ledger (router.restore outlets config world).2.2) ∧
      (ledger (router.restore outlets config world).2.2).hasFailed = (ledger world).hasFailed := by
  unfold Router.restore
  split
  next unsupported => exact ⟨sound, rfl⟩
  next supported =>
    split
    next taken => exact ⟨sound, rfl⟩
    next untaken =>
      have free : router.find? config.id = none := by simpa using untaken
      split
      next fault afterWorld failed =>
        have unrecorded := recorded.createFailed _ _ _ _ failed
        exact ⟨sound.steady (.of_ledger router unrecorded), by rw [unrecorded]⟩
      next channel afterWorld created =>
        have registered := sound.register recorded supported free created
        have sameFailure : (ledger afterWorld).hasFailed = (ledger world).hasFailed := by
          rw [(recorded.create _ _ _ _ created).2]
        have started : Sound outlets number false
              ((router.register config channel).startChannel outlets config.id channel
                afterWorld).2.1
              (ledger ((router.register config channel).startChannel outlets config.id channel
                afterWorld).2.2) ∧
            (ledger ((router.register config channel).startChannel outlets config.id channel
              afterWorld).2.2).hasFailed = (ledger world).hasFailed := by
          refine ⟨registered.startChannel recorded (holds_register number free channel), ?_⟩
          rw [← sameFailure]
          exact congrArg Ledger.hasFailed (recorded.start channel afterWorld).2
        dsimp only
        split
        next startsItself =>
          split
          next message after lastWorld result =>
            rw [result] at started
            exact started
          next fault after lastWorld result =>
            rw [result] at started
            exact started
        next waits => exact ⟨registered, sameFailure⟩

theorem Sound.restoreAll (sound : Sound outlets number false router (ledger world))
    (configs : List OutputConfig) :
    Sound outlets number false (Router.restoreAll outlets configs router world).2.1
        (ledger (Router.restoreAll outlets configs router world).2.2) ∧
      (ledger (Router.restoreAll outlets configs router world).2.2).hasFailed =
        (ledger world).hasFailed := by
  induction configs generalizing router world with
  | nil => exact ⟨sound, rfl⟩
  | cons config rest inductionHypothesis =>
      rcases sound.restore recorded config with ⟨restored, same⟩
      rcases inductionHypothesis restored with ⟨restoredAll, sameAll⟩
      exact ⟨restoredAll, sameAll.trans same⟩

theorem Sound.restoreKept (sound : Sound outlets number rewritten router (ledger world)) :
    Sound outlets number rewritten (restoreKept outlets router world).1
      (ledger (restoreKept outlets router world).2) := by
  unfold Registry.restoreKept
  split
  next fault unreadable => exact sound
  next configs loaded =>
    -- The list that is kept may differ from the registry only as long as it has not been rewritten,
    -- or after a failure.
    by_cases isKept : rewritten = true ∧ (ledger world).hasFailed = false
    · have listed : configs = router.configs :=
        (recorded.load world configs loaded).trans (sound.kept isKept.1 isKept.2)
      have unchanged : (Router.restoreAll outlets configs router world).2 = (router, world) := by
        refine restoreAll_of_registered router world ?_
        intro config membership
        rw [Option.isSome_iff_ne_none, ne_eq, Router.find?_eq_none_iff, not_not]
        exact List.mem_map_of_mem (listed ▸ membership)
      rw [unchanged]
      exact sound
    · have unwritten : Sound outlets number false router (ledger world) :=
        { sound with kept := by simp }
      rcases unwritten.restoreAll recorded configs with ⟨restored, sameFailure⟩
      refine { restored with kept := ?_ }
      intro given unfailed
      exact absurd ⟨given, sameFailure.symm.trans unfailed⟩ isKept

end Restoring

/-! ## Runs -/

theorem Sound.perform (recorded : outlets.Recorded number ledger)
    (sound : Sound outlets number rewritten router (ledger world)) (operation : Operation) :
    Sound outlets number (rewritten || (operation.perform outlets router world).1)
      (operation.perform outlets router world).2.1
      (ledger (operation.perform outlets router world).2.2) := by
  cases operation with
  | load => exact (sound.restoreKept recorded).unchanged
  | add config => exact sound.addSection recorded config
  | remove id => exact sound.removeSection recorded id
  | update id change => exact sound.updateSection recorded id change
  | start id => exact (sound.startSection recorded id).unchanged
  | stop id => exact (sound.stopSection recorded id).unchanged
  | restart id => exact (sound.restartSection recorded id).unchanged
  | stopAll => exact (sound.stopAll recorded).unchanged
  | forward frame => exact (sound.forward recorded frame).unchanged

theorem Reached.sound (recorded : outlets.Recorded number ledger) {start : ω}
    (fresh : (ledger start).built = [])
    (reached : Reached outlets number ledger start rewritten router world) :
    Sound outlets number rewritten router (ledger world) := by
  induction reached with
  | initial => exact .empty fresh
  | perform operation earlier inductionHypothesis =>
      exact inductionHypothesis.perform recorded operation
  | announce earlier inductionHypothesis =>
      exact inductionHypothesis.steady (.of_ledger _ (recorded.announce _ _))
  | drift earlier steady inductionHypothesis => exact inductionHypothesis.steady steady

/-- Sections one after the other; the answer is whether one of them has changed the list. -/
def Operation.run (outlets : Outlets ω χ) (operations : List Operation)
    (state : Bool × Router χ × ω) : Bool × Router χ × ω :=
  operations.foldl (fun (rewritten, router, world) operation =>
    let (changed, done) := operation.perform outlets router world
    (rewritten || changed, done)) state

theorem conclude_eq (outlets : Outlets ω χ) (done : Except Fault String × Router χ × ω) :
    (Router.conclude outlets done).2 = done.2 ∨
      (Router.conclude outlets done).2 = (done.2.1, done.2.1.announce outlets done.2.2) := by
  obtain ⟨outcome, after, afterWorld⟩ := done
  cases outcome with
  | ok message => exact .inr rfl
  | error fault => exact .inl rfl

/-- An operation is its section, and what is told of it afterwards. -/
theorem Operation.whole_eq (outlets : Outlets ω χ) (operation : Operation) (router : Router χ)
    (world : ω) :
    let done := (operation.perform outlets router world).2
    operation.whole outlets router world = done ∨
      operation.whole outlets router world = (done.1, done.1.announce outlets done.2) := by
  cases operation with
  | add config => exact conclude_eq outlets (router.addSection outlets config world)
  | remove id => exact conclude_eq outlets (router.removeSection outlets id world)
  | update id change => exact conclude_eq outlets (router.updateSection outlets id change world)
  | start id => exact conclude_eq outlets (router.startSection outlets id world)
  | stop id => exact conclude_eq outlets (router.stopSection outlets id world)
  | restart id =>
      simp only [Operation.whole, Router.restart, Operation.perform]
      cases found : router.find? id with
      | none => exact .inl (by simp [Router.restartSection, found])
      | some entry => exact .inr rfl
  | load => exact .inl rfl
  | stopAll => exact .inl rfl
  | forward frame => exact .inl rfl

namespace Reached

variable {start : ω}

theorem run {state : Bool × Router χ × ω}
    (reached : Reached outlets number ledger start state.1 state.2.1 state.2.2)
    (operations : List Operation) :
    Reached outlets number ledger start (Operation.run outlets operations state).1
      (Operation.run outlets operations state).2.1
      (Operation.run outlets operations state).2.2 := by
  induction operations generalizing state with
  | nil => exact reached
  | cons operation rest inductionHypothesis =>
      exact inductionHypothesis (reached.perform operation)

theorem load (outlets : Outlets ω χ) (number : χ → Nat) (ledger : ω → Ledger) (start : ω) :
    Reached outlets number ledger start false (Router.load outlets start).2.1
      (Router.load outlets start).2.2 := by
  rw [load_eq_restoreKept]
  exact Reached.initial.perform .load

/-- Operations with what they tell are reached as well. -/
theorem whole (reached : Reached outlets number ledger start rewritten router world)
    (operation : Operation) :
    Reached outlets number ledger start
      (rewritten || (operation.perform outlets router world).1)
      (operation.whole outlets router world).1 (operation.whole outlets router world).2 := by
  have performed := reached.perform operation
  rcases operation.whole_eq outlets router world with silent | told
  · rw [silent]
    exact performed
  · rw [told]
    exact performed.announce

end Reached

/-- In every state that a router reaches from a start without outputs: identifiers are distinct, and
no output is of an unsupported kind; every channel that was built is registered or retired, each of
them once; one that runs is registered under the identifier that it was built for; and after the
first change of the list, if no write has failed, what is kept is the list of registered outputs. -/
theorem accounted_of_reached (recorded : outlets.Recorded number ledger) {start : ω}
    (fresh : (ledger start).built = [])
    (reached : Reached outlets number ledger start rewritten router world) :
    (router.configs.map (·.id)).Nodup ∧
      (∀ config ∈ router.configs, config.kind ≠ .unsupported) ∧
      (router.channels.map fun held => (held.1, number held.2)).Perm (ledger world).built.zipIdx ∧
      (∀ id channel, (id, channel) ∈ router.channels → outlets.isRunning channel = true →
        ∃ entry, router.find? id = some entry ∧ entry.channel = channel) ∧
      (rewritten = true → (ledger world).hasFailed = false →
        (ledger world).kept = router.configs ∧
          ∀ configs, outlets.load world = .ok configs → configs = router.configs) := by
  have sound := reached.sound recorded fresh
  refine ⟨sound.distinct, sound.supported, sound.complete, ?_, ?_⟩
  · intro id channel membership running
    exact sound.registered membership running
  · intro given unfailed
    have kept := sound.kept given unfailed
    refine ⟨kept, ?_⟩
    intro configs loaded
    exact (recorded.load world configs loaded).trans kept

theorem accounted_of_recorders :
    let kept : OutputConfig := .create "east" .udp "10.0.0.1" 14550
    let added : OutputConfig := .create "west" .tcpServer "0.0.0.0" 5760
    let done := Operation.run Recorder.outlets.ledgered
      [.load, .add added, .update "east" { port := some 14551 }, .stop "west", .remove "west"]
      (false, Router.empty, {}, { kept := [kept, kept] })
    done.1 = true ∧ done.2.2.2.hasFailed = false ∧
      done.2.2.2.kept = [{ kept with port := 14551 }] ∧
      (done.2.1.configs.map (·.id)).Nodup ∧
      (∀ config ∈ done.2.1.configs, config.kind ≠ .unsupported) ∧
      (done.2.1.channels.map fun held => (held.1, held.2.2)).Perm done.2.2.2.built.zipIdx ∧
      (∀ id channel, (id, channel) ∈ done.2.1.channels →
        Recorder.outlets.ledgered.isRunning channel = true →
        ∃ entry, done.2.1.find? id = some entry ∧ entry.channel = channel) ∧
      (done.1 = true → done.2.2.2.hasFailed = false →
        done.2.2.2.kept = done.2.1.configs ∧
          ∀ configs, Recorder.outlets.ledgered.load done.2.2 = .ok configs →
            configs = done.2.1.configs) := by
  intro kept added done
  exact ⟨rfl, rfl, rfl, accounted_of_reached (Outlets.recorded_ledgered fun _ _ => rfl) rfl
    (Reached.run (.initial) _)⟩

end Registry

end MavBridge
