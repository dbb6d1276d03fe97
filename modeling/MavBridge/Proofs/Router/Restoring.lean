import MavBridge.Output.Network
import MavBridge.Proofs.Router.Announcing

/-!
# Restoring the outputs that were kept

A router that is loaded has the first output of each identifier among those whose channels can be
built.  It starts those that start themselves, and saves nothing.  What a router saves are distinct
outputs of supported kinds, so that a router that is loaded from there has the very same.
-/

namespace MavBridge

/-- Which outputs were started, and which lists were saved with which outcomes, in order. -/
structure Chronicle where
  started : List OutputConfig := []
  saved : List (List OutputConfig × Except Fault Unit) := []

/-- Channels that show what they were built for, and a chronicle of what is done through them. -/
structure Outlets.Chronicled {ω χ : Type} (outlets : Outlets ω χ) (config : χ → OutputConfig)
    (chronicle : ω → Chronicle) : Prop where
  built : ∀ wanted world channel after, outlets.create wanted world = (.ok channel, after) →
    config channel = wanted
  create : ∀ wanted world, chronicle (outlets.create wanted world).2 = chronicle world
  start : ∀ channel world, config (outlets.start channel world).2.1 = config channel ∧
    chronicle (outlets.start channel world).2.2 =
      { chronicle world with started := (chronicle world).started ++ [config channel] }
  stop : ∀ channel world, config (outlets.stop channel world).1 = config channel ∧
    chronicle (outlets.stop channel world).2 = chronicle world
  send : ∀ frame channel world, config (outlets.send frame channel world).2.1 = config channel ∧
    chronicle (outlets.send frame channel world).2.2 = chronicle world
  save : ∀ configs world, chronicle (outlets.save configs world).2 =
    { chronicle world with
      saved := (chronicle world).saved ++ [(configs, (outlets.save configs world).1)] }
  announce : ∀ status world, chronicle (outlets.announce status world) = chronicle world

/-- Outlets that keep a chronicle, and are no different otherwise. -/
def Outlets.chronicled {ω χ : Type} (outlets : Outlets ω χ) :
    Outlets (ω × Chronicle) (χ × OutputConfig) where
  create config world :=
    let (outcome, after) := outlets.create config world.1
    (outcome.map (·, config), after, world.2)
  start channel world :=
    let (outcome, started, after) := outlets.start channel.1 world.1
    (outcome, (started, channel.2), after,
      { world.2 with started := world.2.started ++ [channel.2] })
  stop channel world :=
    let (stopped, after) := outlets.stop channel.1 world.1
    ((stopped, channel.2), after, world.2)
  send frame channel world :=
    let (outcome, sent, after) := outlets.send frame channel.1 world.1
    (outcome, (sent, channel.2), after, world.2)
  isRunning channel := outlets.isRunning channel.1
  peers channel := outlets.peers channel.1
  localAddress channel := outlets.localAddress channel.1
  load world := outlets.load world.1
  save configs world :=
    let (outcome, after) := outlets.save configs world.1
    (outcome, after, { world.2 with saved := world.2.saved ++ [(configs, outcome)] })
  announce status world := (outlets.announce status world.1, world.2)

/-- Whatever the channels do, a chronicle can be kept of it. -/
theorem Outlets.chronicled_chronicled {ω χ : Type} (outlets : Outlets ω χ) :
    outlets.chronicled.Chronicled Prod.snd Prod.snd where
  built wanted world channel after created := by
    simp only [Outlets.chronicled] at created
    cases inner : (outlets.create wanted world.1).1 with
    | error fault =>
        rw [inner] at created
        cases created
    | ok built =>
        rw [inner] at created
        cases created
        rfl
  create wanted world := rfl
  start channel world := ⟨rfl, rfl⟩
  stop channel world := ⟨rfl, rfl⟩
  send frame channel world := ⟨rfl, rfl⟩
  save configs world := rfl
  announce status world := rfl

/-- What is saved is loaded again, and nothing but saving changes what is loaded. -/
structure Outlets.KeepsSaved {ω χ : Type} (outlets : Outlets ω χ) : Prop where
  create : ∀ config world, outlets.load (outlets.create config world).2 = outlets.load world
  start : ∀ channel world, outlets.load (outlets.start channel world).2.2 = outlets.load world
  stop : ∀ channel world, outlets.load (outlets.stop channel world).2 = outlets.load world
  send : ∀ frame channel world,
    outlets.load (outlets.send frame channel world).2.2 = outlets.load world
  save : ∀ configs world after, outlets.save configs world = (.ok (), after) →
    outlets.load after = .ok configs
  announce : ∀ status world, outlets.load (outlets.announce status world) = outlets.load world

namespace Registry

variable {ω χ : Type}

/-! ## What is restored -/

/-- The first output of each identifier. -/
def firsts : List OutputConfig → List OutputConfig
  | [] => []
  | config :: rest => config :: (firsts rest).filter fun other => other.id != config.id

theorem firsts_of_distinct {configs : List OutputConfig} (distinct : (configs.map (·.id)).Nodup) :
    firsts configs = configs := by
  induction configs with
  | nil => rfl
  | cons config rest inductionHypothesis =>
      rw [List.map_cons, List.nodup_cons] at distinct
      rw [firsts, inductionHypothesis distinct.2, List.filter_eq_self.mpr]
      intro other membership
      rw [bne_iff_ne]
      intro same
      exact distinct.1 (same ▸ List.mem_map_of_mem membership)

/-- The first output of each identifier that is not taken. -/
def firstsBeside (taken : List String) (configs : List OutputConfig) : List OutputConfig :=
  (firsts configs).filter fun config => config.id ∉ taken

theorem firstsBeside_nil (configs : List OutputConfig) :
    firstsBeside [] configs = firsts configs := by
  simp [firstsBeside]

theorem firstsBeside_cons_of_taken {taken : List String} {config : OutputConfig}
    (isTaken : config.id ∈ taken) (rest : List OutputConfig) :
    firstsBeside taken (config :: rest) = firstsBeside taken rest := by
  rw [firstsBeside, firsts, List.filter_cons_of_neg (by simpa using isTaken), List.filter_filter]
  apply List.filter_congr
  intro other membership
  by_cases otherTaken : other.id ∈ taken
  · simp [otherTaken]
  · have apart : other.id ≠ config.id := fun same => otherTaken (same ▸ isTaken)
    simp [otherTaken, apart]

theorem firstsBeside_cons_of_free {taken : List String} {config : OutputConfig}
    (isFree : config.id ∉ taken) (rest : List OutputConfig) :
    firstsBeside taken (config :: rest) =
      config :: firstsBeside (taken ++ [config.id]) rest := by
  rw [firstsBeside, firsts, List.filter_cons_of_pos (by simpa using isFree), List.filter_filter]
  refine congrArg (config :: ·) (List.filter_congr ?_)
  intro other membership
  by_cases same : other.id = config.id <;> simp [same]

section Restoring

variable (outlets : Outlets ω χ)

/-- The entries of a list, each with the world in which its turn comes. -/
def turns : List OutputConfig → Router χ → ω → List (OutputConfig × ω)
  | [], _, _ => []
  | config :: rest, router, world =>
      let restored := (router.restore outlets config world).2
      (config, world) :: turns rest restored.1 restored.2

/-- The kind of an entry is supported, and its channel can be built when its turn comes. -/
def isFit (turn : OutputConfig × ω) : Bool :=
  turn.1.kind != .unsupported && (outlets.create turn.1 turn.2).1.isOk

/-- The entries of a list that are fit in their turns. -/
def fit (configs : List OutputConfig) (router : Router χ) (world : ω) : List OutputConfig :=
  ((turns outlets configs router world).filter (isFit outlets)).map Prod.fst

theorem fit_cons (config : OutputConfig) (rest : List OutputConfig) (router : Router χ)
    (world : ω) :
    fit outlets (config :: rest) router world =
      if isFit outlets (config, world) then
        config :: fit outlets rest (router.restore outlets config world).2.1
          (router.restore outlets config world).2.2
      else
        fit outlets rest (router.restore outlets config world).2.1
          (router.restore outlets config world).2.2 := by
  rw [fit, turns, List.filter_cons]
  split <;> rfl

theorem map_fst_turns (configs : List OutputConfig) (router : Router χ) (world : ω) :
    (turns outlets configs router world).map Prod.fst = configs := by
  induction configs generalizing router world with
  | nil => rfl
  | cons config rest inductionHypothesis =>
      rw [turns, List.map_cons, inductionHypothesis]

/-- Channels that can be built at any time or at none make the same entries fit at any time. -/
theorem fit_eq_filter {builds : OutputConfig → Bool}
    (constant : ∀ config world, (outlets.create config world).1.isOk = builds config)
    (configs : List OutputConfig) (router : Router χ) (world : ω) :
    fit outlets configs router world =
      configs.filter fun config => config.kind != .unsupported && builds config := by
  have same : isFit outlets =
      (fun config : OutputConfig => config.kind != .unsupported && builds config) ∘ Prod.fst := by
    funext turn
    rw [isFit, constant, Function.comp_apply]
  rw [fit, same, ← List.filter_map, map_fst_turns]

/-- What restoring an entry comes to. -/
inductive Restored (config : χ → OutputConfig) (chronicle : ω → Chronicle) (wanted : OutputConfig)
    (router : Router χ) (world : ω) : Router χ → ω → Prop where
  | passedOver {afterWorld : ω}
      (unfit : isFit outlets (wanted, world) = false ∨ wanted.id ∈ router.configs.map (·.id))
      (quiet : chronicle afterWorld = chronicle world) :
      Restored config chronicle wanted router world router afterWorld
  | registered {after : Router χ} {afterWorld : ω} {channel : χ}
      (isFit : isFit outlets (wanted, world) = true)
      (free : wanted.id ∉ router.configs.map (·.id))
      (built : config channel = wanted)
      (entries : after.entries = router.entries ++ [⟨wanted, channel, {}⟩])
      (started : chronicle afterWorld =
        { chronicle world with
          started := (chronicle world).started ++ [wanted].filter (·.startsItself) }) :
      Restored config chronicle wanted router world after afterWorld

end Restoring

/-- The registered outputs, with what their channels were built for and with their counts. -/
def holdings (config : χ → OutputConfig) (router : Router χ) :
    List (OutputConfig × OutputConfig × OutputStats) :=
  router.entries.map fun entry => (entry.config, config entry.channel, entry.stats)

theorem map_fst_holdings (config : χ → OutputConfig) (router : Router χ) :
    (holdings config router).map Prod.fst = router.configs := by
  simp [holdings, Router.configs, Function.comp_def]

/-- Of the outputs only a new one has its identifier. -/
theorem entries_setChannel_register {router : Router χ} {wanted : OutputConfig}
    (free : wanted.id ∉ router.configs.map (·.id)) (channel started : χ) :
    ((router.register wanted channel).setChannel wanted.id started).entries =
      router.entries ++ [⟨wanted, started, {}⟩] := by
  have others : (router.entries.map fun entry =>
      if entry.config.id = wanted.id then { entry with channel := started } else entry) =
        router.entries := by
    refine (List.map_congr_left ?_).trans (List.map_id _)
    intro entry membership
    have theirs : entry.config.id ≠ wanted.id := by
      intro same
      exact free (same ▸ List.mem_map_of_mem (List.mem_map_of_mem membership))
    exact if_neg theirs
  simp [Router.setChannel, Router.alter, Router.register, others]

variable {outlets : Outlets ω χ} {config : χ → OutputConfig} {chronicle : ω → Chronicle}
  {router after : Router χ} {world afterWorld : ω}

section Chronicled

variable (chronicled : outlets.Chronicled config chronicle)
include chronicled

theorem restore_restored (wanted : OutputConfig) (router : Router χ) (world : ω) :
    Restored outlets config chronicle wanted router world (router.restore outlets wanted world).2.1
      (router.restore outlets wanted world).2.2 := by
  unfold Router.restore
  split
  next unsupported => exact .passedOver (.inl (by simp [isFit, unsupported])) rfl
  next supported =>
    split
    next taken =>
      refine .passedOver (.inr ?_) rfl
      rwa [Option.isSome_iff_ne_none, ne_eq, Router.find?_eq_none_iff, not_not] at taken
    next untaken =>
      have free : wanted.id ∉ router.configs.map (·.id) :=
        Router.find?_eq_none_iff.mp (by simpa using untaken)
      have quiet := chronicled.create wanted world
      split
      next fault afterWorld failed =>
        rw [failed] at quiet
        exact .passedOver (.inl (by simp [isFit, failed, Except.isOk, Except.toBool])) quiet
      next channel afterWorld created =>
        rw [created] at quiet
        have isFit : isFit outlets (wanted, world) = true := by
          simp [isFit, supported, created, Except.isOk, Except.toBool]
        have built := chronicled.built _ _ _ _ created
        dsimp only
        split
        next starts =>
          obtain ⟨same, started⟩ := chronicled.start channel afterWorld
          rw [built] at same
          rw [built, quiet] at started
          have done : Restored outlets config chronicle wanted router world
              ((router.register wanted channel).startChannel outlets wanted.id channel
                afterWorld).2.1
              ((router.register wanted channel).startChannel outlets wanted.id channel
                afterWorld).2.2 := by
            refine .registered isFit free same (entries_setChannel_register free channel _) ?_
            rw [List.filter_singleton, starts]
            exact started
          split
          next message after lastWorld result =>
            rw [result] at done
            exact done
          next fault after lastWorld result =>
            rw [result] at done
            exact done
        next waits =>
          refine .registered isFit free built rfl ?_
          simp [quiet, waits]

/-- Beside the registered outputs those are restored that have none of their identifiers. -/
theorem restoreAll_eq (configs : List OutputConfig) (router : Router χ) (world : ω) :
    let added := firstsBeside (router.configs.map (·.id)) (fit outlets configs router world)
    let done := (Router.restoreAll outlets configs router world).2
    holdings config done.1 =
        holdings config router ++ added.map (fun wanted => (wanted, wanted, ({} : OutputStats))) ∧
      chronicle done.2 =
        { chronicle world with
          started := (chronicle world).started ++ added.filter (·.startsItself) } := by
  -- On the list: an entry that is registered takes its identifier from those behind it.
  induction configs generalizing router world with
  | nil => simp [Router.restoreAll, fit, turns, firsts, firstsBeside]
  | cons wanted rest inductionHypothesis =>
      have restored := restore_restored chronicled wanted router world
      have later := inductionHypothesis (router.restore outlets wanted world).2.1
        (router.restore outlets wanted world).2.2
      have parted := fit_cons outlets wanted rest router world
      simp only [Router.restoreAll] at later ⊢
      generalize (router.restore outlets wanted world).2.1 = after,
        (router.restore outlets wanted world).2.2 = afterWorld at restored later parted ⊢
      rw [parted]
      cases restored with
      | passedOver unfit quiet =>
          rw [quiet] at later
          split
          next isFit =>
            -- Its identifier is taken, so that it is not the first of it in any case.
            have taken := unfit.resolve_left (by simp [isFit])
            rw [firstsBeside_cons_of_taken taken]
            exact later
          next => exact later
      | registered isFit free built entries started =>
          have held : holdings config after =
              holdings config router ++ [(wanted, wanted, ({} : OutputStats))] := by
            rw [holdings, entries, List.map_append, List.map_singleton, built]
            rfl
          have ids : after.configs.map (·.id) = router.configs.map (·.id) ++ [wanted.id] := by
            rw [Router.configs, entries, List.map_append, List.map_append]
            rfl
          rw [if_pos isFit, firstsBeside_cons_of_free free, ← ids, later.1, later.2, held, started,
            List.append_assoc, List.append_assoc, ← List.filter_append]
          exact ⟨rfl, rfl⟩

end Chronicled

/-! ## Lists that are restored as they are -/

/-- Distinct outputs of supported kinds. -/
structure Proper (configs : List OutputConfig) : Prop where
  distinct : (configs.map (·.id)).Nodup
  supported : ∀ config ∈ configs, config.kind ≠ .unsupported

namespace Proper

variable {configs : List OutputConfig}

theorem append (proper : Proper configs) {wanted : OutputConfig}
    (supported : wanted.kind ≠ .unsupported) (free : wanted.id ∉ configs.map (·.id)) :
    Proper (configs ++ [wanted]) where
  distinct := by
    rw [List.map_append, List.map_singleton]
    exact List.nodup_append_comm.mp (proper.distinct.cons free)
  supported :=
    List.forall_mem_append.mpr ⟨proper.supported, List.forall_mem_singleton.mpr supported⟩

theorem filter (proper : Proper configs) (isLeft : OutputConfig → Bool) :
    Proper (configs.filter isLeft) where
  distinct := proper.distinct.sublist (List.filter_sublist.map _)
  supported config membership := proper.supported config (List.mem_of_mem_filter membership)

theorem replace (proper : Proper configs) {wanted : OutputConfig}
    (supported : wanted.kind ≠ .unsupported) :
    Proper (configs.map fun other => if other.id = wanted.id then wanted else other) where
  distinct := by
    have sameIds : ((configs.map fun other => if other.id = wanted.id then wanted else other).map
        (·.id)) = configs.map (·.id) := by
      rw [List.map_map]
      apply List.map_congr_left
      intro other membership
      by_cases mine : other.id = wanted.id <;> simp [mine]
    rw [sameIds]
    exact proper.distinct
  supported := by
    rw [List.forall_mem_map]
    intro other membership
    split
    next => exact supported
    next => exact proper.supported other membership

/-- With channels for all supported kinds, distinct outputs of such kinds are restored alike. -/
theorem load_configs (proper : Proper configs) (chronicled : outlets.Chronicled config chronicle)
    (builds : ∀ wanted world, wanted.kind ≠ .unsupported →
      (outlets.create wanted world).1.isOk = true)
    (loaded : outlets.load world = .ok configs) :
    (Router.load outlets world).2.1.configs = configs := by
  have allFit : fit outlets configs Router.empty world = configs := by
    rw [fit, List.filter_eq_self.mpr, map_fst_turns]
    intro turn membership
    have listed := List.mem_map_of_mem (f := Prod.fst) membership
    rw [map_fst_turns] at listed
    have supported := proper.supported turn.1 listed
    simp [isFit, supported, builds turn.1 turn.2 supported]
  have restored := (restoreAll_eq chronicled configs Router.empty world).1
  have fresh : (Router.empty : Router χ).configs.map (·.id) = [] := rfl
  rw [allFit, fresh, firstsBeside_nil, firsts_of_distinct proper.distinct] at restored
  rw [load_eq_restoreKept, restoreKept, loaded, ← map_fst_holdings config, restored]
  simp [holdings, Router.empty, Function.comp_def]

end Proper

/-! ## What is saved -/

section Quiet

variable (outlets chronicle)

/-- Nothing is saved. -/
structure Quiet (world after : ω) : Prop where
  saved : (chronicle after).saved = (chronicle world).saved
  loaded : outlets.load after = outlets.load world

/-- A router of outputs that can be restored.  So can those of every list that was saved; the last
of them is that of the present outputs, and it is loaded unless it could not be written. -/
structure Restorable (router : Router χ) (world : ω) : Prop where
  proper : Proper router.configs
  saved : ∀ entry ∈ (chronicle world).saved, Proper entry.1
  last : ∀ configs outcome, (chronicle world).saved.getLast? = some (configs, outcome) →
    configs = router.configs ∧ (outcome = .ok () → outlets.load world = .ok configs)

end Quiet

theorem Quiet.refl (world : ω) : Quiet outlets chronicle world world := ⟨rfl, rfl⟩

theorem Quiet.trans {last : ω} (first : Quiet outlets chronicle world afterWorld)
    (second : Quiet outlets chronicle afterWorld last) : Quiet outlets chronicle world last :=
  ⟨second.saved.trans first.saved, second.loaded.trans first.loaded⟩

namespace Restorable

theorem of_unsaved (proper : Proper router.configs) (unsaved : (chronicle world).saved = []) :
    Restorable outlets chronicle router world where
  proper := proper
  saved entry membership := by
    rw [unsaved] at membership
    cases membership
  last configs outcome last := by
    rw [unsaved] at last
    cases last

theorem quiet (restorable : Restorable outlets chronicle router world)
    (same : after.configs = router.configs) (quiet : Quiet outlets chronicle world afterWorld) :
    Restorable outlets chronicle after afterWorld where
  proper := by
    rw [same]
    exact restorable.proper
  saved := by
    rw [quiet.saved]
    exact restorable.saved
  last := by
    rw [quiet.saved, quiet.loaded, same]
    exact restorable.last

end Restorable

theorem configs_setChannel (router : Router χ) (id : String) (channel : χ) :
    (router.setChannel id channel).configs = router.configs := by
  rw [← map_fst_listing, listing_setChannel, map_fst_listing]

theorem configs_replaced (router : Router χ) (wanted : OutputConfig) (channel : χ) :
    (router.alter wanted.id fun entry => { entry with config := wanted, channel }).configs =
      router.configs.map fun other => if other.id = wanted.id then wanted else other := by
  simp only [Router.configs, Router.alter, List.map_map]
  apply List.map_congr_left
  intro entry membership
  by_cases mine : entry.config.id = wanted.id <;> simp [mine]

section Sections

variable (chronicled : outlets.Chronicled config chronicle) (keeps : outlets.KeepsSaved)
include chronicled keeps

theorem quiet_create (wanted : OutputConfig) (world : ω) :
    Quiet outlets chronicle world (outlets.create wanted world).2 :=
  ⟨congrArg Chronicle.saved (chronicled.create wanted world), keeps.create wanted world⟩

theorem quiet_start (channel : χ) (world : ω) :
    Quiet outlets chronicle world (outlets.start channel world).2.2 :=
  ⟨by rw [(chronicled.start channel world).2], keeps.start channel world⟩

theorem quiet_stop (channel : χ) (world : ω) :
    Quiet outlets chronicle world (outlets.stop channel world).2 :=
  ⟨congrArg Chronicle.saved (chronicled.stop channel world).2, keeps.stop channel world⟩

theorem quiet_send (frame : Bytes) (channel : χ) (world : ω) :
    Quiet outlets chronicle world (outlets.send frame channel world).2.2 :=
  ⟨congrArg Chronicle.saved (chronicled.send frame channel world).2,
    keeps.send frame channel world⟩

theorem quiet_announce (status : RouterStatus) (world : ω) :
    Quiet outlets chronicle world (outlets.announce status world) :=
  ⟨congrArg Chronicle.saved (chronicled.announce status world), keeps.announce status world⟩

theorem quiet_stopEntries (entries : List (RouterEntry χ)) (world : ω) :
    (Router.stopEntries outlets entries world).1.map (·.config) = entries.map (·.config) ∧
      Quiet outlets chronicle world (Router.stopEntries outlets entries world).2 := by
  induction entries generalizing world with
  | nil => exact ⟨rfl, .refl world⟩
  | cons entry rest inductionHypothesis =>
      have stopped : Quiet outlets chronicle world
          (if outlets.isRunning entry.channel then outlets.stop entry.channel world
            else (entry.channel, world)).2 := by
        split
        · exact quiet_stop chronicled keeps entry.channel world
        · exact .refl world
      unfold Router.stopEntries
      generalize (if outlets.isRunning entry.channel then outlets.stop entry.channel world
        else (entry.channel, world)) = done at stopped ⊢
      obtain ⟨others, later⟩ := inductionHypothesis done.2
      exact ⟨by rw [List.map_cons, List.map_cons, others], stopped.trans later⟩

theorem quiet_sendEntries (frame : Bytes) (entries : List (RouterEntry χ)) (world : ω) :
    (Router.sendEntries outlets frame entries world).1.map (·.config) = entries.map (·.config) ∧
      Quiet outlets chronicle world (Router.sendEntries outlets frame entries world).2 := by
  induction entries generalizing world with
  | nil => exact ⟨rfl, .refl world⟩
  | cons entry rest inductionHypothesis =>
      unfold Router.sendEntries
      split
      next running =>
        have sent := quiet_send chronicled keeps frame entry.channel world
        obtain ⟨others, later⟩ :=
          inductionHypothesis (outlets.send frame entry.channel world).2.2
        exact ⟨by rw [List.map_cons, List.map_cons, others], sent.trans later⟩
      next idle =>
        obtain ⟨others, later⟩ := inductionHypothesis world
        exact ⟨by rw [List.map_cons, List.map_cons, others], later⟩

variable (restorable : Restorable outlets chronicle router world)
include restorable

namespace Restorable

theorem persist {between : ω} (proper : Proper after.configs)
    (quiet : Quiet outlets chronicle world between) :
    Restorable outlets chronicle after (after.persist outlets between) := by
  have saved : (chronicle (after.persist outlets between)).saved =
      (chronicle world).saved ++ [(after.configs, (outlets.save after.configs between).1)] := by
    rw [← quiet.saved]
    exact congrArg Chronicle.saved (chronicled.save after.configs between)
  refine ⟨proper, ?_, ?_⟩
  · rw [saved]
    exact List.forall_mem_append.mpr ⟨restorable.saved, List.forall_mem_singleton.mpr proper⟩
  · intro configs outcome last
    rw [saved, List.getLast?_concat] at last
    cases last
    exact ⟨rfl, fun written => keeps.save _ _ _ (Prod.ext written rfl)⟩

theorem startChannel (id : String) (channel : χ) :
    Restorable outlets chronicle (router.startChannel outlets id channel world).2.1
      (router.startChannel outlets id channel world).2.2 :=
  restorable.quiet (configs_setChannel router id _) (quiet_start chronicled keeps channel world)

theorem startChannel_if (id : String) (channel : χ) (starts : Prop) [Decidable starts] :
    Restorable outlets chronicle
      (if starts then (router.startChannel outlets id channel world).2 else (router, world)).1
      (if starts then (router.startChannel outlets id channel world).2
        else (router, world)).2 := by
  split
  · exact restorable.startChannel chronicled keeps id channel
  · exact restorable

theorem stopChannel (id : String) (channel : χ) :
    Restorable outlets chronicle (router.stopChannel outlets id channel world).1
      (router.stopChannel outlets id channel world).2 :=
  restorable.quiet (configs_setChannel router id _) (quiet_stop chronicled keeps channel world)

theorem addSection (wanted : OutputConfig) :
    Restorable outlets chronicle (router.addSection outlets wanted world).2.1
      (router.addSection outlets wanted world).2.2 := by
  unfold Router.addSection
  split
  next unsupported => exact restorable
  next supported =>
    split
    next taken => exact restorable
    next untaken =>
      have free : wanted.id ∉ router.configs.map (·.id) :=
        Router.find?_eq_none_iff.mp (by simpa using untaken)
      have quiet := quiet_create chronicled keeps wanted world
      split
      next fault afterWorld failed =>
        rw [failed] at quiet
        exact restorable.quiet rfl quiet
      next channel afterWorld created =>
        rw [created] at quiet
        have proper : Proper (router.register wanted channel).configs := by
          rw [← map_fst_listing, listing_register, List.map_append, map_fst_listing]
          exact restorable.proper.append supported free
        have persisted := restorable.persist chronicled keeps proper quiet
        have started := persisted.startChannel_if chronicled keeps wanted.id channel
          (wanted.startsItself = true)
        rw [← startNote_snd] at started
        exact started

theorem removeSection (id : String) :
    Restorable outlets chronicle (router.removeSection outlets id world).2.1
      (router.removeSection outlets id world).2.2 := by
  unfold Router.removeSection
  split
  next missing => exact restorable
  next entry found =>
    have quiet := quiet_stop chronicled keeps entry.channel world
    refine restorable.persist chronicled keeps ?_ quiet
    have fewer : (router.without id).configs = router.configs.filter (·.id != id) := by
      rw [← map_fst_listing, listing_without, ← map_fst_listing, List.filter_map]
      rfl
    have proper := restorable.proper.filter (·.id != id)
    rw [← fewer] at proper
    exact proper

theorem updateSection (id : String) (change : OutputUpdate) :
    Restorable outlets chronicle (router.updateSection outlets id change world).2.1
      (router.updateSection outlets id change world).2.2 := by
  unfold Router.updateSection
  split
  next unsupported => exact restorable
  next supported =>
    split
    next missing => exact restorable
    next old found =>
      have membership : old.config ∈ router.configs :=
        List.mem_map_of_mem (List.mem_of_find?_eq_some found)
      have supportedAfter :=
        supported_update (restorable.proper.supported old.config membership) supported
      have quiet := quiet_create chronicled keeps (old.config.update change) world
      dsimp only
      split
      next fault afterWorld failed =>
        rw [failed] at quiet
        exact restorable.quiet rfl quiet
      next channel afterWorld created =>
        rw [created] at quiet
        -- The old channel is stopped, if it runs, before the list with the new one is saved.
        have stopped : Quiet outlets chronicle afterWorld
            (if outlets.isRunning old.channel then outlets.stop old.channel afterWorld
              else (old.channel, afterWorld)).2 := by
          split
          · exact quiet_stop chronicled keeps old.channel afterWorld
          · exact .refl afterWorld
        have replaced : Restorable outlets chronicle
            (router.replace outlets old (old.config.update change) channel afterWorld).1
            (router.replace outlets old (old.config.update change) channel afterWorld).2 := by
          refine restorable.persist chronicled keeps ?_ (quiet.trans stopped)
          have proper := restorable.proper.replace supportedAfter
          rw [← configs_replaced router (old.config.update change) channel] at proper
          exact proper
        have started := replaced.startChannel_if chronicled keeps (old.config.update change).id
          channel (outlets.isRunning old.channel = true ∧ (old.config.update change).enabled = true)
        rw [← restartNote_snd] at started
        exact started

theorem startSection (id : String) :
    Restorable outlets chronicle (router.startSection outlets id world).2.1
      (router.startSection outlets id world).2.2 := by
  unfold Router.startSection
  split
  next missing => exact restorable
  next entry found =>
    split
    next running => exact restorable
    next stopped => exact restorable.startChannel chronicled keeps id entry.channel

theorem stopSection (id : String) :
    Restorable outlets chronicle (router.stopSection outlets id world).2.1
      (router.stopSection outlets id world).2.2 := by
  unfold Router.stopSection
  split
  next missing => exact restorable
  next entry found =>
    split
    next running => exact restorable.stopChannel chronicled keeps id entry.channel
    next stopped => exact restorable

theorem restartSection (id : String) :
    Restorable outlets chronicle (router.restartSection outlets id world).2.1
      (router.restartSection outlets id world).2.2 := by
  unfold Router.restartSection
  split
  next missing => exact restorable
  next entry found =>
    have stopped := restorable.stopChannel chronicled keeps id entry.channel
    exact stopped.startChannel chronicled keeps id _

theorem perform {operation : Operation} (isRequest : operation ≠ .load) :
    Restorable outlets chronicle (operation.perform outlets router world).2.1
      (operation.perform outlets router world).2.2 := by
  cases operation with
  | load => exact absurd rfl isRequest
  | add wanted => exact restorable.addSection chronicled keeps wanted
  | remove id => exact restorable.removeSection chronicled keeps id
  | update id change => exact restorable.updateSection chronicled keeps id change
  | start id => exact restorable.startSection chronicled keeps id
  | stop id => exact restorable.stopSection chronicled keeps id
  | restart id => exact restorable.restartSection chronicled keeps id
  | stopAll =>
      obtain ⟨same, quiet⟩ := quiet_stopEntries chronicled keeps router.entries world
      exact restorable.quiet same quiet
  | forward frame =>
      obtain ⟨same, quiet⟩ := quiet_sendEntries chronicled keeps frame router.entries world
      exact restorable.quiet same quiet

end Restorable

end Sections

/-! ## From one start to the next -/

section Uses

variable (outlets chronicle)

/-- What a router comes to that is loaded and then used.  Between any two operations changes may be
told, and channels do what they do. -/
inductive Used (start : ω) : Router χ → ω → Prop where
  | load : Used start (Router.load outlets start).2.1 (Router.load outlets start).2.2
  | perform {router : Router χ} {world : ω} (operation : Operation)
      (isRequest : operation ≠ .load) :
      Used start router world →
      Used start (operation.perform outlets router world).2.1
        (operation.perform outlets router world).2.2
  | announce {router : Router χ} {world : ω} :
      Used start router world → Used start router (router.announce outlets world)
  | drift {router after : Router χ} {world afterWorld : ω} :
      Used start router world → after.configs = router.configs →
      Quiet outlets chronicle world afterWorld → Used start after afterWorld

end Uses

theorem proper_restoreAll (chronicled : outlets.Chronicled config chronicle)
    (proper : Proper router.configs) (configs : List OutputConfig) (world : ω) :
    Proper (Router.restoreAll outlets configs router world).2.1.configs := by
  induction configs generalizing router world with
  | nil => exact proper
  | cons wanted rest inductionHypothesis =>
      have restored := restore_restored chronicled wanted router world
      unfold Router.restoreAll
      generalize (router.restore outlets wanted world) = done at restored ⊢
      cases restored with
      | passedOver unfit quiet => exact inductionHypothesis proper _
      | registered isFit free built entries started =>
          have supported : wanted.kind ≠ .unsupported := by
            simp only [Registry.isFit, Bool.and_eq_true, bne_iff_ne] at isFit
            exact isFit.1
          refine inductionHypothesis ?_ _
          rw [Router.configs, entries, List.map_append]
          exact proper.append supported free

theorem restorable_load (chronicled : outlets.Chronicled config chronicle) {start : ω}
    (fresh : (chronicle start).saved = []) :
    Restorable outlets chronicle (Router.load outlets start).2.1
      (Router.load outlets start).2.2 := by
  have proper : Proper (Router.empty : Router χ).configs :=
    ⟨List.nodup_nil, fun config membership => by cases membership⟩
  rw [load_eq_restoreKept]
  unfold restoreKept
  split
  next fault unreadable => exact .of_unsaved proper fresh
  next configs loaded =>
    refine .of_unsaved (proper_restoreAll chronicled proper configs start) ?_
    rw [(restoreAll_eq chronicled configs Router.empty start).2]
    exact fresh

theorem Used.restorable (chronicled : outlets.Chronicled config chronicle)
    (keeps : outlets.KeepsSaved) {start : ω} (fresh : (chronicle start).saved = [])
    (used : Used outlets chronicle start router world) :
    Restorable outlets chronicle router world := by
  induction used with
  | load => exact restorable_load chronicled fresh
  | perform operation isRequest earlier inductionHypothesis =>
      exact inductionHypothesis.perform chronicled keeps isRequest
  | announce earlier inductionHypothesis =>
      exact inductionHypothesis.quiet rfl (quiet_announce chronicled keeps _ _)
  | drift earlier same quiet inductionHypothesis => exact inductionHypothesis.quiet same quiet

theorem isOk_create_of_supported {wanted : OutputConfig} (supported : wanted.kind ≠ .unsupported) :
    (NetworkOutput.create wanted).isOk = true := by
  unfold NetworkOutput.create
  cases kind : wanted.kind with
  | unsupported => exact absurd kind supported
  | _ => rfl

/-- Loading registers, in the order of the list, the first entry of each identifier among those
whose kind is supported and whose channel can be built when its turn comes, or at all if it does not
matter when; each has the channel that was built for it.  Of those just the enabled ones with an
automatic start are started, each stays whether or not its start succeeds, and nothing is saved.
Let network outputs be used over a store that gives back what was saved.  Of every list that was
saved, a router that is loaded at any later time from it has exactly the outputs in the same order;
if the last list could be written, they are the present ones. -/
theorem load_restores_firsts (chronicled : outlets.Chronicled config chronicle) :
    (∀ world kept, outlets.load world = .ok kept →
      let loaded := (Router.load outlets world).2
      holdings config loaded.1 =
          (firsts (fit outlets kept Router.empty world)).map
            (fun wanted => (wanted, wanted, ({} : OutputStats))) ∧
        (∀ builds : OutputConfig → Bool,
          (∀ wanted world, (outlets.create wanted world).1.isOk = builds wanted) →
          loaded.1.configs =
            firsts (kept.filter fun wanted => wanted.kind != .unsupported && builds wanted)) ∧
        chronicle loaded.2 =
          { chronicle world with
            started := (chronicle world).started ++
              loaded.1.configs.filter fun wanted => wanted.enabled && wanted.autoStart }) ∧
      (∀ output : χ → NetworkOutput,
        (∀ wanted world, (outlets.create wanted world).1.map output =
          NetworkOutput.create wanted) →
        outlets.KeepsSaved →
        ∀ start router world, (chronicle start).saved = [] →
          Used outlets chronicle start router world →
          (∀ configs outcome, (configs, outcome) ∈ (chronicle world).saved →
            ∀ later, outlets.load later = .ok configs →
              (Router.load outlets later).2.1.configs = configs) ∧
            (∀ configs, (chronicle world).saved.getLast? = some (configs, .ok ()) →
              configs = router.configs ∧
                (Router.load outlets world).2.1.configs = configs)) := by
  constructor
  · intro world kept read loaded
    obtain ⟨held, done⟩ := restoreAll_eq chronicled kept Router.empty world
    have restored : loaded = (Router.restoreAll outlets kept Router.empty world).2 := by
      unfold loaded
      rw [load_eq_restoreKept, restoreKept, read]
    have fresh : (Router.empty : Router χ).configs.map (·.id) = [] := rfl
    rw [← restored, fresh, firstsBeside_nil] at held done
    have configs : loaded.1.configs = firsts (fit outlets kept Router.empty world) := by
      rw [← map_fst_holdings config, held]
      simp [holdings, Router.empty, Function.comp_def]
    refine ⟨held, ?_, ?_⟩
    · intro builds constant
      rw [configs, fit_eq_filter outlets constant]
    · rw [configs]
      exact done
  · intro output network keeps start router world fresh used
    have builds (wanted : OutputConfig) (world : ω) (supported : wanted.kind ≠ .unsupported) :
        (outlets.create wanted world).1.isOk = true := by
      have built := network wanted world ▸ isOk_create_of_supported supported
      cases created : (outlets.create wanted world).1 with
      | ok channel => rfl
      | error fault =>
          rw [created] at built
          cases built
    have restorable := used.restorable chronicled keeps fresh
    constructor
    · intro configs outcome saved later loaded
      exact (restorable.saved _ saved).load_configs chronicled builds loaded
    · intro configs last
      obtain ⟨present, written⟩ := restorable.last configs (.ok ()) last
      have proper : Proper configs := present ▸ restorable.proper
      exact ⟨present, proper.load_configs chronicled builds (written rfl)⟩

/-- Network outputs whose list is kept in memory. -/
def networkInMemory : Outlets (Machine × List OutputConfig) NetworkOutput :=
  { NetworkOutput.outlets.within Prod.fst fun machine world => (machine, world.2) with
    load := fun world => .ok world.2
    save := fun configs world => (.ok (), world.1, configs) }

theorem keepsSaved_networkInMemory : networkInMemory.chronicled.KeepsSaved where
  create wanted world := rfl
  start channel world := rfl
  stop channel world := rfl
  send frame channel world := rfl
  save configs world after saved := by
    cases saved
    rfl
  announce status world := rfl

theorem create_networkInMemory (wanted : OutputConfig)
    (world : (Machine × List OutputConfig) × Chronicle) :
    (networkInMemory.chronicled.create wanted world).1.map Prod.fst =
      NetworkOutput.create wanted := by
  have built : (networkInMemory.chronicled.create wanted world).1 =
      (NetworkOutput.create wanted).map (·, wanted) := rfl
  rw [built]
  cases NetworkOutput.create wanted <;> rfl

/-- Entries that do not fit stand before one of their identifier, whose start fails; and of a router
that was used one is loaded anew. -/
theorem load_restores_firsts_then_again :
    let unsupported : OutputConfig := .create "east" .unsupported "10.0.0.1" 1
    let unbuildable : OutputConfig := .create "east" .udp "nobuild" 2
    let unstartable : OutputConfig := .create "east" .udp "nostart" 3
    let later : OutputConfig := .create "east" .udp "10.0.0.1" 4
    let idle : OutputConfig := { OutputConfig.create "west" .udp "h" 5 with autoStart := false }
    let bench : RouterBench :=
      { store := .memory [unsupported, unbuildable, unstartable, later, idle] }
    let loaded := (Router.load Recorder.outlets.chronicled (bench, {})).2
    let used := (Operation.add idle).perform networkInMemory.chronicled Router.empty (({}, []), {})
    loaded.1.configs = [unstartable, idle] ∧ loaded.2.2.started = [unstartable] ∧
      loaded.2.2.saved = [] ∧ used.2.1.configs = [idle] ∧
      (Router.load networkInMemory.chronicled used.2.2).2.1.configs = [idle] := by
  intro unsupported unbuildable unstartable later idle bench loaded used
  obtain ⟨held, -, done⟩ := (load_restores_firsts Recorder.outlets.chronicled_chronicled).1
    (bench, {}) _ rfl
  have configs : loaded.1.configs = [unstartable, idle] := by
    rw [← map_fst_holdings Prod.snd, held]
    decide +kernel
  have reached : Used networkInMemory.chronicled Prod.snd (({}, []), {}) used.2.1 used.2.2 :=
    .perform (.add idle) (by simp) .load
  obtain ⟨present, again⟩ := ((load_restores_firsts networkInMemory.chronicled_chronicled).2
    Prod.fst create_networkInMemory keepsSaved_networkInMemory _ _ _ rfl reached).2 [idle] rfl
  refine ⟨configs, ?_, ?_, present.symm, again⟩
  · rw [done, configs]
    rfl
  · rw [done]

end Registry

end MavBridge
