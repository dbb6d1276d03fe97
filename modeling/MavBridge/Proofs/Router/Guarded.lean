import MavBridge.Proofs.Router.Changes
import MavBridge.Router.Guarded

/-!
# Operations with locks

With its locks an operation never waits for itself, and comes to what it comes to without them.
What it tells is told with both locks free.
-/

namespace MavBridge

variable {ω χ α β : Type}

/-! ## Work with locks -/

namespace Guarded

theorem bind_run (first : Guarded ω χ α) (next : α → Guarded ω χ β) (caller : RouterCaller ω χ) :
    (first >>= next) caller = (first caller).bind fun done => next done.1 done.2 := rfl

theorem pure_run (result : α) (caller : RouterCaller ω χ) :
    (pure result : Guarded ω χ α) caller = some (result, caller) := rfl

variable {router : Router χ} {world : ω} {held : List RouterLock} {told : List (RouterNews ω χ)}

theorem act_run (work : Router χ → ω → α × Router χ × ω) :
    act work ⟨router, world, held, told⟩ =
      some ((work router world).1,
        ⟨(work router world).2.1, (work router world).2.2, held, told⟩) :=
  rfl

theorem note_run :
    note ⟨router, world, held, told⟩ =
      some ((), ⟨router, world, held, told ++ [⟨held, router, world⟩]⟩) := rfl

/-- A lock that is free is taken for the work, and free again afterwards. -/
theorem holding_run {lock : RouterLock} {work : Guarded ω χ α} {result : α} {after : Router χ}
    {afterWorld : ω} (free : lock ∉ held)
    (done : work ⟨router, world, lock :: held, told⟩ =
      some (result, ⟨after, afterWorld, lock :: held, told⟩)) :
    holding lock work ⟨router, world, held, told⟩ =
      some (result, ⟨after, afterWorld, held, told⟩) := by
  have taken : acquire lock ⟨router, world, held, told⟩ =
      some ((), ⟨router, world, lock :: held, told⟩) := if_neg free
  have freed : release lock ⟨after, afterWorld, lock :: held, told⟩ =
      some ((), ⟨after, afterWorld, held, told⟩) := by
    simp only [release, List.erase_cons_head]
  simp only [holding, bind_run, taken, done, freed, Option.bind_some, pure_run]

section Registry

variable (outlets : Outlets ω χ)

theorem create_run (config : OutputConfig) :
    create outlets config ⟨router, world, held, told⟩ =
      some ((outlets.create config world).1,
        ⟨router, (outlets.create config world).2, held, told⟩) := rfl

theorem stopChannel_run (channel : χ) :
    stopChannel outlets channel ⟨router, world, held, told⟩ =
      some ((outlets.stop channel world).1,
        ⟨router, (outlets.stop channel world).2, held, told⟩) := rfl

theorem stopIfRunning_run (channel : χ) :
    stopIfRunning outlets channel ⟨router, world, held, told⟩ =
      let stopped :=
        if outlets.isRunning channel then outlets.stop channel world else (channel, world)
      some (stopped.1, ⟨router, stopped.2, held, told⟩) := by
  unfold stopIfRunning
  split <;> rfl

variable (free : .registry ∉ held)
include free

theorem look_run (view : Router χ → α) :
    look view ⟨router, world, held, told⟩ = some (view router, ⟨router, world, held, told⟩) :=
  holding_run free rfl

theorem alter_run (change : Router χ → Router χ) :
    alter change ⟨router, world, held, told⟩ = some ((), ⟨change router, world, held, told⟩) :=
  holding_run free rfl

theorem persist_run :
    persist outlets ⟨router, world, held, told⟩ =
      some ((), ⟨router, router.persist outlets world, held, told⟩) := by
  rw [persist, bind_run, look_run free]
  rfl

/-- What is told is what the caller has in hand, and the locks are those that he holds. -/
theorem announce_run :
    announce outlets ⟨router, world, held, told⟩ =
      some ((), ⟨router, router.announce outlets world, held,
        told ++ [⟨held, router, world⟩]⟩) := by
  rw [announce, bind_run, note_run, Option.bind_some, bind_run, look_run free]
  rfl

end Registry

/-- While the list of outputs is unlocked, work with locks does what `plain` does, and leaves the
locks as they are and nothing told. -/
def Does (work : Guarded ω χ α) (plain : Router χ → ω → α × Router χ × ω) : Prop :=
  ∀ router world held told, .registry ∉ held →
    work ⟨router, world, held, told⟩ =
      some ((plain router world).1,
        ⟨(plain router world).2.1, (plain router world).2.2, held, told⟩)

section Sections

variable (outlets : Outlets ω χ)

theorem addSection_does (config : OutputConfig) :
    (addSection outlets config).Does fun router world =>
      router.addSection outlets config world := by
  intro router world held told free
  unfold addSection Router.addSection
  split
  next unsupported => rfl
  next supported =>
    simp only [bind_run, look_run free, Option.bind_some]
    split
    next taken => rfl
    next untaken =>
      simp only [bind_run, create_run, Option.bind_some]
      rcases outlets.create config world with ⟨outcome, world⟩
      cases outcome with
      | error fault => rfl
      | ok channel =>
          simp only [bind_run, alter_run free, persist_run outlets free, act_run, Option.bind_some,
            pure_run]

theorem removeSection_does (id : String) :
    (removeSection outlets id).Does fun router world =>
      router.removeSection outlets id world := by
  intro router world held told free
  have withdrawn : withdraw id ⟨router, world, held, told⟩ = some (router.find? id,
      ⟨(router.find? id).elim router fun _ => router.without id, world, held, told⟩) := by
    apply holding_run free
    rw [act_run]
    cases router.find? id <;> rfl
  simp only [removeSection, Router.removeSection, bind_run, withdrawn, Option.bind_some]
  cases router.find? id with
  | none => rfl
  | some entry =>
      simp only [bind_run, stopChannel_run, act_run, persist_run outlets free, Option.bind_some,
        pure_run]
      rfl

theorem updateSection_does (id : String) (change : OutputUpdate)
    (supported : change.kind ≠ some .unsupported) :
    (updateSection outlets id change).Does fun router world =>
      router.updateSection outlets id change world := by
  intro router world held told free
  simp only [updateSection, Router.updateSection, if_neg supported, bind_run, look_run free,
    Option.bind_some]
  cases router.find? id with
  | none => rfl
  | some old =>
      simp only [bind_run, create_run, Option.bind_some]
      rcases outlets.create (old.config.update change) world with ⟨outcome, world⟩
      cases outcome with
      | error fault => rfl
      | ok channel =>
          simp only [bind_run, stopIfRunning_run, alter_run free, persist_run outlets free, act_run,
            Option.bind_some, pure_run]
          rfl

theorem startSection_does (id : String) :
    (startSection outlets id).Does fun router world => router.startSection outlets id world := by
  intro router world held told free
  simp only [startSection, Router.startSection, bind_run, look_run free, Option.bind_some]
  cases router.find? id with
  | none => rfl
  | some entry =>
      simp only
      split <;> rfl

theorem stopSection_does (id : String) :
    (stopSection outlets id).Does fun router world => router.stopSection outlets id world := by
  intro router world held told free
  simp only [stopSection, Router.stopSection, bind_run, look_run free, Option.bind_some]
  cases router.find? id with
  | none => rfl
  | some entry =>
      simp only
      split <;> rfl

/-- The section of a restart, with no outcome if there is nothing to restart. -/
theorem restartSection_does (id : String) :
    (restartSection outlets id).Does fun router world =>
      let done := router.restartSection outlets id world
      ((router.find? id).map fun _ => done.1, done.2) := by
  intro router world held told free
  simp only [restartSection, Router.restartSection, bind_run, look_run free, Option.bind_some]
  cases router.find? id with
  | none => rfl
  | some entry => rfl

end Sections

section Operations

variable (outlets : Outlets ω χ)

/-- A caller who has told of a change, or has not, and has nothing else to do. -/
def finished (isTold : Bool) (done : Router χ × ω) : RouterCaller ω χ :=
  if isTold then
    { router := done.1, world := done.1.announce outlets done.2, told := [⟨[], done.1, done.2⟩] }
  else { router := done.1, world := done.2 }

theorem announce_finished (done : Router χ × ω) :
    announce outlets { router := done.1, world := done.2 } =
      some ((), finished outlets true done) :=
  announce_run outlets List.not_mem_nil

theorem Does.holding {work : Guarded ω χ α} {plain : Router χ → ω → α × Router χ × ω}
    (does : work.Does plain) (router : Router χ) (world : ω) :
    holding .operations work { router, world } =
      some ((plain router world).1, finished outlets false (plain router world).2) := by
  apply holding_run List.not_mem_nil
  exact does router world [.operations] [] (by decide)

theorem Does.conclude {work : Guarded ω χ (Except Fault String)}
    {plain : Router χ → ω → Except Fault String × Router χ × ω} (does : work.Does plain)
    (router : Router χ) (world : ω) :
    conclude outlets work { router, world } =
      some ((plain router world).1,
        finished outlets (plain router world).1.isOk (plain router world).2) := by
  rw [Guarded.conclude, bind_run, does.holding outlets, Option.bind_some]
  rcases plain router world with ⟨outcome, after, afterWorld⟩
  cases outcome with
  | error fault => rfl
  | ok message =>
      simp only [bind_run]
      exact congrArg (Option.bind · _) (announce_finished outlets (after, afterWorld))

end Operations

end Guarded

namespace Registry

/-! ## What requests come to -/

/-- What a caller may ask of a router. -/
inductive Request where
  | add (config : OutputConfig)
  | remove (id : String)
  | update (id : String) (change : OutputUpdate)
  | start (id : String)
  | stop (id : String)
  | restart (id : String)

namespace Request

section Work

variable (outlets : Outlets ω χ)

/-- The work that a request asks for. -/
def perform : Request → Router χ → ω → Except Fault String × Router χ × ω
  | add config, router, world => router.addSection outlets config world
  | remove id, router, world => router.removeSection outlets id world
  | update id change, router, world => router.updateSection outlets id change world
  | start id, router, world => router.startSection outlets id world
  | stop id, router, world => router.stopSection outlets id world
  | restart id, router, world => router.restartSection outlets id world

/-- A request from start to end, with what is told. -/
def whole : Request → Router χ → ω → Except Fault String × Router χ × ω
  | add config, router, world => router.add outlets config world
  | remove id, router, world => router.remove outlets id world
  | update id change, router, world => router.update outlets id change world
  | start id, router, world => router.start outlets id world
  | stop id, router, world => router.stop outlets id world
  | restart id, router, world => router.restart outlets id world

/-- The same with locks. -/
def guarded : Request → Guarded ω χ (Except Fault String)
  | add config => .add outlets config
  | remove id => .remove outlets id
  | update id change => .update outlets id change
  | start id => .start outlets id
  | stop id => .stop outlets id
  | restart id => .restart outlets id

end Work

/-- A registered output is to be restarted. -/
def IsRestart (request : Request) (router : Router χ) (id : String) : Prop :=
  request = .restart id ∧ (router.find? id).isSome = true

/-- A success is told, and so is every restart of a registered output. -/
def isTold (request : Request) (router : Router χ) (outcome : Except Fault String) : Bool :=
  match request with
  | restart id => (router.find? id).isSome
  | _ => outcome.isOk

theorem guarded_run (outlets : Outlets ω χ) (request : Request) (router : Router χ) (world : ω) :
    let done := request.perform outlets router world
    request.guarded outlets { router, world } =
      some (done.1, Guarded.finished outlets (request.isTold router done.1) done.2) := by
  cases request with
  | add config => exact (Guarded.addSection_does outlets config).conclude outlets router world
  | remove id => exact (Guarded.removeSection_does outlets id).conclude outlets router world
  | update id change =>
      by_cases unsupported : change.kind = some .unsupported
      · simp only [guarded, Guarded.update, perform, Router.updateSection, if_pos unsupported]
        rfl
      · simp only [guarded, Guarded.update, if_neg unsupported]
        exact (Guarded.updateSection_does outlets id change unsupported).conclude outlets router
          world
  | start id => exact (Guarded.startSection_does outlets id).conclude outlets router world
  | stop id => exact (Guarded.stopSection_does outlets id).conclude outlets router world
  | restart id =>
      have performed := (Guarded.restartSection_does outlets id).holding outlets router world
      simp only [guarded, Guarded.restart, Guarded.bind_run, performed, Option.bind_some, perform,
        isTold]
      cases found : router.find? id with
      | none =>
          simp only [Router.restartSection, found]
          rfl
      | some entry =>
          simp only [Option.map_some, Guarded.bind_run]
          exact congrArg (Option.bind · _) (Guarded.announce_finished outlets _)

/-- Locks make no difference to what a request comes to. -/
theorem whole_eq_finished (outlets : Outlets ω χ) (request : Request) (router : Router χ)
    (world : ω) :
    let done := request.perform outlets router world
    let caller := Guarded.finished outlets (request.isTold router done.1) done.2
    request.whole outlets router world = (done.1, caller.router, caller.world) := by
  have concluded (done : Except Fault String × Router χ × ω) :
      Router.conclude outlets done = (done.1, (Guarded.finished outlets done.1.isOk done.2).router,
        (Guarded.finished outlets done.1.isOk done.2).world) := by
    obtain ⟨outcome, after, afterWorld⟩ := done
    cases outcome <;> rfl
  cases request with
  | add config => exact concluded _
  | remove id => exact concluded _
  | update id change => exact concluded _
  | start id => exact concluded _
  | stop id => exact concluded _
  | restart id =>
      simp only [whole, Router.restart, perform, isTold]
      cases found : router.find? id with
      | none => simp [Router.restartSection, found, Guarded.finished]
      | some entry => rfl

end Request

end Registry

end MavBridge
