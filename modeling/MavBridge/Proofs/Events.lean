import MavBridge.Proofs.Telemetry.Payload
import MavBridge.Telemetry.Shared
import Mathlib.Data.List.Basic
import Mathlib.Data.List.Induction

/-!
# What subscribers are told

A subscription that has been dropped keeps its place in the list for a while, so the list is seen
through `queue?`, which has live subscriptions only.  Every step does one of a few things to the
queues, and from these follows what a whole run does: a live subscription has been given just what
was told since it began.
-/

namespace MavBridge

namespace EventHub

variable {hub after : EventHub} {number : Nat}

/-! ## Queues of live subscriptions -/

/-- What is queued for a live subscription. -/
def queue? (hub : EventHub) (number : Nat) : Option (List Event) :=
  (hub.subscriber? number).map (·.queue)

/-- No number is given out twice. -/
def Numbered (hub : EventHub) : Prop :=
  ∀ subscriber ∈ hub.subscribers, subscriber.number < hub.issued

theorem subscriber?_map (hub : EventHub) {change : Subscriber → Subscriber}
    (same : ∀ subscriber, (change subscriber).isLive = subscriber.isLive ∧
      (change subscriber).number = subscriber.number) (number : Nat) :
    { hub with subscribers := hub.subscribers.map change }.subscriber? number =
      (hub.subscriber? number).map change := by
  simp only [subscriber?, List.find?_map, Function.comp_def, same]

theorem mem_of_subscriber? {subscriber : Subscriber}
    (found : hub.subscriber? number = some subscriber) :
    subscriber ∈ hub.subscribers ∧ subscriber.isLive = true ∧ subscriber.number = number := by
  have tested := List.find?_some found
  rw [Bool.and_eq_true, beq_iff_eq] at tested
  exact ⟨List.mem_of_find?_eq_some found, tested⟩

theorem queue?_eq_none_iff :
    hub.queue? number = none ↔
      ∀ subscriber ∈ hub.subscribers, subscriber.number = number → subscriber.isLive = false := by
  rw [queue?, Option.map_eq_none_iff, subscriber?, List.find?_eq_none]
  simp only [Bool.and_eq_true, beq_iff_eq, not_and', Bool.not_eq_true]

theorem queue?_subscribe (numbered : hub.Numbered) (number : Nat) :
    hub.subscribe.2.queue? number = if number = hub.issued then some [] else hub.queue? number := by
  simp only [queue?, subscriber?, subscribe, List.find?_append]
  split
  next fresh =>
    have absent : hub.queue? number = none := by
      rw [queue?_eq_none_iff]
      intro subscriber membership named
      exact absurd (numbered subscriber membership) (by omega)
    rw [queue?, Option.map_eq_none_iff, subscriber?, fresh] at absent
    simp [absent, fresh]
  next old =>
    have other : (hub.issued == number) = false := by
      rw [beq_eq_false_iff_ne]
      exact fun same => old same.symm
    simp [other]

theorem queue?_drop (hub : EventHub) (dropped number : Nat) :
    (hub.drop dropped).queue? number = if number = dropped then none else hub.queue? number := by
  split
  next same =>
    rw [queue?_eq_none_iff]
    intro subscriber membership named
    rcases List.mem_map.mp membership with ⟨old, -, rfl⟩
    split
    next => rfl
    next other =>
      rw [if_neg other] at named
      exact absurd (named.trans same) other
  next different =>
    simp only [queue?, subscriber?, drop, alter, List.find?_map]
    have sameTest : ((fun subscriber : Subscriber =>
          subscriber.isLive && subscriber.number == number) ∘ fun subscriber =>
            if subscriber.number = dropped then { subscriber with isLive := false }
            else subscriber) =
        fun subscriber => subscriber.isLive && subscriber.number == number := by
      funext subscriber
      by_cases theirs : subscriber.number = dropped
      · have other : (dropped == number) = false := by
          rw [beq_eq_false_iff_ne]
          exact fun same => different same.symm
        simp [theirs, other]
      · simp [theirs]
    rw [sameTest]
    cases found : hub.subscribers.find? fun subscriber =>
        subscriber.isLive && subscriber.number == number with
    | none => rfl
    | some subscriber =>
        have named := (mem_of_subscriber? found).2.2
        simp [named, different]

theorem queue?_prune (hub : EventHub) (number : Nat) :
    hub.prune.queue? number = hub.queue? number := by
  simp only [queue?, subscriber?, prune, List.find?_filter]
  congr 2
  funext subscriber
  cases subscriber.isLive <;> simp [Bool.beq_eq_decide_eq]

theorem queue?_notify (hub : EventHub) (event : Event) (number : Nat) :
    (hub.notify event).queue? number = (hub.queue? number).map (· ++ [event]) := by
  have listed : (hub.notify event).subscriber? number =
      (hub.prune.subscriber? number).map fun subscriber =>
        { subscriber with queue := subscriber.queue ++ [event] } := by
    apply subscriber?_map
    exact fun _ => ⟨rfl, rfl⟩
  rw [← hub.queue?_prune, queue?, listed, queue?, Option.map_map, Option.map_map]
  rfl

theorem drain_eq (hub : EventHub) (drained : Nat) :
    (hub.drain drained).1 = hub.queue? drained := by
  unfold drain queue?
  cases hub.subscriber? drained <;> rfl

theorem queue?_drain (hub : EventHub) (drained number : Nat) :
    (hub.drain drained).2.queue? number =
      if number = drained then (hub.queue? number).map fun _ => [] else hub.queue? number := by
  unfold drain
  split
  next missing =>
    split
    next same => simp [queue?, same, missing]
    next => rfl
  next subscriber _ =>
    have same (subscriber : Subscriber) :
        (if subscriber.number = drained then { subscriber with queue := [] } else
          subscriber).isLive = subscriber.isLive ∧
        (if subscriber.number = drained then { subscriber with queue := [] } else
          subscriber).number = subscriber.number := by
      split <;> exact ⟨rfl, rfl⟩
    rw [queue?, alter, subscriber?_map hub same, queue?]
    cases found : hub.subscriber? number with
    | none => simp
    | some other =>
        have named := (mem_of_subscriber? found).2.2
        simp only [Option.map_some, named]
        split <;> rfl

theorem hasSubscribers_iff :
    hub.hasSubscribers.1 = true ↔ ∃ number, (hub.queue? number).isSome := by
  have empty : hub.hasSubscribers.1 = true ↔ ∃ subscriber ∈ hub.subscribers,
      subscriber.isLive = true := by
    rw [hasSubscribers, Bool.not_eq_true', List.isEmpty_eq_false_iff_exists_mem]
    simp only [prune, List.mem_filter]
  rw [empty]
  constructor
  · rintro ⟨subscriber, membership, live⟩
    refine ⟨subscriber.number, ?_⟩
    by_contra absent
    rw [Option.not_isSome_iff_eq_none, queue?_eq_none_iff] at absent
    rw [absent subscriber membership rfl] at live
    cases live
  · rintro ⟨number, live⟩
    rw [queue?, Option.isSome_map] at live
    rcases Option.isSome_iff_exists.mp live with ⟨subscriber, found⟩
    have known := mem_of_subscriber? found
    exact ⟨subscriber, known.1, known.2.1⟩

end EventHub

namespace SharedFeeds

variable {feeds : SharedFeeds} {number : Nat}

/-! ## What is told, and what is taken -/

namespace Step

def isSubscribe : Step → Bool
  | subscribe => true
  | _ => false

/-- The reader whose step it is. -/
def reader? : Step → Option Nat
  | fold reader _ _ => some reader
  | listen reader => some reader
  | copy reader => some reader
  | tell reader => some reader
  | _ => none

/-- It belongs to no subscription. -/
def isGeneral : Step → Bool
  | subscribe => false
  | drop _ => false
  | drain _ => false
  | _ => true

theorem isSubscribe_of_isGeneral {step : Step} (general : step.isGeneral = true) :
    step.isSubscribe = false := by
  cases step with
  | subscribe => cases general
  | _ => rfl

end Step

/-- What a step tells. -/
def emits (feeds : SharedFeeds) : Step → List Event
  | .notify event => [event]
  | .tell reader =>
      match (feeds.reader reader).stage with
      | .copied telemetry => [⟨"telemetry", telemetry.toJson⟩]
      | _ => []
  | _ => []

/-- What is told over a run, the oldest first. -/
def emitted : SharedFeeds → List Step → List Event
  | _, [] => []
  | feeds, step :: later => feeds.emits step ++ emitted (feeds.step step) later

/-- What is told over a run by one reader. -/
def emittedBy (reader : Nat) : SharedFeeds → List Step → List Event
  | _, [] => []
  | feeds, step :: later =>
      (if step.reader? = some reader then feeds.emits step else []) ++
        emittedBy reader (feeds.step step) later

/-- What a step takes out of the queue of a subscription. -/
def takes (hub : EventHub) (number : Nat) : Step → List Event
  | .drain subscription => if subscription = number then (hub.drain subscription).1.getD [] else []
  | _ => []

/-- What is taken over a run out of the queue of a subscription, the oldest first. -/
def taken (number : Nat) : SharedFeeds → List Step → List Event
  | _, [] => []
  | feeds, step :: later => takes feeds.hub number step ++ taken number (feeds.step step) later

/-! ## Subscriptions that are open -/

/-- How many subscriptions there have been. -/
def subscriptions (steps : List Step) : Nat := steps.countP Step.isSubscribe

/-- A subscription has begun, and has not been dropped since. -/
def IsOpen (steps : List Step) (number : Nat) : Prop :=
  ∃ before after, steps = before ++ .subscribe :: after ∧ subscriptions before = number ∧
    .drop number ∉ after

theorem IsOpen.concat {steps : List Step} (isOpen : IsOpen steps number) {step : Step}
    (kept : step ≠ .drop number) : IsOpen (steps ++ [step]) number := by
  rcases isOpen with ⟨before, after, rfl, counted, undropped⟩
  refine ⟨before, after ++ [step], by simp, counted, ?_⟩
  rw [List.mem_append, List.mem_singleton]
  rintro (earlier | last)
  · exact undropped earlier
  · exact kept last.symm

/-! ## Steps -/

/-- What a step does to the hub, and what it tells. -/
inductive Change (hub : EventHub) : Step → List Event → EventHub → Prop where
  | subscribe : Change hub .subscribe [] hub.subscribe.2
  | drop (subscription : Nat) : Change hub (.drop subscription) [] (hub.drop subscription)
  | drain (subscription : Nat) : Change hub (.drain subscription) [] (hub.drain subscription).2
  | quiet {step : Step} : step.isGeneral = true → Change hub step [] hub
  | prune {step : Step} : step.isGeneral = true → Change hub step [] hub.prune
  | notify {step : Step} (event : Event) :
      step.isGeneral = true → Change hub step [event] (hub.notify event)

theorem change_step (feeds : SharedFeeds) (step : Step) :
    Change feeds.hub step (feeds.emits step) (feeds.step step).hub := by
  cases step with
  | subscribe => exact .subscribe
  | drop subscription => exact .drop subscription
  | drain subscription => exact .drain subscription
  | ask => exact .prune rfl
  | notify event => exact .notify event rfl
  | fold reader message time =>
      simp only [step, fold, emits]
      split
      · exact .quiet rfl
      · exact .quiet rfl
  | listen reader =>
      simp only [step, listen, emits]
      split
      · exact .prune rfl
      · exact .quiet rfl
  | copy reader =>
      simp only [step, copy, emits]
      split
      · exact .quiet rfl
      · exact .quiet rfl
  | tell reader =>
      simp only [step, tell, emits]
      cases (feeds.reader reader).stage with
      | copied telemetry => exact .notify _ rfl
      | _ => exact .quiet rfl

section Change

variable {hub after : EventHub} {step : Step} {told : List Event}

theorem Change.issued (change : Change hub step told after) :
    after.issued = hub.issued + if step.isSubscribe then 1 else 0 := by
  cases change with
  | subscribe => rfl
  | drop subscription => rfl
  | drain subscription =>
      simp only [EventHub.drain]
      split <;> rfl
  | quiet general | prune general | notify event general =>
      rw [Step.isSubscribe_of_isGeneral general]
      rfl

theorem Change.numbered (change : Change hub step told after) (numbered : hub.Numbered) :
    after.Numbered := by
  have of_map {alteration : Subscriber → Subscriber} {subscribers : List Subscriber}
      (fewer : subscribers ⊆ hub.subscribers)
      (same : ∀ subscriber, (alteration subscriber).number = subscriber.number) :
      (EventHub.mk (subscribers.map alteration) hub.issued).Numbered := by
    intro subscriber membership
    rcases List.mem_map.mp membership with ⟨old, oldMembership, rfl⟩
    rw [same]
    exact numbered old (fewer oldMembership)
  cases change with
  | subscribe =>
      intro subscriber membership
      rcases List.mem_append.mp membership with old | new
      · exact Nat.lt_succ_of_lt (numbered subscriber old)
      · rw [List.mem_singleton.mp new]
        exact Nat.lt_succ_self _
  | drop subscription =>
      apply of_map (List.Subset.refl _)
      intro subscriber
      split <;> rfl
  | drain subscription =>
      simp only [EventHub.drain]
      split
      next => exact numbered
      next =>
        apply of_map (List.Subset.refl _)
        intro subscriber
        split <;> rfl
  | quiet => exact numbered
  | prune =>
      intro subscriber membership
      exact numbered subscriber (List.mem_of_mem_filter membership)
  | notify event =>
      apply of_map
      · exact fun _ membership => List.mem_of_mem_filter membership
      · exact fun _ => rfl

theorem takes_of_isGeneral (general : step.isGeneral = true) : takes hub number step = [] := by
  cases step with
  | drain subscription => cases general
  | _ => rfl

/-- The queue of a live subscription grows by what is told, and what is taken out comes first. -/
theorem Change.queue?_of_live (change : Change hub step told after) (numbered : hub.Numbered)
    {queue : List Event} (live : hub.queue? number = some queue) (kept : step ≠ .drop number) :
    ∃ later, after.queue? number = some later ∧ takes hub number step ++ later = queue ++ told := by
  cases change with
  | subscribe =>
      have old : number ≠ hub.issued := by
        rintro rfl
        rw [EventHub.queue?, Option.map_eq_some_iff] at live
        rcases live with ⟨subscriber, found, -⟩
        have known := EventHub.mem_of_subscriber? found
        exact absurd (numbered subscriber known.1) (by omega)
      refine ⟨queue, ?_, by simp [takes]⟩
      rw [EventHub.queue?_subscribe numbered, if_neg old, live]
  | drop subscription =>
      have different : number ≠ subscription := by
        rintro rfl
        exact kept rfl
      refine ⟨queue, ?_, by simp [takes]⟩
      rw [EventHub.queue?_drop, if_neg different, live]
  | drain subscription =>
      rw [EventHub.queue?_drain, takes, EventHub.drain_eq]
      by_cases mine : number = subscription
      · rw [if_pos mine, if_pos mine.symm, ← mine, live]
        exact ⟨[], rfl, by simp⟩
      · rw [if_neg mine, if_neg (Ne.symm mine), live]
        exact ⟨queue, rfl, by simp⟩
  | quiet general => exact ⟨queue, live, by simp [takes_of_isGeneral general]⟩
  | prune general =>
      exact ⟨queue, (EventHub.queue?_prune ..).trans live, by simp [takes_of_isGeneral general]⟩
  | notify event general =>
      refine ⟨queue ++ [event], ?_, by simp [takes_of_isGeneral general]⟩
      rw [EventHub.queue?_notify, live, Option.map_some]

/-- A queue is there because its subscription has begun just now, or was there before. -/
theorem Change.live_of_live (change : Change hub step told after) (numbered : hub.Numbered)
    (live : (after.queue? number).isSome = true) :
    (hub.queue? number).isSome = true ∧ step ≠ .drop number ∨
      step = .subscribe ∧ number = hub.issued := by
  have of_general (general : step.isGeneral = true) (same : (hub.queue? number).isSome = true) :
      (hub.queue? number).isSome = true ∧ step ≠ .drop number ∨
        step = .subscribe ∧ number = hub.issued := by
    refine .inl ⟨same, ?_⟩
    rintro rfl
    cases general
  cases change with
  | subscribe =>
      rw [EventHub.queue?_subscribe numbered] at live
      split at live
      next fresh => exact .inr ⟨rfl, fresh⟩
      next => exact .inl ⟨live, nofun⟩
  | drop subscription =>
      rw [EventHub.queue?_drop] at live
      split at live
      next => cases live
      next different =>
        refine .inl ⟨live, ?_⟩
        rintro same
        cases same
        exact different rfl
  | drain subscription =>
      refine .inl ⟨?_, nofun⟩
      rw [EventHub.queue?_drain] at live
      split at live
      next => rwa [Option.isSome_map] at live
      next => exact live
  | quiet general => exact of_general general live
  | prune general =>
      apply of_general general
      rwa [EventHub.queue?_prune] at live
  | notify event general =>
      apply of_general general
      rwa [EventHub.queue?_notify, Option.isSome_map] at live

/-- What is left of a subscription that was dropped is not touched any more. -/
theorem Change.of_gone (change : Change hub step told after) (numbered : hub.Numbered)
    (old : number < hub.issued) (gone : hub.queue? number = none) :
    after.queue? number = none ∧ ∀ subscriber ∈ after.subscribers, subscriber.number = number →
      subscriber ∈ hub.subscribers := by
  have dead := EventHub.queue?_eq_none_iff.mp gone
  constructor
  · by_contra live
    rw [← ne_eq, ← Option.isSome_iff_ne_none] at live
    rcases change.live_of_live numbered live with ⟨earlier, -⟩ | ⟨-, fresh⟩
    · rw [gone] at earlier
      cases earlier
    · omega
  intro subscriber membership named
  cases change with
  | subscribe =>
      rcases List.mem_append.mp membership with known | new
      · exact known
      · rw [List.mem_singleton.mp new] at named
        change hub.issued = number at named
        omega
  | drop subscription =>
      rcases List.mem_map.mp membership with ⟨before, known, rfl⟩
      by_cases dropped : before.number = subscription
      · rw [if_pos dropped] at named ⊢
        rw [← dead before known named]
        exact known
      · rwa [if_neg dropped]
  | drain subscription =>
      simp only [EventHub.drain] at membership
      split at membership
      next => exact membership
      next other found =>
        rcases List.mem_map.mp membership with ⟨before, known, rfl⟩
        by_cases drained : before.number = subscription
        · -- Only a live subscription is drained, and this one is not.
          rw [if_pos drained] at named
          have isLive := EventHub.mem_of_subscriber? found
          have isDead := dead other isLive.1 (isLive.2.2.trans (drained.symm.trans named))
          rw [isLive.2.1] at isDead
          cases isDead
        · rwa [if_neg drained]
  | quiet => exact membership
  | prune => exact List.mem_of_mem_filter membership
  | notify event =>
      rcases List.mem_map.mp membership with ⟨before, known, rfl⟩
      rcases List.mem_filter.mp known with ⟨known, isLive⟩
      have isDead := dead before known named
      rw [isLive] at isDead
      cases isDead

end Change

/-! ## Runs -/

/-- Nobody has subscribed, and nothing has been told. -/
def fresh : SharedFeeds := {}

theorem run_append (feeds : SharedFeeds) (first second : List Step) :
    feeds.run (first ++ second) = (feeds.run first).run second := List.foldl_append

theorem run_cons (feeds : SharedFeeds) (step : Step) (later : List Step) :
    feeds.run (step :: later) = (feeds.step step).run later := rfl

theorem numbered_run (numbered : feeds.hub.Numbered) (steps : List Step) :
    (feeds.run steps).hub.Numbered := by
  induction steps generalizing feeds with
  | nil => exact numbered
  | cons step later inductionHypothesis =>
      exact inductionHypothesis ((feeds.change_step step).numbered numbered)

theorem numbered_fresh (steps : List Step) : (fresh.run steps).hub.Numbered := by
  apply numbered_run
  intro subscriber membership
  cases membership

theorem issued_run (feeds : SharedFeeds) (steps : List Step) :
    (feeds.run steps).hub.issued = feeds.hub.issued + subscriptions steps := by
  induction steps generalizing feeds with
  | nil => rfl
  | cons step later inductionHypothesis =>
      rw [run_cons, inductionHypothesis, (feeds.change_step step).issued, subscriptions,
        subscriptions, List.countP_cons]
      omega

theorem issued_fresh (steps : List Step) : (fresh.run steps).hub.issued = subscriptions steps := by
  rw [issued_run]
  exact Nat.zero_add _

/-- Over a run in which it is not dropped, a live subscription is given what is told. -/
theorem queue?_run (numbered : feeds.hub.Numbered) {queue : List Event}
    (live : feeds.hub.queue? number = some queue) {steps : List Step}
    (undropped : .drop number ∉ steps) :
    ∃ final, (feeds.run steps).hub.queue? number = some final ∧
      taken number feeds steps ++ final = queue ++ emitted feeds steps := by
  induction steps generalizing feeds queue with
  | nil => exact ⟨queue, live, by simp [taken, emitted]⟩
  | cons step later inductionHypothesis =>
      rw [List.mem_cons, not_or] at undropped
      have change := feeds.change_step step
      rcases change.queue?_of_live numbered live (Ne.symm undropped.1) with
        ⟨next, nextLive, account⟩
      rcases inductionHypothesis (change.numbered numbered) nextLive undropped.2 with
        ⟨final, finalLive, laterAccount⟩
      refine ⟨final, finalLive, ?_⟩
      rw [taken, emitted, List.append_assoc, laterAccount, ← List.append_assoc, account,
        List.append_assoc]

theorem gone_run (numbered : feeds.hub.Numbered) (old : number < feeds.hub.issued)
    (gone : feeds.hub.queue? number = none) (steps : List Step) :
    (feeds.run steps).hub.queue? number = none ∧
      ∀ subscriber ∈ (feeds.run steps).hub.subscribers, subscriber.number = number →
        subscriber ∈ feeds.hub.subscribers := by
  induction steps generalizing feeds with
  | nil => exact ⟨gone, fun _ membership _ => membership⟩
  | cons step later inductionHypothesis =>
      have change := feeds.change_step step
      have stillOld : number < (feeds.step step).hub.issued := by
        rw [change.issued]
        omega
      rcases change.of_gone numbered old gone with ⟨stillGone, untouched⟩
      rcases inductionHypothesis (change.numbered numbered) stillOld stillGone with
        ⟨last, untouchedLater⟩
      refine ⟨last, ?_⟩
      intro subscriber membership named
      exact untouched subscriber (untouchedLater subscriber membership named) named

/-- A subscription that has just begun. -/
theorem queue?_begun (before : List Step) :
    (fresh.run (before ++ [.subscribe])).hub.queue? (subscriptions before) = some [] := by
  have begun := EventHub.queue?_subscribe (numbered_fresh before) (subscriptions before)
  rw [issued_fresh, if_pos rfl] at begun
  rw [run_append]
  exact begun

/-- The subscriptions that are open are those with a queue. -/
theorem isSome_queue?_iff (steps : List Step) :
    ((fresh.run steps).hub.queue? number).isSome = true ↔ IsOpen steps number := by
  constructor
  · induction steps using List.reverseRecOn with
    | nil => exact nofun
    | append_singleton steps step inductionHypothesis =>
        intro live
        rw [run_append] at live
        have change := (fresh.run steps).change_step step
        rcases change.live_of_live (numbered_fresh steps) live with ⟨earlier, kept⟩ | ⟨rfl, named⟩
        · exact (inductionHypothesis earlier).concat kept
        · rw [issued_fresh] at named
          exact ⟨steps, [], rfl, named.symm, List.not_mem_nil⟩
  · rintro ⟨before, after, rfl, rfl, undropped⟩
    rcases queue?_run (numbered_fresh (before ++ [.subscribe])) (queue?_begun before) undropped with
      ⟨queue, live, -⟩
    rw [← run_append, List.append_assoc, List.singleton_append] at live
    rw [live]
    rfl

theorem listens_iff (steps : List Step) :
    (fresh.run steps).hub.hasSubscribers.1 = true ↔ ∃ number, IsOpen steps number := by
  rw [EventHub.hasSubscribers_iff]
  simp only [isSome_queue?_iff]

/-- A subscription that is not dropped is given what is told since it began. -/
theorem hears_since_begun (before : List Step) {after : List Step}
    (undropped : .drop (subscriptions before) ∉ after) :
    let begun := fresh.run (before ++ [.subscribe])
    ∃ subscriber, (begun.run after).hub.subscriber? (subscriptions before) = some subscriber ∧
      taken (subscriptions before) begun after ++ subscriber.queue = emitted begun after := by
  intro begun
  rcases queue?_run (numbered_fresh _) (queue?_begun before) undropped with ⟨queue, live, account⟩
  rw [EventHub.queue?, Option.map_eq_some_iff] at live
  rcases live with ⟨subscriber, found, rfl⟩
  exact ⟨subscriber, found, account⟩

/-- Nothing is put into the queue of a subscription that was dropped. -/
theorem untouched_since_dropped (before earlier later : List Step) :
    let begun := fresh.run (before ++ [.subscribe])
    let dropped := begun.run (earlier ++ [.drop (subscriptions before)])
    (dropped.run later).hub.subscriber? (subscriptions before) = none ∧
      ∀ subscriber ∈ (dropped.run later).hub.subscribers,
        subscriber.number = subscriptions before → subscriber ∈ dropped.hub.subscribers := by
  intro begun dropped
  have old : subscriptions before < dropped.hub.issued := by
    simp only [dropped, begun, ← run_append, issued_fresh, subscriptions, List.countP_append]
    exact Nat.lt_add_right _ (Nat.lt_succ_self _)
  have gone : dropped.hub.queue? (subscriptions before) = none := by
    simp only [dropped, run_append, run_cons]
    exact (EventHub.queue?_drop ..).trans (if_pos rfl)
  rcases gone_run (numbered_run (numbered_fresh _) _) old gone later with ⟨absent, untouched⟩
  exact ⟨Option.map_eq_none_iff.mp absent, untouched⟩

/-! ## Folding a message in -/

theorem reader_step {reader : Nat} {step : Step} (others : step.reader? ≠ some reader) :
    (feeds.step step).reader reader = feeds.reader reader := by
  have ofOther {other : Nat} (different : some other ≠ some reader) (changed : FeedReader)
      (feeds : SharedFeeds) :
      (feeds.setReader other changed).reader reader = feeds.reader reader := by
    apply if_neg
    rintro rfl
    exact different rfl
  cases step with
  | fold other message time =>
      simp only [SharedFeeds.step, fold]
      split
      · exact ofOther others _ _
      · rfl
  | listen other =>
      simp only [SharedFeeds.step, listen]
      split
      · exact ofOther others _ _
      · rfl
  | copy other =>
      simp only [SharedFeeds.step, copy]
      split
      · exact ofOther others _ _
      · rfl
  | tell other =>
      simp only [SharedFeeds.step, tell]
      split
      · exact ofOther others _ _
      · rfl
  | _ => rfl

theorem reader_run {reader : Nat} {steps : List Step}
    (others : ∀ step ∈ steps, step.reader? ≠ some reader) :
    (feeds.run steps).reader reader = feeds.reader reader := by
  induction steps generalizing feeds with
  | nil => rfl
  | cons step later inductionHypothesis =>
      rw [List.forall_mem_cons] at others
      exact (inductionHypothesis others.2).trans (reader_step others.1)

section Own

variable {reader : Nat}

theorem reader_setReader (feeds : SharedFeeds) (changed : FeedReader) :
    (feeds.setReader reader changed).reader reader = changed := if_pos rfl

theorem listen_of_idle (idle : (feeds.reader reader).stage = .idle) :
    feeds.listen reader = feeds := by
  rw [listen, idle]

theorem copy_of_idle (idle : (feeds.reader reader).stage = .idle) : feeds.copy reader = feeds := by
  rw [copy, idle]

theorem reader_fold {message : Decoded} {time : Nat} {telemetry : Telemetry}
    (idle : (feeds.reader reader).stage = .idle)
    (told : (feeds.reader reader).telemetry.after? message time = some telemetry) :
    (feeds.fold reader message time).reader reader = ⟨telemetry, .folded⟩ := by
  simp only [fold, idle, told, reader_setReader]

theorem fold_of_untold {message : Decoded} {time : Nat}
    (untold : (feeds.reader reader).telemetry.after? message time = none) :
    feeds.fold reader message time = feeds := by
  rw [fold, untold]
  cases (feeds.reader reader).stage <;> rfl

theorem reader_listen {telemetry : Telemetry}
    (folded : feeds.reader reader = ⟨telemetry, .folded⟩) :
    (feeds.listen reader).reader reader =
      ⟨telemetry, if feeds.hub.hasSubscribers.1 then .heard else .idle⟩ := by
  simp only [listen, setStage, reader_setReader, folded]

theorem reader_copy {telemetry : Telemetry} (heard : feeds.reader reader = ⟨telemetry, .heard⟩) :
    (feeds.copy reader).reader reader = ⟨telemetry, .copied telemetry⟩ := by
  simp only [copy, setStage, reader_setReader, heard]

/-- Others work between the steps of a reader. -/
structure Spread (reader : Nat) (first second third : List Step) : Prop where
  first : ∀ step ∈ first, step.reader? ≠ some reader
  second : ∀ step ∈ second, step.reader? ≠ some reader
  third : ∀ step ∈ third, step.reader? ≠ some reader

variable {first second third : List Step} {message : Decoded} {time : Nat}

/-- The steps of a reader with one message up to the last, among those of others. -/
def folding (reader : Nat) (message : Decoded) (time : Nat) (first second third : List Step) :
    List Step :=
  .fold reader message time :: first ++ .listen reader :: second ++ .copy reader :: third

theorem run_folding (feeds : SharedFeeds) :
    feeds.run (folding reader message time first second third) =
      ((((((feeds.fold reader message time).run first).listen reader).run second).copy reader).run
        third) := by
  simp only [folding, run_append, run_cons]
  rfl

/-- What a reader tells in the end is the state as it was just after folding the message in. -/
theorem emits_folding (spread : Spread reader first second third)
    (idle : (feeds.reader reader).stage = .idle) {telemetry : Telemetry}
    (told : (feeds.reader reader).telemetry.after? message time = some telemetry) :
    (feeds.run (folding reader message time first second third)).emits (.tell reader) =
      if ((feeds.fold reader message time).run first).hub.hasSubscribers.1 then
        [⟨"telemetry", telemetry.toJson⟩]
      else [] := by
  rw [run_folding]
  have folded := (reader_run spread.first).trans (reader_fold idle told)
  generalize (feeds.fold reader message time).run first = asking at folded ⊢
  have answered := (reader_run spread.second).trans (reader_listen folded)
  generalize (asking.listen reader).run second = copying at answered ⊢
  by_cases listening : asking.hub.hasSubscribers.1 = true
  · rw [if_pos listening] at answered ⊢
    have copied := (reader_run spread.third).trans (reader_copy answered)
    simp only [emits, copied]
  · rw [if_neg listening] at answered ⊢
    have done : copying.copy reader = copying := copy_of_idle (by rw [answered])
    rw [done, emits, reader_run spread.third, answered]

theorem emits_folding_of_untold (spread : Spread reader first second third)
    (idle : (feeds.reader reader).stage = .idle)
    (untold : (feeds.reader reader).telemetry.after? message time = none) :
    (feeds.run (folding reader message time first second third)).emits (.tell reader) = [] := by
  rw [run_folding, fold_of_untold untold]
  have still : (feeds.run first).reader reader = feeds.reader reader := reader_run spread.first
  generalize feeds.run first = asking at still ⊢
  rw [listen_of_idle (still ▸ idle)]
  have stillThen : (asking.run second).reader reader = feeds.reader reader :=
    (reader_run spread.second).trans still
  generalize asking.run second = copying at stillThen ⊢
  rw [copy_of_idle (stillThen ▸ idle), emits, reader_run spread.third, stillThen, idle]

theorem setReader_setReader (feeds : SharedFeeds) (first second : FeedReader) :
    (feeds.setReader reader first).setReader reader second = feeds.setReader reader second := by
  simp only [setReader, SharedFeeds.mk.injEq, true_and]
  funext other
  split <;> rfl

theorem setReader_self (feeds : SharedFeeds) :
    feeds.setReader reader (feeds.reader reader) = feeds := by
  have same : (fun other => if other = reader then feeds.reader reader else feeds.reader other) =
      feeds.reader := by
    funext other
    split
    next named => rw [named]
    next => rfl
  rw [setReader, same]

/-- With nobody between its steps, a message is folded in and told at once. -/
theorem run_folding_alone (idle : (feeds.reader reader).stage = .idle) :
    let applied := (TelemetryFeed.mk (feeds.reader reader).telemetry feeds.hub).apply message time
    feeds.run (folding reader message time [] [] [] ++ [.tell reader]) =
      { feeds with hub := applied.2.hub }.setReader reader ⟨applied.2.telemetry, .idle⟩ := by
  dsimp only
  rw [run_append, run_folding, TelemetryFeed.apply]
  change (((feeds.fold reader message time).listen reader).copy reader).tell reader = _
  cases told : (feeds.reader reader).telemetry.after? message time with
  | none =>
      rw [fold_of_untold told, listen_of_idle idle, copy_of_idle idle, tell, idle]
      dsimp only
      rw [← idle, setReader_self]
  | some telemetry =>
      have folded : feeds.fold reader message time =
          feeds.setReader reader ⟨telemetry, .folded⟩ := by simp only [fold, idle, told]
      have heard : (feeds.setReader reader ⟨telemetry, .folded⟩).listen reader =
          { feeds with hub := feeds.hub.hasSubscribers.2 }.setReader reader
            ⟨telemetry, if feeds.hub.hasSubscribers.1 then .heard else .idle⟩ := by
        simp only [listen, setStage, reader_setReader]
        exact setReader_setReader { feeds with hub := feeds.hub.hasSubscribers.2 } _ _
      rw [folded, heard]
      dsimp only
      split
      next listening =>
        simp only [copy, tell, setStage, reader_setReader, setReader_setReader]
        exact setReader_setReader { feeds with hub := _ } _ _
      next unheard =>
        rw [copy_of_idle (by rw [reader_setReader]), tell, reader_setReader]

theorem emittedBy_append (feeds : SharedFeeds) (first second : List Step) :
    emittedBy reader feeds (first ++ second) =
      emittedBy reader feeds first ++ emittedBy reader (feeds.run first) second := by
  induction first generalizing feeds with
  | nil => rfl
  | cons step later inductionHypothesis =>
      rw [List.cons_append, emittedBy, inductionHypothesis, emittedBy, run_cons, List.append_assoc]

theorem emittedBy_of_others {steps : List Step}
    (others : ∀ step ∈ steps, step.reader? ≠ some reader) (feeds : SharedFeeds) :
    emittedBy reader feeds steps = [] := by
  induction steps generalizing feeds with
  | nil => rfl
  | cons step later inductionHypothesis =>
      rw [List.forall_mem_cons] at others
      rw [emittedBy, if_neg others.1, inductionHypothesis others.2, List.nil_append]

/-- Only the last step of a folding tells anything. -/
theorem emittedBy_folding (spread : Spread reader first second third) (feeds : SharedFeeds) :
    emittedBy reader feeds (folding reader message time first second third ++ [.tell reader]) =
      (feeds.run (folding reader message time first second third)).emits (.tell reader) := by
  have silent : emittedBy reader feeds (folding reader message time first second third) = [] := by
    simp only [folding, emittedBy_append, emittedBy, emittedBy_of_others spread.first,
      emittedBy_of_others spread.second, emittedBy_of_others spread.third, emits, ite_self,
      List.append_nil]
  have own : (Step.tell reader).reader? = some reader := rfl
  rw [emittedBy_append, silent, List.nil_append, emittedBy, if_pos own, emittedBy, List.append_nil]

/-- A message is told once, as the state that it led to, if it tells something of the vehicle and
somebody listens when the reader asks. -/
theorem emittedBy_folding_eq (spread : Spread reader first second third)
    (idle : (feeds.reader reader).stage = .idle) :
    let applied := (TelemetryFeed.mk (feeds.reader reader).telemetry feeds.hub).apply message time
    emittedBy reader feeds (folding reader message time first second third ++ [.tell reader]) =
      if applied.1 = true ∧
          ((feeds.fold reader message time).run first).hub.hasSubscribers.1 = true then
        [⟨"telemetry", applied.2.telemetry.toJson⟩]
      else [] := by
  intro applied
  rw [emittedBy_folding spread]
  cases folded : (feeds.reader reader).telemetry.after? message time with
  | none =>
      have untold : applied.1 = false := by simp only [applied, TelemetryFeed.apply, folded]
      rw [emits_folding_of_untold spread idle folded, untold, if_neg]
      rintro ⟨told, -⟩
      cases told
  | some telemetry =>
      have told : applied.1 = true ∧ applied.2.telemetry = telemetry := by
        simp only [applied, TelemetryFeed.apply, folded, and_self]
      rw [emits_folding spread idle folded, told.1, told.2]
      simp only [true_and]

end Own

/-- Whatever the order of steps, somebody is found to listen exactly if a subscription is open.
While a subscription is open, what has been taken out of its queue and what is in it are the events
that were told since it began, in order and once each; after it was dropped nothing is put there any
more.  A message that is folded in is told by its reader once if it tells something of the vehicle
and somebody listens, by an event that pictures the state it led to, and else not at all; and with
nobody between the steps of the reader that is what folding it in at once does. -/
theorem each_hears_what_is_told (steps : List Step) :
    let final := fresh.run steps
    (final.hub.hasSubscribers.1 = true ↔ ∃ number, IsOpen steps number) ∧
    (∀ before after, steps = before ++ .subscribe :: after →
      let number := subscriptions before
      let begun := fresh.run (before ++ [.subscribe])
      (.drop number ∉ after → ∃ subscriber, final.hub.subscriber? number = some subscriber ∧
        taken number begun after ++ subscriber.queue = emitted begun after) ∧
      ∀ earlier later, after = earlier ++ .drop number :: later →
        final.hub.subscriber? number = none ∧
        ∀ subscriber ∈ final.hub.subscribers, subscriber.number = number →
          subscriber ∈ (begun.run (earlier ++ [.drop number])).hub.subscribers) ∧
    ∀ reader message time first second third, Spread reader first second third →
      (final.reader reader).stage = .idle →
      let applied := (TelemetryFeed.mk (final.reader reader).telemetry final.hub).apply message time
      let asked := steps ++ .fold reader message time :: first
      let told := emittedBy reader final
        (folding reader message time first second third ++ [.tell reader])
      (applied.1 = true → (∃ number, IsOpen asked number) →
        told = [⟨"telemetry", applied.2.telemetry.toJson⟩] ∧
          applied.2.telemetry.Pictured applied.2.telemetry.toJson) ∧
      (applied.1 = false ∨ (¬ ∃ number, IsOpen asked number) → told = []) ∧
      final.run (folding reader message time [] [] [] ++ [.tell reader]) =
        { final with hub := applied.2.hub }.setReader reader ⟨applied.2.telemetry, .idle⟩ := by
  intro final
  refine ⟨listens_iff steps, ?_, ?_⟩
  · intro before after parted number begun
    have whole : final = begun.run after := by
      rw [← run_append, List.append_assoc, List.singleton_append, ← parted]
    constructor
    · intro undropped
      rw [whole]
      exact hears_since_begun before undropped
    · rintro earlier later rfl
      have parts : final = (begun.run (earlier ++ [.drop number])).run later := by
        apply whole.trans
        rw [← run_append begun, List.append_assoc, List.singleton_append]
      rw [parts]
      exact untouched_since_dropped before earlier later
  · intro reader message time first second third spread idle applied asked told
    have listens := listens_iff asked
    rw [run_append, run_cons] at listens
    have tells : told = _ := emittedBy_folding_eq spread idle
    refine ⟨?_, ?_, run_folding_alone idle⟩
    · intro isTold someone
      rw [tells, if_pos ⟨isTold, listens.mpr someone⟩]
      exact ⟨rfl, applied.2.telemetry.pictured_toJson⟩
    · intro silent
      rw [tells, if_neg]
      rintro ⟨isTold, listening⟩
      rcases silent with untold | nobody
      · exact Bool.false_ne_true (untold.symm.trans isTold)
      · exact nobody (listens.mp listening)

/-- What is told of a vehicle that has said nothing but a warning. -/
def lowBatteryPayload : Json :=
  .obj
    [("attitude", .obj [("roll", .real .zero), ("pitch", .real .zero), ("yaw", .real .zero)]),
      ("gps", .obj
        [("lat", .real .zero), ("lon", .real .zero), ("alt", .real .zero), ("satellites", .int 0),
          ("fix_type", .int 0)]),
      ("battery", .obj
        [("voltage", .real .zero), ("current", .real .zero), ("remaining", .int 0)]),
      ("speed", .obj
        [("groundspeed", .real .zero), ("airspeed", .real .zero), ("climb", .real .zero)]),
      ("system", .obj
        [("armed", .bool false), ("mode", .str ""), ("vehicle_type", .str ""),
          ("autopilot", .str ""), ("state", .str ""), ("system_id", .int 0),
          ("component_id", .int 0), ("base_mode", .int 0), ("custom_mode", .int 0),
          ("vehicle_type_raw", .int 0), ("autopilot_raw", .int 0), ("state_raw", .int 0)]),
      ("messages", .arr [.obj
        [("severity", .str "WARNING"), ("text", .str "low battery"), ("timestamp_us", .int 7)]]),
      ("last_update_us", .int 7)]

theorem each_hears_what_is_told_severalSubscriptions :
    let connected : Event := ⟨"connected", .null⟩
    let closed : Event := ⟨"closed", .null⟩
    let message : Decoded := ⟨1, 1, 0, .statusText ⟨4, "low battery"⟩⟩
    let begun := fresh.run [.subscribe]
    let later : List Step :=
      [.subscribe, .notify connected, .drain 0, .drop 1, .fold 3 message 5, .notify closed]
    let final := begun.run later
    (∃ subscriber, final.hub.subscriber? 0 = some subscriber ∧
      taken 0 begun later ++ subscriber.queue = [connected, closed]) ∧
    final.hub.subscriber? 1 = none ∧
    emittedBy 2 final (folding 2 message 7 [.drop 0] [.subscribe] [.tell 3] ++ [.tell 2]) = [] ∧
    emittedBy 2 final (folding 2 message 7 [] [.drop 0] [.tell 3] ++ [.tell 2]) =
      [⟨"telemetry", lowBatteryPayload⟩] := by
  intro connected closed message begun later final
  have general := each_hears_what_is_told (.subscribe :: later)
  have nobody :
      ¬ ∃ number, IsOpen (.subscribe :: later ++ [.fold 2 message 7, .drop 0]) number := by
    rw [← listens_iff]
    exact Bool.false_ne_true
  have someone : IsOpen (.subscribe :: later ++ [.fold 2 message 7]) 0 := by
    refine ⟨[], later ++ [.fold 2 message 7], rfl, rfl, ?_⟩
    simp [later]
  have payload : { ({} : Telemetry) with
      messages := [⟨"WARNING", "low battery", 7⟩], lastUpdate := 7 : Telemetry }.toJson =
        lowBatteryPayload := rfl
  refine ⟨(general.2.1 [] later rfl).1 (by simp [later, subscriptions]), ?_, ?_, ?_⟩
  · exact ((general.2.1 [.subscribe] _ rfl).2 [.notify connected, .drain 0] _ rfl).1
  · exact (general.2.2 2 message 7 [.drop 0] [.subscribe] [.tell 3]
      ⟨by simp [Step.reader?], by simp [Step.reader?], by simp [Step.reader?]⟩ rfl).2.1
        (.inr nobody)
  · rw [← payload]
    exact ((general.2.2 2 message 7 [] [.drop 0] [.tell 3]
      ⟨by simp, by simp [Step.reader?], by simp [Step.reader?]⟩ rfl).1 rfl ⟨0, someone⟩).1

end SharedFeeds

end MavBridge
