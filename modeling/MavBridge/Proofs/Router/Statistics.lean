import MavBridge.Proofs.Router.Deliveries

/-!
# The counts of outputs over whole runs

Every channel is sent the frames that are forwarded while it is registered and runs.  The counts
that are shown of an output are those of what its channels, whichever they were, have been sent
since it was added or restored.
-/

namespace MavBridge

namespace OutputStats

/-- Count some deliveries, one after the other. -/
def recordAll (stats : OutputStats) (deliveries : List Delivery) : OutputStats :=
  deliveries.foldl (fun stats delivery => stats.recordSend delivery.outcome) stats

/-- What is counted is how many deliveries reached somebody, and how many failed. -/
theorem recordAll_counts (stats : OutputStats) (deliveries : List Delivery) :
    (stats.recordAll deliveries).tx = stats.tx + deliveries.countP (·.hasReached) ∧
      (stats.recordAll deliveries).errors = stats.errors + deliveries.countP (·.hasFailed) := by
  induction deliveries generalizing stats with
  | nil => exact ⟨rfl, rfl⟩
  | cons delivery rest inductionHypothesis =>
      obtain ⟨reached, failed⟩ := inductionHypothesis (stats.recordSend delivery.outcome)
      have parted : stats.recordAll (delivery :: rest) =
          (stats.recordSend delivery.outcome).recordAll rest := rfl
      rw [parted, reached, failed, List.countP_cons, List.countP_cons]
      unfold recordSend Delivery.hasReached Delivery.hasFailed
      cases outcome : delivery.outcome with
      | error fault => exact ⟨by simp, by simp [Except.isOk, Except.toBool]; omega⟩
      | ok reached =>
          by_cases nobody : reached = 0
          · simp [nobody, Except.isOk, Except.toBool]
          · exact ⟨by simp [nobody]; omega, by simp [nobody, Except.isOk, Except.toBool]⟩

end OutputStats

namespace Registry

variable {ω χ : Type}

/-! ## One frame -/

/-- What becomes of entries that a frame is sent to: the ones that run are sent it, each once and in
order, and count what comes of it. -/
inductive Served (outlets : Outlets ω χ) (tag : χ → ChannelTag) (frame : Bytes) :
    List (RouterEntry χ) → List Delivery → List (RouterEntry χ) → Prop where
  | nil : Served outlets tag frame [] [] []
  | sent {entry : RouterEntry χ} {rest after : List (RouterEntry χ)} {deliveries : List Delivery}
      {channel : χ} {outcome : Except Fault Nat} :
      outlets.isRunning entry.channel = true → tag channel = tag entry.channel →
      Served outlets tag frame rest deliveries after →
      Served outlets tag frame (entry :: rest) (⟨tag entry.channel, frame, outcome⟩ :: deliveries)
        ({ entry with channel, stats := entry.stats.recordSend outcome } :: after)
  | skipped {entry : RouterEntry χ} {rest after : List (RouterEntry χ)}
      {deliveries : List Delivery} :
      outlets.isRunning entry.channel = false → Served outlets tag frame rest deliveries after →
      Served outlets tag frame (entry :: rest) deliveries (entry :: after)

variable {outlets : Outlets ω χ} {tag : χ → ChannelTag} {journal : ω → Journal} {frame : Bytes}
  {entries after : List (RouterEntry χ)} {deliveries : List Delivery}

theorem served_sendEntries (journaled : outlets.Journaled tag journal) (frame : Bytes)
    (entries : List (RouterEntry χ)) (world : ω) :
    ∃ deliveries,
      Served outlets tag frame entries deliveries
        (Router.sendEntries outlets frame entries world).1 ∧
      (journal (Router.sendEntries outlets frame entries world).2).sent =
        (journal world).sent ++ deliveries := by
  induction entries generalizing world with
  | nil => exact ⟨[], .nil, by simp [Router.sendEntries]⟩
  | cons entry rest inductionHypothesis =>
      unfold Router.sendEntries
      split
      next running =>
        obtain ⟨same, logged⟩ := journaled.send frame entry.channel world
        obtain ⟨deliveries, served, loggedAfter⟩ :=
          inductionHypothesis (outlets.send frame entry.channel world).2.2
        refine ⟨_, .sent running same served, ?_⟩
        rw [logged] at loggedAfter
        simpa using loggedAfter
      next idle =>
        obtain ⟨deliveries, served, logged⟩ := inductionHypothesis world
        exact ⟨deliveries, .skipped (by simpa using idle) served, logged⟩

namespace Served

theorem sameTags (served : Served outlets tag frame entries deliveries after) :
    (after.map fun entry => (entry.config, tag entry.channel)) =
      entries.map fun entry => (entry.config, tag entry.channel) := by
  induction served with
  | nil => rfl
  | sent running same rest inductionHypothesis => simp [same, inductionHypothesis]
  | skipped idle rest inductionHypothesis => simp [inductionHypothesis]

theorem addressed (served : Served outlets tag frame entries deliveries after) :
    ∀ delivery ∈ deliveries, ∃ entry ∈ entries, delivery.channel = tag entry.channel := by
  induction served with
  | nil => simp
  | sent running same rest inductionHypothesis =>
      intro delivery membership
      rcases List.mem_cons.mp membership with rfl | later
      · exact ⟨_, List.mem_cons_self, rfl⟩
      · obtain ⟨entry, entryMembership, addressed⟩ := inductionHypothesis delivery later
        exact ⟨entry, List.mem_cons_of_mem _ entryMembership, addressed⟩
  | skipped idle rest inductionHypothesis =>
      intro delivery membership
      obtain ⟨entry, entryMembership, addressed⟩ := inductionHypothesis delivery membership
      exact ⟨entry, List.mem_cons_of_mem _ entryMembership, addressed⟩

/-- Nothing goes to an output that is not among the entries. -/
theorem unaddressed (served : Served outlets tag frame entries deliveries after)
    (named : ∀ entry ∈ entries, (tag entry.channel).output = entry.config.id) {id : String}
    (missing : id ∉ entries.map (·.config.id)) :
    ∀ delivery ∈ deliveries, delivery.channel.output ≠ id := by
  intro delivery membership mine
  obtain ⟨entry, entryMembership, addressed⟩ := served.addressed delivery membership
  have same : entry.config.id = id := by rw [← named entry entryMembership, ← addressed, mine]
  exact missing (same ▸ List.mem_map_of_mem entryMembership)

theorem filter_eq_nil (served : Served outlets tag frame entries deliveries after)
    (named : ∀ entry ∈ entries, (tag entry.channel).output = entry.config.id) {id : String}
    (missing : id ∉ entries.map (·.config.id)) :
    deliveries.filter (fun delivery => delivery.channel.output = id) = [] := by
  refine List.filter_eq_nil_iff.mpr ?_
  intro delivery membership mine
  exact served.unaddressed named missing delivery membership (of_decide_eq_true mine)

/-- A channel is sent the frame once if it is registered and runs, and not otherwise. -/
theorem due (served : Served outlets tag frame entries deliveries after)
    (distinct : (entries.map (·.config.id)).Nodup)
    (named : ∀ entry ∈ entries, (tag entry.channel).output = entry.config.id)
    (channel : ChannelTag) :
    (deliveries.filter (·.channel = channel)).map (·.frame) =
      if entries.any fun entry => outlets.isRunning entry.channel && tag entry.channel = channel
      then [frame] else [] := by
  induction served with
  | nil => rfl
  | @sent entry rest after deliveries started outcome running same others inductionHypothesis =>
      rw [List.map_cons, List.nodup_cons] at distinct
      rw [List.forall_mem_cons] at named
      by_cases mine : tag entry.channel = channel
      · have noMore : deliveries.filter (·.channel = channel) = [] := by
          refine List.filter_eq_nil_iff.mpr ?_
          intro delivery membership again
          have theirs := others.unaddressed named.2 distinct.1 delivery membership
          rw [of_decide_eq_true again, ← mine] at theirs
          exact theirs named.1
        simp [mine, running, noMore]
      · simpa [mine] using inductionHypothesis distinct.2 named.2
  | @skipped entry rest after deliveries idle others inductionHypothesis =>
      rw [List.map_cons, List.nodup_cons] at distinct
      rw [List.forall_mem_cons] at named
      simpa [idle] using inductionHypothesis distinct.2 named.2

/-- An output counts what has become of the frame if it was sent it, and nothing otherwise. -/
theorem counted (served : Served outlets tag frame entries deliveries after)
    (distinct : (entries.map (·.config.id)).Nodup)
    (named : ∀ entry ∈ entries, (tag entry.channel).output = entry.config.id) (id : String) :
    (after.find? (·.config.id == id)).map (·.stats) =
      ((entries.find? (·.config.id == id)).map (·.stats)).map
        (·.recordAll (deliveries.filter fun delivery => delivery.channel.output = id)) := by
  induction served with
  | nil => rfl
  | @sent entry rest after deliveries started outcome running same others inductionHypothesis =>
      rw [List.map_cons, List.nodup_cons] at distinct
      rw [List.forall_mem_cons] at named
      by_cases mine : entry.config.id = id
      · have noMore := others.filter_eq_nil named.2 (mine ▸ distinct.1)
        simp [mine, named.1, noMore, OutputStats.recordAll]
      · simpa [mine, named.1] using inductionHypothesis distinct.2 named.2
  | @skipped entry rest after deliveries idle others inductionHypothesis =>
      rw [List.map_cons, List.nodup_cons] at distinct
      rw [List.forall_mem_cons] at named
      by_cases mine : entry.config.id = id
      · have unsent := others.filter_eq_nil named.2 (mine ▸ distinct.1)
        simp [mine, unsent, OutputStats.recordAll]
      · simpa [mine] using inductionHypothesis distinct.2 named.2

end Served

/-! ## Episodes -/

namespace Episode

/-- The frame that is due to a channel: one that is forwarded while it is registered and runs. -/
def due (outlets : Outlets ω χ) (tag : χ → ChannelTag) (channel : ChannelTag)
    (episode : Episode χ) : Option Bytes :=
  match episode.operation with
  | .forward frame =>
      if episode.before.entries.any fun entry =>
        outlets.isRunning entry.channel && tag entry.channel = channel
      then some frame else none
  | _ => none

def sentTo (id : String) (episode : Episode χ) : List Delivery :=
  episode.sent.filter fun delivery => delivery.channel.output = id

end Episode

/-- What an output has been sent since it was last added or restored. -/
def sentSince (id : String) (past : List (Episode χ)) : List Delivery :=
  past.foldl (fun sent episode =>
    if episode.registers id then episode.sentTo id else sent ++ episode.sentTo id) []

theorem sentSince_concat (id : String) (past : List (Episode χ)) (episode : Episode χ) :
    sentSince id (past ++ [episode]) =
      if episode.registers id then episode.sentTo id
      else sentSince id past ++ episode.sentTo id := by
  simp [sentSince]

section Lives

variable (outlets : Outlets ω χ) (tag : χ → ChannelTag) (journal : ω → Journal)

/-- The same outputs with the same channels and counts of what was sent, and nothing sent.  Channels
may start and stop by themselves, and chunks may come in. -/
structure Drifts (router : Router χ) (world : ω) (after : Router χ) (afterWorld : ω) : Prop where
  entries : (after.entries.map fun entry =>
      (entry.config, tag entry.channel, entry.stats.tx, entry.stats.errors)) =
    router.entries.map fun entry =>
      (entry.config, tag entry.channel, entry.stats.tx, entry.stats.errors)
  unsent : (journal afterWorld).sent = (journal world).sent

/-- What a router comes to that starts without outputs, and the operations on the way.  Between them
channels do what they do by themselves, and changes are told. -/
inductive Lived (start : ω) : List (Episode χ) → Router χ → ω → Prop where
  | initial : Lived start [] Router.empty start
  | perform {past : List (Episode χ)} {router : Router χ} {world : ω} (operation : Operation) :
      Lived start past router world →
      Lived start (past ++ [.of outlets journal operation router world])
        (operation.perform outlets router world).2.1 (operation.perform outlets router world).2.2
  | drift {past : List (Episode χ)} {router after : Router χ} {world afterWorld : ω} :
      Lived start past router world → Drifts tag journal router world after afterWorld →
      Lived start past after afterWorld

end Lives

variable {past : List (Episode χ)} {router : Router χ} {world start : ω}

/-- Telling of a change, and a chunk that comes in, are of that kind. -/
theorem drifts_announce (journaled : outlets.Journaled tag journal) (router : Router χ)
    (world : ω) : Drifts tag journal router world router (router.announce outlets world) :=
  ⟨rfl, congrArg Journal.sent (journaled.announce _ _)⟩

theorem drifts_receive (tag : χ → ChannelTag) (journal : ω → Journal) (router : Router χ)
    (id : String) (world : ω) :
    Drifts tag journal router world (router.receive id) world := by
  refine ⟨?_, rfl⟩
  simp only [Router.receive, Router.alter, List.map_map]
  refine List.map_congr_left ?_
  intro entry membership
  by_cases mine : entry.config.id = id
  · simp [mine, OutputStats.recordReceived]
  · simp [mine]

/-! ## One episode -/

/-- What an episode does to channels and counts. -/
structure Explained (outlets : Outlets ω χ) (tag : χ → ChannelTag) (episode : Episode χ) :
    Prop where
  marked : Marked tag episode.after
  due : ∀ channel, (episode.sent.filter (·.channel = channel)).map (·.frame) =
    (episode.due outlets tag channel).toList
  carried : (∀ frame, episode.operation ≠ .forward frame) →
    episode.sent = [] ∧ ∀ id, episode.Carries id
  counted : ∀ id stats, episode.after.stats? id = some stats →
    if episode.registers id then stats = {} ∧ episode.sentTo id = []
    else ∃ old, episode.before.stats? id = some old ∧ stats = old.recordAll (episode.sentTo id)

/-- The journal grows by what is sent in an episode. -/
theorem sent_of (operation : Operation) {deliveries : List Delivery}
    (logged : (journal (operation.perform outlets router world).2.2).sent =
      (journal world).sent ++ deliveries) :
    (Episode.of outlets journal operation router world).sent = deliveries := by
  simp [Episode.of, logged]

theorem Episode.due_of_unforwarded {episode : Episode χ}
    (unforwarded : ∀ frame, episode.operation ≠ .forward frame) (channel : ChannelTag) :
    episode.due outlets tag channel = none := by
  unfold Episode.due
  split
  next frame forwarded => exact absurd forwarded (unforwarded frame)
  next => rfl

theorem explained_of_unforwarded (journaled : outlets.Journaled tag journal)
    (marked : Marked tag router) {operation : Operation}
    (unforwarded : ∀ frame, operation ≠ .forward frame) (world : ω) :
    Explained outlets tag (.of outlets journal operation router world) ∧
      (journal (operation.perform outlets router world).2.2).sent = (journal world).sent := by
  obtain ⟨stillMarked, unsent, carries⟩ := perform_unsent journaled marked unforwarded world
  have nothing : (Episode.of outlets journal operation router world).sent = [] :=
    sent_of operation (by simpa using unsent)
  have noneTo (id : String) :
      (Episode.of outlets journal operation router world).sentTo id = [] := by
    simp [Episode.sentTo, nothing]
  refine ⟨⟨stillMarked, ?_, fun _ => ⟨nothing, carries⟩, ?_⟩, unsent⟩
  · intro channel
    rw [nothing, Episode.due_of_unforwarded unforwarded channel]
    rfl
  · intro id stats shown
    have carried := carries id
    unfold Episode.Carries at carried
    rw [noneTo]
    split at carried
    next registered =>
      rw [carried.2] at shown
      cases shown
      simp [registered]
    next unregistered =>
      rw [if_neg unregistered]
      rcases carried with kept | ⟨gone, -⟩
      · exact ⟨stats, kept ▸ shown, rfl⟩
      · rw [gone] at shown
        cases shown

theorem explained_forward (journaled : outlets.Journaled tag journal)
    (marked : Marked tag router) (frame : Bytes) (world : ω) :
    Explained outlets tag (.of outlets journal (.forward frame) router world) ∧
      ∃ deliveries, (journal (Operation.perform outlets (.forward frame) router world).2.2).sent =
        (journal world).sent ++ deliveries := by
  obtain ⟨deliveries, served, logged⟩ :=
    served_sendEntries journaled frame router.entries world
  have sent : (Episode.of outlets journal (.forward frame) router world).sent = deliveries :=
    sent_of (.forward frame) logged
  have distinct : (router.entries.map (·.config.id)).Nodup := by
    simpa [Router.configs, Function.comp_def] using marked.distinct
  refine ⟨⟨marked.of_entries served.sameTags, ?_, ?_, ?_⟩, deliveries, logged⟩
  · intro channel
    rw [sent, served.due distinct marked.named channel]
    have due : (Episode.of outlets journal (.forward frame) router world).due outlets tag channel =
        if router.entries.any fun entry =>
          outlets.isRunning entry.channel && tag entry.channel = channel
        then some frame else none := rfl
    rw [due]
    split <;> rfl
  · intro unforwarded
    exact absurd rfl (unforwarded frame)
  · intro id stats shown
    have counted := served.counted distinct marked.named id
    rw [← sent] at counted
    obtain ⟨old, before, recorded⟩ := Option.map_eq_some_iff.mp (counted.symm.trans shown)
    exact ⟨old, before, recorded.symm⟩

/-! ## Runs -/

theorem Drifts.stats?_eq_some {after : Router χ} {afterWorld : ω}
    (drifts : Drifts tag journal router world after afterWorld) {id : String}
    {stats : OutputStats} (shown : after.stats? id = some stats) :
    ∃ old, router.stats? id = some old ∧ old.tx = stats.tx ∧ old.errors = stats.errors := by
  have counts (some : Router χ) : (some.stats? id).map (fun stats => (stats.tx, stats.errors)) =
      ((some.entries.map fun entry =>
        (entry.config, tag entry.channel, entry.stats.tx, entry.stats.errors)).find?
          (·.1.id == id)).map (·.2.2) := by
    rw [List.find?_map, Option.map_map]
    unfold Router.stats? Router.find?
    rw [Option.map_map]
    rfl
  have same := (counts after).trans ((congrArg _ (congrArg _ drifts.entries)).trans
    (counts router).symm)
  rw [shown] at same
  obtain ⟨old, before, counted⟩ := Option.map_eq_some_iff.mp same.symm
  obtain ⟨reached, failed⟩ := Prod.mk.inj counted
  exact ⟨old, before, reached, failed⟩

/-- Where each episode sends a channel what it is due, all of them together do. -/
theorem frames_of_due (channel : ChannelTag)
    (due : ∀ episode ∈ past, (episode.sent.filter (·.channel = channel)).map (·.frame) =
      (episode.due outlets tag channel).toList) :
    ((past.flatMap (·.sent)).filter (·.channel = channel)).map (·.frame) =
      past.filterMap (·.due outlets tag channel) := by
  induction past with
  | nil => rfl
  | cons episode rest inductionHypothesis =>
      rw [List.forall_mem_cons] at due
      rw [List.flatMap_cons, List.filter_append, List.map_append, due.1,
        inductionHypothesis due.2]
      cases isDue : episode.due outlets tag channel <;> simp [isDue]

/-- The registry and the journal agree with what has happened. -/
structure Agrees (outlets : Outlets ω χ) (tag : χ → ChannelTag) (journal : ω → Journal)
    (past : List (Episode χ)) (router : Router χ) (world : ω) : Prop where
  marked : Marked tag router
  logged : (journal world).sent = past.flatMap (·.sent)
  due : ∀ episode ∈ past, ∀ channel,
    (episode.sent.filter (·.channel = channel)).map (·.frame) =
      (episode.due outlets tag channel).toList
  carried : ∀ episode ∈ past, (∀ frame, episode.operation ≠ .forward frame) →
    episode.sent = [] ∧ ∀ id, episode.Carries id
  counted : ∀ id stats, router.stats? id = some stats →
    stats.tx = (sentSince id past).countP (·.hasReached) ∧
      stats.errors = (sentSince id past).countP (·.hasFailed)

theorem Agrees.perform (journaled : outlets.Journaled tag journal)
    (agrees : Agrees outlets tag journal past router world) (operation : Operation) :
    Agrees outlets tag journal (past ++ [.of outlets journal operation router world])
      (operation.perform outlets router world).2.1
      (operation.perform outlets router world).2.2 := by
  obtain ⟨explained, deliveries, logged⟩ :
      Explained outlets tag (.of outlets journal operation router world) ∧ ∃ deliveries,
        (journal (operation.perform outlets router world).2.2).sent =
          (journal world).sent ++ deliveries := by
    by_cases forwards : ∃ frame, operation = .forward frame
    · obtain ⟨frame, rfl⟩ := forwards
      exact explained_forward journaled agrees.marked frame world
    · rw [not_exists] at forwards
      obtain ⟨explained, unsent⟩ :=
        explained_of_unforwarded journaled agrees.marked forwards world
      exact ⟨explained, [], by simpa using unsent⟩
  constructor
  case marked => exact explained.marked
  case logged =>
    rw [List.flatMap_append, ← agrees.logged, logged, ← sent_of operation logged]
    simp
  case due =>
    rw [List.forall_mem_append]
    exact ⟨agrees.due, by simpa using explained.due⟩
  case carried =>
    rw [List.forall_mem_append]
    exact ⟨agrees.carried, by simpa using explained.carried⟩
  case counted =>
    intro id stats shown
    have counted := explained.counted id stats shown
    rw [sentSince_concat]
    cases registered : (Episode.of outlets journal operation router world).registers id with
    | true =>
        rw [registered, if_pos rfl] at counted
        obtain ⟨rfl, unsent⟩ := counted
        rw [unsent]
        exact ⟨rfl, rfl⟩
    | false =>
        rw [registered, if_neg Bool.false_ne_true] at counted
        obtain ⟨old, before, rfl⟩ := counted
        obtain ⟨reached, failed⟩ := agrees.counted id old before
        obtain ⟨reachedAfter, failedAfter⟩ := old.recordAll_counts
          ((Episode.of outlets journal operation router world).sentTo id)
        rw [if_neg Bool.false_ne_true, List.countP_append, List.countP_append, reachedAfter,
          failedAfter, reached, failed]
        exact ⟨rfl, rfl⟩

theorem Agrees.drift {after : Router χ} {afterWorld : ω}
    (agrees : Agrees outlets tag journal past router world)
    (drifts : Drifts tag journal router world after afterWorld) :
    Agrees outlets tag journal past after afterWorld where
  marked := by
    have same := congrArg (List.map fun row => (row.1, row.2.1)) drifts.entries
    exact agrees.marked.of_entries (by simpa [Function.comp_def] using same)
  logged := drifts.unsent.trans agrees.logged
  due := agrees.due
  carried := agrees.carried
  counted id stats shown := by
    obtain ⟨old, before, reached, failed⟩ := drifts.stats?_eq_some shown
    obtain ⟨reachedBefore, failedBefore⟩ := agrees.counted id old before
    exact ⟨reached.symm.trans reachedBefore, failed.symm.trans failedBefore⟩

namespace Lived

theorem agrees (journaled : outlets.Journaled tag journal) (fresh : (journal start).sent = [])
    (lived : Lived outlets tag journal start past router world) :
    Agrees outlets tag journal past router world := by
  induction lived with
  | initial =>
      constructor
      case marked => exact ⟨List.nodup_nil, by simp [Router.empty]⟩
      case logged => exact fresh
      case due => simp
      case carried => simp
      case counted => simp [Router.stats?, Router.find?, Router.empty]
  | perform operation earlier inductionHypothesis =>
      exact inductionHypothesis.perform journaled operation
  | drift earlier drifts inductionHypothesis => exact inductionHypothesis.drift drifts

/-- An operation with what it tells. -/
theorem whole (journaled : outlets.Journaled tag journal)
    (lived : Lived outlets tag journal start past router world) (operation : Operation) :
    Lived outlets tag journal start (past ++ [.of outlets journal operation router world])
      (operation.whole outlets router world).1 (operation.whole outlets router world).2 := by
  have performed := lived.perform operation
  rcases operation.whole_eq outlets router world with silent | told
  · rw [silent]
    exact performed
  · rw [told]
    exact performed.drift (drifts_announce journaled _ _)

end Lived

/-- Operations one after the other, with what was done before them. -/
def Episode.run (outlets : Outlets ω χ) (journal : ω → Journal) (operations : List Operation)
    (state : List (Episode χ) × Router χ × ω) : List (Episode χ) × Router χ × ω :=
  operations.foldl (fun (past, router, world) operation =>
    (past ++ [.of outlets journal operation router world],
      (operation.perform outlets router world).2)) state

theorem Lived.run {state : List (Episode χ) × Router χ × ω}
    (lived : Lived outlets tag journal start state.1 state.2.1 state.2.2)
    (operations : List Operation) :
    Lived outlets tag journal start (Episode.run outlets journal operations state).1
      (Episode.run outlets journal operations state).2.1
      (Episode.run outlets journal operations state).2.2 := by
  induction operations generalizing state with
  | nil => exact lived
  | cons operation rest inductionHypothesis =>
      exact inductionHypothesis (lived.perform operation)

/-- However operations follow each other, and whatever the sends of each channel come to: a channel
is sent exactly the frames that are forwarded while it is registered and runs, in order and once
each.  The counts that are shown of an output are how many of the sends to it have reached somebody,
and how many have failed, since it was last added or restored.  Nothing but forwarding sends
anything, or changes the counts of an output: they begin at zero when it is added or restored, which
it is only if it is not there, and end when it is removed. -/
theorem sent_and_counted_of_lived (journaled : outlets.Journaled tag journal)
    (fresh : (journal start).sent = [])
    (lived : Lived outlets tag journal start past router world) :
    (∀ channel, ((journal world).sent.filter (·.channel = channel)).map (·.frame) =
      past.filterMap (·.due outlets tag channel)) ∧
    (∀ shown ∈ (router.status outlets).outputs,
      shown.stats.tx = (sentSince shown.config.id past).countP (·.hasReached) ∧
        shown.stats.errors = (sentSince shown.config.id past).countP (·.hasFailed)) ∧
    (journal world).sent = past.flatMap (·.sent) ∧
    ∀ episode ∈ past, (∀ frame, episode.operation ≠ .forward frame) →
      episode.sent = [] ∧ ∀ id, episode.Carries id := by
  have agrees := lived.agrees journaled fresh
  refine ⟨?_, ?_, agrees.logged, agrees.carried⟩
  · intro channel
    rw [agrees.logged]
    exact frames_of_due channel fun episode membership => agrees.due episode membership channel
  · intro shown membership
    obtain ⟨entry, entryMembership, rfl⟩ := List.mem_map.mp membership
    have found := (Router.find?_eq_some_iff agrees.marked.distinct).mpr ⟨entryMembership, rfl⟩
    exact agrees.counted entry.config.id entry.stats (by simp [Router.stats?, found])

/-- One output stays while its channel is replaced; the other fails, and comes back. -/
def trial : List Operation :=
  [.add (.create "east" .udp "peers3" 14550), .add (.create "west" .udp "fail" 14551),
    .forward [1], .update "east" { host := some "empty" }, .forward [2], .remove "west",
    .add (.create "west" .udp "10.0.0.2" 14551), .forward [3], .stop "west", .forward [4]]

def tried : List (Episode (Recorder × ChannelTag)) ×
    Router (Recorder × ChannelTag) × RouterBench × Journal :=
  Episode.run Recorder.outlets.journaled Prod.snd trial ([], Router.empty, {}, {})

theorem sent_and_counted_of_trial :
    (tried.2.2.2.sent.filter (·.channel = ⟨"west", 1⟩)).map (·.frame) = [[1], [2]] ∧
      (tried.2.2.2.sent.filter (·.channel = ⟨"west", 3⟩)).map (·.frame) = [[3]] ∧
      ((tried.2.1.status Recorder.outlets.journaled).outputs.map fun shown =>
        (shown.config.id, shown.stats.tx, shown.stats.errors)) = [("east", 1, 0), ("west", 1, 0)] ∧
      ∀ shown ∈ (tried.2.1.status Recorder.outlets.journaled).outputs,
        shown.stats.tx = (sentSince shown.config.id tried.1).countP (·.hasReached) := by
  have lived : Lived Recorder.outlets.journaled Prod.snd Prod.snd ({}, {}) tried.1 tried.2.1
      tried.2.2 := by
    unfold tried
    exact .run .initial trial
  obtain ⟨sent, counted, -⟩ :=
    sent_and_counted_of_lived Recorder.outlets.journaled_journaled rfl lived
  refine ⟨(sent ⟨"west", 1⟩).trans ?_, (sent ⟨"west", 3⟩).trans ?_, ?_, ?_⟩
  · rfl
  · rfl
  · rfl
  · exact fun shown membership => (counted shown membership).1

end Registry

end MavBridge
