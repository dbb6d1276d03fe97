import MavBridge.Param.Batch
import Mathlib.Data.List.Nodup

/-!
# What a batch reports

The entries of a batch run one after the other, and each outcome goes into the map of its kind.
`Maps` says what a map has by then: under each name the last of its outcomes that is of that kind.
So every name is in a map, and one whose outcomes are of both kinds is in both.
-/

namespace MavBridge

namespace BatchReport

variable {α β : Type}

/-! ## Putting into a map -/

theorem lookup_cons_eq (key name : String) (value : β) (entries : List (String × β)) :
    ((key, value) :: entries).lookup name =
      if name = key then some value else entries.lookup name := by
  by_cases same : name = key
  · simp [same]
  · simp [List.lookup_cons, same, beq_eq_false_iff_ne.mpr same]

theorem lookup_put (key name : String) (value : β) (entries : List (String × β)) :
    (put key value entries).lookup name =
      if name = key then some value else entries.lookup name := by
  induction entries with
  | nil => exact lookup_cons_eq key name value []
  | cons entry rest inductionHypothesis =>
      obtain ⟨first, other⟩ := entry
      by_cases taken : first = key
      · subst taken
        rw [put, if_pos rfl, lookup_cons_eq, lookup_cons_eq]
        split <;> rfl
      · rw [put, if_neg taken, lookup_cons_eq, lookup_cons_eq, inductionHypothesis]
        by_cases ours : name = first
        · simp [ours, taken]
        · simp [ours]

theorem mem_names_put (key name : String) (value : β) (entries : List (String × β)) :
    name ∈ (put key value entries).map (·.1) ↔ name = key ∨ name ∈ entries.map (·.1) := by
  induction entries with
  | nil => simp [put]
  | cons entry rest inductionHypothesis =>
      by_cases taken : entry.1 = key
      · simp [put, taken]
      · rw [put, if_neg taken, List.map_cons, List.map_cons, List.mem_cons, List.mem_cons,
          inductionHypothesis, or_left_comm]

theorem nodup_put {entries : List (String × β)} (distinct : (entries.map (·.1)).Nodup)
    (key : String) (value : β) : ((put key value entries).map (·.1)).Nodup := by
  induction entries with
  | nil => exact List.nodup_singleton key
  | cons entry rest inductionHypothesis =>
      rw [List.map_cons, List.nodup_cons] at distinct
      by_cases taken : entry.1 = key
      · rw [put, if_pos taken, List.map_cons, List.nodup_cons, ← taken]
        exact distinct
      · rw [put, if_neg taken, List.map_cons, List.nodup_cons, mem_names_put, not_or]
        exact ⟨⟨taken, distinct.1⟩, inductionHypothesis distinct.2⟩

theorem mem_names_iff_lookup {entries : List (String × β)} {name : String} :
    name ∈ entries.map (·.1) ↔ (entries.lookup name).isSome = true := by
  induction entries with
  | nil => simp
  | cons entry rest inductionHypothesis =>
      obtain ⟨first, value⟩ := entry
      rw [List.map_cons, List.mem_cons, inductionHypothesis, lookup_cons_eq]
      split
      next ours => simp [ours]
      next others => simp [others]

/-! ## What a map has -/

/-- The last of what is picked of the outcomes under a name. -/
def last? (pick : Except Fault α → Option β) (name : String)
    (outcomes : List (String × Except Fault α)) : Option β :=
  (outcomes.filterMap fun entry => if entry.1 = name then pick entry.2 else none).getLast?

theorem last?_concat (pick : Except Fault α → Option β) (name key : String)
    (outcomes : List (String × Except Fault α)) (outcome : Except Fault α) :
    last? pick name (outcomes ++ [(key, outcome)]) =
      (if key = name then pick outcome else none).or (last? pick name outcomes) := by
  rw [last?, List.filterMap_append, List.getLast?_append]
  dsimp only [List.filterMap_cons, List.filterMap_nil]
  cases (if key = name then pick outcome else none) <;> rfl

section Picking

variable {pick : Except Fault α → Option β} {outcomes : List (String × Except Fault α)}

theorem isSome_last?_iff {name : String} :
    (last? pick name outcomes).isSome = true ↔
      ∃ outcome, (name, outcome) ∈ outcomes ∧ (pick outcome).isSome = true := by
  rw [last?, List.getLast?_isSome]
  constructor
  · intro nonempty
    obtain ⟨value, membership⟩ := List.exists_mem_of_ne_nil _ nonempty
    obtain ⟨⟨key, outcome⟩, among, picked⟩ := List.mem_filterMap.mp membership
    dsimp only at picked
    split at picked
    next ours =>
      subst ours
      exact ⟨outcome, among, Option.isSome_iff_exists.mpr ⟨value, picked⟩⟩
    next others => cases picked
  · rintro ⟨outcome, among, picked⟩
    obtain ⟨value, picked⟩ := Option.isSome_iff_exists.mp picked
    have chosen : value ∈ outcomes.filterMap fun entry =>
        if entry.1 = name then pick entry.2 else none :=
      List.mem_filterMap.mpr ⟨(name, outcome), among, (if_pos rfl).trans picked⟩
    exact List.ne_nil_of_mem chosen

/-- A map that has, under each name, the last of what is picked of its outcomes. -/
structure Maps (entries : List (String × β)) (pick : Except Fault α → Option β)
    (outcomes : List (String × Except Fault α)) : Prop where
  distinct : (entries.map (·.1)).Nodup
  lookup : ∀ name, entries.lookup name = last? pick name outcomes

variable {entries : List (String × β)} (maps : Maps entries pick outcomes)

include maps

theorem Maps.mem_iff (name : String) :
    name ∈ entries.map (·.1) ↔
      ∃ outcome, (name, outcome) ∈ outcomes ∧ (pick outcome).isSome = true := by
  rw [mem_names_iff_lookup, maps.lookup, isSome_last?_iff]

theorem Maps.skip (name : String) {outcome : Except Fault α} (unpicked : pick outcome = none) :
    Maps entries pick (outcomes ++ [(name, outcome)]) := by
  refine ⟨maps.distinct, ?_⟩
  intro wanted
  rw [last?_concat, unpicked, ite_self, Option.none_or]
  exact maps.lookup wanted

theorem Maps.put (name : String) {outcome : Except Fault α} {value : β}
    (picked : pick outcome = some value) :
    Maps (put name value entries) pick (outcomes ++ [(name, outcome)]) := by
  refine ⟨nodup_put maps.distinct name value, ?_⟩
  intro wanted
  rw [lookup_put, last?_concat, picked, maps.lookup]
  by_cases ours : wanted = name
  · simp [ours]
  · simp [ours, Ne.symm ours]

end Picking

/-! ## What a report has -/

/-- The text of a failure. -/
def message? : Except Fault α → Option String
  | .ok _ => none
  | .error fault => some fault.message

/-- A report of some outcomes: the last value and the last error under each name. -/
structure Reports (report : BatchReport α) (outcomes : List (String × Except Fault α)) : Prop where
  values : Maps report.values Except.toOption outcomes
  errors : Maps report.errors message? outcomes
  success : report.success = true ↔ report.errors = []

theorem reports_empty : Reports ({} : BatchReport α) [] :=
  ⟨⟨List.nodup_nil, fun _ => rfl⟩, ⟨List.nodup_nil, fun _ => rfl⟩, by simp⟩

theorem put_ne_nil (key : String) (value : β) (entries : List (String × β)) :
    put key value entries ≠ [] := by
  have among : key ∈ (put key value entries).map (·.1) :=
    (mem_names_put key key value entries).mpr (.inl rfl)
  rintro empty
  simp [empty] at among

theorem Reports.record {report : BatchReport α} {outcomes : List (String × Except Fault α)}
    (reports : Reports report outcomes) (name : String) (outcome : Except Fault α) :
    Reports (report.record name outcome) (outcomes ++ [(name, outcome)]) := by
  cases outcome with
  | ok value => exact ⟨reports.values.put name rfl, reports.errors.skip name rfl, reports.success⟩
  | error fault =>
      refine ⟨reports.values.skip name rfl, reports.errors.put name rfl, ?_⟩
      exact iff_of_false Bool.false_ne_true (put_ne_nil name fault.message report.errors)

section Collecting

variable {σ ε : Type} (name : ε → String) (run : ε → σ → Except Fault α × σ)

/-- The outcomes of entries that run in order, each under its name. -/
def outcomes : List ε → σ → List (String × Except Fault α)
  | [], _ => []
  | entry :: rest, s => (name entry, (run entry s).1) :: outcomes rest (run entry s).2

theorem map_outcomes (entries : List ε) (s : σ) :
    (outcomes name run entries s).map (·.1) = entries.map name := by
  induction entries generalizing s with
  | nil => rfl
  | cons entry rest inductionHypothesis =>
      rw [outcomes, List.map_cons, List.map_cons, inductionHypothesis]

theorem Reports.collect {report : BatchReport α} {before : List (String × Except Fault α)}
    (reports : Reports report before) (entries : List ε) (s : σ) :
    Reports (collect name run entries report s).1 (before ++ outcomes name run entries s) := by
  -- On the entries, for a report of whatever came before them.
  induction entries generalizing report before s with
  | nil => simpa [outcomes, BatchReport.collect] using reports
  | cons entry rest inductionHypothesis =>
      have recorded := reports.record (name entry) (run entry s).1
      rw [outcomes, List.append_cons]
      exact inductionHypothesis recorded (run entry s).2

theorem reports_collect (entries : List ε) (s : σ) :
    Reports (collect name run entries {} s).1 (outcomes name run entries s) :=
  reports_empty.collect name run entries s

end Collecting

/-! ## Names and maps -/

/-- How a report accounts for the names that were asked for, given what came of each. -/
structure Accounts (report : BatchReport α) (asked : List String)
    (outcomes : List (String × Except Fault α)) : Prop where
  asked_eq : outcomes.map (·.1) = asked
  reports : Reports report outcomes
  /-- The names of the two maps are those that were asked for. -/
  covered : ∀ name, name ∈ report.values.map (·.1) ∨ name ∈ report.errors.map (·.1) ↔ name ∈ asked
  /-- A name is in both maps if it was asked for more than once, with success and without. -/
  both_iff : ∀ name, name ∈ report.values.map (·.1) ∧ name ∈ report.errors.map (·.1) ↔
    (∃ value, (name, .ok value) ∈ outcomes) ∧ ∃ fault, (name, .error fault) ∈ outcomes
  disjoint_of_nodup : asked.Nodup → (report.values.map (·.1)).Disjoint (report.errors.map (·.1))

section Reporting

variable {report : BatchReport α} {outcomes : List (String × Except Fault α)}
  (reports : Reports report outcomes)

include reports

theorem Reports.mem_values_iff (name : String) :
    name ∈ report.values.map (·.1) ↔ ∃ value, (name, .ok value) ∈ outcomes := by
  rw [reports.values.mem_iff]
  constructor
  · rintro ⟨outcome, among, picked⟩
    cases outcome with
    | ok value => exact ⟨value, among⟩
    | error fault => cases picked
  · rintro ⟨value, among⟩
    exact ⟨.ok value, among, rfl⟩

theorem Reports.mem_errors_iff (name : String) :
    name ∈ report.errors.map (·.1) ↔ ∃ fault, (name, .error fault) ∈ outcomes := by
  rw [reports.errors.mem_iff]
  constructor
  · rintro ⟨outcome, among, picked⟩
    cases outcome with
    | ok value => cases picked
    | error fault => exact ⟨fault, among⟩
  · rintro ⟨fault, among⟩
    exact ⟨.error fault, among, rfl⟩

theorem Reports.accounts {asked : List String} (asked_eq : outcomes.map (·.1) = asked) :
    Accounts report asked outcomes := by
  refine ⟨asked_eq, reports, ?_, ?_, ?_⟩
  · intro name
    rw [reports.mem_values_iff, reports.mem_errors_iff, ← asked_eq, List.mem_map]
    constructor
    · rintro (⟨value, among⟩ | ⟨fault, among⟩)
      · exact ⟨_, among, rfl⟩
      · exact ⟨_, among, rfl⟩
    · rintro ⟨⟨asked, outcome⟩, among, rfl⟩
      cases outcome with
      | ok value => exact .inl ⟨value, among⟩
      | error fault => exact .inr ⟨fault, among⟩
  · intro name
    rw [reports.mem_values_iff, reports.mem_errors_iff]
  · -- With distinct names there is one outcome under each, which is of one kind.
    intro distinct name succeeded failed
    obtain ⟨value, first⟩ := (reports.mem_values_iff name).mp succeeded
    obtain ⟨fault, second⟩ := (reports.mem_errors_iff name).mp failed
    rw [← asked_eq] at distinct
    cases List.inj_on_of_nodup_map distinct first second rfl

end Reporting

end BatchReport

namespace Surroundings

open BatchReport (outcomes Accounts)

/-- Whatever comes of the entries of a batch, to read or to write, in whatever order and however
often a name is among them: the names of the two maps are those that were asked for, the batch
succeeded exactly if it has no errors, and the maps share exactly the names that came out both ways,
so none if each name is asked for once. -/
theorem batch_accounts {σ : Type} (around : Surroundings σ) (target : Identity) (s : σ) :
    (∀ names : List String,
      Accounts (around.readBatch target names s).1 names
        (outcomes id (fun name => around.read target name) names s)) ∧
      ∀ entries : List ParamAssignment,
        Accounts (around.writeBatch target entries s).1 (entries.map (·.name))
          (outcomes (·.name) (fun entry => around.write target entry.name entry.value entry.type)
            entries s) := by
  constructor
  · intro names
    refine (BatchReport.reports_collect id _ names s).accounts ?_
    rw [BatchReport.map_outcomes, List.map_id]
  · intro entries
    refine (BatchReport.reports_collect _ _ entries s).accounts ?_
    exact BatchReport.map_outcomes _ _ entries s

/-! ## A name in both maps -/

/-- Surroundings with a script: the report that comes in each wait, if one does. -/
def scripted : Surroundings (Exchange × List (Option ParamReport)) where
  exchange s := s.1
  put exchange s := (exchange, s.2)
  send _ s := (.ok (), s)
  wait
    | (exchange, some report :: script) => ((exchange.resolve report).2, script)
    | (exchange, none :: script) => (exchange, script)
    | s => s

/-- The first request for a name is not answered, and the second one is. -/
def secondAnswer : List (Option ParamReport) := [none, some ⟨"A", ⟨0x3F800000⟩, 9, 1, 0⟩]

theorem batch_in_both_maps :
    let report := (scripted.readBatch ⟨1, 1⟩ ["A", "A"] (.empty, secondAnswer)).1
    report.success = false ∧ "A" ∈ report.values.map (·.1) ∧ "A" ∈ report.errors.map (·.1) := by
  decide +kernel

theorem batch_accounts_secondAnswer :
    let report := (scripted.readBatch ⟨1, 1⟩ ["B", "A"] (.empty, secondAnswer)).1
    ["B", "A"].Nodup ∧ (report.values.map (·.1)).Disjoint (report.errors.map (·.1)) ∧
      report.values.map (·.1) = ["A"] ∧ report.errors.map (·.1) = ["B"] := by
  intro report
  have distinct : ["B", "A"].Nodup := by decide
  have accounts := (batch_accounts scripted ⟨1, 1⟩ (.empty, secondAnswer)).1 ["B", "A"]
  exact ⟨distinct, accounts.disjoint_of_nodup distinct, by decide +kernel, by decide +kernel⟩

end Surroundings

end MavBridge
