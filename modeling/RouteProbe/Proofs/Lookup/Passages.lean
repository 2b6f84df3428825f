import RouteProbe.Lookup.Introspector
import RouteProbe.Proofs.Results

/-! # Passes up to the first decision

A pass asks the entries of a registry in order, each about the probe as the one before it left it. A
`Passage` is what happens as long as none of them decides. Every pass is a passage through all
entries, or a passage up to an entry that decides (`passage_or_decision`), and what comes of it is
read off there.
-/

namespace RouteProbe

namespace RegisteredRouter

/-- The probe as the router of an entry leaves it. -/
def leave (entry : RegisteredRouter) (probe : Request) : Request :=
  (entry.router.resolve probe).applyTo probe

/-- What the router of an entry answers about a probe. -/
def answer (entry : RegisteredRouter) (probe : Request) : Except RoutingError (Option Chain) :=
  (entry.router.resolve probe).outcome

/-- Whether the next entry is asked: the router has answered with nothing, or it has failed and
failures are ignored. -/
def PassesOver (entry : RegisteredRouter) (ignoring : Bool) (probe : Request) : Prop :=
  entry.answer probe = .ok none ∨ ignoring = true ∧ ∃ error, entry.answer probe = .error error

theorem answer_of_passesOver {entry : RegisteredRouter} {probe : Request}
    (undecided : entry.PassesOver false probe) : entry.answer probe = .ok none := by
  rcases undecided with nothing | ⟨impossible, _⟩
  · exact nothing
  · cases impossible

theorem passesOver_true {entry : RegisteredRouter} {probe : Request}
    (undecided : entry.PassesOver false probe) : entry.PassesOver true probe :=
  .inl (answer_of_passesOver undecided)

/-- An entry is passed over, or it answers with a chain, or it fails and failures count. -/
theorem passesOver_or_decides (entry : RegisteredRouter) (ignoring : Bool)
    (probe : Request) :
    entry.PassesOver ignoring probe ∨ (∃ chain, entry.answer probe = .ok (some chain)) ∨
      ignoring = false ∧ ∃ error, entry.answer probe = .error error := by
  cases answered : entry.answer probe with
  | ok result =>
    cases result with
    | none => exact .inl (.inl answered)
    | some chain => exact .inr (.inl ⟨chain, rfl⟩)
  | error error =>
    cases ignoring with
    | true => exact .inl (.inr ⟨rfl, error, answered⟩)
    | false => exact .inr (.inr ⟨rfl, error, rfl⟩)

end RegisteredRouter

/-- Asking entries in order without any of them deciding, from the first probe to the last. -/
inductive Passage (ignoring : Bool) : Request → List RegisteredRouter → Request → Prop
  | nil (probe : Request) : Passage ignoring probe [] probe
  | cons {probe last : Request} {entry : RegisteredRouter} {rest : List RegisteredRouter}
      (undecided : entry.PassesOver ignoring probe)
      (later : Passage ignoring (entry.leave probe) rest last) :
      Passage ignoring probe (entry :: rest) last

namespace Passage

variable {ignoring : Bool} {probe last : Request} {entries rest : List RegisteredRouter} {α : Type}

/-- What every router keeps true of the probe is true at the end, and whenever an entry is asked. -/
theorem invariant {Holds : Request → Prop} (passage : Passage ignoring probe entries last)
    (kept : ∀ entry ∈ entries, ∀ probe, Holds probe → Holds (entry.leave probe))
    (first : Holds probe) :
    Holds last ∧ ∀ entry ∈ entries, ∃ probe, Holds probe ∧ entry.PassesOver ignoring probe := by
  induction passage with
  | nil => exact ⟨first, by simp⟩
  | @cons probe last entry rest undecided _ ih =>
    have keptLater := fun later member => kept later (List.mem_cons_of_mem entry member)
    obtain ⟨final, passed⟩ := ih keptLater (kept entry List.mem_cons_self probe first)
    refine ⟨final, ?_⟩
    intro asked member
    rcases List.mem_cons.mp member with rfl | later
    · exact ⟨probe, first, undecided⟩
    · exact passed asked later

/-- As long as every router is passed over the passage goes on, and what they all keep true of the
probe is true at the end. -/
theorem exists_of_passesOver {Holds : Request → Prop}
    (passed : ∀ entry ∈ entries, ∀ probe, Holds probe →
      entry.PassesOver ignoring probe ∧ Holds (entry.leave probe)) (first : Holds probe) :
    ∃ last, Passage ignoring probe entries last ∧ Holds last := by
  induction entries generalizing probe with
  | nil => exact ⟨probe, .nil probe, first⟩
  | cons entry rest ih =>
    obtain ⟨undecided, holds⟩ := passed entry List.mem_cons_self probe first
    have passedLater := fun later member => passed later (List.mem_cons_of_mem entry member)
    obtain ⟨last, passage, final⟩ := ih passedLater holds
    exact ⟨last, .cons undecided passage, final⟩

/-- Entries that do not decide leave the decision to those behind them. -/
theorem ask_outcome (passage : Passage ignoring probe entries last) (extract : Pass.Extractor α)
    (rest : List RegisteredRouter) :
    (Pass.ask ignoring extract (entries ++ rest) probe).outcome =
      (Pass.ask ignoring extract rest last).outcome := by
  induction passage with
  | nil => rfl
  | @cons probe last entry entries undecided _ ih =>
    rw [← ih, List.cons_append, Pass.ask]
    rcases undecided with nothing | ⟨rfl, error, failed⟩
    · simp only [RegisteredRouter.answer] at nothing
      simp only [nothing]
      rfl
    · simp only [RegisteredRouter.answer] at failed
      simp only [failed, if_true]
      rfl

end Passage

/-- The entries are all passed over, or one of them decides after a passage up to it. -/
theorem passage_or_decision (ignoring : Bool) (entries : List RegisteredRouter) (probe : Request) :
    (∃ last, Passage ignoring probe entries last) ∨
      ∃ before entry after last, entries = before ++ entry :: after ∧
        Passage ignoring probe before last ∧ ¬ entry.PassesOver ignoring last := by
  induction entries generalizing probe with
  | nil => exact .inl ⟨probe, .nil probe⟩
  | cons entry entries ih =>
    by_cases undecided : entry.PassesOver ignoring probe
    · rcases ih (entry.leave probe) with
        ⟨last, passage⟩ | ⟨before, decisive, after, last, rfl, passage, decides⟩
      · exact .inl ⟨last, .cons undecided passage⟩
      · exact .inr ⟨entry :: before, decisive, after, last, rfl, .cons undecided passage, decides⟩
    · exact .inr ⟨[], entry, entries, probe, rfl, .nil probe, undecided⟩

namespace Pass

variable {α : Type} {ignoring : Bool} {extract : Extractor α} {probe last : Request}
  {before after entries : List RegisteredRouter} {entry : RegisteredRouter}

theorem ask_outcome_of_passage (passage : Passage ignoring probe entries last) :
    (ask ignoring extract entries probe).outcome = .ok none := by
  have ended := passage.ask_outcome extract []
  rw [List.append_nil] at ended
  exact ended

/-- The first chain decides, and what is made of it is made of the probe as its router left it. -/
theorem ask_outcome_of_chain (passage : Passage ignoring probe before last) {chain : Chain}
    (answered : entry.answer last = .ok (some chain)) :
    (ask ignoring extract (before ++ entry :: after) probe).outcome =
      (extract entry chain (entry.leave last)).1.map some := by
  rw [passage.ask_outcome, ask]
  simp only [RegisteredRouter.answer] at answered
  simp only [answered]
  rfl

theorem ask_outcome_of_error (passage : Passage false probe before last) {error : RoutingError}
    (failed : entry.answer last = .error error) :
    (ask false extract (before ++ entry :: after) probe).outcome = .error error := by
  rw [passage.ask_outcome, ask]
  simp only [RegisteredRouter.answer] at failed
  simp only [failed]
  rfl

theorem ask_eq_found {value : α}
    (found : (ask ignoring extract entries probe).outcome = .ok (some value)) :
    ∃ before entry after last chain, entries = before ++ entry :: after ∧
      Passage ignoring probe before last ∧ entry.answer last = .ok (some chain) ∧
      (extract entry chain (entry.leave last)).1 = .ok value := by
  rcases passage_or_decision ignoring entries probe with
    ⟨last, passage⟩ | ⟨before, entry, after, last, rfl, passage, decides⟩
  · rw [ask_outcome_of_passage passage] at found
    cases found
  · rcases entry.passesOver_or_decides ignoring last with
      undecided | ⟨chain, answered⟩ | ⟨rfl, error, failed⟩
    · exact absurd undecided decides
    · rw [ask_outcome_of_chain passage answered] at found
      obtain ⟨made, extracted, same⟩ := map_eq_ok_iff.mp found
      obtain rfl := Option.some.inj same
      exact ⟨before, entry, after, last, chain, rfl, passage, answered, extracted⟩
    · rw [ask_outcome_of_error passage failed] at found
      cases found

/-- What comes of a pass through a registry that has been set up. -/
theorem run_outcome {registry : RouterRegistry} (listed : registry.entries? = some entries) :
    (run registry ignoring extract probe).outcome =
      splitFor entries probe >>= fun first => (ask ignoring extract entries first).outcome := by
  simp only [run, RouterRegistry.require, listed]
  cases splitFor entries probe <;> rfl

end Pass

namespace Introspector

variable {introspector : Introspector} {entries : List RegisteredRouter} {store : Store}
  {request : Request}

/-- The probe that the first router of a pass is asked about. -/
def firstProbe (introspector : Introspector) (entries : List RegisteredRouter) (request : Request) :
    Except RoutingError Request :=
  Pass.splitFor entries (request.probe introspector.settings.suppressProbeLogging)

/-- A request without a remembered answer is answered by a pass in which errors decide. -/
theorem boundRouter_outcome (listed : introspector.registry.entries? = some entries)
    (fresh : store.remembered? request = none) :
    (introspector.boundRouter store request).1 =
      introspector.firstProbe entries request >>= fun first =>
        (Pass.ask false (Pass.reading fun entry _ probe => entry.bind probe) entries first).outcome := by
  simp only [boundRouter, fresh, resolve, pass, Pass.run_outcome listed, firstProbe]

/-- A request without a remembered policy is answered by a pass in which failures are ignored. -/
theorem corsPolicy_outcome (listed : introspector.registry.entries? = some entries)
    (fresh : request.rememberedPolicy? = none) :
    (introspector.corsPolicy store request).1 =
      ((introspector.firstProbe entries request >>= fun first =>
        (Pass.ask true (Pass.reading fun _ chain probe => chain.corsPolicy probe) entries
          first).outcome).map Option.join).mapError RoutingError.stateFrom := by
  simp only [corsPolicy, fresh, resolve, pass, Pass.run_outcome listed, firstProbe]

/-- Both questions are answered by one pass in which errors decide. -/
theorem findAnswers_outcome (listed : introspector.registry.entries? = some entries) :
    (introspector.findAnswers request).outcome =
      introspector.firstProbe entries request >>= fun first =>
        (Pass.ask false (Pass.reading fun entry chain probe => do
          let bound ← entry.bind probe
          let policy ← chain.corsPolicy probe
          return (bound, policy)) entries first).outcome :=
  Pass.run_outcome listed

end Introspector

end RouteProbe
