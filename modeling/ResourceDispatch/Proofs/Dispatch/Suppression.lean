import ResourceDispatch.Proofs.Dispatch.HandlerObject

/-! What the causes of an expected failure can be seen by. Two dispatches whose callbacks
differ in nothing else leave the same response and the same records, but for the records of
a callback for failures and of a callback at the end that fail themselves: those show the
causes of every failure. -/

namespace ResourceDispatch

open Http (Inbound Response)
open Registry (Entry)
open Route (Match)

namespace Dispatch

/-- What of a failure may be seen: of an expected one the causes are left out. -/
def Failure.shown (failure : Failure) : Failure :=
  if failure.isExpected then { failure with causes := [] } else failure

def Ending.shown : Ending α → Ending α
  | .failed failure => .failed failure.shown
  | ending => ending

def Ending.failure? : Ending α → Option Failure
  | .failed failure => some failure
  | _ => none

def Outcome.shown : Outcome → Outcome
  | .failed error => .failed { error with source := error.source.shown }
  | outcome => outcome

namespace Failure

@[simp] theorem status_shown (failure : Failure) :
    failure.shown.status = failure.status := by
  unfold shown
  split <;> rfl

@[simp] theorem name_shown (failure : Failure) : failure.shown.name = failure.name := by
  unfold shown
  split <;> rfl

@[simp] theorem code_shown (failure : Failure) : failure.shown.code = failure.code := by
  unfold shown
  split <;> rfl

@[simp] theorem details_shown (failure : Failure) :
    failure.shown.details = failure.details := by
  unfold shown
  split <;> rfl

@[simp] theorem isExpected_shown (failure : Failure) :
    failure.shown.isExpected = failure.isExpected := by
  unfold shown
  split <;> rfl

theorem shown_of_unexpected {failure : Failure} (unexpected : failure.isExpected = false) :
    failure.shown = failure := by
  simp [shown, unexpected]

variable {failure other : Failure} (same : failure.shown = other.shown)
include same

theorem ofFailure_congr (context : Context) :
    ErrorReply.ofFailure context failure = ErrorReply.ofFailure context other := by
  have status := congrArg status same
  have name := congrArg Failure.name same
  have code := congrArg code same
  have details := congrArg details same
  simp only [status_shown, name_shown, code_shown, details_shown]
    at status name code details
  simp only [ErrorReply.ofFailure, status, name, code, details]

theorem answerFailure_congr :
    (Action.answerFailure failure : Action σ Unit) = .answerFailure other := by
  have reply := ofFailure_congr same
  have expected := congrArg isExpected same
  simp only [isExpected_shown] at expected
  have record (scene : Scene) (context : Context) :
      failureRecord scene context failure = failureRecord scene context other := by
    cases marked : failure.isExpected with
    | true =>
        unfold failureRecord
        simp only [← expected, marked, Bool.or_true, if_true, reply]
    | false =>
        rw [shown_of_unexpected marked, shown_of_unexpected (expected ▸ marked)] at same
        rw [same]
  simp only [Action.answerFailure, record, reply]

end Failure

theorem Ending.cases_of_shown {ending other : Ending α}
    (same : ending.shown = other.shown) :
    (∃ answer, ending = .returned answer ∧ other = .returned answer) ∨
      (∃ failure otherFailure, ending = .failed failure ∧ other = .failed otherFailure ∧
        failure.shown = otherFailure.shown) ∨
      ∃ message, ending = .aborted message ∧ other = .aborted message := by
  cases ending with
  | returned answer =>
      cases other with
      | returned otherAnswer =>
          cases same
          exact .inl ⟨answer, rfl, rfl⟩
      | failed | aborted => contradiction
  | failed failure =>
      cases other with
      | failed otherFailure =>
          exact .inr (.inl ⟨failure, otherFailure, rfl, rfl, Ending.failed.inj same⟩)
      | returned | aborted => contradiction
  | aborted message =>
      cases other with
      | aborted otherMessage =>
          cases same
          exact .inr (.inr ⟨message, rfl, rfl⟩)
      | returned | failed => contradiction

theorem Ending.failure?_of_shown {ending other : Ending α}
    (same : ending.shown = other.shown) :
    ending.failure?.map (·.shown) = other.failure?.map (·.shown) := by
  obtain ⟨_, rfl, rfl⟩ | ⟨_, _, rfl, rfl, shown⟩ | ⟨_, rfl, rfl⟩ := cases_of_shown same
  · rfl
  · exact congrArg some shown
  · rfl

structure Performance.Parallels (performance other : Performance σ α) : Prop where
  ending : performance.ending.shown = other.ending.shown
  stage : performance.stage = other.stage
  log : performance.log = other.log

/-- Actions that do the same, but for the causes of an expected failure with which they
end. -/
def Action.Parallels (action other : Action σ α) : Prop :=
  ∀ scene stage, (action.perform scene stage).Parallels (other.perform scene stage)

theorem Action.Parallels.refl (action : Action σ α) : action.Parallels action :=
  fun _ _ => ⟨rfl, rfl, rfl⟩

end Dispatch

/-- Handlers whose callbacks differ at most in the causes of the expected failures that
they end with. A callback for failures does not look at the causes of what it is given. -/
structure Registry.Entry.Parallels (entry other : Entry σ) : Prop where
  consumes : entry.consumes = other.consumes
  produces : entry.produces = other.produces
  before : Option.Rel Dispatch.Action.Parallels entry.before other.before
  serve : Option.Rel Dispatch.Action.Parallels entry.serve other.serve
  rescue : Option.Rel
    (fun callback otherCallback => ∀ failure otherFailure : Dispatch.Failure,
      failure.shown = otherFailure.shown →
        (callback failure).Parallels (otherCallback otherFailure))
    entry.rescue other.rescue
  conclude : Option.Rel Dispatch.Action.Parallels entry.conclude other.conclude

structure Registry.Parallels (registry other : Registry σ) : Prop where
  described : registry.describe = other.describe
  accepts : registry.accepts = other.accepts
  handlers : ∀ template verb, List.Forall₂ Entry.Parallels
    (registry.handlers template verb) (other.handlers template verb)

theorem isSome_of_rel {r : α → β → Prop} {a : Option α} {b : Option β}
    (rel : Option.Rel r a b) :
    a.isSome = b.isSome := by
  cases rel <;> rfl

theorem find?_of_forall₂ {r : α → β → Prop} {p : α → Bool} {q : β → Bool}
    (same : ∀ a b, r a b → p a = q b) {items : List α} {others : List β}
    (related : List.Forall₂ r items others) :
    Option.Rel r (items.find? p) (others.find? q) := by
  induction related with
  | nil => exact .none
  | @cons a b items others first later ih =>
      rw [List.find?_cons, List.find?_cons, same a b first]
      cases q b with
      | true => exact .some first
      | false => exact ih

namespace Registry.Entry.Parallels

variable {entry other : Entry σ} (parallels : entry.Parallels other)
include parallels

theorem describe : entry.describe = other.describe := by
  rw [Entry.describe, Entry.describe, parallels.consumes, parallels.produces,
    isSome_of_rel parallels.before, isSome_of_rel parallels.serve,
    isSome_of_rel parallels.rescue, isSome_of_rel parallels.conclude]

theorem fits (request : Inbound) :
    Dispatch.fits request entry = Dispatch.fits request other := by
  rw [Dispatch.fits, Dispatch.fits, isDispatchable, isDispatchable,
    isSome_of_rel parallels.serve, parallels.consumes, parallels.produces]

end Registry.Entry.Parallels

namespace Dispatch

structure Run.Parallels (first second : Ending α × Run σ) : Prop where
  ending : first.1.shown = second.1.shown
  run : first.2.Resembles second.2

structure Execution.Parallels (execution other : Execution σ) : Prop where
  outcome : execution.outcome.shown = other.outcome.shown
  response : execution.response = other.response
  world : execution.world = other.world
  phases : execution.phases = other.phases

/-- Logs that are the same, but for what the records of two failures, that of a callback
for failures and that of a callback at the end, tell of the causes of expected ones. -/
structure Apart (scene : Scene) (verb : String)
    (caught otherCaught concluded otherConcluded : Option Failure)
    (log otherLog : List Log.Record) : Prop where
  caughtShown : caught.map (·.shown) = otherCaught.map (·.shown)
  concludedShown : concluded.map (·.shown) = otherConcluded.map (·.shown)
  logs : ∃ early middle late,
    log = early ++ (caught.map (Controller.rescueRecord scene)).toList ++
      (middle ++ (concluded.map (Controller.concludeRecord scene verb)).toList ++ late) ∧
    otherLog = early ++ (otherCaught.map (Controller.rescueRecord scene)).toList ++
      (middle ++ (otherConcluded.map (Controller.concludeRecord scene verb)).toList ++
        late)

theorem rescueRecord_inj (scene : Scene) {failure other : Failure} :
    Controller.rescueRecord scene failure = Controller.rescueRecord scene other ↔
      failure.chain = other.chain := by
  simp only [Controller.rescueRecord, Log.Record.mk.injEq, true_and,
    String.append_right_inj]
  exact Iff.rfl

theorem concludeRecord_inj (scene : Scene) (verb : String) {failure other : Failure} :
    Controller.concludeRecord scene verb failure =
      Controller.concludeRecord scene verb other ↔
      failure.chain = other.chain := by
  simp only [Controller.concludeRecord, Log.Record.mk.injEq, true_and,
    String.append_right_inj]
  exact Iff.rfl

theorem map_record_eq_iff {record : Failure → Log.Record}
    (tells : ∀ {failure other : Failure},
      record failure = record other ↔ failure.chain = other.chain)
    {failure? other? : Option Failure} :
    (failure?.map record).toList = (other?.map record).toList ↔
      failure?.map (·.chain) = other?.map (·.chain) := by
  cases failure? <;> cases other? <;> simp [tells]

theorem length_map_record {failure? other? : Option Failure}
    (shown : failure?.map (·.shown) = other?.map (·.shown))
    (record : Failure → Log.Record) :
    (failure?.map record).toList.length = (other?.map record).toList.length := by
  cases failure? <;> cases other? <;> simp_all

/-- Nothing but the chains of these two failures can tell the logs apart. -/
theorem Apart.eq_iff {scene : Scene} {verb : String}
    {caught otherCaught concluded otherConcluded : Option Failure}
    {log otherLog : List Log.Record}
    (apart : Apart scene verb caught otherCaught concluded otherConcluded log otherLog) :
    log = otherLog ↔
      caught.map (·.chain) = otherCaught.map (·.chain) ∧
        concluded.map (·.chain) = otherConcluded.map (·.chain) := by
  obtain ⟨caughtShown, concludedShown, early, middle, late, rfl, rfl⟩ := apart
  rw [← map_record_eq_iff (rescueRecord_inj scene),
    ← map_record_eq_iff (concludeRecord_inj scene verb)]
  constructor
  · intro same
    rw [List.append_assoc, List.append_assoc early] at same
    obtain ⟨rescues, rest⟩ := List.append_inj (List.append_cancel_left same)
      (length_map_record caughtShown _)
    rw [List.append_assoc, List.append_assoc middle] at rest
    obtain ⟨conclusions, -⟩ := List.append_inj (List.append_cancel_left rest)
      (length_map_record concludedShown _)
    exact ⟨rescues, conclusions⟩
  · rintro ⟨rescues, conclusions⟩
    rw [rescues, conclusions]

/-- Steps that end alike, each of which has recorded the failure that it ended with at
last. -/
structure Run.Deviates (record : Failure → Log.Record)
    (first second : Ending Unit × Run σ) : Prop where
  ending : first.1.shown = second.1.shown
  stage : first.2.stage = second.2.stage
  phases : first.2.phases = second.2.phases
  log : ∃ common, first.2.log = common ++ (first.1.failure?.map record).toList ∧
    second.2.log = common ++ (second.1.failure?.map record).toList

theorem Run.Parallels.deviates {first second : Ending Unit × Run σ}
    (parallels : Run.Parallels first second) (unfailed : first.1.failure? = none)
    (record : Failure → Log.Record) : Run.Deviates record first second := by
  have failures := Ending.failure?_of_shown parallels.ending
  rw [unfailed, Option.map_none, eq_comm, Option.map_eq_none_iff] at failures
  refine ⟨parallels.ending, parallels.run.stage, parallels.run.phases, first.2.log, ?_, ?_⟩
  · simp [unfailed]
  · simp [failures, parallels.run.log]

namespace Run.Resembles

variable {run other : Run σ} (resembles : run.Resembles other)
include resembles

theorem perform_parallels {moment otherMoment : Option Moment}
    (silent : moment.bind (·.phase?) = none)
    (otherSilent : otherMoment.bind (·.phase?) = none)
    (scene : Scene) {action otherAction : Action σ α}
    (parallels : action.Parallels otherAction) :
    Run.Parallels (run.perform scene moment action)
      (other.perform scene otherMoment otherAction) := by
  obtain ⟨ending, stage, log⟩ := parallels scene other.stage
  refine ⟨?_, ?_, ?_, ?_⟩
  · simpa only [Run.perform, resembles.stage] using ending
  · simpa only [Run.perform, resembles.stage] using stage
  · simp only [Run.perform, resembles.stage, resembles.log, log]
  · rw [Run.phases_perform silent, Run.phases_perform otherSilent, resembles.phases]

theorem call_parallels {moment : Moment} (silent : moment.phase? = none) (scene : Scene)
    {callback otherCallback : Option (Callback σ)}
    (parallels : Option.Rel Action.Parallels callback otherCallback) :
    Run.Parallels (Controller.call scene moment callback run)
      (Controller.call scene moment otherCallback other) := by
  have silent : (some moment).bind (·.phase?) = none := silent
  cases parallels with
  | none => exact ⟨rfl, resembles⟩
  | some alike => exact resembles.perform_parallels silent silent scene alike

end Run.Resembles

def Run.behind (log : List Log.Record) (run : Run σ) : Run σ :=
  { run with log := log ++ run.log }

def Run.unlogged (run : Run σ) : Run σ :=
  { run with log := [] }

theorem Run.behind_unlogged (run : Run σ) : run.unlogged.behind run.log = run := by
  simp [unlogged, behind]

theorem Run.perform_behind (log : List Log.Record) (run : Run σ) (scene : Scene)
    (moment : Option Moment) (action : Action σ α) :
    (run.behind log).perform scene moment action =
      ((run.perform scene moment action).1,
        (run.perform scene moment action).2.behind log) := by
  simp [Run.perform, Run.behind]

theorem Run.record_behind (log : List Log.Record) (run : Run σ) (record : Log.Record) :
    (run.behind log).record record = (run.record record).behind log := by
  simp [Run.record, Run.behind]

namespace Controller

variable (c : Controller σ)

theorem enter_behind (log : List Log.Record) (phase : Phase) (run : Run σ) :
    c.enter phase (run.behind log) = (c.enter phase run).behind log := by
  simp [enter, Run.behind]

theorem call_behind (log : List Log.Record) (scene : Scene) (moment : Moment)
    (callback : Option (Callback σ)) (run : Run σ) :
    call scene moment callback (run.behind log) =
      ((call scene moment callback run).1,
        (call scene moment callback run).2.behind log) := by
  cases callback with
  | none => rfl
  | some action => exact run.perform_behind log scene _ action

def concluding (scene : Scene) (entry : Entry σ) (run : Run σ) : Ending Unit × Run σ :=
  call scene .calledConclude entry.conclude ((c.enter .conclude run).write closing)

theorem concluding_behind (log : List Log.Record) (scene : Scene) (entry : Entry σ)
    (run : Run σ) :
    c.concluding scene entry (run.behind log) =
      ((c.concluding scene entry run).1, (c.concluding scene entry run).2.behind log) := by
  have closed : ((c.enter .conclude run).behind log).write closing =
      ((c.enter .conclude run).write closing).behind log := by
    simp [Run.write, Run.behind]
  rw [concluding, enter_behind, closed, call_behind]
  rfl

theorem conclude_behind (log : List Log.Record) (scene : Scene) (verb : String)
    (entry : Entry σ) (run : Run σ) :
    c.conclude scene verb entry (run.behind log) =
      ((c.conclude scene verb entry run).1,
        (c.conclude scene verb entry run).2.behind log) := by
  unfold conclude
  dsimp only
  rw [← concluding, ← concluding, concluding_behind]
  generalize c.concluding scene entry run = result
  obtain ⟨ending, next⟩ := result
  cases ending with
  | returned | aborted => simp only [enter_behind]
  | failed failure => simp only [Run.record_behind, enter_behind]

variable (scene : Scene) {entry other : Entry σ} (parallels : entry.Parallels other)
include parallels

theorem beforeAndServe_parallels (run : Run σ) :
    Run.Parallels (c.beforeAndServe scene entry run)
      (c.beforeAndServe scene other run) := by
  have start : (c.enter .before run).Resembles (c.enter .before run) := ⟨rfl, rfl, rfl⟩
  have first : Run.Parallels (call scene .calledBefore entry.before (c.enter .before run))
      (call scene .calledBefore other.before (c.enter .before run)) :=
    start.call_parallels rfl scene parallels.before
  unfold beforeAndServe
  generalize call scene .calledBefore entry.before (c.enter .before run) = result
    at first ⊢
  generalize call scene .calledBefore other.before (c.enter .before run) = otherResult
    at first ⊢
  obtain ⟨ending, after⟩ := result
  obtain ⟨otherEnding, otherAfter⟩ := otherResult
  obtain ⟨shown, resembles⟩ := first
  obtain ⟨answer, rfl, rfl⟩ | ⟨failure, otherFailure, rfl, rfl, same⟩ |
    ⟨message, rfl, rfl⟩ :=
    Ending.cases_of_shown shown
  · dsimp only
    rw [show after.stage = otherAfter.stage from resembles.stage]
    split
    · exact ⟨rfl, resembles.record _⟩
    · exact (resembles.enter c .serve).call_parallels rfl scene parallels.serve
  · exact ⟨shown, resembles⟩
  · exact ⟨shown, resembles⟩

theorem rescue_parallels {run otherRun : Run σ} (resembles : run.Resembles otherRun)
    {failure otherFailure : Failure} (same : failure.shown = otherFailure.shown) :
    Run.Deviates (rescueRecord scene) (c.rescue scene entry failure run)
      (c.rescue scene other otherFailure otherRun) := by
  have entered := resembles.enter c .rescue
  have rel := parallels.rescue
  unfold rescue
  generalize entry.rescue = callback at rel ⊢
  generalize other.rescue = otherCallback at rel ⊢
  cases rel with
  | none =>
      dsimp only
      rw [Failure.answerFailure_congr same]
      refine (entered.perform_parallels rfl rfl scene (.refl _)).deviates ?_ _
      rw [Run.perform, Action.ending_answerFailure]
      rfl
  | some alike =>
      dsimp only
      have performed : Run.Parallels
          ((c.enter .rescue run).perform scene (some (.calledRescue failure)) _)
          ((c.enter .rescue otherRun).perform scene
            (some (.calledRescue otherFailure)) _) :=
        entered.perform_parallels rfl rfl scene (alike failure otherFailure same)
      generalize (c.enter .rescue run).perform scene (some (.calledRescue failure))
        _ = result at performed ⊢
      generalize (c.enter .rescue otherRun).perform scene
        (some (.calledRescue otherFailure))
        _ = otherResult at performed ⊢
      obtain ⟨ending, after⟩ := result
      obtain ⟨otherEnding, otherAfter⟩ := otherResult
      obtain ⟨answer, rfl, rfl⟩ | ⟨error, otherError, rfl, rfl, shown⟩ |
        ⟨message, rfl, rfl⟩ :=
        Ending.cases_of_shown performed.ending
      · exact performed.deviates rfl _
      · exact ⟨performed.ending, performed.run.stage, performed.run.phases, after.log, rfl,
          congrArg (· ++ _) performed.run.log.symm⟩
      · exact performed.deviates rfl _

theorem serveAndRescue_parallels (run : Run σ) :
    Run.Deviates (rescueRecord scene) (c.serveAndRescue scene entry run)
      (c.serveAndRescue scene other run) := by
  have served := beforeAndServe_parallels c scene parallels run
  unfold serveAndRescue
  generalize c.beforeAndServe scene entry run = result at served ⊢
  generalize c.beforeAndServe scene other run = otherResult at served ⊢
  obtain ⟨ending, after⟩ := result
  obtain ⟨otherEnding, otherAfter⟩ := otherResult
  obtain ⟨answer, rfl, rfl⟩ | ⟨failure, otherFailure, rfl, rfl, shown⟩ |
    ⟨message, rfl, rfl⟩ :=
    Ending.cases_of_shown served.ending
  · exact served.deviates rfl _
  · exact rescue_parallels c scene parallels served.run shown
  · exact served.deviates rfl _

/-- The failure of the callback at the end, if it comes to that after serving. -/
def concludingFailure? (entry : Entry σ) : Ending Unit × Run σ → Option Failure
  | (.aborted _, _) => none
  | (_, run) => (c.concluding scene entry run).1.failure?

/-- Ends of dispatches that had logged these records before, and that from there on differ
at most in the record of what the callback at the end failed with. -/
structure Concluded (scene : Scene) (verb : String) (ending otherEnding : Ending Unit)
    (logged otherLogged : List Log.Record)
    (last otherLast : Option String × Run σ) : Prop where
  shown : ending.shown = otherEnding.shown
  message : last.1 = otherLast.1
  stage : last.2.stage = otherLast.2.stage
  phases : last.2.phases = otherLast.2.phases
  log : ∃ early late,
    last.2.log = logged ++
      (early ++ (ending.failure?.map (concludeRecord scene verb)).toList ++ late) ∧
    otherLast.2.log = otherLogged ++
      (early ++ (otherEnding.failure?.map (concludeRecord scene verb)).toList ++ late)

theorem conclude_parallels {run otherRun : Run σ} (resembles : run.Resembles otherRun)
    (verb : String) :
    Concluded scene verb (c.concluding scene entry run).1
      (c.concluding scene other otherRun).1
      [] [] (c.conclude scene verb entry run) (c.conclude scene verb other otherRun) := by
  have called : Run.Parallels (c.concluding scene entry run)
      (c.concluding scene other otherRun) :=
    ((resembles.enter c .conclude).write closing).call_parallels rfl scene
      parallels.conclude
  let entered : Log.Record := ⟨.trace, c.logTarget, s!"Entering {Phase.done.name}"⟩
  unfold conclude
  dsimp only
  rw [← concluding, ← concluding]
  generalize c.concluding scene entry run = result at called ⊢
  generalize c.concluding scene other otherRun = otherResult at called ⊢
  obtain ⟨ending, after⟩ := result
  obtain ⟨otherEnding, otherAfter⟩ := otherResult
  obtain ⟨shown, resembles⟩ := called
  dsimp only at shown resembles
  obtain ⟨answer, rfl, rfl⟩ | ⟨failure, otherFailure, rfl, rfl, same⟩ |
    ⟨message, rfl, rfl⟩ :=
    Ending.cases_of_shown shown
  · have done := resembles.enter c .done
    refine ⟨shown, rfl, done.stage, done.phases, after.log, [entered], ?_, ?_⟩
    · simp [enter, Ending.failure?, entered]
    · simp [enter, Ending.failure?, entered, resembles.log]
  · refine ⟨shown, rfl, ?_, ?_, after.log, [entered], ?_, ?_⟩
    · simp only [enter, Run.record, resembles.stage]
    · rw [Run.phases_enter, Run.phases_enter]
      exact congrArg (· ++ _) resembles.phases
    · simp [enter, Ending.failure?, entered, Run.record]
    · simp [enter, Ending.failure?, entered, Run.record, resembles.log]
  · refine ⟨shown, rfl, resembles.stage, resembles.phases, after.log, [], ?_, ?_⟩
    · simp [Ending.failure?]
    · simp [Ending.failure?, resembles.log]

/-- The end of a dispatch is the same and logs the same, whatever was logged before. -/
theorem conclude_of_stage {run otherRun : Run σ} (stage : run.stage = otherRun.stage)
    (phases : run.phases = otherRun.phases) (verb : String) :
    Concluded scene verb (c.concluding scene entry run).1
      (c.concluding scene other otherRun).1
      run.log otherRun.log (c.conclude scene verb entry run)
      (c.conclude scene verb other otherRun) := by
  have bare : run.unlogged.Resembles otherRun.unlogged := ⟨stage, rfl, phases⟩
  have ended := conclude_parallels c scene parallels bare verb
  rw [← run.behind_unlogged, ← otherRun.behind_unlogged, conclude_behind, conclude_behind,
    concluding_behind, concluding_behind]
  obtain ⟨shown, message, endStage, endPhases, early, late, log, otherLog⟩ := ended
  refine ⟨shown, message, endStage, endPhases, early, late, ?_, ?_⟩
  · rw [run.behind_unlogged]
    exact congrArg (run.log ++ ·) log
  · rw [otherRun.behind_unlogged]
    exact congrArg (otherRun.log ++ ·) otherLog

def finished (outcome : Outcome) : Option String × Run σ → Execution σ
  | (some message, run) => run.execution (.aborted message)
  | (none, run) => run.execution outcome

omit parallels in
theorem Concluded.finished {verb : String} {ending otherEnding : Ending Unit}
    {logged otherLogged : List Log.Record} {last otherLast : Option String × Run σ}
    (concluded : Concluded scene verb ending otherEnding logged otherLogged last otherLast)
    {outcome otherOutcome : Outcome} (same : outcome.shown = otherOutcome.shown) :
    (finished outcome last).Parallels (finished otherOutcome otherLast) ∧
      (finished outcome last).log = last.2.log ∧
      (finished otherOutcome otherLast).log = otherLast.2.log := by
  obtain ⟨-, message, stage, phases, -⟩ := concluded
  obtain ⟨message?, run⟩ := last
  obtain ⟨otherMessage?, otherRun⟩ := otherLast
  obtain rfl : message? = otherMessage? := message
  have response := congrArg Stage.response stage
  have world := congrArg Stage.world stage
  cases message? with
  | none => exact ⟨⟨same, response, world, phases⟩, rfl, rfl⟩
  | some message => exact ⟨⟨rfl, response, world, phases⟩, rfl, rfl⟩

theorem handle_parallels (run : Run σ) (verb : String) :
    let first := c.handle scene verb entry run
    let second := c.handle scene verb other run
    let served := c.serveAndRescue scene entry run
    let otherServed := c.serveAndRescue scene other run
    first.Parallels second ∧
      Apart scene verb served.1.failure? otherServed.1.failure?
        (c.concludingFailure? scene entry served)
        (c.concludingFailure? scene other otherServed) first.log second.log := by
  have deviates := serveAndRescue_parallels c scene parallels run
  unfold handle
  dsimp only
  generalize c.serveAndRescue scene entry run = result at deviates ⊢
  generalize c.serveAndRescue scene other run = otherResult at deviates ⊢
  obtain ⟨ending, after⟩ := result
  obtain ⟨otherEnding, otherAfter⟩ := otherResult
  obtain ⟨shown, stage, phases, common, log, otherLog⟩ := deviates
  dsimp only at shown stage phases log otherLog
  have concluded := conclude_of_stage c scene parallels stage phases verb
  obtain ⟨early, late, endLog, otherEndLog⟩ := concluded.log
  rw [log] at endLog
  rw [otherLog] at otherEndLog
  obtain ⟨answer, rfl, rfl⟩ | ⟨failure, otherFailure, rfl, rfl, same⟩ |
    ⟨message, rfl, rfl⟩ :=
    Ending.cases_of_shown shown
  · have fine : Outcome.ok.shown = Outcome.ok.shown := rfl
    obtain ⟨whole, whence, otherWhence⟩ := concluded.finished scene fine
    exact ⟨whole, Ending.failure?_of_shown shown, Ending.failure?_of_shown concluded.shown,
      common, early, late, whence.trans endLog, otherWhence.trans otherEndLog⟩
  · let error (failure : Failure) : Outcome :=
      .failed ⟨Text.uppercase verb, scene.request.resourcePath, failure⟩
    have errors : (error failure).shown = (error otherFailure).shown := by
      simp only [error, Outcome.shown, same]
    obtain ⟨whole, whence, otherWhence⟩ := concluded.finished scene errors
    exact ⟨whole, Ending.failure?_of_shown shown, Ending.failure?_of_shown concluded.shown,
      common, early, late, whence.trans endLog, otherWhence.trans otherEndLog⟩
  · refine ⟨⟨rfl, congrArg Stage.response stage, congrArg Stage.world stage, phases⟩,
      rfl, rfl, common, [], [], ?_, ?_⟩
    · simpa [Run.execution, concludingFailure?] using log
    · simpa [Run.execution, concludingFailure?] using otherLog

end Controller

theorem Turn.failure?_eq (turn : Turn σ) : turn.failure? = turn.ending.failure? := by
  unfold failure? Ending.failure?
  cases turn.ending <;> rfl

namespace Passage

variable (p : Passage σ)

def conclusion? : Option Failure :=
  match p.rescued.ending with
  | .aborted _ => none
  | _ => p.concluded.failure?

theorem error?_of_unrescued {p : Passage σ} (unrescued : p.entry.rescue = none) :
    p.error? = none := by
  rw [error?, unrescued]

theorem conclusion?_of_absent {p : Passage σ} (absent : p.entry.conclude = none) :
    p.conclusion? = none := by
  rw [conclusion?, concluded, absent]
  split <;> rfl

theorem failure?_serveAndRescue (run : Run σ) (atStart : run.stage = p.start) :
    (p.controller.serveAndRescue p.scene p.entry run).1.failure? = p.error? := by
  rw [← failure?_rescued, Turn.failure?_eq, (p.follows_serveAndRescue atStart).ending]

theorem concludingFailure?_serveAndRescue (run : Run σ) (atStart : run.stage = p.start) :
    p.controller.concludingFailure? p.scene p.entry
      (p.controller.serveAndRescue p.scene p.entry run) = p.conclusion? := by
  have served := p.follows_serveAndRescue atStart
  generalize p.controller.serveAndRescue p.scene p.entry run = result at served ⊢
  obtain ⟨ending, after⟩ := result
  have concluded := (p.follows_concluded served.stage).ending
  obtain ⟨sameEnding, -, -⟩ := served
  rw [conclusion?, ← sameEnding]
  cases ending with
  | returned | failed =>
      dsimp only [Controller.concludingFailure?]
      rw [Controller.concluding, concluded, Turn.failure?_eq]
  | aborted => rfl

end Passage

namespace Controller

def admitted (c : Controller σ) (request : Inbound) (response : Response) (world : σ)
    (found : Match) : Run σ :=
  let run := c.enter .routing ⟨⟨.new [] request.query, response, world⟩, [], []⟩
  let run := run.record ⟨.trace, c.logTarget,
    s!"Resource[{request.resourcePath}] matched path template " ++
      Text.quoted found.template⟩
  let run := c.enter .mediaMatching run
  { run with stage := { run.stage with context := .new found.parameters request.query } }

theorem Serves.execute_eq {c : Controller σ} {request : Inbound} {found : Match}
    {entry : Entry σ} (serves : c.Serves request found entry) (response : Response)
    (world : σ) :
    c.execute request response world =
      c.handle (c.scene request entry) (Text.lowercase request.method) entry
        (c.admitted request response world found) := by
  unfold execute
  simp only [serves.routed, serves.selected]
  rfl

section

variable (c : Controller σ) {registry : Registry σ}
  (parallels : c.registry.Parallels registry) (request : Inbound)
include parallels

theorem route?_parallels (verb path : String) :
    c.route? verb path = { c with registry }.route? verb path := by
  rw [route?_eq, route?_eq, parallels.accepts]

theorem select?_parallels (verb template : String) :
    Option.Rel Entry.Parallels (c.select? verb template request)
      ({ c with registry }.select? verb template request) :=
  find?_of_forall₂ (fun _ _ alike => alike.fits request) (parallels.handlers template verb)

theorem exists_serves_parallels {found : Match} {entry : Entry σ}
    (serves : c.Serves request found entry) :
    ∃ other, { c with registry }.Serves request found other ∧ entry.Parallels other := by
  have selection := select?_parallels c parallels request (Text.lowercase request.method)
    found.template
  rw [serves.selected] at selection
  generalize chosen : { c with registry }.select? (Text.lowercase request.method)
    found.template request = other? at selection
  cases selection with
  | @some _ other alike =>
      exact ⟨other, ⟨(route?_parallels c parallels _ _).symm.trans serves.routed,
        chosen⟩, alike⟩

theorem execute_of_unserved (unserved : ∀ found entry, ¬ c.Serves request found entry)
    (response : Response) (world : σ) :
    c.execute request response world =
      { c with registry }.execute request response world := by
  apply execute_congr_of_unserved
  · rfl
  · rfl
  · exact route?_parallels c parallels _ _
  · intro found routed
    have selection := select?_parallels c parallels request (Text.lowercase request.method)
      found.template
    have unselected := select?_of_unserved unserved routed
    refine ⟨unselected, ?_⟩
    rw [unselected] at selection
    generalize { c with registry }.select? (Text.lowercase request.method)
      found.template request = other? at selection ⊢
    cases selection
    rfl

end

/-- Of two dispatches that differ in nothing but the causes of expected failures nobody can
tell the one from the other but a reader of the log, and he only by what a callback for
failures or one at the end failed with itself. Whatever `before` and `serve` fail with
leaves nothing of such causes in the log. -/
theorem execute_parallels (c : Controller σ) {registry : Registry σ}
    (parallels : c.registry.Parallels registry) (request : Inbound) (response : Response)
    (world : σ) :
    let d : Controller σ := { c with registry }
    let first := c.execute request response world
    let second := d.execute request response world
    first.Parallels second ∧
    ((∀ found entry, ¬ c.Serves request found entry) → first.log = second.log) ∧
    ∀ found entry, c.Serves request found entry →
      ∃ other, d.Serves request found other ∧ entry.Parallels other ∧
        let p := c.passage request response world found entry
        let q := d.passage request response world found other
        Apart p.scene (Text.lowercase request.method) p.error? q.error? p.conclusion?
            q.conclusion? first.log second.log ∧
          (first.log = second.log ↔
            p.error?.map (·.chain) = q.error?.map (·.chain) ∧
              p.conclusion?.map (·.chain) = q.conclusion?.map (·.chain)) := by
  intro d first second
  have led {found : Match} {entry other : Entry σ} (serves : c.Serves request found entry)
      (otherServes : d.Serves request found other) (alike : entry.Parallels other) :
      let p := c.passage request response world found entry
      let q := d.passage request response world found other
      first.Parallels second ∧
        Apart p.scene (Text.lowercase request.method) p.error? q.error? p.conclusion?
          q.conclusion? first.log second.log := by
    intro p q
    let run := c.admitted request response world found
    have scene : q.scene = p.scene := by
      change d.scene request other = c.scene request entry
      rw [Controller.scene, Controller.scene, alike.describe, parallels.described]
    have caught := p.failure?_serveAndRescue run rfl
    have concluded := p.concludingFailure?_serveAndRescue run rfl
    have otherCaught := q.failure?_serveAndRescue run rfl
    have otherConcluded := q.concludingFailure?_serveAndRescue run rfl
    have execution : first = c.handle p.scene (Text.lowercase request.method) entry run :=
      serves.execute_eq response world
    have otherExecution :
        second = d.handle q.scene (Text.lowercase request.method) other run :=
      otherServes.execute_eq response world
    rw [scene] at otherCaught otherConcluded otherExecution
    rw [← caught, ← concluded, ← otherCaught, ← otherConcluded, execution, otherExecution]
    exact handle_parallels c p.scene alike run (Text.lowercase request.method)
  refine ⟨?_, fun unserved => ?_, fun found entry serves => ?_⟩
  · by_cases served : ∃ found entry, c.Serves request found entry
    · obtain ⟨found, entry, serves⟩ := served
      obtain ⟨other, otherServes, alike⟩ :=
        exists_serves_parallels c parallels request serves
      exact (led serves otherServes alike).1
    · have unserved (found entry) (serves : c.Serves request found entry) : False :=
        served ⟨found, entry, serves⟩
      have same : first = second :=
        execute_of_unserved c parallels request unserved response world
      rw [same]
      exact ⟨rfl, rfl, rfl, rfl⟩
  · exact congrArg Execution.log
      (execute_of_unserved c parallels request unserved response world)
  · obtain ⟨other, otherServes, alike⟩ :=
      exists_serves_parallels c parallels request serves
    obtain ⟨-, apart⟩ := led serves otherServes alike
    exact ⟨other, otherServes, alike, apart, apart.eq_iff⟩

theorem parallels_single {entry other : Entry σ} (alike : entry.Parallels other) :
    (single entry).Parallels (single other) := by
  have described (entry : Entry σ) : (single entry).describe =
      [("{id}", [("get", [entry.describe])])] := rfl
  have changed : single other = (single entry).mapEntries fun _ => other := rfl
  refine ⟨?_, ?_, fun template verb => ?_⟩
  · rw [described, described, alike.describe]
  · funext verb
    rw [changed, Registry.accepts_mapEntries]
  · rw [changed, Registry.handlers_mapEntries, List.forall₂_map_right_iff,
      List.forall₂_same]
    intro listed member
    rw [mem_handlers_single member]
    exact alike

def diskFailure (causes : List String) : Failure :=
  { (Failure.ofIo "disk").expected with causes }

theorem parallels_diskFailure (causes otherCauses : List String) :
    (.fail (diskFailure causes) : Action σ Unit).Parallels
      (.fail (diskFailure otherCauses)) :=
  fun _ _ => ⟨rfl, rfl, rfl⟩

def failingServe (causes : List String) : Entry Unit :=
  { Entry.empty with serve := some (.fail (diskFailure causes)) }

def failingConclude (causes : List String) : Entry Unit :=
  { Entry.empty with
    serve := some (.done ())
    conclude := some (.fail (diskFailure causes)) }

theorem parallels_failingServe (causes otherCauses : List String) :
    (failingServe causes).Parallels (failingServe otherCauses) :=
  ⟨rfl, rfl, .none, .some (parallels_diskFailure _ _), .none, .none⟩

theorem parallels_failingConclude (causes otherCauses : List String) :
    (failingConclude causes).Parallels (failingConclude otherCauses) :=
  ⟨rfl, rfl, .none, .some (.refl _), .none, .some (parallels_diskFailure _ _)⟩

/-- What `serve` fails with is answered and logged without its causes. -/
theorem execute_parallels_failingServe :
    let request : Inbound := ⟨"GET", "7", [], [], []⟩
    ∃ c : Controller Unit, c.registry = single (failingServe ["disk"]) ∧
      let d : Controller Unit := { c with registry := single (failingServe []) }
      c.registry.Parallels d.registry ∧
      (c.execute request .default ()).response.status = .internalServerError ∧
      (c.execute request .default ()).Parallels (d.execute request .default ()) ∧
      (c.execute request .default ()).log = (d.execute request .default ()).log := by
  intro request
  let c := ofRegistry? (single (failingServe ["disk"])) |>.get (by rfl)
  have made : ofRegistry? (single (failingServe ["disk"])) = some c :=
    (Option.some_get _).symm
  have registry := registry_of_ofRegistry? made
  have parallels : c.registry.Parallels (single (failingServe [])) := by
    rw [registry]
    exact parallels_single (parallels_failingServe _ _)
  obtain ⟨alike, -, apart⟩ := execute_parallels c parallels request .default ()
  have fitting : fits request (failingServe ["disk"]) := by decide +kernel
  obtain ⟨found, routed, selected⟩ := led_of_single made rfl rfl fitting
  obtain ⟨other, serves, -, -, exact⟩ := apart found _ ⟨routed, selected⟩
  obtain rfl := mem_handlers_single (mem_of_select? serves.selected)
  have status : (c.execute request .default ()).response.status =
      .internalServerError := by
    decide +kernel
  refine ⟨c, registry, parallels, status, alike, exact.mpr ?_⟩
  rw [Passage.error?_of_unrescued rfl, Passage.error?_of_unrescued rfl,
    Passage.conclusion?_of_absent rfl, Passage.conclusion?_of_absent rfl]
  exact ⟨rfl, rfl⟩

/-- What a callback at the end fails with is logged with its causes, expected or not. -/
theorem log_of_failingConclude :
    let request : Inbound := ⟨"GET", "7", [], [], []⟩
    ∃ c : Controller Unit, c.registry = single (failingConclude ["disk"]) ∧
      let d : Controller Unit := { c with registry := single (failingConclude []) }
      c.registry.Parallels d.registry ∧ (diskFailure ["disk"]).isExpected ∧
      (c.execute request .default ()).log ≠ (d.execute request .default ()).log := by
  intro request
  let c := ofRegistry? (single (failingConclude ["disk"])) |>.get (by rfl)
  have registry := registry_of_ofRegistry? (c := c) (Option.some_get _).symm
  refine ⟨c, registry, ?_, rfl, by decide +kernel⟩
  rw [registry]
  exact parallels_single (parallels_failingConclude _ _)

end Controller

end Dispatch

end ResourceDispatch
