import ResourceDispatch.Proofs.Dispatch.Answer

/-! Callbacks that break off. A dispatch is broken off exactly if one of the callbacks that
it comes to is. -/

namespace ResourceDispatch.Dispatch

open Http (Inbound Response)
open Registry (Entry)
open Route (Match)

namespace Turn

def message? (turn : Turn σ) : Option String :=
  match turn.ending with
  | .aborted message => some message
  | _ => none

theorem message?_eq_some_iff {turn : Turn σ} {message : String} :
    turn.message? = some message ↔ turn.ending = .aborted message := by
  unfold message?
  cases turn.ending <;> simp

end Turn

namespace Passage

def broken? (p : Passage σ) : Option String :=
  p.before.message?.or
    (p.served.message?.or (p.rescued.message?.or p.concluded.message?))

variable {p : Passage σ} {message : String}

theorem served_of_broken_before (broken : p.before.message? = some message) :
    p.served = p.before := by
  apply served_of_skipped
  rw [serves, Turn.message?_eq_some_iff.mp broken]
  rfl

theorem rescued_of_broken_served (broken : p.served.message? = some message) :
    p.rescued = p.served := by
  rw [rescued, Turn.failure?, Turn.message?_eq_some_iff.mp broken]

theorem broken?_eq (p : Passage σ) :
    p.broken? = p.rescued.message?.or p.concluded.message? := by
  unfold broken?
  cases first : p.before.message? with
  | some message =>
      have served := served_of_broken_before first
      rw [rescued_of_broken_served (served ▸ first), served, first]
      rfl
  | none =>
      cases second : p.served.message? with
      | some message =>
          rw [rescued_of_broken_served second, second]
          rfl
      | none => rfl

variable {run : Run σ}

theorem message_conclude (p : Passage σ) (verb : String)
    (afterRescue : run.stage = p.rescued.stage) :
    (p.controller.conclude p.scene verb p.entry run).1 = p.concluded.message? := by
  have last := (p.follows_concluded afterRescue).ending
  unfold Controller.conclude Turn.message?
  dsimp only
  rw [← last]
  generalize Controller.call p.scene .calledConclude p.entry.conclude
    ((p.controller.enter .conclude run).write closing) = result
  obtain ⟨ending, next⟩ := result
  cases ending <;> rfl

theorem outcome_handle (p : Passage σ) (verb : String)
    (atStart : run.stage = p.start) :
    (p.controller.handle p.scene verb p.entry run).outcome =
      match p.broken? with
      | some message => .aborted message
      | none => p.outcome verb := by
  obtain ⟨sameEnding, sameStage, -⟩ := p.follows_serveAndRescue atStart
  rw [broken?_eq, outcome, ← failure?_rescued, Turn.failure?, Turn.message?,
    ← sameEnding]
  unfold Controller.handle
  generalize p.controller.serveAndRescue p.scene p.entry run = result
    at sameStage
  obtain ⟨ending, next⟩ := result
  have last := p.message_conclude verb sameStage
  -- The callback at the end is called unless the care of a failure was broken off.
  cases ending with
  | aborted message => rfl
  | returned answer | failed source =>
      dsimp only
      rw [Option.none_or, ← last]
      generalize p.controller.conclude p.scene verb p.entry next = result
      obtain ⟨message, final⟩ := result
      cases message <;> rfl

end Passage

namespace Controller

def broken? (c : Controller σ) (request : Inbound) (response : Response)
    (world : σ) : Option String :=
  let verb := Text.lowercase request.method
  match c.route? verb request.resourcePath with
  | none => none
  | some found =>
    match c.select? verb found.template request with
    | none => none
    | some entry => (c.passage request response world found entry).broken?

theorem outcome_of_selected {c : Controller σ} {request : Inbound}
    (response : Response) (world : σ) {found : Match} {entry : Entry σ}
    (routed :
      c.route? (Text.lowercase request.method) request.resourcePath = some found)
    (selected :
      c.select? (Text.lowercase request.method) found.template request =
        some entry) :
    let p := c.passage request response world found entry
    (c.execute request response world).outcome =
      match p.broken? with
      | some message => .aborted message
      | none => p.outcome (Text.lowercase request.method) := by
  intro p
  unfold execute
  simp only [routed, selected]
  exact p.outcome_handle _ rfl

theorem outcome_eq_aborted_iff {c : Controller σ} {request : Inbound}
    {response : Response} {world : σ} {message : String} :
    (c.execute request response world).outcome = .aborted message ↔
      c.broken? request response world = some message := by
  unfold broken?
  dsimp only
  cases routed : c.route? (Text.lowercase request.method) request.resourcePath with
  | none =>
      rw [(ends_of_unrouted response world routed).outcome]
      exact ⟨nofun, nofun⟩
  | some found =>
      dsimp only
      cases selected : c.select? (Text.lowercase request.method) found.template
          request with
      | none =>
          rw [(ends_of_unselected response world routed selected).outcome]
          exact ⟨nofun, nofun⟩
      | some entry =>
          rw [outcome_of_selected response world routed selected]
          dsimp only
          cases (c.passage request response world found entry).broken? with
          | none => simpa using Passage.outcome_settled _ _ message
          | some other => simp

end Controller

end ResourceDispatch.Dispatch
