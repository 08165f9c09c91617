import ResourceDispatch.Http.Response

namespace ResourceDispatch.Http.Response

structure Frozen (response : Response) : Prop where
  committed : response.committed = true
  closed : response.closed = true

theorem Frozen.perform {response : Response} (frozen : response.Frozen)
    (step : Step) : response.perform step = response := by
  obtain ⟨status, headers, body, committed, closed⟩ := response
  obtain ⟨rfl, rfl⟩ := frozen
  cases step <;> rfl

theorem Frozen.performAll {response : Response} (frozen : response.Frozen) :
    (steps : List Step) → response.performAll steps = response
  | [] => rfl
  | step :: steps => by
      rw [Response.performAll, frozen.perform step, frozen.performAll steps]

theorem frozen_close (response : Response) :
    (response.perform .close).Frozen :=
  ⟨rfl, rfl⟩

theorem performAll_append :
    (steps more : List Step) → (response : Response) →
      response.performAll (steps ++ more) =
        (response.performAll steps).performAll more
  | [], _, _ => rfl
  | step :: steps, more, response =>
      performAll_append steps more (response.perform step)

/-- A response is not closed without being committed. -/
def Orderly (response : Response) : Prop :=
  response.closed = true → response.committed = true

theorem orderly_new (status : Status) : (new status).Orderly :=
  nofun

theorem Orderly.perform {response : Response} (orderly : response.Orderly)
    (step : Step) : (response.perform step).Orderly := by
  cases step with
  | flush | close => exact fun _ => rfl
  | setStatus status | setHeader name value | addHeader name value | print text =>
      simp only [Response.perform]
      split <;> exact orderly
  | sendError status message =>
      simp only [Response.perform, Response.sendError]
      split
      · exact orderly
      · exact fun _ => rfl

theorem Orderly.open {response : Response} (orderly : response.Orderly)
    (uncommitted : response.committed = false) : response.closed = false := by
  cases closed : response.closed with
  | false => rfl
  | true =>
      rw [orderly closed] at uncommitted
      contradiction

theorem headerValues_replaceHeader_eq_ite (response : Response)
    (other value name : String) :
    (response.replaceHeader other value).headerValues name =
      if Text.sameUpToCase other name then [value] else response.headerValues name := by
  unfold headerValues replaceHeader
  dsimp only
  rw [List.filter_append, List.filter_filter]
  split
  · rename_i same
    have nothing : response.headers.filter (fun header =>
        Text.sameUpToCase header.1 name && !Text.sameUpToCase header.1 other) = [] := by
      refine List.filter_eq_nil_iff.mpr fun header _ => ?_
      simp [Text.sameUpToCase, Text.sameUpToCase_iff.mp same]
    simp [nothing, same]
  · rename_i apart
    have others : response.headers.filter (fun header =>
        Text.sameUpToCase header.1 name && !Text.sameUpToCase header.1 other) =
        response.headers.filter (fun header => Text.sameUpToCase header.1 name) := by
      refine List.filter_congr fun header _ => ?_
      cases named : Text.sameUpToCase header.1 name with
      | false => rfl
      | true =>
          rw [Text.sameUpToCase_iff] at named apart
          simp [Text.sameUpToCase, named, Ne.symm apart]
    simp [others, apart]

theorem headerValues_replaceHeader (response : Response) (name value : String) :
    (response.replaceHeader name value).headerValues name = [value] := by
  have same : Text.sameUpToCase name name := Text.sameUpToCase_iff.mpr rfl
  rw [headerValues_replaceHeader_eq_ite, if_pos same]

end ResourceDispatch.Http.Response
