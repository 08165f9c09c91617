import ResourceDispatch.Proofs.Http.Commitment

/-! The values of a header after operations on a response: that of the last operation that
put one in their place, and behind it what was added since. What comes after the commitment
has no say in them. -/

namespace ResourceDispatch.Http.Response

open Text (sameUpToCase)

namespace Operation

def replacement? (name : String) : Operation → Option String
  | setHeader other value => if sameUpToCase other name then some value else none
  | setContentType type => if sameUpToCase "Content-Type" name then some type else none
  | sendError _ _ => if sameUpToCase "Content-Type" name then some "text/plain" else none
  | _ => none

def addition? (name : String) : Operation → Option String
  | addHeader other value => if sameUpToCase other name then some value else none
  | _ => none

def valuesAfter (name : String) (values : List String) (operation : Operation) :
    List String :=
  match operation.replacement? name with
  | some value => [value]
  | none => values ++ (operation.addition? name).toList

theorem foldl_valuesAfter_of_kept {name : String} {operations : List Operation}
    (kept : ∀ operation ∈ operations, operation.replacement? name = none)
    (values : List String) :
    operations.foldl (valuesAfter name) values =
      values ++ operations.filterMap (·.addition? name) := by
  induction operations generalizing values with
  | nil => exact (List.append_nil values).symm
  | cons operation operations ih =>
      obtain ⟨first, later⟩ := List.forall_mem_cons.mp kept
      rw [List.foldl_cons, ih later, valuesAfter, first, List.append_assoc,
        List.filterMap_cons]
      cases operation.addition? name <;> rfl

theorem foldl_valuesAfter_of_last {name value : String} {operation : Operation}
    (replaced : operation.replacement? name = some value) {after : List Operation}
    (last : ∀ other ∈ after, other.replacement? name = none) (before : List Operation)
    (values : List String) :
    (before ++ operation :: after).foldl (valuesAfter name) values =
      value :: after.filterMap (·.addition? name) := by
  rw [List.foldl_append, List.foldl_cons, valuesAfter, replaced,
    foldl_valuesAfter_of_kept last]
  rfl

end Operation

variable {response : Response}

theorem headerValues_replaceHeader_eq_match (response : Response)
    (other value name : String) :
    (response.replaceHeader other value).headerValues name =
      match if sameUpToCase other name then some value else none with
      | some value => [value]
      | none => response.headerValues name ++ (none : Option String).toList := by
  rw [headerValues_replaceHeader_eq_ite]
  split
  · rfl
  · exact (List.append_nil _).symm

theorem headerValues_perform (uncommitted : response.committed = false)
    (operation : Operation) (name : String) :
    (operation.perform response).headerValues name =
      operation.valuesAfter name (response.headerValues name) := by
  obtain ⟨status, headers, body, _, closed⟩ := response
  obtain rfl := uncommitted
  cases operation with
  | setHeader other value => exact headerValues_replaceHeader_eq_match _ other value name
  | setContentType type =>
      exact headerValues_replaceHeader_eq_match _ "Content-Type" type name
  | sendError status message =>
      exact headerValues_replaceHeader_eq_match _ "Content-Type" "text/plain" name
  | addHeader other value =>
      have appended : (Operation.addHeader other value).perform
          ⟨status, headers, body, false, closed⟩ =
            ⟨status, headers ++ [(other, value)], body, false, closed⟩ := rfl
      rw [appended, headerValues, headerValues, List.filter_append, List.map_append]
      cases named : sameUpToCase other name <;>
        simp [Operation.valuesAfter, Operation.replacement?, Operation.addition?, named]
  | setStatus | print | println | flush | close =>
      cases closed <;> exact (List.append_nil _).symm

/-- The operations among many that are performed before the response is committed. -/
def applied : Response → List Operation → List Operation
  | _, [] => []
  | response, operation :: operations =>
    let later := applied (operation.perform response) operations
    if response.committed then later else operation :: later

theorem applied_eq_self {operations : List Operation}
    (uncommitted : ∀ before operation after, operations = before ++ operation :: after →
      (response.run before).committed = false) :
    response.applied operations = operations := by
  induction operations generalizing response with
  | nil => rfl
  | cons operation operations ih =>
      have now : response.committed = false := uncommitted [] operation operations rfl
      have later : (operation.perform response).applied operations = operations := by
        apply ih
        rintro before next after rfl
        exact uncommitted (operation :: before) next after rfl
      rw [applied, now, later]
      rfl

theorem headerValues_run (response : Response) (operations : List Operation)
    (name : String) :
    (response.run operations).headerValues name =
      (response.applied operations).foldl (Operation.valuesAfter name)
        (response.headerValues name) := by
  induction operations generalizing response with
  | nil => rfl
  | cons operation operations ih =>
      rw [run, List.foldl_cons, ← run, ih, applied]
      cases committed : response.committed with
      | true =>
          have same : (operation.perform response).headerValues name =
              response.headerValues name := by
            rw [headerValues, headers_perform committed, headerValues]
          rw [same]
          rfl
      | false =>
          rw [headerValues_perform committed]
          rfl

theorem header?_eq_find? (response : Response) (name : String) :
    response.header? name =
      (response.headers.find? fun header => sameUpToCase header.1 name).map (·.2) := by
  rw [header?, headerValues, List.head?_map, List.head?_filter]

/-- However operations on headers are mixed and spelled, a header has the value of the last
operation that put one in the place of others, followed by those that were added since;
without such an operation it has the values it had, followed by those that were added. The
first of them is what a look-up finds. Of the operations those count that come before the
commitment, which an error is too. -/
theorem headerValues_of_applied (start : Response) (operations : List Operation)
    (name : String) :
    let applied := start.applied operations
    let later := start.run operations
    (∀ before operation after value, applied = before ++ operation :: after →
      operation.replacement? name = some value →
      (∀ other ∈ after, other.replacement? name = none) →
        later.headerValues name = value :: after.filterMap (·.addition? name) ∧
          later.header? name = some value) ∧
    ((∀ operation ∈ applied, operation.replacement? name = none) →
      later.headerValues name =
          start.headerValues name ++ applied.filterMap (·.addition? name) ∧
        later.header? name =
          (start.headerValues name ++ applied.filterMap (·.addition? name)).head?) ∧
    later.header? name =
      (later.headers.find? fun header => sameUpToCase header.1 name).map (·.2) ∧
    ((∀ before operation after, operations = before ++ operation :: after →
      (start.run before).committed = false) → applied = operations) := by
  intro applied later
  have told := headerValues_run start operations name
  refine ⟨?_, ?_, later.header?_eq_find? name, applied_eq_self⟩
  · intro before operation after value split replaced last
    have values : later.headerValues name =
        value :: after.filterMap (·.addition? name) := by
      refine told.trans ?_
      change applied.foldl _ _ = _
      rw [split, Operation.foldl_valuesAfter_of_last replaced last]
    refine ⟨values, ?_⟩
    rw [header?, values]
    rfl
  · intro kept
    have values := told.trans (Operation.foldl_valuesAfter_of_kept kept _)
    exact ⟨values, congrArg List.head? values⟩

/-- A note that is put in place of others and added to in three spellings, then an error,
and one more note that comes too late. -/
def noted : List Operation :=
  [.addHeader "content-type" "a/b", .setHeader "X-Note" "1", .addHeader "x-note" "2",
    .addHeader "X-NOTE" "2", .sendError .gone "no", .addHeader "x-note" "3"]

theorem headerValues_of_noted :
    (Response.default.run noted).headerValues "x-note" = ["1", "2", "2"] ∧
      (Response.default.run noted).headerValues "CONTENT-TYPE" = ["text/plain"] ∧
      (Response.default.run noted).header? "CONTENT-TYPE" = some "text/plain" := by
  obtain ⟨note, -⟩ := headerValues_of_applied .default noted "x-note"
  obtain ⟨type, -⟩ := headerValues_of_applied .default noted "CONTENT-TYPE"
  have applied : Response.default.applied noted = noted.take 5 := rfl
  rw [applied] at note type
  obtain ⟨notes, -⟩ := note (noted.take 1) (.setHeader "X-Note" "1")
    ((noted.take 5).drop 2) "1" rfl
    (by decide +kernel) (by decide +kernel)
  obtain ⟨types, first⟩ := type (noted.take 4) (.sendError .gone "no") [] "text/plain" rfl
    (by decide +kernel) nofun
  refine ⟨notes.trans ?_, types, first⟩
  decide +kernel

end ResourceDispatch.Http.Response
