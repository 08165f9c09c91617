import ResourceDispatch.Proofs.Http.Response
import ResourceDispatch.Proofs.Text.Utf8

namespace ResourceDispatch.Http.Response

/-- What can be done to a response whose flags and fields are out of reach. -/
inductive Operation where
  | setStatus (status : Status)
  | setHeader (name value : String)
  | addHeader (name value : String)
  | setContentType (type : String)
  | print (text : String)
  | println (text : String)
  | flush
  | close
  | sendError (status : Status) (message : String)

namespace Operation

def steps : Operation → List Step
  | setStatus status => [.setStatus status]
  | setHeader name value => [.setHeader name value]
  | addHeader name value => [.addHeader name value]
  | setContentType type => [.setContentType type]
  | print text => [.print text]
  | println text => Step.println text
  | flush => [.flush]
  | close => [.close]
  | sendError status message => [.sendError status message]

def perform (operation : Operation) (response : Response) : Response :=
  response.performAll operation.steps

def commits : Operation → Bool
  | flush | close | sendError _ _ => true
  | _ => false

def closes : Operation → Bool
  | close => true
  | _ => false

def appended : Operation → Bytes
  | print text => Utf8.bytes text
  | println text => Utf8.bytes (text ++ "\n")
  | _ => []

end Operation

def run (operations : List Operation) (response : Response) : Response :=
  operations.foldl (fun response operation => operation.perform response) response

def printed (operations : List Operation) : Bytes :=
  (operations.takeWhile (!·.closes)).flatMap (·.appended)

variable {response : Response}

theorem committed_perform (operation : Operation) (response : Response) :
    (operation.perform response).committed =
      (response.committed || operation.commits) := by
  obtain ⟨status, headers, body, committed, closed⟩ := response
  cases operation <;> cases committed <;> cases closed <;> rfl

theorem closed_perform (operation : Operation) (response : Response) :
    (operation.perform response).closed =
      (response.closed || operation.closes) := by
  obtain ⟨status, headers, body, committed, closed⟩ := response
  cases operation <;> cases committed <;> cases closed <;> rfl

theorem status_perform (committed : response.committed = true)
    (operation : Operation) :
    (operation.perform response).status = response.status := by
  obtain ⟨status, headers, body, _, closed⟩ := response
  obtain rfl := committed
  cases operation <;> cases closed <;> rfl

theorem headers_perform (committed : response.committed = true)
    (operation : Operation) :
    (operation.perform response).headers = response.headers := by
  obtain ⟨status, headers, body, _, closed⟩ := response
  obtain rfl := committed
  cases operation <;> cases closed <;> rfl

theorem body_perform (committed : response.committed = true)
    (unclosed : response.closed = false) (operation : Operation) :
    (operation.perform response).body =
      response.body ++ operation.appended := by
  obtain ⟨status, headers, body, _, _⟩ := response
  obtain rfl := committed
  obtain rfl := unclosed
  cases operation with
  | print text => rfl
  | println text =>
      change body ++ Utf8.bytes text ++ Utf8.bytes "\n" = _
      rw [List.append_assoc, Operation.appended, Utf8.bytes, Utf8.bytes,
        Utf8.bytes, ← Utf8.encode_append, String.toList_append]
  | setStatus | setHeader | addHeader | setContentType | flush | close
  | sendError => exact (List.append_nil body).symm

theorem Frozen.operation (frozen : response.Frozen) (operation : Operation) :
    operation.perform response = response :=
  frozen.performAll operation.steps

theorem Orderly.operation (orderly : response.Orderly) (operation : Operation) :
    (operation.perform response).Orderly := by
  intro closed
  rw [closed_perform, Bool.or_eq_true] at closed
  rw [committed_perform, Bool.or_eq_true]
  cases closed with
  | inl already => exact .inl (orderly already)
  | inr closes =>
      cases operation with
      | close => exact .inr rfl
      | _ => contradiction

theorem run_append (before more : List Operation) (response : Response) :
    response.run (before ++ more) = (response.run before).run more :=
  List.foldl_append ..

theorem flag_run {flag : Response → Bool} {sets : Operation → Bool}
    (step : ∀ operation response,
      flag (operation.perform response) = (flag response || sets operation))
    (operations : List Operation) (response : Response) :
    flag (response.run operations) = (flag response || operations.any sets) := by
  induction operations generalizing response with
  | nil => exact (Bool.or_false _).symm
  | cons operation operations ih =>
      rw [run, List.foldl_cons, ← run, ih, step, Bool.or_assoc, List.any_cons]

theorem run_keeps (kept : Response → Prop)
    (step : ∀ response, kept response →
      ∀ operation : Operation, kept (operation.perform response))
    (start : kept response) (operations : List Operation) :
    kept (response.run operations) :=
  List.foldlRecOn operations _ start fun response kept operation _ =>
    step response kept operation

theorem head_run (committed : response.committed = true)
    (operations : List Operation) :
    (response.run operations).status = response.status ∧
      (response.run operations).headers = response.headers := by
  apply And.right
  apply run_keeps fun later => later.committed = true ∧
    later.status = response.status ∧ later.headers = response.headers
  · intro later ⟨committed, status, headers⟩ operation
    rw [committed_perform, committed, status_perform committed,
      headers_perform committed]
    exact ⟨rfl, status, headers⟩
  · exact ⟨committed, rfl, rfl⟩

theorem Orderly.run (orderly : response.Orderly) (operations : List Operation) :
    (response.run operations).Orderly :=
  run_keeps Response.Orderly
    (fun _ orderly operation => orderly.operation operation) orderly operations

theorem Frozen.run (frozen : response.Frozen) (operations : List Operation) :
    response.run operations = response :=
  run_keeps (· = response)
    (fun _ same operation => same ▸ frozen.operation operation) rfl operations

theorem printed_cons (operation : Operation) (operations : List Operation) :
    printed (operation :: operations) =
      if operation.closes then [] else operation.appended ++ printed operations := by
  unfold printed
  rw [List.takeWhile_cons]
  cases operation.closes <;> rfl

theorem body_run (committed : response.committed = true)
    (unclosed : response.closed = false) (operations : List Operation) :
    (response.run operations).body = response.body ++ printed operations := by
  induction operations generalizing response with
  | nil => exact (List.append_nil _).symm
  | cons operation operations ih =>
      rw [run, List.foldl_cons, ← run, printed_cons]
      cases closes : operation.closes with
      | false =>
          rw [ih, body_perform committed unclosed, List.append_assoc]
          · rfl
          · rw [committed_perform, committed, Bool.true_or]
          · rw [closed_perform, unclosed, closes, Bool.false_or]
      | true =>
          have frozen : (operation.perform response).Frozen :=
            { committed := by rw [committed_perform, committed, Bool.true_or]
              closed := by rw [closed_perform, closes, Bool.or_true] }
          have nothing : operation.appended = [] := by
            cases operation with
            | close => rfl
            | _ => contradiction
          rw [frozen.run, body_perform committed unclosed, nothing]
          rfl

/-- The responses that there are: new ones, what the owner of one makes of its status,
headers and body, and what becomes of them by operations. -/
inductive Made : Response → Prop
  | new (status : Status) : Made (new status)
  | edited {response : Response} (made : Made response) (status : Status)
      (headers : List (String × String)) (body : Bytes) :
      Made { response with status, headers, body }
  | performed {response : Response} (made : Made response)
      (operation : Operation) : Made (operation.perform response)

theorem Made.orderly (made : response.Made) : response.Orderly := by
  induction made with
  | new status => exact orderly_new status
  | edited _ _ _ _ ih => exact ih
  | performed _ operation ih => exact ih.operation operation

structure Continues (operations : List Operation) (earlier later : Response) :
    Prop where
  committed : later.committed = true ↔
    earlier.committed = true ∨ ∃ operation ∈ operations, operation.commits
  closed : later.closed = true ↔
    earlier.closed = true ∨ ∃ operation ∈ operations, operation.closes
  status : earlier.committed = true → later.status = earlier.status
  headers : earlier.committed = true → later.headers = earlier.headers
  grown : earlier.committed = true → earlier.closed = false →
    later.body = earlier.body ++ printed operations
  final : earlier.closed = true → later.body = earlier.body

theorem Orderly.continues (orderly : response.Orderly)
    (operations : List Operation) :
    Continues operations response (response.run operations) where
  committed := by
    rw [flag_run committed_perform, Bool.or_eq_true, List.any_eq_true]
  closed := by
    rw [flag_run closed_perform, Bool.or_eq_true, List.any_eq_true]
  status committed := (head_run committed operations).1
  headers committed := (head_run committed operations).2
  grown committed unclosed := body_run committed unclosed operations
  final closed := by
    have frozen : response.Frozen := ⟨orderly closed, closed⟩
    rw [frozen.run]

/-- Whatever is done to a response, it stays committed and closed once it is, and is not
closed without being committed. From when it is committed its status and headers stay; its
body takes what is printed until it is closed, and nothing any more. -/
theorem continues_of_made {start : Response} (made : start.Made)
    (before more : List Operation) :
    let earlier := start.run before
    (earlier.closed = true → earlier.committed = true) ∧
      Continues more earlier (start.run (before ++ more)) := by
  intro earlier
  have orderly : earlier.Orderly := made.orderly.run before
  rw [run_append]
  exact ⟨orderly, orderly.continues more⟩

theorem continues_of_made_error :
    Made default ∧
      let before : List Operation := [.print "lost", .sendError .conflict "no"]
      let more : List Operation :=
        [.setStatus .ok, .println "!", .sendError .gone "late", .close,
          .print "later"]
      let earlier := default.run before
      let later := default.run (before ++ more)
      Continues more earlier later ∧ earlier.closed = false ∧
        later.status = .conflict ∧ later.body = Utf8.bytes "no!\n" ∧
        later.closed = true := by
  have made : Made default := .new .ok
  refine ⟨made, ?_⟩
  intro before more earlier later
  obtain ⟨-, continues⟩ := continues_of_made made before more
  exact ⟨continues, rfl, continues.status rfl, continues.grown rfl rfl,
    continues.closed.mpr (.inr ⟨.close, by simp [more], rfl⟩)⟩

end ResourceDispatch.Http.Response
