import ResourceDispatch.Proofs.Registry.Agreement

/-! Operations on the resource of one template. What such an operation answers, and what
becomes of the resource, hangs on that resource alone, and all others stay as they are.
Operations on two templates can therefore change places. -/

namespace ResourceDispatch

theorem Sorted.ofPairs_congr {pairs others : List (String × α)} (perm : pairs.Perm others)
    (distinct : (pairs.map (·.1)).Nodup) : ofPairs pairs = ofPairs others := by
  have moved : (ofPairs pairs).Perm (ofPairs others) :=
    (ofPairs_perm_of_nodup distinct).trans
      (perm.trans (ofPairs_perm_of_nodup ((perm.map _).nodup_iff.mp distinct)).symm)
  refine moved.eq_of_pairwise (fun first second _ _ less greater => ?_)
    (ascending_foldl_put pairs .nil) (ascending_foldl_put others .nil)
  exact absurd (String.lt_trans less greater) (String.lt_irrefl _)

namespace Registry

variable {σ : Type} {registry other : Registry σ} {path template : String}

section

variable {change : Resource σ → Resource σ}
  (keeps : ∀ resource, (change resource).path = resource.path)
include keeps

theorem get?_modify_self :
    (registry.modify path change).get? path = (registry.get? path).map change := by
  rw [get?_modify keeps]
  cases found : registry.get? path with
  | none => rfl
  | some resource => simp [path_of_get? found]

theorem get?_modify_of_ne (apart : template ≠ path) :
    (registry.modify path change).get? template = registry.get? template := by
  rw [get?_modify keeps]
  cases found : registry.get? template with
  | none => rfl
  | some resource => simp [path_of_get? found, apart]

end

theorem get?_ensure_self (new : Resource σ) :
    (registry.ensure new).get? new.path = some ((registry.get? new.path).getD new) := by
  unfold ensure
  cases found : registry.get? new.path with
  | some resource => exact found
  | none =>
      rw [get?] at found
      simp [get?, found]

theorem get?_ensure_of_ne {new : Resource σ} (apart : template ≠ new.path) :
    (registry.ensure new).get? template = registry.get? template := by
  unfold ensure
  split
  · rfl
  · simp [get?, apart.symm]

/-- A change with an answer that sees the resource of one template only and leaves all
others alone. -/
structure LocalAt (path : String) (act : Registry σ → Registry σ × α) : Prop where
  here : ∀ registry other, registry.get? path = other.get? path →
    (act registry).1.get? path = (act other).1.get? path ∧ (act registry).2 = (act other).2
  elsewhere : ∀ registry template, template ≠ path →
    (act registry).1.get? template = registry.get? template
  distinct : ∀ registry, registry.paths.Nodup → (act registry).1.paths.Nodup

namespace LocalAt

theorem look (view : Option (Resource σ) → α) :
    LocalAt path fun registry : Registry σ => (registry, view (registry.get? path)) where
  here _ _ same := ⟨same, congrArg view same⟩
  elsewhere _ _ _ := rfl
  distinct _ distinct := distinct

theorem ensure (new : Resource σ) :
    LocalAt new.path fun registry => (registry.ensure new, ()) where
  here _ _ same := ⟨by rw [get?_ensure_self, get?_ensure_self, same], rfl⟩
  elsewhere _ _ := get?_ensure_of_ne
  distinct _ distinct := nodup_paths_ensure distinct new

theorem modify (change : Resource σ → Resource σ)
    (keeps : ∀ resource, (change resource).path = resource.path)
    (view : Option (Resource σ) → α) :
    LocalAt path fun registry =>
      (registry.modify path change, view (registry.get? path)) where
  here _ _ same :=
    ⟨by rw [get?_modify_self keeps, get?_modify_self keeps, same], congrArg view same⟩
  elsewhere _ _ := get?_modify_of_ne keeps
  distinct registry distinct := by
    rw [registry.paths_modify path keeps]
    exact distinct

variable {act : Registry σ → Registry σ × α}

theorem andThenOf {next : α → Registry σ → Registry σ × β} (first : LocalAt path act)
    (condition : α → Prop) (answers : ∀ registry, condition (act registry).2)
    (later : ∀ answer, condition answer → LocalAt path (next answer)) :
    LocalAt path fun registry => next (act registry).2 (act registry).1 where
  here registry other same := by
    obtain ⟨kept, answered⟩ := first.here registry other same
    rw [answered]
    exact (later _ (answers other)).here _ _ kept
  elsewhere registry template apart :=
    ((later _ (answers registry)).elsewhere _ template apart).trans
      (first.elsewhere registry template apart)
  distinct registry distinct :=
    (later _ (answers registry)).distinct _ (first.distinct registry distinct)

theorem andThen {next : α → Registry σ → Registry σ × β} (first : LocalAt path act)
    (later : ∀ answer, LocalAt path (next answer)) :
    LocalAt path fun registry => next (act registry).2 (act registry).1 :=
  first.andThenOf (fun _ => True) (fun _ => trivial) fun answer _ => later answer

theorem map (isLocal : LocalAt path act) (view : α → β) :
    LocalAt path fun registry => ((act registry).1, view (act registry).2) where
  here registry other same :=
    (isLocal.here registry other same).imp_right (congrArg view)
  elsewhere := isLocal.elsewhere
  distinct := isLocal.distinct

theorem ofMapped {otherAct : Registry σ → Registry σ × α} (unmapped : LocalAt path act)
    (mapped : LocalAt path otherAct) :
    LocalAt path fun registry =>
      match registry.get? path with
      | none => act registry
      | some _ => otherAct registry where
  here registry other same := by
    rw [same]
    cases other.get? path with
    | none => exact unmapped.here registry other same
    | some resource => exact mapped.here registry other same
  elsewhere registry template apart := by
    split
    · exact unmapped.elsewhere registry template apart
    · exact mapped.elsewhere registry template apart
  distinct registry distinct := by
    split
    · exact unmapped.distinct registry distinct
    · exact mapped.distinct registry distinct

end LocalAt

/-- What can be done with the resource of one template. Entries that are registered are
amended at once, each by a chain of its own. A removal is asked of the registry, which
refuses it for a template that is not mapped, or of the resource. -/
inductive Operation (σ : Type) where
  | resource
  | resourceWith (tables : List (String × List (Entry σ)))
  | register (verb : String) (entry : Entry σ) (chain : List (Amendment σ))
  | registerAll (verb : String) (entries : List (Entry σ))
    (chains : List (List (Amendment σ)))
  | disable (verb : Option String) (consumes produces : Option (List String))
  | disableResource (verb : Option String) (consumes produces : Option (List String))
  | readonly
  | inTurn (first second : Operation σ)

inductive Answer (σ : Type) where
  | resource (found : Option (Resource σ))
  | entries (ends : List (Option (Except MappingError (Entry σ))))
  | refused (error : MappingError)
  | inTurn (first second : Answer σ)

def amendEach (registry : Registry σ) :
    List (Place × List (Amendment σ)) →
      Registry σ × List (Option (Except MappingError (Entry σ)))
  | [] => (registry, [])
  | (place, chain) :: rest =>
    let amended := registry.amend place chain
    let later := amended.1.amendEach rest
    (later.1, amended.2 :: later.2)

def perform (registry : Registry σ) (path : String) : Operation σ → Registry σ × Answer σ
  | .resource =>
    let made := registry.resource path
    (made, .resource (made.get? path))
  | .resourceWith tables =>
    let made := registry.resourceWith path tables
    (made, .resource (made.get? path))
  | .register verb entry chain =>
    let registered := registry.register path verb entry
    let amended := registered.1.amend registered.2 chain
    (amended.1, .entries [amended.2])
  | .registerAll verb entries chains =>
    let registered := registry.registerAll path verb entries
    let amended := registered.1.amendEach (registered.2.zip chains)
    (amended.1, .entries amended.2)
  | .disable verb consumes produces =>
    match registry.disable path verb consumes produces with
    | .ok disabled => (disabled, .resource (disabled.get? path))
    | .error error => (registry, .refused error)
  | .disableResource verb consumes produces =>
    let disabled := registry.modify path (·.disable verb consumes produces)
    (disabled, .resource (disabled.get? path))
  | .readonly =>
    let narrowed := registry.modify path (·.readonly)
    (narrowed, .resource (narrowed.get? path))
  | .inTurn first second =>
    let earlier := registry.perform path first
    let later := earlier.1.perform path second
    (later.1, .inTurn earlier.2 later.2)

namespace LocalAt

theorem made (new : Resource σ) (named : new.path = path) :
    LocalAt path fun registry : Registry σ =>
      (registry.ensure new, Answer.resource ((registry.ensure new).get? path)) := by
  subst named
  exact (ensure new).andThen fun _ => look Answer.resource

theorem changed (change : Resource σ → Resource σ)
    (keeps : ∀ resource, (change resource).path = resource.path) :
    LocalAt path fun registry : Registry σ =>
      (registry.modify path change,
        Answer.resource ((registry.modify path change).get? path)) :=
  (modify change keeps fun _ => ()).andThen fun _ => look Answer.resource

theorem register (verb : String) (entry : Entry σ) :
    LocalAt path fun registry : Registry σ => registry.register path verb entry := by
  let place (found : Option (Resource σ)) : Place :=
    ⟨path, verb, (found.map fun resource => (resource.register verb entry).2).getD 0⟩
  have registers : LocalAt path _ :=
    modify (fun resource => (resource.register verb entry).1) (fun _ => rfl) place
  exact (ensure (.new path)).andThen fun _ => registers

theorem registerAll (verb : String) (entries : List (Entry σ)) :
    LocalAt path fun registry : Registry σ => registry.registerAll path verb entries := by
  let places (found : Option (Resource σ)) : List Place :=
    ((found.map fun resource => (resource.registerAll verb entries).2).getD []).map
      fun index => ⟨path, verb, index⟩
  have registers : LocalAt path _ :=
    modify (fun resource => (resource.registerAll verb entries).1) (fun _ => rfl) places
  exact (ensure (.new path)).andThen fun _ => registers

theorem amend {place : Place} (here : place.path = path) (chain : List (Amendment σ)) :
    LocalAt path fun registry : Registry σ => registry.amend place chain := by
  subst here
  exact modify _ (fun resource => resource.path_amendAt place.verb place.index chain)
    fun found =>
    found.bind fun resource => (resource.amendAt place.verb place.index chain).2

theorem amendEach {chains : List (Place × List (Amendment σ))}
    (here : ∀ listed ∈ chains, listed.1.path = path) :
    LocalAt path fun registry : Registry σ => registry.amendEach chains := by
  induction chains with
  | nil => exact look fun _ => []
  | cons listed rest ih =>
      obtain ⟨first, others⟩ := List.forall_mem_cons.mp here
      exact (amend first listed.2).andThen fun answer => (ih others).map (answer :: ·)

theorem disable (verb : Option String) (consumes produces : Option (List String)) :
    LocalAt path fun registry : Registry σ =>
      registry.perform path (.disable verb consumes produces) := by
  have decided (registry : Registry σ) :
      registry.perform path (.disable verb consumes produces) =
        match registry.get? path with
        | none => (registry, Answer.refused (.unknownResource path))
        | some _ => registry.perform path (.disableResource verb consumes produces) := by
    rw [Registry.perform, Registry.disable]
    cases registry.get? path <;> rfl
  simp only [decided]
  apply ofMapped
  · exact look fun _ => Answer.refused (.unknownResource path)
  · exact changed (·.disable verb consumes produces) fun _ => rfl

theorem perform (operation : Operation σ) :
    LocalAt path fun registry => registry.perform path operation := by
  induction operation with
  | resource => exact made (.new path) rfl
  | resourceWith tables => exact made (.ofTables path tables) (Resource.path_ofTables ..)
  | register verb entry chain =>
      exact (register verb entry).andThenOf (·.path = path) (fun _ => rfl)
        fun place here =>
        (amend here chain).map fun answer => Answer.entries [answer]
  | registerAll verb entries chains =>
      have named (registry : Registry σ) :
          ∀ place ∈ (registry.registerAll path verb entries).2, place.path = path :=
        List.forall_mem_map.mpr fun _ _ => rfl
      have amends (places : List Place) (here : ∀ place ∈ places, place.path = path) :
          LocalAt path fun registry : Registry σ =>
            ((registry.amendEach (places.zip chains)).1,
              Answer.entries (registry.amendEach (places.zip chains)).2) :=
        (amendEach fun listed member => here _ (List.of_mem_zip member).1).map
          Answer.entries
      exact (registerAll verb entries).andThenOf _ named amends
  | disable verb consumes produces => exact disable verb consumes produces
  | disableResource verb consumes produces =>
      exact changed (·.disable verb consumes produces) fun _ => rfl
  | readonly => exact changed (·.readonly) fun _ => rfl
  | inTurn first second ihFirst ihSecond =>
      exact ihFirst.andThen fun answer => ihSecond.map (Answer.inTurn answer)

variable {act : Registry σ → Registry σ × α} {otherAct : Registry σ → Registry σ × β}
  {otherPath : String} (isLocal : LocalAt path act)
  (otherLocal : LocalAt otherPath otherAct)
include isLocal otherLocal

theorem answer_comm (apart : otherPath ≠ path) (registry : Registry σ) :
    (otherAct (act registry).1).2 = (otherAct registry).2 :=
  (otherLocal.here _ _ (isLocal.elsewhere registry otherPath apart)).2

theorem get?_comm_self (apart : path ≠ otherPath) (registry : Registry σ) :
    (otherAct (act registry).1).1.get? path = (act (otherAct registry).1).1.get? path := by
  rw [otherLocal.elsewhere _ path apart]
  exact (isLocal.here _ _ (otherLocal.elsewhere registry path apart).symm).1

theorem get?_comm (apart : path ≠ otherPath) (registry : Registry σ) (template : String) :
    (otherAct (act registry).1).1.get? template =
      (act (otherAct registry).1).1.get? template := by
  by_cases here : template = path
  · exact here ▸ isLocal.get?_comm_self otherLocal apart registry
  by_cases there : template = otherPath
  · exact there ▸ (otherLocal.get?_comm_self isLocal apart.symm registry).symm
  · rw [otherLocal.elsewhere _ _ there, isLocal.elsewhere _ _ here,
      isLocal.elsewhere _ _ here, otherLocal.elsewhere _ _ there]

end LocalAt

/-- Registries that cannot be told apart but by the order in which they list their
resources. -/
structure SameViews (registry other : Registry σ) : Prop where
  resources : registry.resources.Perm other.resources
  mapped : ∀ path, registry.get? path = other.get? path
  described : registry.describe = other.describe
  found : ∀ path verb consumes produces,
    registry.find? path verb consumes produces = other.find? path verb consumes produces
  located : ∀ path verb consumes produces,
    registry.locate? path verb consumes produces =
      other.locate? path verb consumes produces
  handlers : ∀ path verb, registry.handlers path verb = other.handlers path verb

theorem resources_perm_of_get? (distinct : registry.paths.Nodup)
    (otherDistinct : other.paths.Nodup)
    (same : ∀ path, registry.get? path = other.get? path) :
    registry.resources.Perm other.resources := by
  refine (List.perm_ext_iff_of_nodup distinct.of_map otherDistinct.of_map).mpr
    fun resource => ?_
  have mapped : resource ∈ registry.resources ∧ resource.path = resource.path ↔
      resource ∈ other.resources ∧ resource.path = resource.path := by
    rw [← get?_eq_some_iff distinct, ← get?_eq_some_iff otherDistinct, same]
  simpa using mapped

theorem describe_congr (distinct : registry.paths.Nodup)
    (perm : registry.resources.Perm other.resources) :
    registry.describe = other.describe := by
  rw [describe, describe, sorted, sorted, Sorted.ofPairs_congr (perm.map _)]
  rw [List.map_map]
  exact distinct

theorem sameViews_of_get? (distinct : registry.paths.Nodup)
    (otherDistinct : other.paths.Nodup)
    (same : ∀ path, registry.get? path = other.get? path) : registry.SameViews other := by
  have resources := resources_perm_of_get? distinct otherDistinct same
  refine ⟨resources, same, describe_congr distinct resources, ?_, ?_, ?_⟩
  · simp only [find?, same, implies_true]
  · simp only [locate?, same, implies_true]
  · simp only [handlers, same, implies_true]

theorem perform_sameViews (distinct : registry.paths.Nodup) {otherPath : String}
    (apart : path ≠ otherPath) (first second : Operation σ) :
    ((registry.perform path first).1.perform otherPath second).1.SameViews
      ((registry.perform otherPath second).1.perform path first).1 := by
  have one : LocalAt path fun registry => registry.perform path first := .perform first
  have two : LocalAt otherPath fun registry => registry.perform otherPath second :=
    .perform second
  exact sameViews_of_get? (two.distinct _ (one.distinct registry distinct))
    (one.distinct _ (two.distinct registry distinct)) (one.get?_comm two apart registry)

end Registry

end ResourceDispatch
