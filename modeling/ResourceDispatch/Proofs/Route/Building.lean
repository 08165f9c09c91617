import ResourceDispatch.Dispatch.Controller
import ResourceDispatch.Proofs.Route.Ranking
import Mathlib.Data.Set.List

/-! Building a router. A template with a fault is warned of once and is inert: it matches
nothing and changes no other match. What keeps a router from being built is a template that
reaches the limit of parameters. -/

namespace ResourceDispatch

namespace Route

def leadingSegments : List (List Char) → List Segment
  | [] => []
  | text :: texts =>
    match Segment.ofChars text with
    | .ok s => s :: leadingSegments texts
    | .error _ => []

/-- Whether the segments of a template's route in front of its first fault reach the limit
of parameters. -/
def Overfull (template : String) : Prop :=
  let texts := Text.splitOn '/' (translate (rooted template.toList))
  parameterLimit ≤ (leadingSegments texts).countP (·.takesSegment)

instance (template : String) : Decidable (Overfull template) :=
  inferInstanceAs (Decidable (_ ≤ _))

def fault? (template : String) : Option Fault :=
  match compile (translate (rooted template.toList)) with
  | .faulty fault => some fault
  | _ => none

def warning (template : String) (fault : Fault) : Log.Record :=
  ⟨.warn, Router.logTarget,
    s!"Path template {Text.quoted template} cannot be compiled " ++
      s!"and will never match: {fault.message}"⟩

theorem readSegments_eq_tooManyParameters_iff :
    {texts : List (List Char)} → {seen : Nat} → seen < parameterLimit →
      (readSegments seen texts = .tooManyParameters ↔
        parameterLimit ≤ seen + (leadingSegments texts).countP (·.takesSegment))
  | [], seen, below => by
      simpa [readSegments, leadingSegments] using below
  | text :: texts, seen, below => by
      rw [readSegments, leadingSegments]
      cases Segment.ofChars text with
      | error fault => simpa using below
      | ok s =>
          have counted :
              seen + (s :: leadingSegments texts).countP (·.takesSegment) =
                (if s.takesSegment then seen + 1 else seen) +
                  (leadingSegments texts).countP (·.takesSegment) := by
            cases taken : s.takesSegment <;> simp [taken]
            omega
          dsimp only
          rw [counted]
          generalize (if s.takesSegment then seen + 1 else seen) = more
          split
          · simp only [true_iff]
            omega
          · rw [← readSegments_eq_tooManyParameters_iff (by omega)]
            split <;> simp_all

theorem compile_eq_tooManyParameters_iff {template : String} :
    compile (translate (rooted template.toList)) = .tooManyParameters ↔
      Overfull template := by
  have read (texts : List (List Char)) :
      readSegments 0 texts = .tooManyParameters ↔
        parameterLimit ≤ (leadingSegments texts).countP (·.takesSegment) := by
    rw [readSegments_eq_tooManyParameters_iff (by decide), Nat.zero_add]
  rw [Overfull, ← read, compile]
  split
  · rename_i segments found
    split <;> simp [found]
  · rfl

theorem ofTemplate?_isSome_iff {template : String} :
    (CompiledTemplate.ofTemplate? template).isSome ↔ ¬ Overfull template := by
  rw [← compile_eq_tooManyParameters_iff, CompiledTemplate.ofTemplate?]
  split <;> simp_all

theorem ofTemplate?_of_fault? {template : String} {fault : Fault}
    (faulty : fault? template = some fault) :
    CompiledTemplate.ofTemplate? template = some ⟨template, .error fault⟩ := by
  rw [fault?] at faulty
  rw [CompiledTemplate.ofTemplate?]
  split at faulty
  · rename_i other found
    cases faulty
    rw [found]
  · contradiction

theorem fault?_of_segments {template : String} {t : CompiledTemplate}
    (compiled : CompiledTemplate.ofTemplate? template = some t) :
    fault? template =
      match t.segments with
      | .error fault => some fault
      | .ok _ => none := by
  rw [CompiledTemplate.ofTemplate?] at compiled
  rw [fault?]
  split at compiled
  · contradiction
  · rename_i fault found
    cases compiled
    rw [found]
  · rename_i segments found
    cases compiled
    rw [found]

theorem not_overfull_of_fault? {template : String} {fault : Fault}
    (faulty : fault? template = some fault) : ¬ Overfull template := by
  rw [← ofTemplate?_isSome_iff, ofTemplate?_of_fault? faulty]
  rfl

namespace Router

variable {templates : List String} {router : Router}

theorem ofTemplates?_isSome_iff :
    (ofTemplates? templates).isSome ↔
      ∀ template ∈ templates, ¬ Overfull template := by
  constructor
  · intro isSome template member
    obtain ⟨router, built⟩ := Option.isSome_iff_exists.mp isSome
    obtain ⟨t, compiled⟩ := ofTemplate?_of_mem built member
    rw [← ofTemplate?_isSome_iff, compiled]
    rfl
  · intro fits
    have compiles : (Sorted.distinct templates).map CompiledTemplate.ofTemplate? ∈
        Set.range (List.map some) := by
      rw [Set.range_list_map]
      intro compiled member
      obtain ⟨template, listed, rfl⟩ := List.mem_map.mp member
      obtain ⟨t, found⟩ := Option.isSome_iff_exists.mp
        (ofTemplate?_isSome_iff.mpr (fits template (Sorted.mem_distinct.mp listed)))
      exact ⟨t, found.symm⟩
    obtain ⟨compiled, same⟩ := compiles
    have built : ofTemplates? templates = some ⟨compiled⟩ :=
      ofTemplates?_eq_some_iff.mpr same.symm
    rw [built]
    rfl

theorem alone?_of_fault? {template : String} {fault : Fault}
    (faulty : fault? template = some fault) (path : String) :
    alone? template path = none := by
  rw [alone?_eq, ofTemplate?_of_fault? faulty]
  rfl

theorem fault?_of_mem_ranked (built : ofTemplates? templates = some router)
    {path : String} {accepts : String → Bool} {m : Match}
    (member : m ∈ router.ranked path accepts) : fault? m.template = none := by
  obtain ⟨_, _, found⟩ := (mem_ranked_iff built).mp member
  cases faulty : fault? m.template with
  | none => rfl
  | some fault =>
      rw [alone?_of_fault? faulty] at found
      contradiction

def faults (router : Router) : List (String × Fault) :=
  router.templates.filterMap fun t => (fault? t.template).map (t.template, ·)

theorem mem_faults_iff (built : ofTemplates? templates = some router)
    {template : String} {fault : Fault} :
    (template, fault) ∈ router.faults ↔
      template ∈ templates ∧ fault? template = some fault := by
  simp only [faults, List.mem_filterMap, Option.map_eq_some_iff, Prod.mk.injEq]
  constructor
  · rintro ⟨t, member, _, found, rfl, rfl⟩
    exact ⟨((mem_templates_iff built).mp member).1, found⟩
  · rintro ⟨listed, found⟩
    exact ⟨⟨template, .error fault⟩,
      (mem_templates_iff built).mpr ⟨listed, ofTemplate?_of_fault? found⟩,
      fault, found, rfl, rfl⟩

theorem faults_nodup (built : ofTemplates? templates = some router) :
    (router.faults.map (·.1)).Nodup := by
  have ascending : router.faults.Pairwise fun first second => first.1 < second.1 := by
    refine List.pairwise_filterMap.mpr ((templates_ascending built).imp ?_)
    intro first second less one oneFound two twoFound
    obtain ⟨fault, _, rfl⟩ := Option.map_eq_some_iff.mp oneFound
    obtain ⟨other, _, rfl⟩ := Option.map_eq_some_iff.mp twoFound
    exact less
  refine List.pairwise_map.mpr (ascending.imp ?_)
  intro first second less equal
  exact String.lt_irrefl _ (equal ▸ less)

theorem warnings_eq (built : ofTemplates? templates = some router) :
    router.warnings = router.faults.map fun entry => warning entry.1 entry.2 := by
  rw [warnings, faults, List.map_filterMap]
  refine List.filterMap_congr fun t member => ?_
  rw [fault?_of_segments ((mem_templates_iff built).mp member).2]
  cases t.segments <;> rfl

/-- What a router does with the faulty ones among its templates: it warns of each of them
once, none of them ever matches, and whether they are there or not, everything else matches
as before. -/
structure Tolerates (router : Router) (templates : List String) : Prop where
  warned :
    ∃ faulty : List (String × Fault),
      (faulty.map (·.1)).Nodup ∧
      (∀ template fault, (template, fault) ∈ faulty ↔
        template ∈ templates ∧ fault? template = some fault) ∧
      router.warnings = faulty.map fun entry => warning entry.1 entry.2
  silent : ∀ path accepts, ∀ m ∈ router.ranked path accepts, fault? m.template = none
  inert : ∀ others : List String,
    (∀ template, fault? template = none → (template ∈ others ↔ template ∈ templates)) →
      ∃ other, ofTemplates? others = some other ∧
        ∀ path accepts, other.ranked path accepts = router.ranked path accepts

theorem ranked_of_faultless {others : List String}
    (built : ofTemplates? templates = some router)
    (same : ∀ template, fault? template = none →
      (template ∈ others ↔ template ∈ templates)) :
    ∃ other, ofTemplates? others = some other ∧
      ∀ path accepts, other.ranked path accepts = router.ranked path accepts := by
  have fits : ∀ template ∈ others, ¬ Overfull template := by
    intro template member
    cases faulty : fault? template with
    | some fault => exact not_overfull_of_fault? faulty
    | none =>
        have isSome : (ofTemplates? templates).isSome := by simp [built]
        exact ofTemplates?_isSome_iff.mp isSome template
          ((same template faulty).mp member)
  obtain ⟨other, otherBuilt⟩ :=
    Option.isSome_iff_exists.mp (ofTemplates?_isSome_iff.mpr fits)
  refine ⟨other, otherBuilt, fun path accepts => ?_⟩
  refine (ranked_precedes otherBuilt path accepts).eq_of_mem_iff
    (ranked_precedes built path accepts) fun m => ?_
  rw [mem_ranked_iff otherBuilt, mem_ranked_iff built]
  cases faulty : fault? m.template with
  | none => rw [same _ faulty]
  | some fault => simp [alone?_of_fault? faulty]

theorem tolerates (built : ofTemplates? templates = some router) :
    router.Tolerates templates where
  warned :=
    ⟨router.faults, faults_nodup built, fun _ _ => mem_faults_iff built,
      warnings_eq built⟩
  silent _ _ _ member := fault?_of_mem_ranked built member
  inert _ same := ranked_of_faultless built same

end Router

end Route

namespace Dispatch.Controller

open Route (Overfull Router fault?)

/-- A router, and with it a controller, is built exactly if no template is overfull, and
then it tolerates the faulty ones. -/
theorem ofRegistry?_tolerates (templates : List String) (registry : Registry σ) :
    ((∃ router, Router.ofTemplates? templates = some router) ↔
      ∀ template ∈ templates, ¬ Overfull template) ∧
    (∀ router ∈ Router.ofTemplates? templates, router.Tolerates templates) ∧
    ((∃ c, ofRegistry? registry = some c) ↔
      ∀ template ∈ registry.paths, ¬ Overfull template) ∧
    ∀ c ∈ ofRegistry? registry, c.router.Tolerates registry.paths := by
  have routers (templates : List String) :
      (∃ router, Router.ofTemplates? templates = some router) ↔
        ∀ template ∈ templates, ¬ Overfull template :=
    Option.isSome_iff_exists.symm.trans Router.ofTemplates?_isSome_iff
  unfold ofRegistry?
  simp only [Option.map_eq_some_iff]
  refine ⟨routers templates, fun _ built => Router.tolerates built, ?_, ?_⟩
  · rw [← routers registry.paths]
    exact ⟨fun ⟨_, router, built, _⟩ => ⟨router, built⟩,
      fun ⟨router, built⟩ => ⟨_, router, built, rfl⟩⟩
  · intro c made
    obtain ⟨router, built, rfl⟩ := Option.map_eq_some_iff.mp made
    exact Router.tolerates built

/-- Two parameters in one segment, a template without fault, a parameter for the rest in
front of a segment, and a parameter without name. -/
def flawed : Registry Unit :=
  ["{a}{b}", "count", "{rest*}/x", ":"].foldl .resource .empty

theorem ofRegistry?_tolerates_flawed :
    ∃ c counting, ofRegistry? flawed = some c ∧ c.router.Tolerates flawed.paths ∧
      Router.ofTemplates? ["count"] = some counting ∧
      c.router.ranked "count" (fun _ => true) =
        counting.ranked "count" (fun _ => true) := by
  obtain ⟨-, -, built, tolerates⟩ := ofRegistry?_tolerates [] flawed
  have fits : ∀ template ∈ flawed.paths, ¬ Overfull template := by decide +kernel
  have faultless : ∀ template ∈ flawed.paths,
      fault? template = none → template ∈ ["count"] := by
    decide +kernel
  have counted : ∀ template ∈ ["count"], template ∈ flawed.paths := by
    decide +kernel
  obtain ⟨c, made⟩ := built.mpr fits
  obtain ⟨counting, counts, same⟩ :=
    (tolerates c made).inert ["count"] fun template noFault =>
      ⟨counted template, fun member => faultless template member noFault⟩
  exact ⟨c, counting, made, tolerates c made, counts, (same "count" fun _ => true).symm⟩

theorem not_built_of_alphabet :
    ¬ (Router.ofTemplates?
      ["{a}/{b}/{c}/{d}/{e}/{f}/{g}/{h}/{i}/{j}/{k}/{l}/{m}/" ++
        "{n}/{o}/{p}/{q}/{r}/{s}/{t}/{u}/{v}/{w}/{x}/{y}/{z}"]).isSome := by
  intro isSome
  exact Router.ofTemplates?_isSome_iff.mp isSome _ List.mem_cons_self (by decide +kernel)

end Dispatch.Controller

end ResourceDispatch
