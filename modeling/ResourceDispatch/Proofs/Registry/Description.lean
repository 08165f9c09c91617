import ResourceDispatch.Proofs.Json.Shape
import ResourceDispatch.Registry.Descriptor

/-! A description of a registry is read back from its JSON text, with lists that are not
declared kept apart from empty ones. -/

namespace ResourceDispatch.Registry

open Json (Fills Starts Takes TakesField Value)

namespace HandlerDescriptor

def members (d : HandlerDescriptor) : List (String × Value) :=
  listField "consumes" d.consumes ++ listField "produces" d.produces ++
    [("before", .bool d.before), ("serve", .bool d.serve), ("catch", .bool d.rescue),
      ("finally", .bool d.conclude)]

theorem nodup_members (d : HandlerDescriptor) : (d.members.map (·.1)).Nodup := by
  obtain ⟨consumes, produces, before, serve, rescue, conclude⟩ := d
  cases consumes <;> cases produces <;> simp [members, listField]

theorem takes_list (items : List String) :
    Takes fields.list (.strings items) (some items) := by
  have starts : ∀ item ∈ items.map Value.string, Starts item :=
    List.forall_mem_map.mpr fun text _ => ⟨_, _, rfl, rfl, rfl⟩
  have taken : List.Forall₂ (Takes Json.readText) (items.map Value.string) items :=
    List.forall₂_map_left_iff.mpr (List.forall₂_same.mpr fun text _ =>
      Json.takes_readText text)
  exact (Json.takes_readList starts taken).readOptional ⟨_, _, rfl, rfl, rfl⟩

theorem fills_listField {d : HandlerDescriptor} {name : String}
    {field : Json.Field HandlerDescriptor}
    (change : Option (List String) → HandlerDescriptor)
    (known : fields.find? (·.name == name) = some field) (absent : change none = d)
    (read : ∀ items, Takes (field.read d) (.strings items) (change (some items)))
    (items : Option (List String)) :
    Fills fields d (listField name items) (change items) := by
  cases items with
  | none =>
      rw [absent]
      exact .nil
  | some items => exact .cons known (read items) .nil

theorem fills_lists (consumes produces : Option (List String)) :
    Fills fields empty (listField "consumes" consumes ++ listField "produces" produces)
      { empty with consumes, produces } := by
  have atConsumes : fields.find? (·.name == "consumes") = fields[0]? := by simp [fields]
  have atProduces : fields.find? (·.name == "produces") = fields[1]? := by simp [fields]
  have first := fills_listField (fun consumes => { empty with consumes }) atConsumes rfl
    (fun items => (takes_list items).map fun consumes => { empty with consumes }) consumes
  have second :=
    fills_listField (fun produces => { empty with consumes, produces }) atProduces rfl
      (fun items => (takes_list items).map fun produces =>
        { empty with consumes, produces }) produces
  exact first.append second

theorem fills_flags (d : HandlerDescriptor) (before serve rescue conclude : Bool) :
    Fills fields d
      [("before", .bool before), ("serve", .bool serve), ("catch", .bool rescue),
        ("finally", .bool conclude)]
      { d with before, serve, rescue, conclude } := by
  have atBefore : fields.find? (·.name == "before") = fields[2]? := by simp [fields]
  have atServe : fields.find? (·.name == "serve") = fields[3]? := by simp [fields]
  have atCatch : fields.find? (·.name == "catch") = fields[4]? := by simp [fields]
  have atFinally : fields.find? (·.name == "finally") = fields[5]? := by simp [fields]
  have flag (value : Bool) : Takes fields.flag (.bool value) value :=
    Json.takes_readBool value
  exact .cons atBefore ((flag before).map fun x => { d with before := x }) <|
    .cons atServe ((flag serve).map fun x => { d with before, serve := x }) <|
    .cons atCatch ((flag rescue).map fun x => { d with before, serve, rescue := x }) <|
    .cons atFinally ((flag conclude).map fun x =>
      { d with before, serve, rescue, conclude := x })
      .nil

theorem fills_members (d : HandlerDescriptor) : Fills fields empty d.members d :=
  (fills_lists d.consumes d.produces).append
    (fills_flags _ d.before d.serve d.rescue d.conclude)

theorem takes_read (d : HandlerDescriptor) : Takes read d.toJson d :=
  Json.takes_readRecord d.fills_members d.nodup_members

end HandlerDescriptor

namespace Description

/-- Templates, and the verbs of each, in strictly ascending order. -/
structure Ordered (description : Description) : Prop where
  templates : Sorted.Ascending description
  verbs : ∀ listed ∈ description, Sorted.Ascending listed.2

theorem takes_handlers (handlers : List HandlerDescriptor) :
    Takes (Json.readList HandlerDescriptor.read) (.array (handlers.map (·.toJson)))
      handlers := by
  apply Json.takes_readList
  · exact List.forall_mem_map.mpr fun d _ => ⟨_, _, rfl, rfl, rfl⟩
  · exact List.forall₂_map_left_iff.mpr (List.forall₂_same.mpr fun d _ => d.takes_read)

theorem takes_read {description : Description} (ordered : description.Ordered) :
    Takes read description.toJson description := by
  refine Json.takes_readDictionary ordered.templates
    (List.forall₂_map_left_iff.mpr (List.forall₂_same.mpr fun listed member => ⟨rfl, ?_⟩))
  refine Json.takes_readDictionary (ordered.verbs listed member)
    (List.forall₂_map_left_iff.mpr (List.forall₂_same.mpr fun table _ => ⟨rfl, ?_⟩))
  exact takes_handlers table.2

/-- A description is read back from its text, and no other has the same text. -/
theorem parse_toJson {description : Description} (ordered : description.Ordered) :
    parse (Utf8.bytes description.toJson.compact) = .ok description ∧
      ∀ other : Description, other.Ordered →
        (other.toJson.compact = description.toJson.compact ↔ other = description) := by
  have back := Json.readWhole_compact (takes_read ordered)
  refine ⟨back, fun other otherOrdered => ⟨fun same => ?_, fun same => by rw [same]⟩⟩
  have otherBack := Json.readWhole_compact (takes_read otherOrdered)
  rw [same, back] at otherBack
  exact (Except.ok.inj otherBack).symm

def varied : Description :=
  [("", []),
    ("\"\x7bid\x7d\"\\", [("", []), ("get",
      [⟨none, some [], true, false, false, true⟩,
        ⟨some [], none, false, true, false, false⟩,
        ⟨some ["a/b", "\n\x01é/\"\\"], some [""], true, true, true, true⟩])])]

def consuming (items : Option (List String)) : Description :=
  [("", [("get", [⟨items, none, false, false, false, false⟩])])]

theorem Ordered.consuming (items : Option (List String)) : (consuming items).Ordered :=
  ⟨List.pairwise_singleton _ _, fun _ listed =>
    List.mem_singleton.mp listed ▸ List.pairwise_singleton _ _⟩

theorem parse_toJson_varied :
    varied.Ordered ∧ parse (Utf8.bytes varied.toJson.compact) = .ok varied ∧
      (consuming none).toJson.compact ≠ (consuming (some [])).toJson.compact := by
  have ordered : varied.Ordered :=
    ⟨by unfold Sorted.Ascending; decide +kernel,
      by unfold Sorted.Ascending; decide +kernel⟩
  refine ⟨ordered, (parse_toJson ordered).1, fun same => ?_⟩
  have equal :=
    ((parse_toJson (Ordered.consuming (some []))).2 _ (Ordered.consuming none)).mp same
  exact absurd equal (by decide +kernel)

end Description

end ResourceDispatch.Registry
