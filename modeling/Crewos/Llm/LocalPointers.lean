import Crewos.Llm.DecisionSchema

/-! # Local pointers of the bound schema

References are relocated together with the definitions; the pointers in the
mapping of a discriminator are not. -/

namespace Crewos.Llm

open Foundation Agent

/-- Every local pointer names a definition. -/
def Resolved (definitions : Dict) (schema : Json) : Prop :=
  ∀ rest ∈ Schema.pointers schema, ∃ definition,
    definitions.get? (Schema.nameOf rest) = some definition

/-- A tool whose local pointers resolve in its own definitions. -/
def Complete (tool : ToolSchema) : Prop := ∃ own,
  definitionsOf tool.parameters = some own ∧ Resolved own (.obj tool.parameters)

/-- The pointer names a relocated definition of the tool. -/
def NamesOwn (number : Nat) (own definitions : Dict) (rest : List Char) : Prop :=
  ∃ name definition, own.get? name = some definition ∧
    Schema.nameOf rest = toolPrefix number ++ name ∧
    definitions.get? (toolPrefix number ++ name) = some (relocate number definition)

/-- What the bound schema holds of a tool: its arguments and its definitions. -/
def PartOf (result definitions own : Dict) (number : Nat) (part : Json) : Prop :=
  argumentsOf result number = some part ∨ ∃ name definition,
    own.get? name = some definition ∧
      definitions.get? (toolPrefix number ++ name) = some part

/-- No local pointer of the bound schema dangles, and a tool's stay its own. -/
structure Intact (tools : List ToolSchema) (result definitions : Dict) : Prop where
  present : Resolved definitions (.obj result)
  own : ∀ number tool own, tools[number]? = some tool →
    definitionsOf tool.parameters = some own → ∀ part, PartOf result definitions own number part →
      ∀ rest ∈ Schema.pointers part, NamesOwn number own definitions rest

def Brings (tool : ToolSchema) (own : Dict) (source : Json) : Prop :=
  source = tool.arguments ∨ ∃ name, own.get? name = some source

/-- Every mapping of a discriminator points to relocated names already. -/
def MappedAhead (tools : List ToolSchema) : Prop := ∀ number tool own,
  tools[number]? = some tool → definitionsOf tool.parameters = some own →
    ∀ source, Brings tool own source → ∀ rest ∈ Schema.mapped source, ∃ name definition,
      own.get? name = some definition ∧ Schema.nameOf rest = toolPrefix number ++ name

/-! ## The pointers of a schema's fields -/

theorem stored_of_definitionsOf {schema definitions : Dict} {field : String × Json}
    (defines : definitionsOf schema = some definitions) (member : field ∈ definitions) :
    ("$defs", .obj definitions) ∈ schema := by
  unfold definitionsOf Dict.getD at defines
  cases found : schema.get? "$defs" with
  | none =>
      rw [found] at defines
      cases defines
      cases member
  | some value =>
      rw [found] at defines
      cases value <;> cases defines
      exact Dict.mem_of_get? found

theorem pointers_definitions {schema definitions : Dict}
    (defines : definitionsOf schema = some definitions) {rest : List Char}
    (member : rest ∈ Schema.pointers (.obj definitions)) :
    rest ∈ Schema.pointers (.obj schema) := by
  obtain ⟨field, stored, _⟩ := Schema.mem_pointers_obj.mp member
  exact Schema.mem_pointers_obj.mpr
    ⟨_, stored_of_definitionsOf defines stored, Schema.mem_fieldPointers member⟩

theorem Brings.pointers {tool : ToolSchema} {own : Dict} {source : Json}
    (brings : Brings tool own source) (defines : definitionsOf tool.parameters = some own)
    {rest : List Char} (member : rest ∈ Schema.pointers source) :
    rest ∈ Schema.pointers (.obj tool.parameters) := by
  rcases brings with rfl | ⟨name, stored⟩
  · obtain ⟨field, kept, pointer⟩ := Schema.mem_pointers_obj.mp member
    exact Schema.mem_pointers_obj.mpr ⟨field, List.mem_of_mem_filter kept, pointer⟩
  · exact pointers_definitions defines (Schema.mem_pointers_obj.mpr
      ⟨_, Dict.mem_of_get? stored, Schema.mem_fieldPointers member⟩)

theorem fieldPointers_own {number : Nat} {name : String} (owned : Own number name)
    (value : Json) : Schema.fieldPointers name value = Schema.pointers value := by
  obtain ⟨original, rfl⟩ := owned
  have registered := toolPrefix_registered number original
  refine Schema.fieldPointers_of_ne value (fun same => ?_) fun same => ?_ <;>
  · rw [same] at registered
    exact absurd registered (by decide)

theorem pointers_variant {number : Nat} {tool : ToolSchema} {rest : List Char}
    (member : rest ∈ Schema.pointers (variant number tool)) :
    rest ∈ Schema.pointers (relocate number tool.arguments) := by
  simpa [variant, Schema.pointers, Schema.refs, Schema.refsFields, Schema.refsItems,
    Schema.refTarget, Schema.mapped, Schema.mappedFields, Schema.mappedItems] using member

/-! ## The parts of a tool -/

section

variable {base definitions result : Dict} {tools : List ToolSchema} {number : Nat}
variable {tool : ToolSchema} {own : Dict}

theorem Bound.partOf_iff (bound : Bound base tools definitions)
    (resultDefines : definitionsOf result = some definitions)
    (picked : tools[number]? = some tool) (defines : definitionsOf tool.parameters = some own)
    {part : Json} : PartOf result definitions own number part ↔
      ∃ source, Brings tool own source ∧ part = relocate number source := by
  have arguments := bound.argumentsOf resultDefines picked
  have moved {name : String} {definition : Json} (stored : own.get? name = some definition) :
      definitions.get? (toolPrefix number ++ name) = some (relocate number definition) := by
    rw [bound.own picked defines, stored]
    rfl
  constructor
  · rintro (isArguments | ⟨name, definition, stored, found⟩)
    · rw [arguments] at isArguments
      exact ⟨_, .inl rfl, (Option.some.inj isArguments).symm⟩
    · rw [moved stored] at found
      exact ⟨definition, .inr ⟨name, stored⟩, (Option.some.inj found).symm⟩
  · rintro ⟨source, rfl | ⟨name, stored⟩, rfl⟩
    · exact .inl arguments
    · exact .inr ⟨name, source, stored, moved stored⟩

theorem Bound.namesOwn (bound : Bound base tools definitions)
    (picked : tools[number]? = some tool) (defines : definitionsOf tool.parameters = some own)
    {name : String} {definition : Json} {rest : List Char}
    (stored : own.get? name = some definition)
    (named : Schema.nameOf rest = toolPrefix number ++ name) :
    NamesOwn number own definitions rest := by
  refine ⟨name, definition, stored, named, ?_⟩
  rw [bound.own picked defines, stored]
  rfl

/-- References follow their definitions; what remains are the mappings. -/
theorem Bound.pointers_own (bound : Bound base tools definitions)
    (picked : tools[number]? = some tool) (defines : definitionsOf tool.parameters = some own)
    (resolved : Resolved own (.obj tool.parameters)) (ahead : MappedAhead tools)
    {source : Json} (brings : Brings tool own source) {rest : List Char}
    (member : rest ∈ Schema.pointers (relocate number source)) :
    NamesOwn number own definitions rest := by
  rcases Schema.mem_pointers_mapRefs.mp member with ⟨original, refers, rfl⟩ | isMapped
  · have pointer := brings.pointers defines (List.mem_append_left _ refers)
    obtain ⟨definition, stored⟩ := resolved original pointer
    refine bound.namesOwn picked defines stored ?_
    rw [Schema.nameOf_append (toolPrefix_verbatim number), String.ofList_toList]
  · obtain ⟨name, definition, stored, named⟩ :=
      ahead number tool own picked defines source brings rest isMapped
    exact bound.namesOwn picked defines stored named

theorem Bound.defined (bound : Bound base tools definitions)
    (nested : ∀ tool ∈ tools, Complete tool) {name : String} {definition : Json}
    (stored : base.get? name = some definition) : ∃ later, definitions.get? name = some later := by
  by_cases different : name = "ToolCallDecision"
  · obtain ⟨gathered, _, rfl⟩ := bound
    exact ⟨_, by rw [different, Dict.get?_set_same]⟩
  by_cases owned : ∃ number tool, tools[number]? = some tool ∧ Own number name
  · obtain ⟨number, tool, picked, original, rfl⟩ := owned
    obtain ⟨own, defines, _⟩ := nested tool (List.mem_of_getElem? picked)
    rw [bound.own picked defines, stored]
    cases (own.get? original).map (relocate number) with
    | none => exact ⟨definition, rfl⟩
    | some moved => exact ⟨moved, rfl⟩
  · obtain ⟨gathered, gathers, rfl⟩ := bound
    refine ⟨definition, ?_⟩
    rw [Dict.get?_set_other _ _ different, gathers.other, stored]
    intro index below theirs
    rw [Nat.zero_add] at theirs
    exact owned ⟨index, _, List.getElem?_eq_getElem below, theirs⟩

theorem Bound.pointers_definitions (bound : Bound base tools definitions)
    (nested : ∀ tool ∈ tools, Complete tool) {rest : List Char}
    (member : rest ∈ Schema.pointers (.obj definitions)) :
    rest ∈ Schema.pointers (.obj base) ∨ ∃ number tool own source,
      tools[number]? = some tool ∧ definitionsOf tool.parameters = some own ∧
        Brings tool own source ∧ rest ∈ Schema.pointers (relocate number source) := by
  obtain ⟨gathered, gathers, rfl⟩ := bound
  obtain ⟨field, stored, pointer⟩ := Schema.mem_pointers_obj.mp member
  rcases Dict.mem_set stored with kept | rfl
  · rcases gathers.stored field kept with kept | ⟨number, tool, own, picked, defines, moved⟩
    · exact .inl (Schema.mem_pointers_obj.mpr ⟨field, kept, pointer⟩)
    · rw [Nat.zero_add] at moved
      have owned := own_of_mem_movedDefinitions (List.mem_map_of_mem moved)
      rw [fieldPointers_own owned] at pointer
      obtain ⟨⟨name, source⟩, member, rfl⟩ := List.mem_map.mp moved
      have stored := Dict.get?_of_mem (tool.definitions_nodup defines) member
      exact .inr ⟨number, tool, own, source, picked, defines, .inr ⟨name, stored⟩, pointer⟩
  · rw [Schema.fieldPointers_of_ne _ (by simp) (by simp)] at pointer
    obtain ⟨union, isUnion, pointer⟩ := Schema.mem_pointers_obj.mp pointer
    rw [List.mem_singleton.mp isUnion,
      Schema.fieldPointers_of_ne _ (by simp) (by simp)] at pointer
    obtain ⟨item, isVariant, pointer⟩ := Schema.mem_pointers_arr.mp pointer
    obtain ⟨number, below, rfl⟩ := List.mem_mapIdx.mp isVariant
    obtain ⟨own, defines, _⟩ := nested _ (List.getElem_mem below)
    exact .inr ⟨number, _, own, _, List.getElem?_eq_getElem below, defines, .inl rfl,
      pointers_variant pointer⟩

end

/-- The local pointers of a bound schema are intact exactly when the tools'
mappings point to relocated names already. -/
theorem bound_schema_intact_iff {decision base : Dict} {tools : List ToolSchema}
    (defines : definitionsOf decision = some base) (resolved : Resolved base (.obj decision))
    (registered : tools ≠ []) (nested : ∀ tool ∈ tools, Complete tool) :
    ∃ result definitions, buildDocumentDecisionSchema decision tools = .ok result ∧
      definitionsOf result = some definitions ∧
      (Intact tools result definitions ↔ MappedAhead tools) := by
  obtain ⟨definitions, built, bound⟩ := buildDocumentDecisionSchema_bound defines registered
    fun tool member => (nested tool member).imp fun _ complete => complete.1
  have resultDefines := definitionsOf_set decision definitions
  refine ⟨_, definitions, built, resultDefines, ?_, ?_⟩
  · intro intact number tool own picked ownDefines source brings rest isMapped
    have part := (bound.partOf_iff resultDefines picked ownDefines).mpr ⟨source, brings, rfl⟩
    have pointer : rest ∈ Schema.pointers (relocate number source) :=
      Schema.mem_pointers_mapRefs.mpr (.inr isMapped)
    obtain ⟨name, definition, stored, named, _⟩ :=
      intact.own number tool own picked ownDefines _ part rest pointer
    exact ⟨name, definition, stored, named⟩
  · intro ahead
    have tool_own {number : Nat} {tool : ToolSchema} {own : Dict} {source : Json}
        {rest : List Char} (picked : tools[number]? = some tool)
        (ownDefines : definitionsOf tool.parameters = some own) (brings : Brings tool own source)
        (pointer : rest ∈ Schema.pointers (relocate number source)) :
        NamesOwn number own definitions rest := by
      obtain ⟨other, same, complete⟩ := nested tool (List.mem_of_getElem? picked)
      cases same.symm.trans ownDefines
      exact bound.pointers_own picked ownDefines complete ahead brings pointer
    constructor
    · intro rest member
      obtain ⟨field, stored, pointer⟩ := Schema.mem_pointers_obj.mp member
      have kept (inside : rest ∈ Schema.pointers (.obj decision)) :
          ∃ definition, definitions.get? (Schema.nameOf rest) = some definition := by
        obtain ⟨definition, stored⟩ := resolved rest inside
        exact bound.defined nested stored
      rcases Dict.mem_set stored with isDecision | rfl
      · exact kept (Schema.mem_pointers_obj.mpr ⟨field, isDecision, pointer⟩)
      rw [Schema.fieldPointers_of_ne _ (by simp) (by simp)] at pointer
      rcases bound.pointers_definitions nested pointer with
        isBase | ⟨number, tool, own, source, picked, ownDefines, brings, pointer⟩
      · exact kept (pointers_definitions defines isBase)
      · obtain ⟨name, definition, _, named, found⟩ := tool_own picked ownDefines brings pointer
        exact ⟨_, named ▸ found⟩
    · intro number tool own picked ownDefines part isPart rest pointer
      obtain ⟨source, brings, rfl⟩ :=
        (bound.partOf_iff resultDefines picked ownDefines).mp isPart
      exact tool_own picked ownDefines brings pointer

namespace Sample

/-- A tool with a tagged union: its definition is in a discriminator's mapping. -/
def pet : ToolSchema where
  name := "pet"
  parameters := [("$defs", .obj [("Cat", .obj [("type", .str "object")])]),
    ("properties", .obj [("pet", .obj [
      ("discriminator", .obj [("mapping", .obj [("cat", .str "#/$defs/Cat")]),
        ("propertyName", .str "kind")]),
      ("oneOf", .arr [.obj [("$ref", .str "#/$defs/Cat")]])])])]
  distinct := by
    intro definitions stored
    cases stored
    decide

theorem resolved_of_all {definitions : Dict} {schema : Json}
    (all : (Schema.pointers schema).all
      (fun rest => (definitions.get? (Schema.nameOf rest)).isSome) = true) :
    Resolved definitions schema := fun rest member =>
  Option.isSome_iff_exists.mp (List.all_eq_true.mp all rest member)

theorem decision_resolved : Resolved ((definitionsOf decision).getD []) (.obj decision) :=
  resolved_of_all (by decide)

theorem pet_complete : Complete pet := ⟨_, rfl, resolved_of_all (by decide)⟩

theorem text_complete : Complete text := ⟨_, rfl, resolved_of_all (by decide)⟩

end Sample

open Sample in
/-- Without a mapping the references stay intact. -/
theorem bound_schema_intact_iff_plain :
    ∃ result definitions, buildDocumentDecisionSchema decision [text] = .ok result ∧
      definitionsOf result = some definitions ∧ Intact [text] result definitions := by
  obtain ⟨result, definitions, built, defines, intact⟩ :=
    @bound_schema_intact_iff decision _ [text] rfl decision_resolved (by decide)
      fun tool member => List.mem_singleton.mp member ▸ text_complete
  refine ⟨result, definitions, built, defines, intact.mpr ?_⟩
  intro number tool own picked ownDefines source brings rest isMapped
  obtain ⟨rfl, rfl⟩ : number = 0 ∧ tool = text := by
    cases number with
    | zero => exact ⟨rfl, (Option.some.inj picked).symm⟩
    | succ number => cases picked
  cases ownDefines
  rcases brings with rfl | ⟨name, stored⟩
  · cases isMapped
  · rw [Dict.get?_cons] at stored
    split at stored <;> cases stored
    cases isMapped

open Sample in
/-- A mapping keeps pointing to a definition that was moved away. -/
theorem bound_schema_dangles :
    Resolved ((definitionsOf decision).getD []) (.obj decision) ∧ Complete pet ∧
      ∃ result definitions, buildDocumentDecisionSchema decision [pet] = .ok result ∧
        definitionsOf result = some definitions ∧
        "Cat".toList ∈ Schema.pointers (.obj result) ∧ definitions.get? "Cat" = none ∧
        ¬Intact [pet] result definitions := by
  have present : "Cat".toList ∈ Schema.pointers
      (.obj ((buildDocumentDecisionSchema decision [pet]).toOption.getD [])) := by
    decide
  have absent : ((definitionsOf ((buildDocumentDecisionSchema decision [pet]).toOption.getD
      [])).getD []).get? "Cat" = none := by
    decide
  refine ⟨decision_resolved, pet_complete, _, _, rfl, rfl, present, absent, fun intact => ?_⟩
  obtain ⟨definition, stored⟩ := intact.present _ present
  rw [show Schema.nameOf "Cat".toList = "Cat" by decide] at stored
  cases absent.symm.trans stored

end Crewos.Llm
