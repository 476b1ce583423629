import Crewos.Agent.Contracts
import Crewos.Foundation.Printing
import Crewos.Foundation.Schema

/-! # Document decision schemas

The decision schema of document mode bound to the registered tools: each tool's
definitions are moved under a name of its own, and its references move along. -/

namespace Crewos.Llm

open Foundation Agent

/-- What a tool shows to a model of its name and arguments. The keys of a
dictionary are distinct. -/
structure ToolSchema where
  name : String
  parameters : Dict
  distinct : ∀ definitions, parameters.get? "$defs" = some (.obj definitions) →
    (definitions.map Prod.fst).Nodup

/-! ## The builder -/

/-- `RegisteredTool{number}_` -/
def toolPrefix (number : Nat) : String := "RegisteredTool" ++ toString number ++ "_"

/-- A local pointer starts with what is replaced, so its first occurrence is there. -/
def relocate (number : Nat) : Json → Json :=
  Schema.mapRefs fun rest => (toolPrefix number).toList ++ rest

/-- `definitions[name] = definition` -/
def assign (definitions : Json) (name : String) (definition : Json) : Except Exc Json :=
  match definitions with
  | .obj fields => .ok (.obj (Dict.set fields name definition))
  | _ => .error .typeError

/-- `arguments.pop("$defs", {})` -/
def nestedDefinitions (tool : ToolSchema) : Except Exc Dict :=
  match tool.parameters.getD "$defs" (.obj []) with
  | .obj definitions => .ok definitions
  | _ => .error (.other "AttributeError")

/-- What is left of the parameters. -/
def ToolSchema.arguments (tool : ToolSchema) : Json :=
  .obj (tool.parameters.filter fun field => field.1 ≠ "$defs")

def addDefinitions (number : Nat) (nested : Dict) (definitions : Json) : Except Exc Json :=
  nested.foldlM (fun definitions field =>
    assign definitions (toolPrefix number ++ field.1) (relocate number field.2)) definitions

def variant (number : Nat) (tool : ToolSchema) : Json :=
  .obj [("type", .str "object"), ("additionalProperties", .bool false),
    ("properties", .obj
      [("type", .obj [("const", .str "tool_call"), ("type", .str "string")]),
        ("name", .obj [("const", .str tool.name), ("type", .str "string")]),
        ("arguments", relocate number tool.arguments)]),
    ("required", .arr [.str "type", .str "name", .str "arguments"])]

/-- The loop over the tools, numbered from `number` on. -/
def addTools (number : Nat) : List ToolSchema → Json → Except Exc (Json × List Json)
  | [], definitions => .ok (definitions, [])
  | tool :: tools, definitions => do
      let nested ← nestedDefinitions tool
      let definitions ← addDefinitions number nested definitions
      let (definitions, variants) ← addTools (number + 1) tools definitions
      return (definitions, variant number tool :: variants)

def entry (fields : Dict) (key : String) : Except Exc Json :=
  match fields.get? key with
  | some value => .ok value
  | none => .error (.keyError key)

def keepsItem : Json → Except Exc Bool
  | .obj fields => .ok (Dict.get? fields "$ref" ≠ some (.str "#/$defs/ToolCallDecision"))
  | _ => .error (.other "AttributeError")

/-- Without tools the union loses the tool call. -/
def withoutTools (schema : Dict) : Except Exc Dict := do
  let items ← match ← entry schema "oneOf" with
    | .arr items => items.filterM keepsItem
    | _ => throw .typeError
  let schema := schema.set "oneOf" (.arr items)
  let discriminator ← match ← entry schema "discriminator" with
    | .obj fields => pure fields
    | _ => throw .typeError
  match ← entry discriminator "mapping" with
  | .obj mapping =>
      let mapping := mapping.filter fun field => field.1 ≠ "tool_call"
      return schema.set "discriminator" (.obj (Dict.set discriminator "mapping" (.obj mapping)))
  | _ => throw (.other "AttributeError")

/-- `build_document_decision_schema` -/
def buildDocumentDecisionSchema (decisionSchema : Dict) (tools : List ToolSchema) :
    Except Exc Dict :=
  if tools.isEmpty then withoutTools decisionSchema
  else do
    let (definitions, variants) ←
      addTools 0 tools (decisionSchema.getD "$defs" (.obj []))
    let definitions ← assign definitions "ToolCallDecision" (.obj [("oneOf", .arr variants)])
    return decisionSchema.set "$defs" definitions

/-! ## The definitions of a schema -/

def definitionsOf (schema : Dict) : Option Dict :=
  match schema.getD "$defs" (.obj []) with
  | .obj definitions => some definitions
  | _ => none

theorem ToolSchema.definitions_nodup {tool : ToolSchema} {own : Dict}
    (defines : definitionsOf tool.parameters = some own) : (own.map Prod.fst).Nodup := by
  unfold definitionsOf Dict.getD at defines
  cases stored : tool.parameters.get? "$defs" with
  | none =>
      rw [stored] at defines
      cases defines
      exact List.nodup_nil
  | some definitions =>
      rw [stored] at defines
      cases definitions <;> cases defines
      exact tool.distinct _ stored

theorem nestedDefinitions_of {tool : ToolSchema} {own : Dict}
    (defines : definitionsOf tool.parameters = some own) : nestedDefinitions tool = .ok own := by
  unfold definitionsOf at defines
  unfold nestedDefinitions
  split at defines <;> cases defines
  rfl

/-! ## Names -/

theorem toolPrefix_toList (number : Nat) :
    (toolPrefix number).toList = "RegisteredTool".toList ++ (Decimal.digits number ++ ['_']) := by
  simp only [toolPrefix, String.toList_append, List.append_assoc]
  rw [show (toString number).toList = Decimal.digits number from Nat.toList_repr]
  rfl

theorem toolPrefix_inj {left right : Nat} {name other : String}
    (same : toolPrefix left ++ name = toolPrefix right ++ other) : left = right ∧ name = other := by
  have chars := congrArg String.toList same
  simp only [String.toList_append, toolPrefix_toList, List.append_assoc] at chars
  have stops (rest : List Char) : Json.Stops (['_'] ++ rest) := ⟨'_', rest, rfl, by decide⟩
  obtain ⟨numbers, rests⟩ :=
    Json.digits_inj (stops _) (stops _) (List.append_cancel_left chars)
  exact ⟨numbers, String.toList_inj.mp (List.append_cancel_left rests)⟩

theorem toolPrefix_verbatim (number : Nat) : Schema.Verbatim (toolPrefix number).toList := by
  intro char member
  rw [toolPrefix_toList, List.mem_append, List.mem_append] at member
  rcases member with letter | digit | underscore
  · have letters : "RegisteredTool".toList.all (fun char => char != '/' && char != '~') = true := by
      decide
    simpa using List.all_eq_true.mp letters char letter
  · have digit := Decimal.isDigit_of_mem_digits digit
    constructor <;> rintro rfl <;> exact absurd digit (by decide)
  · rw [List.mem_singleton.mp underscore]
    decide

theorem toolPrefix_registered (number : Nat) (name : String) :
    "RegisteredTool".toList <+: (toolPrefix number ++ name).toList := by
  rw [String.toList_append, toolPrefix_toList, List.append_assoc]
  exact List.prefix_append _ _

/-- The names of a tool's definitions once they were moved. -/
def Own (number : Nat) (name : String) : Prop := ∃ original, name = toolPrefix number ++ original

theorem Own.number_eq {left right : Nat} {name : String} (first : Own left name)
    (second : Own right name) : left = right := by
  obtain ⟨_, rfl⟩ := first
  obtain ⟨_, same⟩ := second
  exact (toolPrefix_inj same).1

theorem not_own_toolCallDecision (number : Nat) : ¬Own number "ToolCallDecision" := by
  rintro ⟨original, same⟩
  have registered := toolPrefix_registered number original
  rw [← same] at registered
  exact absurd registered (by decide)

/-! ## The gathered definitions -/

def movedDefinitions (number : Nat) (own : Dict) : Dict :=
  own.map fun field => (toolPrefix number ++ field.1, relocate number field.2)

theorem addDefinitions_obj (number : Nat) (own fields : Dict) :
    addDefinitions number own (.obj fields) =
      .ok (.obj (fields.update (movedDefinitions number own))) := by
  induction own generalizing fields with
  | nil => rfl
  | cons field own induction =>
      rw [addDefinitions, List.foldlM_cons]
      exact induction (fields.set (toolPrefix number ++ field.1) (relocate number field.2))

theorem get?_movedDefinitions (number : Nat) (own : Dict) (name : String) :
    (movedDefinitions number own).get? (toolPrefix number ++ name) =
      (own.get? name).map (relocate number) := by
  induction own with
  | nil => rfl
  | cons field own induction =>
      rcases field with ⟨key, value⟩
      rw [movedDefinitions, List.map_cons, Dict.get?_cons, Dict.get?_cons]
      by_cases same : name = key
      · rw [if_pos same, if_pos (by rw [same])]
        rfl
      · have apart : toolPrefix number ++ name ≠ toolPrefix number ++ key := fun equal =>
          same (toolPrefix_inj equal).2
        rw [if_neg same, if_neg apart]
        exact induction

theorem own_of_mem_movedDefinitions {number : Nat} {own : Dict} {name : String}
    (member : name ∈ (movedDefinitions number own).map Prod.fst) : Own number name := by
  simp only [movedDefinitions, List.map_map, List.mem_map, Function.comp_apply] at member
  obtain ⟨field, _, rfl⟩ := member
  exact ⟨field.1, rfl⟩

theorem movedDefinitions_nodup (number : Nat) {own : Dict}
    (distinct : (own.map Prod.fst).Nodup) :
    ((movedDefinitions number own).map Prod.fst).Nodup := by
  have names : (movedDefinitions number own).map Prod.fst =
      (own.map Prod.fst).map (toolPrefix number ++ ·) := by
    simp [movedDefinitions, Function.comp_def]
  rw [names]
  exact distinct.map fun _ _ same => (toolPrefix_inj same).2

/-- What the tools numbered from `number` on make of the definitions `fields`. -/
structure Gathers (number : Nat) (tools : List ToolSchema) (fields result : Dict) : Prop where
  own : ∀ index tool own, tools[index]? = some tool →
    definitionsOf tool.parameters = some own → ∀ name,
      result.get? (toolPrefix (number + index) ++ name) =
        ((own.get? name).map (relocate (number + index))).or
          (fields.get? (toolPrefix (number + index) ++ name))
  other : ∀ name, (∀ index < tools.length, ¬Own (number + index) name) →
    result.get? name = fields.get? name
  stored : ∀ field ∈ result, field ∈ fields ∨ ∃ index tool own, tools[index]? = some tool ∧
    definitionsOf tool.parameters = some own ∧ field ∈ movedDefinitions (number + index) own

theorem Gathers.cons {number : Nat} {tool : ToolSchema} {tools : List ToolSchema}
    {own fields result : Dict} (defines : definitionsOf tool.parameters = some own)
    (gathers : Gathers (number + 1) tools (fields.update (movedDefinitions number own)) result) :
    Gathers number (tool :: tools) fields result where
  own := by
    intro index named theirs picked theirDefines name
    cases index with
    | zero =>
        cases picked
        cases defines.symm.trans theirDefines
        have later : ∀ index < tools.length,
            ¬Own (number + 1 + index) (toolPrefix number ++ name) := by
          intro index _ owned
          have same := owned.number_eq ⟨name, rfl⟩
          omega
        rw [Nat.add_zero, gathers.other _ later,
          Dict.get?_update _ (movedDefinitions_nodup number (tool.definitions_nodup defines)),
          get?_movedDefinitions]
    | succ index =>
        have found := gathers.own index named theirs picked theirDefines name
        have absent : toolPrefix (number + 1 + index) ++ name ∉
            (movedDefinitions number own).map Prod.fst := by
          intro member
          have same := (own_of_mem_movedDefinitions member).number_eq ⟨name, rfl⟩
          omega
        rw [Dict.get?_update_of_not_mem _ _ absent] at found
        rw [show number + (index + 1) = number + 1 + index by omega]
        exact found
  other := by
    intro name foreign
    have later : ∀ index < tools.length, ¬Own (number + 1 + index) name := by
      intro index below owned
      refine foreign (index + 1) (Nat.succ_lt_succ below) ?_
      rw [show number + (index + 1) = number + 1 + index by omega]
      exact owned
    have absent : name ∉ (movedDefinitions number own).map Prod.fst := fun member =>
      foreign 0 (Nat.succ_pos _) (own_of_mem_movedDefinitions member)
    rw [gathers.other name later, Dict.get?_update_of_not_mem _ _ absent]
  stored := by
    intro field member
    rcases gathers.stored field member with kept | ⟨index, named, theirs, picked, rest⟩
    · rcases Dict.mem_update kept with kept | moved
      · exact .inl kept
      · exact .inr ⟨0, tool, own, rfl, defines, moved⟩
    · refine .inr ⟨index + 1, named, theirs, picked, ?_⟩
      rw [show number + (index + 1) = number + 1 + index by omega]
      exact rest

theorem addTools_obj {tools : List ToolSchema}
    (nested : ∀ tool ∈ tools, ∃ own, definitionsOf tool.parameters = some own)
    (number : Nat) (fields : Dict) :
    ∃ result, addTools number tools (.obj fields) =
      .ok (.obj result, tools.mapIdx fun index => variant (number + index)) ∧
        Gathers number tools fields result := by
  induction tools generalizing number fields with
  | nil =>
      refine ⟨fields, rfl, ?_, fun _ _ => rfl, fun _ => .inl⟩
      intro index tool own picked
      cases picked
  | cons tool tools induction =>
      obtain ⟨own, defines⟩ := nested tool List.mem_cons_self
      obtain ⟨result, added, gathers⟩ :=
        induction (fun tool member => nested tool (List.mem_cons_of_mem _ member)) (number + 1)
          (fields.update (movedDefinitions number own))
      refine ⟨result, ?_, gathers.cons defines⟩
      have shifted : (fun index => variant (number + (index + 1))) =
          fun index => variant (number + 1 + index) := by
        funext index
        rw [show number + (index + 1) = number + 1 + index by omega]
      rw [addTools, nestedDefinitions_of defines]
      dsimp only [Bind.bind, Except.bind]
      rw [addDefinitions_obj]
      dsimp only
      rw [added, List.mapIdx_cons, shifted]
      rfl

/-! ## The bound schema -/

/-- The schema of the arguments in the variant of a tool. -/
def argumentsOf (schema : Dict) (number : Nat) : Option Json := do
  let definitions ← definitionsOf schema
  match ← (definitions.get? "ToolCallDecision").bind fun union => Schema.childOf union "oneOf" with
  | .arr variants => variants[number]?.bind (Schema.navigate ["properties", "arguments"])
  | _ => none

/-- The definitions of a schema bound to tools: what the tools make of the
schema's own, and the union of the variants. -/
def Bound (base : Dict) (tools : List ToolSchema) (definitions : Dict) : Prop :=
  ∃ gathered : Dict, Gathers 0 tools base gathered ∧
    definitions = gathered.set "ToolCallDecision"
      (.obj [("oneOf", .arr (tools.mapIdx variant))])

@[simp] theorem definitionsOf_set (schema definitions : Dict) :
    definitionsOf (schema.set "$defs" (.obj definitions)) = some definitions := by
  rw [definitionsOf, Dict.getD, Dict.get?_set_same]
  rfl

theorem buildDocumentDecisionSchema_bound {decision base : Dict} {tools : List ToolSchema}
    (defines : definitionsOf decision = some base) (registered : tools ≠ [])
    (nested : ∀ tool ∈ tools, ∃ own, definitionsOf tool.parameters = some own) :
    ∃ definitions : Dict, buildDocumentDecisionSchema decision tools =
      .ok (decision.set "$defs" (.obj definitions)) ∧ Bound base tools definitions := by
  have stored : decision.getD "$defs" (.obj []) = .obj base := by
    unfold definitionsOf at defines
    split at defines <;> cases defines
    assumption
  have some : tools.isEmpty = false := by simpa using registered
  obtain ⟨gathered, added, gathers⟩ := addTools_obj nested 0 base
  simp only [Nat.zero_add] at added
  refine ⟨Dict.set gathered "ToolCallDecision" (.obj [("oneOf", .arr (tools.mapIdx variant))]),
    ?_, gathered, gathers, rfl⟩
  rw [buildDocumentDecisionSchema, some, stored, added]
  rfl

section

variable {base definitions : Dict} {tools : List ToolSchema} {number : Nat} {tool : ToolSchema}

theorem Bound.other (bound : Bound base tools definitions) {name : String}
    (foreign : ∀ number, ¬Own number name) (different : name ≠ "ToolCallDecision") :
    definitions.get? name = base.get? name := by
  obtain ⟨gathered, gathers, rfl⟩ := bound
  rw [Dict.get?_set_other _ _ different]
  exact gathers.other name fun index _ => foreign _

theorem Bound.own (bound : Bound base tools definitions) (picked : tools[number]? = some tool)
    {own : Dict} (defines : definitionsOf tool.parameters = some own) (name : String) :
    definitions.get? (toolPrefix number ++ name) =
      ((own.get? name).map (relocate number)).or (base.get? (toolPrefix number ++ name)) := by
  obtain ⟨gathered, gathers, rfl⟩ := bound
  have different : toolPrefix number ++ name ≠ "ToolCallDecision" := fun same =>
    not_own_toolCallDecision number ⟨name, same.symm⟩
  have found := gathers.own number tool own picked defines name
  rw [Nat.zero_add] at found
  rw [Dict.get?_set_other _ _ different, found]

theorem Bound.moved (bound : Bound base tools definitions) (picked : tools[number]? = some tool)
    {own : Dict} (defines : definitionsOf tool.parameters = some own)
    (free : ∀ name, Own number name → base.get? name = none) :
    Schema.Moved (toolPrefix number).toList own definitions := by
  intro name
  rw [String.ofList_toList, bound.own picked defines, free _ ⟨name, rfl⟩, Option.or_none]
  rfl

theorem Bound.argumentsOf {schema : Dict} (bound : Bound base tools definitions)
    (defines : definitionsOf schema = some definitions) (picked : tools[number]? = some tool) :
    argumentsOf schema number = some (relocate number tool.arguments) := by
  obtain ⟨gathered, _, rfl⟩ := bound
  have variants : (tools.mapIdx variant)[number]? = some (variant number tool) := by
    rw [List.getElem?_mapIdx, picked]
    rfl
  have union : Schema.childOf (.obj [("oneOf", .arr (tools.mapIdx variant))]) "oneOf" =
      some (.arr (tools.mapIdx variant)) := rfl
  rw [Llm.argumentsOf, defines]
  simp only [Option.bind_eq_bind, Option.bind_some, Dict.get?_set_same, union, variants]
  rfl

end

/-- Tools keep the meaning of their argument schemas in the bound schema, nothing
of one tool reaches or replaces a definition of another, and the schema's own
definitions stay. -/
theorem bound_schema_keeps_meaning {decision base : Dict} {tools : List ToolSchema}
    (defines : definitionsOf decision = some base)
    (unregistered : ∀ name ∈ base.map Prod.fst, ¬"RegisteredTool".toList <+: name.toList)
    (registered : tools ≠ [])
    (nested : ∀ tool ∈ tools, ∃ own, definitionsOf tool.parameters = some own) :
    ∃ result definitions, buildDocumentDecisionSchema decision tools = .ok result ∧
      definitionsOf result = some definitions ∧
      (∀ number tool own, tools[number]? = some tool →
        definitionsOf tool.parameters = some own →
          ∃ arguments, argumentsOf result number = some arguments ∧
            (∀ fuel, Schema.unfold definitions fuel arguments =
              Schema.unfold own fuel tool.arguments) ∧
            (∀ name, definitions.get? (toolPrefix number ++ name) =
              (own.get? name).map (relocate number)) ∧
            ∀ part, (part = arguments ∨ ∃ name, Own number name ∧
                definitions.get? name = some part) →
              ∀ name, Schema.Reaches definitions part name →
                Own number name ∧ ∀ other, Own other name → other = number) ∧
      ∀ name definition, base.get? name = some definition → name ≠ "ToolCallDecision" →
        definitions.get? name = some definition := by
  have free (number : Nat) (name : String) (owned : Own number name) :
      base.get? name = none := by
    obtain ⟨original, rfl⟩ := owned
    by_contra stored
    obtain ⟨definition, stored⟩ := Option.ne_none_iff_exists'.mp stored
    have named := List.mem_map_of_mem (f := Prod.fst) (Dict.mem_of_get? stored)
    exact unregistered _ named (toolPrefix_registered number original)
  obtain ⟨definitions, built, bound⟩ :=
    buildDocumentDecisionSchema_bound defines registered nested
  have resultDefines := definitionsOf_set decision definitions
  refine ⟨_, definitions, built, resultDefines, ?_, ?_⟩
  · intro number tool own picked ownDefines
    have plain := toolPrefix_verbatim number
    have moved := bound.moved picked ownDefines (free number)
    have lookup (name : String) : definitions.get? (toolPrefix number ++ name) =
        (own.get? name).map (relocate number) := by
      rw [bound.own picked ownDefines, free number _ ⟨name, rfl⟩, Option.or_none]
    refine ⟨_, bound.argumentsOf resultDefines picked,
      fun fuel => Schema.unfold_moved plain moved fuel _, lookup, ?_⟩
    intro part isPart name reaches
    have relocated : ∃ source, part = relocate number source := by
      rcases isPart with isArguments | ⟨_, ⟨original, rfl⟩, stored⟩
      · exact ⟨_, isArguments⟩
      · rw [lookup] at stored
        obtain ⟨source, _, isPart⟩ := Option.map_eq_some_iff.mp stored
        exact ⟨source, isPart.symm⟩
    obtain ⟨source, rfl⟩ := relocated
    obtain ⟨original, isMoved, _⟩ := Schema.reaches_moved plain moved reaches
    rw [String.ofList_toList] at isMoved
    have owned : Own number name := ⟨original, isMoved⟩
    exact ⟨owned, fun other theirs => theirs.number_eq owned⟩
  · intro name definition stored different
    have foreign (number : Nat) : ¬Own number name := fun owned => by
      rw [free number name owned] at stored
      cases stored
    rw [bound.other foreign different, stored]

namespace Sample

def decision : Dict :=
  [("$defs", .obj [("DocumentFinalAnswerDecision", .obj [("type", .str "object")]),
    ("ToolCallDecision", .obj [("type", .str "object")])]),
    ("oneOf", .arr [.obj [("$ref", .str "#/$defs/DocumentFinalAnswerDecision")],
      .obj [("$ref", .str "#/$defs/ToolCallDecision")]])]

def tree : ToolSchema where
  name := "tree"
  parameters := [("$defs", .obj [("Common", .obj [("properties", .obj [("children",
      .obj [("items", .obj [("$ref", .str "#/$defs/Common")])])])])]),
    ("properties", .obj [("root", .obj [("$ref", .str "#/$defs/Common")])])]
  distinct := by
    intro definitions stored
    cases stored
    decide

def text : ToolSchema where
  name := "text"
  parameters := [("properties", .obj [("item", .obj [("$ref", .str "#/$defs/Common")])]),
    ("$defs", .obj [("Common", .obj [("type", .str "string")])])]
  distinct := by
    intro definitions stored
    cases stored
    decide

theorem nested : ∀ tool ∈ [tree, text], ∃ own, definitionsOf tool.parameters = some own := by
  intro tool member
  rcases List.mem_cons.mp member with rfl | member
  · exact ⟨_, rfl⟩
  · rw [List.mem_singleton.mp member]
    exact ⟨_, rfl⟩

end Sample

open Sample in
theorem bound_schema_keeps_meaning_clashing :
    ∃ result definitions, buildDocumentDecisionSchema decision [tree, text] = .ok result ∧
      definitionsOf result = some definitions ∧
      definitions.get? "RegisteredTool1_Common" = some (.obj [("type", .str "string")]) ∧
      ∃ arguments, argumentsOf result 0 = some arguments ∧
        ∀ fuel, Schema.unfold definitions fuel arguments =
          Schema.unfold ((definitionsOf tree.parameters).getD []) fuel tree.arguments := by
  obtain ⟨result, definitions, built, defines, bound, _⟩ :=
    @bound_schema_keeps_meaning decision _ [tree, text] rfl (by decide) (by decide) nested
  obtain ⟨arguments, found, same, _⟩ := bound 0 tree _ rfl rfl
  obtain ⟨_, _, _, lookup, _⟩ := bound 1 text _ rfl rfl
  exact ⟨result, definitions, built, defines, lookup "Common", arguments, found, same⟩

end Crewos.Llm
