import AppManifest.Proofs.Description.Read
import AppManifest.Proofs.Description.Reading

/-!
# Reading parameter sets back

The schema that is written for a definition declares what the schema that the definition came from
does, so a section of types that is written for an app declares the types of the app
(`AppDescription.Declares.schemas_eq`), and a parameter set that is read back is the set that was
exported. But a workflow leaves a set without parameters out: the names that such a set requires are
lost in a workflow, and kept in a function (`AppDescription.parameterSets_readBack`).
-/

namespace AppManifest

/-- What the schemas of named definitions declare, one by one. -/
theorem Definition.asSchemas_eq (properties : List (String × Definition)) :
    Definition.asSchemas properties = Entries.mapValues Definition.asSchema properties := by
  induction properties with
  | nil => rfl
  | cons entry rest ih => rw [asSchemas, ih]; rfl

namespace Schema

variable {names : String → CustomType → Prop}

/-- What an object of a type declares depends on its properties and its items. -/
theorem ofJson_object {members : Entries Json} {type : String}
    (htype : members.lookup "type" = some (.string type)) :
    ofJson (.object members) = ofType type members ((members.lookup "properties").map ofObject?)
      ((members.lookup "items").map ofJson) := by
  rw [ofJson, text?_eq_some_iff.2 htype, properties?_eq, items?_eq]

/-- The schema that is written for a definition declares what the JSON value does that declared the
definition. -/
theorem asSchema_of_defines (hnames : ∀ {id type}, names id type → type.id = id) {json : Json}
    {definition : Definition} (h : (ofJson json).Defines names definition) :
    definition.asSchema = ofJson json := by
  refine definesInduction ?reference ?primitive ?untypedObject ?typedObject ?array h
  case reference =>
    intro members id type htype htype'
    rw [ofJson_object htype, ofType_reference, ← hnames htype']
    rfl
  case primitive =>
    intro members type htype hreference hobject harray
    rw [ofJson_object htype, ofType_primitive hreference hobject harray, Definition.asSchema,
      Kind.asSchema, PrimitiveType.name_ofName, if_neg hobject]
  case untypedObject =>
    intro members htype hproperties
    rw [ofJson_object htype, hproperties, Option.map_none, ofType_untypedObject]
    rfl
  case typedObject =>
    intro members properties definitions htype hproperties hentries
    have hschemas : Definition.asSchemas definitions = ofMembers properties := by
      rw [Definition.asSchemas_eq, ofMembers_eq]
      exact map_eq_of_forall₂ (hentries.imp fun _ _ hentry => Prod.ext hentry.1 hentry.2)
    rw [ofJson_object htype, hproperties, Option.map_some, ofObject?, ofType_typedObject,
      ← hschemas]
    rfl
  case array =>
    intro members items inner htype hitems hinner
    rw [ofJson_object htype, hitems, Option.map_some, ofType_array, ← hinner]
    rfl

/-- A schema that declares a definition is kept by its normal form. -/
theorem ofJson_normalForm (hnames : ∀ {id type}, names id type → type.id = id) {json : Json}
    {definition : Definition} (h : (ofJson json).Defines names definition) :
    ofJson json.normalForm = ofJson json := by
  rw [← schema_of_defines hnames h, definition.ofJson_schema (plain_of_defines h),
    asSchema_of_defines hnames h]

end Schema

variable {schemas : Table Schema}

/-- The schemas that are written for declared definitions declare them. -/
theorem DefinesTable.describe {values : Table Json} {table : Table Definition}
    (h : DefinesTable schemas values table) :
    DefinesTable schemas (table.map Definition.schema) table := by
  have hschemas : (table.map Definition.schema).map Schema.ofJson = values.map Schema.ofJson := by
    rw [h.map_schema, Table.map_map]
    refine Table.map_congr fun name json hjson => ?_
    obtain ⟨_, -, -, hdefines⟩ := exists_right_of_forall₂ (Schema.forall₂_of_definesAll h)
      (Table.get?_eq_some_iff.1 hjson)
    exact Schema.ofJson_normalForm Resolves.id_eq hdefines
  rw [DefinesTable, hschemas]
  exact h

/-- No schemas declare no definitions. -/
theorem DefinesTable.empty : DefinesTable schemas ∅ ∅ :=
  rfl

/-- What is described of a declared parameter set declares it. -/
theorem ParameterSetDescription.Declares.describe {description : ParameterSetDescription}
    {set : ParameterSet} (h : description.Declares schemas set) :
    set.describe.Declares schemas set := by
  obtain ⟨properties, hproperties, rfl⟩ := h
  exact ⟨properties, hproperties.describe, rfl⟩

/-- The parameter set that is left of a set in a workflow. -/
def ParameterSet.kept (set : ParameterSet) : ParameterSet :=
  if set.isEmpty then .empty else set

/-- All of a set is left unless it has no parameters and requires some. -/
theorem ParameterSet.kept_eq_self_iff {set : ParameterSet} :
    set.kept = set ↔ (set.isEmpty = true → set.required = []) := by
  rw [kept]
  split
  next hempty =>
    refine ⟨fun hkept _ => hkept ▸ rfl, fun hrequired => ?_⟩
    obtain ⟨properties, required⟩ := set
    obtain rfl : required = [] := hrequired hempty
    obtain rfl : properties = ∅ := Table.ext_entries (List.isEmpty_iff.1 hempty)
    rfl
  next hsome => simp [hsome]

/-- What is described of a declared parameter set in a workflow declares what is left of it. -/
theorem ParameterSetDescription.Declares.describeMember {description : ParameterSetDescription}
    {set : ParameterSet} (h : description.Declares schemas set) :
    set.describeMember.Declares schemas set.kept := by
  rw [ParameterSet.describeMember, ParameterSet.kept]
  split
  · exact ⟨∅, .empty, rfl⟩
  · exact h.describe

/-- The types that are written for a declared manifest have the schemas of the description. -/
theorem AppDescription.Declares.schemas_eq {app : AppDescription} {manifest : Manifest}
    (h : app.Declares manifest) :
    app.normalForm.sections.types.map Schema.ofJson = app.schemas := by
  rw [normalForm, schemas, Table.map_map]
  refine Table.map_congr fun id json hjson => ?_
  obtain ⟨type, -, htype⟩ := exists_right_of_forall₂ h.types (Table.mem_names_of_get? hjson)
  obtain ⟨schema, definition, hschema, hdefines, -⟩ := resolves_iff.1 htype
  rw [schemas, Table.get?_map, hjson, Option.map_some, Option.some.injEq] at hschema
  subst hschema
  exact Schema.ofJson_normalForm Resolves.id_eq hdefines

/-! ## Parameter sets in entries -/

namespace Layout

variable {δ : Type} {layout : Layout δ} {field : δ → ParameterSetDescription} {types : Table Json}
  {entry : Json} {set other : ParameterSet}

/-- An entry of a manifest, read in a layout, has this parameter set in a field, with references
resolved against a section of types. -/
def ReadsBack (layout : Layout δ) (field : δ → ParameterSetDescription) (types : Table Json)
    (entry : Json) (set : ParameterSet) : Prop :=
  ∃ description, layout.read.Gives entry description ∧
    ∀ owner, ((field description).toSet (types.map Schema.ofJson) owner).run' {} = .ok set

/-- A field that declares a parameter set has it. -/
theorem readsBack {description : δ} (hread : layout.read.Gives entry description)
    (h : (field description).Declares (types.map Schema.ofJson) set) :
    layout.ReadsBack field types entry set := by
  refine ⟨description, hread, fun owner => ?_⟩
  obtain ⟨final, hrun⟩ := ((field description).toSet_computes owner).complete .empty h
  rw [StateT.run'_eq, StateT.run, hrun]
  rfl

/-- A field has at most one parameter set. -/
theorem ReadsBack.unique (h : layout.ReadsBack field types entry set)
    (hother : layout.ReadsBack field types entry other) : set = other := by
  obtain ⟨description, hread, hset⟩ := h
  obtain ⟨_, hreadOther, hsetOther⟩ := hother
  cases (hread entry.depth le_rfl).symm.trans (hreadOther entry.depth le_rfl)
  exact Except.ok.inj ((hset "").symm.trans (hsetOther ""))

/-- A workflow does not write a parameter set without parameters. So the set that is read back is
the one that was written unless that had no parameters and required some, and is empty if there were
no parameters. -/
structure ReadsBackUnlessEmpty (layout : Layout δ) (field : δ → ParameterSetDescription)
    (types : Table Json) (entry : Json) (set : ParameterSet) : Prop where
  same_iff : layout.ReadsBack field types entry set ↔ (set.isEmpty = true → set.required = [])
  empty : set.isEmpty = true → layout.ReadsBack field types entry .empty

/-- What a workflow writes of a parameter set is read back as what is left of it. -/
theorem readsBackUnlessEmpty {description : δ} {original : ParameterSetDescription}
    (hread : layout.read.Gives entry description) (hfield : field description = set.describeMember)
    (h : original.Declares (types.map Schema.ofJson) set) :
    layout.ReadsBackUnlessEmpty field types entry set := by
  have hkept : layout.ReadsBack field types entry set.kept :=
    readsBack hread (hfield ▸ h.describeMember)
  refine ⟨?_, fun hempty => ?_⟩
  · rw [← ParameterSet.kept_eq_self_iff]
    exact ⟨hkept.unique, fun hself => hself ▸ hkept⟩
  · rwa [ParameterSet.kept, if_pos hempty] at hkept

end Layout

namespace AppDescription

/-- The manifest of a converted app, ordered as all that are read (`ordered_of_read`), is exported,
and the parameter sets of its functions and workflows are read back from the document, with
references resolved against the types in it. Those of functions are the exported ones. Those of
workflows are, unless a set has no parameters and requires some: then the empty set is read back. -/
theorem parameterSets_readBack {app : AppDescription} (hordered : app.Ordered)
    {conversion : Conversion} (h : app.toManifest = .ok conversion) :
    ∃ document, conversion.manifest.compile.result = .ok document ∧
      (∀ function ∈ conversion.manifest.functions,
        ∃ entry, document.sections.functions.get? function.id = some entry ∧
          FunctionDescription.layout.ReadsBack FunctionDescription.inputs document.sections.types
            entry function.inputs ∧
          FunctionDescription.layout.ReadsBack FunctionDescription.outputs document.sections.types
            entry function.outputs) ∧
      ∀ workflow ∈ conversion.manifest.workflows,
        ∃ entry, document.sections.workflows.get? workflow.id = some entry ∧
          WorkflowDescription.layout.ReadsBackUnlessEmpty WorkflowDescription.inputs
            document.sections.types entry workflow.inputParameters ∧
          WorkflowDescription.layout.ReadsBackUnlessEmpty WorkflowDescription.outputs
            document.sections.types entry workflow.outputParameters := by
  have hdeclares : app.Declares conversion.manifest := toManifest_iff.1 ⟨conversion, h, rfl⟩
  have hbuilt (part : Part) (hpart : conversion.manifest.Has part) : part.Built :=
    hdeclares.built hordered part (.declared (Manifest.mem_parts_iff.2 hpart))
  have hschemas := hdeclares.schemas_eq
  refine ⟨app.normalForm, hdeclares.compile_eq, fun function hfunction => ?_,
    fun workflow hworkflow => ?_⟩
  · have hread := AppFunction.gives (hbuilt (.function function) hfunction)
    have hentry := hdeclares.lists_functions.get?_map_id hfunction
    obtain ⟨_, -, hdeclared⟩ := exists_left_of_forall₂ hdeclares.functions hfunction
    obtain ⟨hinputs, houtputs⟩ := hdeclared.parameters
    rw [← hschemas] at hinputs houtputs
    exact ⟨_, hentry, Layout.readsBack hread hinputs.describe,
      Layout.readsBack hread houtputs.describe⟩
  · have hread := Workflow.Built.gives (hbuilt (.workflow workflow) hworkflow)
    have hentry := hdeclares.lists_workflows.get?_map_id hworkflow
    obtain ⟨_, -, hdeclared⟩ := exists_left_of_forall₂ hdeclares.workflows hworkflow
    obtain ⟨hinputs, houtputs⟩ := hdeclared.parameters
    rw [← hschemas] at hinputs houtputs
    exact ⟨_, hentry, Layout.readsBackUnlessEmpty hread rfl hinputs,
      Layout.readsBackUnlessEmpty hread rfl houtputs⟩

/-- An app with a function and a workflow that both require an issue that they do not declare. -/
def demanding : AppDescription where
  name := "demanding"
  functions := .ofList [("close", {
    title := "Close"
    sourceFile := "close.ts"
    inputs := { required := ["issue"] } })]
  workflows := .ofList [("triage", {
    title := "Triage"
    inputs := { required := ["issue"] } })]

/-- The function of the demanding app. -/
def demandingFunction : AppFunction where
  id := "close"
  title := "Close"
  sourceFile := "close.ts"
  inputs := { required := ["issue"] }

/-- The workflow of the demanding app. -/
def demandingWorkflow : Workflow :=
  .make "triage" "Triage" none { required := ["issue"] } {}

/-- The conversion of the demanding app. -/
def demandingConversion : Conversion :=
  ⟨{ name := "demanding", functions := [demandingFunction], workflows := [demandingWorkflow] },
    [.converted "demanding" 0]⟩

/-- The demanding app is converted. -/
theorem demanding_converts : demanding.toManifest = .ok demandingConversion :=
  rfl

/-- In the document of the demanding app, the workflow has no inputs, so those that were exported
are not read back. -/
theorem demanding_inputs_lost : ∃ document entry,
    demanding.toManifest = .ok demandingConversion ∧
    demandingConversion.manifest.compile.result = .ok document ∧
    demandingWorkflow ∈ demandingConversion.manifest.workflows ∧
    document.sections.workflows.get? demandingWorkflow.id = some entry ∧
    entry = .object [("steps", .array []), ("title", .string "Triage")] ∧
    ¬ WorkflowDescription.layout.ReadsBack WorkflowDescription.inputs document.sections.types entry
      demandingWorkflow.inputParameters := by
  have hbuilt : demandingWorkflow.Built :=
    ⟨trivial, trivial, (fun _ hstep => by cases hstep), [], rfl⟩
  have hdeclares : ({ required := ["issue"] } : ParameterSetDescription).Declares
      (demanding.normalForm.sections.types.map Schema.ofJson) demandingWorkflow.inputParameters :=
    ⟨∅, .empty, rfl⟩
  have hinputs : WorkflowDescription.layout.ReadsBackUnlessEmpty WorkflowDescription.inputs
      demanding.normalForm.sections.types demandingWorkflow.toJson
      demandingWorkflow.inputParameters :=
    Layout.readsBackUnlessEmpty hbuilt.gives rfl hdeclares
  refine ⟨_, _, demanding_converts, (toManifest_iff.1 ⟨_, demanding_converts, rfl⟩).compile_eq,
    List.mem_singleton_self _, rfl, rfl, fun hback => ?_⟩
  cases hinputs.same_iff.1 hback rfl

/-- In the document of the demanding app, the inputs of the function are read back, and the empty
set for the inputs of the workflow. -/
theorem demanding_function_kept : ∃ document entry rest,
    demandingConversion.manifest.compile.result = .ok document ∧
    document.sections.functions.get? demandingFunction.id = some entry ∧
    FunctionDescription.layout.ReadsBack FunctionDescription.inputs document.sections.types entry
      demandingFunction.inputs ∧
    document.sections.workflows.get? demandingWorkflow.id = some rest ∧
    WorkflowDescription.layout.ReadsBack WorkflowDescription.inputs document.sections.types rest
      .empty := by
  have hordered : demanding.Ordered := by
    refine ⟨.empty, fun id function h => ?_, fun id workflow h => ?_,
      (fun _ _ h => by cases h), (fun _ _ h => by cases h)⟩
    · cases List.mem_singleton.1 (Table.mem_of_get?_ofList h)
      exact ⟨.empty, .empty⟩
    · cases List.mem_singleton.1 (Table.mem_of_get?_ofList h)
      exact ⟨.empty, .empty, fun _ hstep => by cases hstep⟩
  obtain ⟨document, hdocument, hfunctions, hworkflows⟩ :=
    parameterSets_readBack hordered demanding_converts
  obtain ⟨entry, hentry, hinputs, -⟩ := hfunctions _ (List.mem_singleton_self _)
  obtain ⟨rest, hrest, hdropped, -⟩ := hworkflows _ (List.mem_singleton_self _)
  exact ⟨document, entry, rest, hdocument, hentry, hinputs, hrest, hdropped.empty rfl⟩

end AppDescription

end AppManifest
