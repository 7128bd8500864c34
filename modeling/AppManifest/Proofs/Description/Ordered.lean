import AppManifest.Proofs.Description.Acceptance
import AppManifest.Proofs.Description.Compilation
import AppManifest.Proofs.Manifest.Contents

/-!
# Manifests of ordered descriptions

A description is ordered if its JSON values list names in ascending order. What a schema declares is
plain, because the names of arrays and references are never taken for primitive types, and ordered
if the schema is. So a manifest that is declared is plain, and built if the description is ordered
(`AppDescription.Declares.plain`, `AppDescription.Declares.built`).
-/

namespace AppManifest

/-- Every value of the table is ordered. -/
def OrderedTable (values : Table Json) : Prop :=
  ∀ name json, values.get? name = some json → json.Ordered

/-- The schemas of both parameter sets are ordered. -/
structure FunctionDescription.Ordered (function : FunctionDescription) : Prop where
  inputs : OrderedTable function.inputs.properties
  outputs : OrderedTable function.outputs.properties

/-- The schemas of both parameter sets and the inputs of the steps are ordered. -/
structure WorkflowDescription.Ordered (workflow : WorkflowDescription) : Prop where
  inputs : OrderedTable workflow.inputs.properties
  outputs : OrderedTable workflow.outputs.properties
  steps : ∀ step ∈ workflow.steps, OrderedTable step.inputs

/-- All JSON values of the description list names in ascending order. -/
structure AppDescription.Ordered (app : AppDescription) : Prop where
  types : OrderedTable app.types
  functions : ∀ id function, app.functions.get? id = some function → function.Ordered
  workflows : ∀ id workflow, app.workflows.get? id = some workflow → workflow.Ordered
  datastores : ∀ id datastore, app.datastores.get? id = some datastore →
    OrderedTable datastore.attributes
  providers : ∀ key provider, app.providerTable.get? key = some provider →
    provider.options.Ordered

/-- The member of an ordered object is ordered. -/
theorem Json.Ordered.lookup {members : Entries Json} (h : (Json.object members).Ordered)
    {name : String} {value : Json} (hvalue : members.lookup name = some value) : value.Ordered := by
  cases h with
  | object _ hmembers => exact hmembers _ (Entries.mem_of_lookup hvalue)

/-- The annotations of an ordered schema are ordered. -/
theorem Schema.ordered_annotations {members : Entries Json} (h : (Json.object members).Ordered) :
    (annotations members).Ordered :=
  fun _ hdefault => h.lookup hdefault

/-- The type that a name stands for is plain, unless it is the name of arrays or a reference. -/
theorem PrimitiveType.plain_ofName {name : String} (hreference : Reference.typeId? name = none)
    (harray : name ≠ "array") : (ofName name).Plain := by
  intro other hother
  have hname : name = other := by
    rw [← name_ofName name, hother]
    rfl
  subst hname
  refine ⟨harray, fun id hid => ?_⟩
  cases hreference.symm.trans (Reference.typeId?_eq_some_iff.2 hid)

namespace Schema

variable {names : String → CustomType → Prop}

/-- What a JSON value declares as a schema is plain. -/
theorem plain_of_defines {json : Json} {definition : Definition}
    (h : (ofJson json).Defines names definition) : definition.Plain := by
  refine definesInduction ?reference ?primitive ?untypedObject ?typedObject ?array h
  case reference =>
    intros
    trivial
  case primitive =>
    intro members type htype hreference hobject harray
    exact PrimitiveType.plain_ofName hreference harray
  case untypedObject =>
    intros
    trivial
  case typedObject =>
    intro members properties definitions htype hproperties hentries
    refine Definition.arePlain_iff.2 fun entry hentry => ?_
    obtain ⟨_, -, -, hplain⟩ := exists_left_of_forall₂ hentries hentry
    exact hplain
  case array =>
    intro members items inner htype hitems hinner
    exact hinner

/-- What an ordered JSON value declares as a schema is ordered. -/
theorem ordered_of_defines {json : Json} {definition : Definition}
    (h : (ofJson json).Defines names definition) (hordered : json.Ordered) :
    definition.Ordered := by
  revert hordered
  refine definesInduction ?reference ?primitive ?untypedObject ?typedObject ?array h
  case reference =>
    intro members id type htype hnames hordered
    exact ⟨trivial, ordered_annotations hordered⟩
  case primitive =>
    intro members type htype hreference hobject harray hordered
    exact ⟨trivial, ordered_annotations hordered⟩
  case untypedObject =>
    intro members htype hproperties hordered
    exact ⟨trivial, ordered_annotations hordered⟩
  case typedObject =>
    intro members properties definitions htype hproperties hentries hordered
    cases hordered.lookup hproperties with
    | object hascending hvalues =>
        have hdefinitions : Definition.AreOrdered definitions := by
          refine Definition.areOrdered_iff.2 fun entry hentry => ?_
          obtain ⟨property, hproperty, -, hdefinition⟩ := exists_left_of_forall₂ hentries hentry
          exact hdefinition (hvalues property hproperty)
        -- the definitions have the names of the schemas, hence their order
        have hnames : Entries.names definitions = Entries.names properties :=
          map_eq_of_forall₂ (hentries.imp fun _ _ hentry => hentry.1)
        exact ⟨⟨hascending.of_names hnames, hdefinitions⟩, ordered_annotations hordered⟩
  case array =>
    intro members items inner htype hitems hinner hordered
    exact ⟨hinner (hordered.lookup hitems), ordered_annotations hordered⟩

end Schema

variable {schemas : Table Schema}

namespace DefinesTable

variable {values : Table Json} {table : Table Definition}

/-- The definitions that named schemas declare are plain. -/
theorem plain (h : DefinesTable schemas values table) : Definition.ArePlain table.entries := by
  refine Definition.arePlain_iff.2 fun entry hentry => ?_
  obtain ⟨_, -, -, hdefines⟩ := exists_left_of_forall₂ (Schema.forall₂_of_definesAll h) hentry
  exact Schema.plain_of_defines hdefines

/-- The definitions that ordered named schemas declare are ordered. -/
theorem ordered (h : DefinesTable schemas values table) (hvalues : OrderedTable values) :
    Definition.AreOrdered table.entries := by
  refine Definition.areOrdered_iff.2 fun entry hentry => ?_
  obtain ⟨schema, hschema, -, hdefines⟩ :=
    exists_left_of_forall₂ (Schema.forall₂_of_definesAll h) hentry
  exact Schema.ordered_of_defines hdefines (hvalues _ _ (Table.get?_eq_some_iff.2 hschema))

end DefinesTable

/-- The parameters that a parameter set declares are plain. -/
theorem ParameterSetDescription.Declares.plain {description : ParameterSetDescription}
    {set : ParameterSet} (h : description.Declares schemas set) :
    Definition.ArePlain set.properties.entries := by
  obtain ⟨properties, hproperties, rfl⟩ := h
  exact hproperties.plain

/-- The parameters that a parameter set of ordered schemas declares are ordered. -/
theorem ParameterSetDescription.Declares.ordered {description : ParameterSetDescription}
    {set : ParameterSet} (h : description.Declares schemas set)
    (hvalues : OrderedTable description.properties) : set.Ordered := by
  obtain ⟨properties, hproperties, rfl⟩ := h
  exact hproperties.ordered hvalues

/-- What holds of every definition that the schema of an id declares holds of the definition of the
type that the id names, if titles and descriptions do not bear on it. -/
theorem Resolves.definition_of {motive : Definition → Prop} {types : Table Json}
    (hnotes : ∀ kind notes, motive ⟨kind, notes⟩ →
      motive ⟨kind, { notes with title := none, description := none }⟩)
    {id : String} {type : CustomType} (h : Resolves (types.map Schema.ofJson) id type)
    (hdefined : ∀ {json}, types.get? id = some json → ∀ {definition},
      (Schema.ofJson json).Defines (Resolves (types.map Schema.ofJson)) definition →
      motive definition) : motive type.definition := by
  obtain ⟨schema, ⟨kind, notes⟩, hschema, hdefines, rfl⟩ := resolves_iff.1 h
  rw [Table.get?_map, Option.map_eq_some_iff] at hschema
  obtain ⟨json, hjson, rfl⟩ := hschema
  exact hnotes kind notes (hdefined hjson hdefines)

namespace AppDescription.Declares

variable {app : AppDescription} {manifest : Manifest}

/-- A declared manifest is plain. -/
theorem plain (h : app.Declares manifest) : manifest.Plain := by
  intro part hpart
  rw [h.closed.contains_iff, Manifest.mem_parts_iff] at hpart
  cases part with
  | function entity =>
      obtain ⟨_, -, _, hinputs, _, houtputs, rfl⟩ := exists_left_of_forall₂ h.functions hpart
      exact ⟨hinputs.plain, houtputs.plain⟩
  | type entity =>
      obtain ⟨_, -, hentity⟩ := exists_left_of_forall₂ h.types hpart
      exact hentity.definition_of (fun _ _ hkind => hkind) fun _ => Schema.plain_of_defines
  | workflow entity =>
      obtain ⟨_, -, _, hinputs, _, houtputs, rfl⟩ := exists_left_of_forall₂ h.workflows hpart
      rw [Part.Plain, WorkflowDescription.build, Workflow.addSteps_make]
      exact ⟨hinputs.plain, houtputs.plain⟩
  | datastore entity =>
      obtain ⟨_, -, _, hattributes, rfl⟩ := exists_left_of_forall₂ h.datastores hpart
      exact hattributes.plain
  | provider entity => trivial

/-- The manifest that an ordered description declares is built. -/
theorem built (h : app.Declares manifest) (hordered : app.Ordered) : manifest.Built := by
  intro part hpart
  rw [h.closed.contains_iff, Manifest.mem_parts_iff] at hpart
  cases part with
  | function entity =>
      obtain ⟨entry, hentry, _, hinputs, _, houtputs, rfl⟩ :=
        exists_left_of_forall₂ h.functions hpart
      have hfunction := hordered.functions _ _ (Table.get?_eq_some_iff.2 hentry)
      exact ⟨hinputs.ordered hfunction.inputs, houtputs.ordered hfunction.outputs⟩
  | type entity =>
      obtain ⟨_, -, hentity⟩ := exists_left_of_forall₂ h.types hpart
      refine hentity.definition_of (fun kind notes hkind => ⟨hkind.1, hkind.2⟩) ?_
      intro json hjson definition hdefines
      exact Schema.ordered_of_defines hdefines (hordered.types _ _ hjson)
  | workflow entity =>
      obtain ⟨entry, hentry, _, hinputs, _, houtputs, rfl⟩ :=
        exists_left_of_forall₂ h.workflows hpart
      have hworkflow := hordered.workflows _ _ (Table.get?_eq_some_iff.2 hentry)
      refine Workflow.built_addSteps (hinputs.ordered hworkflow.inputs)
        (houtputs.ordered hworkflow.outputs) fun addition haddition name input hinput => ?_
      obtain ⟨step, hstep, rfl⟩ := List.mem_map.1 haddition
      rw [StepDescription.toStep, Table.get?_map, Option.map_eq_some_iff] at hinput
      obtain ⟨json, hjson, rfl⟩ := hinput
      have hliteral := hworkflow.steps step hstep _ _ hjson
      exact hliteral
  | datastore entity =>
      obtain ⟨entry, hentry, _, hattributes, rfl⟩ := exists_left_of_forall₂ h.datastores hpart
      exact hattributes.ordered (hordered.datastores _ _ (Table.get?_eq_some_iff.2 hentry))
  | provider entity =>
      obtain ⟨entry, hentry, -, hwrite⟩ := exists_left_of_forall₂ h.lists_providers hpart
      simp only [Provider.toJson, ProviderDescription.normalForm_eq, Json.object.injEq,
        List.cons.injEq, Prod.mk.injEq] at hwrite
      obtain ⟨⟨-, hoptions⟩, -⟩ := hwrite
      rw [Part.Built, hoptions]
      exact hordered.providers _ _ (Table.get?_eq_some_iff.2 hentry)

end AppDescription.Declares

end AppManifest
