import AppManifest.Proofs.Description.Described
import AppManifest.Proofs.Json.Reading

/-!
# Reading what was written

Each part of an app is read, in the layout of its description, from what a manifest writes for it.
So the sections that are written for a registry of built parts, together with a name, are read as
the description of what is registered (`Registry.gives_describe`).
-/

namespace AppManifest

/-- Ordered definitions are read from what is written for them. -/
theorem Definition.AreOrdered.gives {table : Table Definition}
    (h : Definition.AreOrdered table.entries) :
    (Reader.table .any).Gives (.ofTable (table.map Definition.schema))
      (table.map Definition.schema) :=
  Reader.gives_table_map fun _ _ hdefinition => Reader.gives_any (h.schema hdefinition)

/-- An optional text is read if it is there. -/
theorem Reader.gives_text {text? : Option String} {json : Json}
    (h : text?.map Json.string = some json) :
    (Reader.optional Reader.string).Gives json text? := by
  obtain ⟨text, rfl, rfl⟩ := Option.map_eq_some_iff.1 h
  exact (Reader.gives_string text).optional (by simp)

/-- A parameter set is read from what is written for it. -/
theorem ParameterSet.Ordered.gives {set : ParameterSet} (h : set.Ordered) :
    ParameterSetDescription.layout.read.Gives set.toJson set.describe :=
  Layout.Fills.gives (.field rfl rfl (Definition.AreOrdered.gives h)
    (.field rfl rfl (Reader.gives_strings set.required) (.done rfl)))

/-- A parameter set of a workflow is read from what is written for it, if it is not left out. -/
theorem ParameterSet.Ordered.gives_member {set : ParameterSet} (h : set.Ordered) {json : Json}
    (hjson : (if set.isEmpty then none else some set.toJson) = some json) :
    ParameterSetDescription.layout.read.Gives json set.describeMember := by
  split at hjson
  next hempty => cases hjson
  next hsome =>
    obtain rfl := Option.some.inj hjson
    rw [describeMember, if_neg hsome]
    exact h.gives

/-- A parameter set of a workflow that is left out is the one that is not described. -/
theorem ParameterSet.describeMember_of_none {set : ParameterSet}
    (h : (if set.isEmpty then none else some set.toJson) = none) : set.describeMember = {} := by
  split at h
  next hempty => rw [describeMember, if_pos hempty]
  next => cases h

/-- A function is read from what is written for it. -/
theorem AppFunction.gives {function : AppFunction} (h : (Part.function function).Built) :
    FunctionDescription.layout.read.Gives function.toJson function.describe := by
  obtain ⟨hinputs, houtputs⟩ := h
  refine Layout.Fills.gives (.member rfl rfl (by decide)
    (fun _ => Reader.gives_text) (fun hnone => ?_) (.field rfl rfl hinputs.gives
    (.field rfl rfl houtputs.gives (.field rfl rfl (Reader.gives_string _)
    (.field rfl rfl (Reader.gives_string _) (.done rfl))))))
  rw [Option.map_eq_none_iff.1 hnone]
  rfl

/-- A step is read from what is written for it. Its id is ignored. -/
theorem Step.gives {step : Step} (h : step.inputs.Ordered) :
    StepDescription.layout.read.Gives step.toJson step.describe :=
  Layout.Fills.gives (.field rfl rfl (Reader.gives_string _) (.ignored rfl
    (.field rfl rfl (Reader.gives_table_map fun name input hinput =>
      Reader.gives_any (StepInput.Ordered.templatize input (h name input hinput))) (.done rfl))))

/-- A workflow is read from what is written for it. -/
theorem Workflow.Built.gives {workflow : Workflow} (h : workflow.Built) :
    WorkflowDescription.layout.read.Gives workflow.toJson workflow.describe := by
  have hsteps : (Reader.list StepDescription.layout.read).Gives
      (.array (workflow.steps.map Step.toJson)) (workflow.steps.map Step.describe) :=
    Reader.gives_list (List.forall₂_map_left_iff.2 (List.forall₂_map_right_iff.2
      (List.forall₂_same.2 fun step hstep => Step.gives (h.steps step hstep))))
  rw [toJson, parameterMember, parameterMember, List.append_assoc, List.append_assoc]
  refine Layout.Fills.gives (.member rfl rfl (by decide) (fun _ => Reader.gives_text)
    (fun hnone => ?_) (.member rfl rfl (by decide) (fun _ => h.inputs.gives_member)
    (fun hnone => ?_) (.member rfl rfl (by decide) (fun _ => h.outputs.gives_member)
    (fun hnone => ?_) (.field rfl rfl hsteps
    (.field rfl rfl (Reader.gives_string _) (.done rfl))))))
  · rw [Option.map_eq_none_iff.1 hnone]
    rfl
  · rw [ParameterSet.describeMember_of_none hnone]
    rfl
  · rw [ParameterSet.describeMember_of_none hnone]
    rfl

/-- A datastore is read from what is written for it. -/
theorem Datastore.gives {datastore : Datastore} (h : (Part.datastore datastore).Built) :
    DatastoreDescription.layout.read.Gives datastore.toJson datastore.describe :=
  Layout.Fills.gives (.field rfl rfl (Definition.AreOrdered.gives h)
    (.field rfl rfl (Reader.gives_string _) (.done rfl)))

/-- The type of a provider is read from its name. -/
theorem ProviderType.gives (type : ProviderType) :
    ProviderType.reader.Gives (.string type.name) type := by
  intro levels _
  cases type <;> rfl

/-- A provider is read from what is written for it. -/
theorem Provider.gives {provider : Provider} (h : (Part.provider provider).Built) :
    ProviderDescription.layout.read.Gives provider.toJson provider.describe :=
  Layout.Fills.gives (.field rfl rfl (Reader.gives_any h)
    (.field rfl rfl (ProviderType.gives _) (.done rfl)))

namespace Registry

variable {registry : Registry}

/-- If entities are read from what is written for them, so is the table of them. -/
theorem gives_entities {α β : Type} [Entity α] {set : EntitySet α} (h : set.Coherent)
    {read : Reader β} {write : α → Json} {form : α → β}
    (hread : ∀ entity ∈ set.entries, read.Gives (write entity) (form entity)) :
    (Reader.table read).Gives (.ofTable (set.tabulate write)) (set.table.map form) := by
  rw [set.tabulate_eq]
  exact Reader.gives_table_map fun id entity hentity =>
    hread entity (h.get?_table_eq_some_iff.1 hentity).1

/-- The sections of a registry of built parts, with a name, are read as the description of what is
registered. -/
theorem gives_describe (h : registry.Coherent) (hbuilt : ∀ part, registry.Keeps part → part.Built)
    (name : String) :
    AppDescription.layout.read.Gives (.object (("name", .string name) :: registry.sections.members))
      (registry.describe name) := by
  have hfunctions := gives_entities h.functions fun entity hentity =>
    AppFunction.gives (hbuilt (.function entity) hentity)
  have htypes := gives_entities h.types fun entity hentity =>
    Reader.gives_any (CustomType.ordered_schema (hbuilt (.type entity) hentity))
  have hworkflows := gives_entities h.workflows fun entity hentity =>
    Workflow.Built.gives (hbuilt (.workflow entity) hentity)
  have hdatastores := gives_entities h.datastores fun entity hentity =>
    Datastore.gives (hbuilt (.datastore entity) hentity)
  have hproviders := gives_entities h.providers fun entity hentity =>
    Provider.gives (hbuilt (.provider entity) hentity)
  -- the providers come last and are there only if any are registered
  have hrest : AppDescription.layout.Fills ["datastores", "workflows", "types", "functions", "name"]
      { registry.describe name with providers := none }
      (Json.member "external_auth_providers" (registry.sections.providers.map fun providers =>
        .object [("oauth2", .ofTable providers)])) (registry.describe name) := by
    rw [sections, describe]
    cases registry.providers.entries.isEmpty with
    | true => exact .done rfl
    | false =>
        have hoauth2 : ProvidersDescription.layout.read.Gives
            (.object [("oauth2", .ofTable (registry.providers.tabulate Provider.toJson))])
            ⟨registry.providers.table.map Provider.describe⟩ :=
          Layout.Fills.gives (.field rfl rfl hproviders (.done rfl))
        exact .field rfl rfl (hoauth2.optional (by simp)) (.done rfl)
  exact Layout.Fills.gives (.field rfl rfl (Reader.gives_string name)
    (.field rfl rfl hfunctions (.field rfl rfl htypes (.field rfl rfl hworkflows
    (.field rfl rfl hdatastores hrest)))))

end Registry

end AppManifest
