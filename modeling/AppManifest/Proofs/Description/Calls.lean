import AppManifest.Description.Conversion
import AppManifest.Proofs.Description.Resolver

/-!
# Calls of the resolver

A resolver answers one call after the other: for the type of an id, for a parameter set, or for a
single parameter. The types that it keeps in between never show in an answer: after any calls that
succeeded, the next one comes to what it comes to when nothing is kept (`Resolver.calls_plain`).
-/

namespace AppManifest

variable {schemas : Table Schema}

namespace ParameterSetDescription

/-- The parameter set that an owner describes, every schema expanded. -/
def expand (schemas : Table Schema) (owner : String) (set : ParameterSetDescription) :
    Except DescriptionError ParameterSet := do
  let properties ← expandTable schemas owner set.properties
  return ⟨properties, set.required⟩

/-- Converting a parameter set comes to what expanding it gives. -/
theorem toSet_agrees (owner : String) (set : ParameterSetDescription) :
    Agrees schemas [] (set.toSet schemas owner) (set.expand schemas owner) :=
  (Resolver.parameters_agrees owner set.properties).bind fun _ => .pure _

end ParameterSetDescription

namespace Resolver

/-- Following a JSON value as a schema comes to what expanding it gives. -/
theorem parameter_agrees (owner name : String) (schema : Json) :
    Agrees schemas [] (parameter schemas owner name schema)
      ((Schema.ofJson schema).expand (expandType schemas [] owner) owner name) :=
  define_agrees owner name (.ofJson schema) fun id _ => resolve_agrees owner id

/-- Something that a resolver is asked for. -/
inductive Call where
  /-- The type of an id to which an owner refers. -/
  | type (owner id : String)
  /-- The parameter set that an owner describes. -/
  | set (owner : String) (description : ParameterSetDescription)
  /-- The definition that a JSON value declares for the parameter of a name. -/
  | parameter (owner name : String) (schema : Json)

/-- What a resolver answers. -/
inductive Answer where
  | type (type : CustomType)
  | set (set : ParameterSet)
  | definition (definition : Definition)

namespace Call

/-- Answers a call, using and adding to the types that are kept. -/
def run (schemas : Table Schema) : Call → Resolving Answer
  | .type owner id => do
      let type ← resolve schemas owner id
      return .type type
  | .set owner description => do
      let set ← description.toSet schemas owner
      return .set set
  | .parameter owner name schema => do
      let definition ← Resolver.parameter schemas owner name schema
      return .definition definition

/-- Answers a call by expanding every schema that it leads to. -/
def plain (schemas : Table Schema) : Call → Except DescriptionError Answer
  | .type owner id => do
      let type ← expandType schemas [] owner id
      return .type type
  | .set owner description => do
      let set ← description.expand schemas owner
      return .set set
  | .parameter owner name schema => do
      let definition ← (Schema.ofJson schema).expand (expandType schemas [] owner) owner name
      return .definition definition

/-- A call is answered as it is without keeping types. -/
theorem run_agrees (call : Call) : Agrees schemas [] (call.run schemas) (call.plain schemas) := by
  cases call with
  | type owner id => exact (resolve_agrees owner id).bind fun _ => .pure _
  | set owner description => exact (description.toSet_agrees owner).bind fun _ => .pure _
  | parameter owner name schema =>
      exact (parameter_agrees owner name schema).bind fun _ => .pure _

end Call

/-- After calls that all succeeded, they were answered as they are without keeping types, and so is
the next one, be it by a value or by an error. -/
theorem calls_plain (types : Table Json) {calls : List Call} {answers : List Answer}
    {resolver : Resolver}
    (h : (calls.mapM (Call.run (types.map Schema.ofJson))).run {} = .ok (answers, resolver)) :
    calls.mapM (Call.plain (types.map Schema.ofJson)) = .ok answers ∧
      ∀ call : Call, ((call.run (types.map Schema.ofJson)).run resolver).map Prod.fst =
        call.plain (types.map Schema.ofJson) := by
  have hcalls : Agrees (types.map Schema.ofJson) [] (calls.mapM (Call.run _))
      (calls.mapM (Call.plain _)) := .mapM Call.run_agrees calls
  have hresolver := hcalls.continues .empty h
  exact ⟨hcalls.value .empty h, fun call => call.run_agrees.outcome hresolver.ready⟩

/-- Types one of which leads back to itself. -/
def loopTypes : Table Json :=
  .ofList [("label", .object [("type", .string "string")]),
    ("issue", .object [("items", .object [("type", .string "#/types/label")]),
      ("type", .string "array")]),
    ("loop", .object [("items", .object [("type", .string "#/types/loop")]),
      ("type", .string "array")])]

/-- Calls that meet only the types that do not lead back to themselves. -/
def loopCalls : List Call :=
  [.type "close" "issue",
    .parameter "close" "label" (.object [("type", .string "#/types/label")])]

/-- These calls succeed, and the type that leads back to itself is answered after them as it is
without keeping types. -/
theorem loopTypes_plain : ∃ answers resolver,
    (loopCalls.mapM (Call.run (loopTypes.map Schema.ofJson))).run {} = .ok (answers, resolver) ∧
      (((Call.type "close" "loop").run (loopTypes.map Schema.ofJson)).run resolver).map Prod.fst =
        (Call.type "close" "loop").plain (loopTypes.map Schema.ofJson) := by
  have hrun : ((loopCalls.mapM (Call.run (loopTypes.map Schema.ofJson))).run
      {}).toOption.isSome = true := by decide +kernel
  cases h : (loopCalls.mapM (Call.run (loopTypes.map Schema.ofJson))).run {} with
  | ok result => exact ⟨result.1, result.2, rfl, (calls_plain loopTypes h).2 _⟩
  | error error =>
      rw [h] at hrun
      cases hrun

end Resolver

end AppManifest
