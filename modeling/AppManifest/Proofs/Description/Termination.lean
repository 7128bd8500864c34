import AppManifest.Proofs.Description.Calls

/-!
# Resolving ends

Resolving an id enters the schema of a type, and following a schema may come to any other schema of
the table, so neither of the two gets smaller at a reference. Taken by itself, without the budget of
`Resolver.resolveWithin`, the recursion is given by two relations: `Ends schemas task resolver
result` says that a task ends with a result, by one rule for each way to end, and
`Frame.Opens schemas outer entered inner` that one call is made directly inside another, and which
type it enters.

A call that enters a type leaves fewer declared types that are not in progress; any other call is
smaller (`Frame.Opens.lt`). So no chain of nested calls is endless, every task has a result, and the
budget is never missed (`Resolver.resolving_ends`).
-/

namespace AppManifest

namespace Resolver

/-- Something that is done while types are resolved. -/
inductive Task where
  /-- Resolving the type of an id to which an owner refers. -/
  | type (owner id : String)
  /-- Following a schema of an owner for the parameter of a name. -/
  | definition (owner name : String) (schema : Schema)
  /-- Following named schemas of an owner, in order. -/
  | definitions (owner : String) (properties : List (String × Schema))

namespace Task

/-- What a task gives if it succeeds. -/
@[reducible]
def Output : Task → Type
  | .type _ _ => CustomType
  | .definition _ _ _ => Definition
  | .definitions _ _ => List (String × Definition)

/-- Does a task, given how the references of each owner are resolved. -/
def runWith (resolve : String → String → Resolving CustomType) : (task : Task) →
    Resolving task.Output
  | .type owner id => resolve owner id
  | .definition owner name schema => define (resolve owner) owner name schema
  | .definitions owner properties => defineAll (resolve owner) owner properties

/-- Does a task. -/
def run (schemas : Table Schema) (task : Task) : Resolving task.Output :=
  task.runWith (resolve schemas)

/-- The size of the schemas that a task is about to follow. -/
noncomputable def weight : Task → Nat
  | .type _ _ => 0
  | .definition _ _ schema => 1 + sizeOf schema
  | .definitions _ properties => sizeOf properties

end Task

/-- A task ends with a result. An error anywhere in a task is its result. -/
inductive Ends (schemas : Table Schema) :
    (task : Task) → Resolver → Except DescriptionError (task.Output × Resolver) → Prop where
  | kept {owner id type resolver} :
      resolver.resolved.get? id = some type →
      Ends schemas (.type owner id) resolver (.ok (type, resolver))
  | cyclic {owner id resolver} :
      resolver.resolved.get? id = none → id ∈ resolver.inProgress →
      Ends schemas (.type owner id) resolver (.error (.cyclicType id))
  | unknown {owner id resolver} :
      resolver.resolved.get? id = none → id ∉ resolver.inProgress → schemas.get? id = none →
      Ends schemas (.type owner id) resolver (.error (.unknownType owner (Reference.ofType id)))
  | entered {owner id schema resolver} {result : Except DescriptionError (Definition × Resolver)} :
      resolver.resolved.get? id = none → id ∉ resolver.inProgress →
      schemas.get? id = some schema →
      Ends schemas (.definition id id schema) (start id resolver) result →
      Ends schemas (.type owner id) resolver (result.map fun inner =>
        (.ofDefinition id inner.1, finish (.ofDefinition id inner.1) inner.2))
  | defective {owner name defect resolver} :
      Ends schemas (.definition owner name (.defective defect)) resolver
        (.error (.invalidParameter owner name defect.message))
  | reference {owner name id notes resolver}
      {result : Except DescriptionError (CustomType × Resolver)} :
      Ends schemas (.type owner id) resolver result →
      Ends schemas (.definition owner name (.reference id notes)) resolver
        (result.map fun inner => (⟨.custom inner.1, notes⟩, inner.2))
  | primitive {owner name type notes resolver} :
      Ends schemas (.definition owner name (.primitive type notes)) resolver
        (.ok (⟨.primitive type, notes⟩, resolver))
  | untypedObject {owner name notes resolver} :
      Ends schemas (.definition owner name (.untypedObject notes)) resolver
        (.ok (⟨.untypedObject, notes⟩, resolver))
  | typedObject {owner name properties required additional notes resolver}
      {result : Except DescriptionError (List (String × Definition) × Resolver)} :
      Ends schemas (.definitions owner properties) resolver result →
      Ends schemas (.definition owner name (.typedObject properties required additional notes))
        resolver (result.map fun inner =>
          (⟨.typedObject inner.1 required additional, notes⟩, inner.2))
  | array {owner name items notes resolver}
      {result : Except DescriptionError (Definition × Resolver)} :
      Ends schemas (.definition owner name items) resolver result →
      Ends schemas (.definition owner name (.array items notes)) resolver
        (result.map fun inner => (⟨.array inner.1, notes⟩, inner.2))
  | nil {owner resolver} :
      Ends schemas (.definitions owner []) resolver (.ok ([], resolver))
  | failed {owner name schema rest resolver error} :
      Ends schemas (.definition owner name schema) resolver (.error error) →
      Ends schemas (.definitions owner ((name, schema) :: rest)) resolver (.error error)
  | cons {owner name schema rest definition resolver middle}
      {result : Except DescriptionError (List (String × Definition) × Resolver)} :
      Ends schemas (.definition owner name schema) resolver (.ok (definition, middle)) →
      Ends schemas (.definitions owner rest) middle result →
      Ends schemas (.definitions owner ((name, schema) :: rest)) resolver
        (result.map fun inner => ((name, definition) :: inner.1, inner.2))

/-- A call: a task, and the state in which it is begun. -/
structure Frame where
  task : Task
  resolver : Resolver

namespace Frame

/-- A call is made directly inside another. Only resolving an id enters a type, which is given. -/
inductive Opens (schemas : Table Schema) : Frame → Option String → Frame → Prop where
  | entered {owner id schema resolver} :
      resolver.resolved.get? id = none → id ∉ resolver.inProgress →
      schemas.get? id = some schema →
      Opens schemas ⟨.type owner id, resolver⟩ (some id)
        ⟨.definition id id schema, start id resolver⟩
  | reference {owner name id notes resolver} :
      Opens schemas ⟨.definition owner name (.reference id notes), resolver⟩ none
        ⟨.type owner id, resolver⟩
  | properties {owner name properties required additional notes resolver} :
      Opens schemas
        ⟨.definition owner name (.typedObject properties required additional notes), resolver⟩ none
        ⟨.definitions owner properties, resolver⟩
  | items {owner name items notes resolver} :
      Opens schemas ⟨.definition owner name (.array items notes), resolver⟩ none
        ⟨.definition owner name items, resolver⟩
  | head {owner name schema rest resolver} :
      Opens schemas ⟨.definitions owner ((name, schema) :: rest), resolver⟩ none
        ⟨.definition owner name schema, resolver⟩
  | rest {owner name schema rest definition resolver middle} :
      Ends schemas (.definition owner name schema) resolver (.ok (definition, middle)) →
      Opens schemas ⟨.definitions owner ((name, schema) :: rest), resolver⟩ none
        ⟨.definitions owner rest, middle⟩

/-- A chain of nested calls from one to another, with the types that are entered on the way, the
innermost first. -/
inductive Leads (schemas : Table Schema) (first : Frame) : List String → Frame → Prop where
  | refl : Leads schemas first [] first
  | step {ids outer entered inner} :
      Leads schemas first ids outer → Opens schemas outer entered inner →
      Leads schemas first (entered.toList ++ ids) inner

end Frame

/-- The states of a resolver that has not failed: after tasks that succeeded, and in nested
calls. -/
inductive Reachable (schemas : Table Schema) : Resolver → Prop where
  | fresh : Reachable schemas {}
  | ended {task resolver output final} :
      Reachable schemas resolver → Ends schemas task resolver (.ok (output, final)) →
      Reachable schemas final
  | opened {outer entered inner} :
      Reachable schemas outer.resolver → Frame.Opens schemas outer entered inner →
      Reachable schemas inner.resolver

variable {schemas : Table Schema} {task : Task} {resolver : Resolver}
  {result : Except DescriptionError (task.Output × Resolver)}

/-! ## Types in progress -/

/-- A task that succeeds leaves the same types in progress. -/
theorem Ends.inProgress_eq (h : Ends schemas task resolver result) :
    ∀ {output final}, result = .ok (output, final) → final.inProgress = resolver.inProgress := by
  induction h with
  | kept _ | primitive | untypedObject | nil =>
      intro _ _ hok
      cases hok
      rfl
  | cyclic _ _ | unknown _ _ _ | defective | failed _ _ =>
      intro _ _ hok
      cases hok
  | @entered owner id schema resolver result _ _ _ _ ih =>
      intro _ _ hok
      obtain ⟨⟨definition, middle⟩, rfl, hinner⟩ := map_eq_ok_iff.1 hok
      cases hinner
      -- the type that is finished is the one that was started last
      have hmiddle : middle.inProgress = id :: resolver.inProgress := ih rfl
      show middle.inProgress.erase id = resolver.inProgress
      rw [hmiddle, List.erase_cons_head]
  | reference _ ih | typedObject _ ih | array _ ih =>
      intro _ _ hok
      obtain ⟨inner, rfl, hinner⟩ := map_eq_ok_iff.1 hok
      cases hinner
      exact ih rfl
  | cons _ _ ihHead ihRest =>
      intro _ _ hok
      obtain ⟨inner, rfl, hinner⟩ := map_eq_ok_iff.1 hok
      cases hinner
      exact (ihRest rfl).trans (ihHead rfl)

namespace Frame

variable {outer inner : Frame} {entered : Option String}

/-- A direct call adds the type that it enters to those in progress. -/
theorem Opens.inProgress_eq (h : Opens schemas outer entered inner) :
    inner.resolver.inProgress = entered.toList ++ outer.resolver.inProgress := by
  cases h with
  | entered _ _ _ | reference | properties | items | head => rfl
  | rest hhead => exact hhead.inProgress_eq rfl

/-- A direct call enters only a declared type that is not in progress. -/
theorem Opens.free {id : String} (h : Opens schemas outer (some id) inner) :
    id ∉ outer.resolver.inProgress ∧ id ∈ schemas.names := by
  cases h with
  | entered _ hfree hschema => exact ⟨hfree, Table.mem_names_of_get? hschema⟩

/-- In a chain of calls, the types that are entered are in progress, before those that were. -/
theorem Leads.inProgress_eq {first last : Frame} {ids : List String}
    (h : Leads schemas first ids last) :
    last.resolver.inProgress = ids ++ first.resolver.inProgress := by
  induction h with
  | refl => rfl
  | step _ hopens ih => rw [hopens.inProgress_eq, ih, List.append_assoc]

/-- In a chain of calls no type is entered twice. -/
theorem Leads.nodup {first last : Frame} {ids : List String} (h : Leads schemas first ids last) :
    ids.Nodup := by
  induction h with
  | refl => exact .nil
  | @step ids outer entered inner hleads hopens ih =>
      cases entered with
      | none => exact ih
      | some id =>
          refine List.nodup_cons.2 ⟨fun hmem => hopens.free.1 ?_, ih⟩
          rw [hleads.inProgress_eq]
          exact List.mem_append_left _ hmem

end Frame

/-- In a state that is reachable, distinct declared types are in progress. -/
theorem Reachable.inProgress (h : Reachable schemas resolver) :
    resolver.inProgress.Nodup ∧ resolver.inProgress ⊆ schemas.names := by
  induction h with
  | fresh => exact ⟨.nil, List.nil_subset _⟩
  | ended _ hends ih => rwa [hends.inProgress_eq rfl]
  | @opened outer entered inner _ hopens ih =>
      rw [hopens.inProgress_eq]
      cases entered with
      | none => exact ih
      | some id =>
          obtain ⟨hfree, hdeclared⟩ := hopens.free
          exact ⟨List.nodup_cons.2 ⟨hfree, ih.1⟩, List.cons_subset.2 ⟨hdeclared, ih.2⟩⟩

/-- A chain of calls from a reachable state leads to a reachable state. -/
theorem Frame.Leads.reachable {first last : Frame} {ids : List String}
    (h : Leads schemas first ids last) (hfirst : Reachable schemas first.resolver) :
    Reachable schemas last.resolver := by
  induction h with
  | refl => exact hfirst
  | step _ hopens ih => exact ih.opened hopens

/-! ## Termination -/

namespace Frame

variable {outer inner : Frame} {entered : Option String}

/-- What becomes smaller in nested calls: the number of declared types that are not in progress, and
then the size of the schemas that are about to be followed. -/
noncomputable def measure (schemas : Table Schema) (frame : Frame) : Nat × Nat :=
  ((offPath schemas frame.resolver.inProgress).length, frame.task.weight)

/-- A direct call is smaller. -/
theorem Opens.lt (h : Opens schemas outer entered inner) :
    Prod.Lex (· < ·) (· < ·) (inner.measure schemas) (outer.measure schemas) := by
  cases h with
  | entered _ hfree hschema => exact .left _ _ (length_offPath_lt hschema hfree)
  | reference =>
      refine .right _ ?_
      simp only [Task.weight]
      omega
  | properties | items =>
      refine .right _ ?_
      simp only [Task.weight, Schema.typedObject.sizeOf_spec, Schema.array.sizeOf_spec]
      omega
  | head =>
      refine .right _ ?_
      simp only [Task.weight, List.cons.sizeOf_spec, Prod.mk.sizeOf_spec]
      omega
  | rest hhead =>
      rw [measure, hhead.inProgress_eq rfl]
      refine .right _ ?_
      simp only [Task.weight, List.cons.sizeOf_spec]
      omega

/-- No chain of nested calls is endless. -/
theorem acc (schemas : Table Schema) (frame : Frame) :
    Acc (fun inner outer => ∃ entered, Opens schemas outer entered inner) frame := by
  have hwf : WellFounded (InvImage (Prod.Lex (· < ·) (· < ·)) (measure schemas)) :=
    InvImage.wf _ (Prod.lex Nat.lt_wfRel Nat.lt_wfRel).wf
  exact Subrelation.accessible (fun ⟨_, hopens⟩ => hopens.lt) (hwf.apply frame)

end Frame

/-- A task ends with some result if each call that is made directly inside it does. -/
theorem Ends.exists_of_opens (task : Task) (resolver : Resolver)
    (h : ∀ entered (inner : Frame), Frame.Opens schemas ⟨task, resolver⟩ entered inner →
      ∃ result, Ends schemas inner.task inner.resolver result) :
    ∃ result, Ends schemas task resolver result := by
  cases task with
  | type owner id =>
      cases hkept : resolver.resolved.get? id with
      | some type => exact ⟨_, .kept hkept⟩
      | none =>
          by_cases hentered : id ∈ resolver.inProgress
          · exact ⟨_, .cyclic hkept hentered⟩
          · cases hschema : schemas.get? id with
            | none => exact ⟨_, .unknown hkept hentered hschema⟩
            | some schema =>
                obtain ⟨result, hresult⟩ := h _ _ (.entered hkept hentered hschema)
                exact ⟨_, .entered hkept hentered hschema hresult⟩
  | definition owner name schema =>
      cases schema with
      | defective defect => exact ⟨_, .defective⟩
      | reference id notes =>
          obtain ⟨result, hresult⟩ := h _ _ .reference
          exact ⟨_, .reference hresult⟩
      | primitive type notes => exact ⟨_, .primitive⟩
      | untypedObject notes => exact ⟨_, .untypedObject⟩
      | typedObject properties required additional notes =>
          obtain ⟨result, hresult⟩ := h _ _ .properties
          exact ⟨_, .typedObject hresult⟩
      | array items notes =>
          obtain ⟨result, hresult⟩ := h _ _ .items
          exact ⟨_, .array hresult⟩
  | definitions owner properties =>
      match properties with
      | [] => exact ⟨_, .nil⟩
      | (name, schema) :: rest =>
          obtain ⟨result, hresult⟩ := h _ _ .head
          cases result with
          | error error => exact ⟨_, .failed hresult⟩
          | ok pair =>
              obtain ⟨others, hothers⟩ := h _ _ (.rest hresult)
              exact ⟨_, .cons hresult hothers⟩

/-- Every task ends, in every state. -/
theorem Ends.exists (frame : Frame) :
    ∃ result, Ends schemas frame.task frame.resolver result := by
  induction frame.acc schemas with
  | intro frame _ ih =>
      exact exists_of_opens frame.task frame.resolver fun entered inner hopens =>
        ih inner ⟨entered, hopens⟩

/-! ## The budget -/

/-- A task that ends with a result is run with this result, if the budget is at least the number of
declared types that are not in progress. -/
theorem Ends.runWith_eq (h : Ends schemas task resolver result) :
    ∀ {budget : Nat}, (offPath schemas resolver.inProgress).length ≤ budget →
      task.runWith (resolveWithin schemas budget) resolver = result := by
  induction h with
  | kept hkept =>
      intro budget _
      rw [Task.runWith, resolveWithin_run, hkept]
  | cyclic hkept hentered =>
      intro budget _
      rw [Task.runWith, resolveWithin_run, hkept]
      exact if_pos (List.contains_iff_mem.2 hentered)
  | unknown hkept hentered hschema =>
      intro budget _
      rw [Task.runWith, resolveWithin_run, hkept]
      dsimp only
      rw [if_neg (mt List.contains_iff_mem.1 hentered), hschema]
  | entered hkept hentered hschema _ ih =>
      intro budget hbudget
      have hless := length_offPath_lt hschema hentered
      -- the type that is entered takes one unit of the budget, so there is one
      cases budget with
      | zero => omega
      | succ budget =>
          have hinner := ih (Nat.le_of_lt_succ (Nat.lt_of_lt_of_le hless hbudget))
          rw [Task.runWith, resolveWithin_run, hkept]
          dsimp only
          rw [if_neg (mt List.contains_iff_mem.1 hentered), hschema]
          exact congrArg (Except.map _) hinner
  | defective | primitive | untypedObject | nil =>
      intro _ _
      rfl
  | reference _ ih | typedObject _ ih | array _ ih =>
      intro budget hbudget
      rw [← ih hbudget]
      rfl
  | @failed owner name schema rest resolver error _ ih =>
      intro budget hbudget
      have hhead : define (resolveWithin schemas budget owner) owner name schema resolver =
          .error error := ih hbudget
      rw [Task.runWith, defineAll, Resolving.bind_run, hhead]
      rfl
  | @cons owner name schema rest definition resolver middle result hends _ ihHead ihRest =>
      intro budget hbudget
      have hhead : define (resolveWithin schemas budget owner) owner name schema resolver =
          .ok (definition, middle) := ihHead hbudget
      have hrest : defineAll (resolveWithin schemas budget owner) owner rest middle = result :=
        ihRest (by rwa [hends.inProgress_eq rfl])
      rw [Task.runWith, defineAll, Resolving.bind_run, hhead, ← hrest]
      rfl

/-- The declared types that are not in progress are at most all declared types. -/
theorem length_offPath_le (schemas : Table Schema) (path : List String) :
    (offPath schemas path).length ≤ schemas.size := by
  have hle := List.length_filter_le (fun name => decide (name ∉ path)) schemas.names
  rwa [Table.names, Entries.names, List.length_map] at hle

/-- A task ends with just the result with which it is run. -/
theorem ends_iff : Ends schemas task resolver result ↔ task.run schemas resolver = result := by
  have hrun {result : Except DescriptionError (task.Output × Resolver)}
      (h : Ends schemas task resolver result) : task.run schemas resolver = result :=
    h.runWith_eq (length_offPath_le schemas resolver.inProgress)
  refine ⟨hrun, fun h => ?_⟩
  obtain ⟨other, hother⟩ := @Ends.exists schemas ⟨task, resolver⟩
  rwa [← h, hrun hother]

/-- Resolving types and following schemas ends on every table of types, without any bound on how
deep calls are nested: from every state each task has exactly one result, the one with which it is
run, and no chain of nested calls is endless. A task that succeeds leaves the same types in
progress. In a chain of nested calls no type is entered twice, and those that were entered are in
progress; from a state that is reachable there are never more types in progress than are
declared. -/
theorem resolving_ends (types : Table Json) (frame : Frame) :
    let schemas := types.map Schema.ofJson
    (∀ result, Ends schemas frame.task frame.resolver result ↔
      frame.task.run schemas frame.resolver = result) ∧
      Acc (fun inner outer => ∃ entered, Frame.Opens schemas outer entered inner) frame ∧
      (∀ output final, frame.task.run schemas frame.resolver = .ok (output, final) →
        final.inProgress = frame.resolver.inProgress) ∧
      ∀ ids inner, frame.Leads schemas ids inner →
        ids.Nodup ∧ inner.resolver.inProgress = ids ++ frame.resolver.inProgress ∧
        (Reachable schemas frame.resolver →
          inner.resolver.inProgress.Nodup ∧ inner.resolver.inProgress.length ≤ types.size) := by
  intro schemas
  refine ⟨fun result => ends_iff, frame.acc schemas,
    fun output final hrun => (ends_iff.2 hrun).inProgress_eq rfl, fun ids inner hleads => ?_⟩
  refine ⟨hleads.nodup, hleads.inProgress_eq, fun hreachable => ?_⟩
  obtain ⟨hnodup, hdeclared⟩ := (hleads.reachable hreachable).inProgress
  have hsize : schemas.size = types.size := List.length_map _
  exact ⟨hnodup, hsize ▸ length_le_size hnodup hdeclared⟩

/-- Resolving the type that leads back to itself enters it once: the nested call that comes to it
again fails, with one type in progress. -/
theorem loopTypes_ends :
    let schemas := loopTypes.map Schema.ofJson
    let inner : Frame := ⟨.type "loop" "loop", start "loop" {}⟩
    Frame.Leads schemas ⟨.type "close" "loop", {}⟩ ["loop"] inner ∧
      inner.task.run schemas inner.resolver = .error (.cyclicType "loop") ∧
      inner.resolver.inProgress.length ≤ loopTypes.size := by
  intro schemas inner
  have hschema : schemas.get? "loop" = some (.array (.reference "loop" {}) {}) := rfl
  have hleads : Frame.Leads schemas ⟨.type "close" "loop", {}⟩ ["loop"] inner :=
    ((Frame.Leads.refl.step (.entered rfl List.not_mem_nil hschema)).step .items).step .reference
  obtain ⟨hends, -, -, -⟩ := resolving_ends loopTypes inner
  obtain ⟨-, -, -, hchain⟩ := resolving_ends loopTypes ⟨.type "close" "loop", {}⟩
  exact ⟨hleads, (hends _).1 (.cyclic rfl List.mem_cons_self), ((hchain _ _ hleads).2.2 .fresh).2⟩

end Resolver

end AppManifest
