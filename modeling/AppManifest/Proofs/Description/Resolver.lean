import Mathlib.Data.List.Forall2
import AppManifest.Proofs.Description.Plain

/-!
# Correctness of the resolver

Every type that the resolver keeps is the one that its id names, so keeping types only saves work:
what is resolved already makes no difference to a result. `Agrees schemas inProgress action result`
says that an action, run while some types are in progress, comes to a result whatever is kept, and
`resolveWithin_agrees` that resolving an id inside the types in progress comes to what expanding it
inside them gives, be it a type or an error. Meeting a type in progress, and having no budget left
for a declared one, both mean that the type leads back to itself.

`Computes schemas inProgress action spec` says only which values an action comes to: those that
satisfy a specification. Resolving an id computes the type that the id names (`resolve_computes`).
-/

namespace AppManifest

variable {schemas : Table Schema} {inProgress : List String} {α β : Type}

/-- A sequence runs its second part on the value and the resolver that its first part leaves. -/
theorem Resolving.bind_run (action : Resolving α) (next : α → Resolving β) (resolver : Resolver) :
    (action >>= next) resolver = (action resolver).bind fun result => next result.1 result.2 :=
  rfl

/-- A sequence that returns ran both of its parts. -/
theorem Resolving.exists_of_bind {action : Resolving α} {next : α → Resolving β}
    {resolver final : Resolver} {result : β}
    (h : (action >>= next) resolver = .ok (result, final)) :
    ∃ value middle, action resolver = .ok (value, middle) ∧
      next value middle = .ok (result, final) := by
  obtain ⟨⟨value, middle⟩, haction, hnext⟩ := bind_eq_ok_iff.1 h
  exact ⟨value, middle, haction, hnext⟩

namespace Resolver

/-- These types are in progress, and every type that is kept is the one that its id names. -/
structure Ready (schemas : Table Schema) (inProgress : List String) (resolver : Resolver) :
    Prop where
  inProgress_eq : resolver.inProgress = inProgress
  resolves : ∀ {id type}, resolver.resolved.get? id = some type → Resolves schemas id type

/-- The resolver is ready again after an action, with the same types in progress, and still keeps
every type that it kept before. -/
structure Continues (schemas : Table Schema) (inProgress : List String)
    (resolver final : Resolver) : Prop where
  ready : final.Ready schemas inProgress
  keeps : ∀ {id type}, resolver.resolved.get? id = some type →
    final.resolved.get? id = some type

variable {resolver middle final : Resolver}

/-- A resolver without types is ready. -/
theorem Ready.empty : Ready schemas [] {} :=
  ⟨rfl, fun h => by cases h⟩

/-- Doing nothing leaves a resolver ready. -/
theorem Continues.refl (h : resolver.Ready schemas inProgress) :
    resolver.Continues schemas inProgress resolver :=
  ⟨h, fun hkept => hkept⟩

/-- Two actions leave a resolver ready if each of them does. -/
theorem Continues.trans (h : resolver.Continues schemas inProgress middle)
    (h' : middle.Continues schemas inProgress final) :
    resolver.Continues schemas inProgress final :=
  ⟨h'.ready, fun hkept => h'.keeps (h.keeps hkept)⟩

/-- Marking a type as in progress adds it to those in progress. -/
theorem Ready.start (h : resolver.Ready schemas inProgress) (id : String) :
    (start id resolver).Ready schemas (id :: inProgress) where
  inProgress_eq := congrArg (List.cons id) h.inProgress_eq
  resolves := h.resolves

/-- Keeping the type that was started, once its schema was followed, leaves the resolver ready. -/
theorem Continues.finish {id : String} {type : CustomType}
    (h : (Resolver.start id resolver).Continues schemas (id :: inProgress) middle)
    (htype : Resolves schemas id type) :
    resolver.Continues schemas inProgress (finish type middle) where
  ready :=
    { inProgress_eq := by
        rw [Resolver.finish, h.ready.inProgress_eq, htype.id_eq, List.erase_cons_head]
      resolves := fun {key kept} hkept => by
        rw [Resolver.finish, Table.get?_insert, htype.id_eq] at hkept
        split at hkept
        next heq =>
          obtain rfl := Option.some.inj hkept
          exact heq ▸ htype
        next => exact h.ready.resolves hkept }
  keeps {key kept} hkept := by
    have hmiddle := h.keeps hkept
    rw [Resolver.finish, Table.get?_insert, htype.id_eq]
    split
    next heq => rw [htype.unique (heq ▸ h.ready.resolves hmiddle)]
    next => exact hmiddle

end Resolver

/-- While these types are in progress, the action comes to the result, whatever types are kept. -/
structure Agrees (schemas : Table Schema) (inProgress : List String) (action : Resolving α)
    (result : Except DescriptionError α) : Prop where
  outcome : ∀ {resolver : Resolver}, resolver.Ready schemas inProgress →
    (action resolver).map Prod.fst = result
  continues : ∀ {resolver value final}, resolver.Ready schemas inProgress →
    action resolver = .ok (value, final) → resolver.Continues schemas inProgress final

namespace Agrees

variable {action : Resolving α} {result : Except DescriptionError α} {resolver : Resolver}

/-- An action comes to a result if each of its runs returns its value or fails with its error. -/
theorem of_run
    (hrun : ∀ {resolver : Resolver}, resolver.Ready schemas inProgress →
      (∃ value final, action resolver = .ok (value, final) ∧ result = .ok value ∧
        resolver.Continues schemas inProgress final) ∨
      ∃ error, action resolver = .error error ∧ result = .error error) :
    Agrees schemas inProgress action result where
  outcome hready := by
    rcases hrun hready with ⟨value, final, hok, rfl, -⟩ | ⟨error, herror, rfl⟩
    · rw [hok]
      rfl
    · rw [herror]
      rfl
  continues hready hok := by
    rcases hrun hready with ⟨value, final, hok', -, hfinal⟩ | ⟨error, herror, -⟩
    · cases hok.symm.trans hok'
      exact hfinal
    · cases hok.symm.trans herror

/-- A run that returns returns the value of the result. -/
theorem value (h : Agrees schemas inProgress action result)
    (hready : resolver.Ready schemas inProgress) {value : α} {final : Resolver}
    (hok : action resolver = .ok (value, final)) : result = .ok value := by
  have houtcome := h.outcome hready
  rw [hok] at houtcome
  exact houtcome.symm

/-- A run that fails fails with the error of the result. -/
theorem error (h : Agrees schemas inProgress action result)
    (hready : resolver.Ready schemas inProgress) {error : DescriptionError}
    (herror : action resolver = .error error) : result = .error error := by
  have houtcome := h.outcome hready
  rw [herror] at houtcome
  exact houtcome.symm

/-- Returning a value comes to this value. -/
theorem pure (value : α) : Agrees schemas inProgress (pure value) (.ok value) :=
  of_run fun {resolver} hready => .inl ⟨value, resolver, rfl, rfl, .refl hready⟩

/-- Failing comes to the error. -/
theorem throw (error : DescriptionError) :
    Agrees schemas inProgress (α := α) (throw error) (.error error) :=
  of_run fun _ => .inr ⟨error, rfl, rfl⟩

/-- A sequence comes to what its second part comes to after its first part. -/
theorem bind {next : α → Resolving β} {following : α → Except DescriptionError β}
    (h : Agrees schemas inProgress action result)
    (hnext : ∀ value, Agrees schemas inProgress (next value) (following value)) :
    Agrees schemas inProgress (action >>= next) (result >>= following) := by
  refine of_run fun {resolver} hready => ?_
  rw [Resolving.bind_run]
  cases haction : action resolver with
  | error error =>
      rw [h.error hready haction]
      exact .inr ⟨error, rfl, rfl⟩
  | ok pair =>
      obtain ⟨value, middle⟩ := pair
      have hmiddle := h.continues hready haction
      rw [h.value hready haction]
      show (∃ other final, next value middle = .ok (other, final) ∧ following value = .ok other ∧
          resolver.Continues schemas inProgress final) ∨
        ∃ error, next value middle = .error error ∧ following value = .error error
      cases hrun : next value middle with
      | error error => exact .inr ⟨error, rfl, (hnext value).error hmiddle.ready hrun⟩
      | ok pair =>
          exact .inl ⟨pair.1, pair.2, rfl, (hnext value).value hmiddle.ready hrun,
            hmiddle.trans ((hnext value).continues hmiddle.ready hrun)⟩

/-- Running an action for each of some values comes to what each of them comes to, in order. -/
theorem mapM {action : α → Resolving β} {result : α → Except DescriptionError β}
    (h : ∀ value, Agrees schemas inProgress (action value) (result value)) (values : List α) :
    Agrees schemas inProgress (values.mapM action) (values.mapM result) := by
  induction values with
  | nil => exact pure []
  | cons head rest ih =>
      rw [List.mapM_cons, List.mapM_cons]
      exact (h head).bind fun _ => ih.bind fun _ => pure _

end Agrees

namespace Resolver

mutual

/-- Following a schema comes to what expanding it gives, if resolving each id to which it refers
does. -/
theorem define_agrees {resolve : String → Resolving CustomType}
    {typeOf : String → Except DescriptionError CustomType} (owner name : String) :
    (schema : Schema) →
      (∀ id ∈ schema.references, Agrees schemas inProgress (resolve id) (typeOf id)) →
      Agrees schemas inProgress (define resolve owner name schema)
        (schema.expand typeOf owner name)
  | .defective _, _ => .throw _
  | .reference _ _, h => (h _ List.mem_cons_self).bind fun _ => .pure _
  | .primitive _ _, _ | .untypedObject _, _ => .pure _
  | .typedObject properties _ _ _, h =>
      (defineAll_agrees owner properties h).bind fun _ => .pure _
  | .array items _, h => (define_agrees owner name items h).bind fun _ => .pure _

/-- Following named schemas comes to what expanding them gives, if resolving each id to which they
refer does. -/
theorem defineAll_agrees {resolve : String → Resolving CustomType}
    {typeOf : String → Except DescriptionError CustomType} (owner : String) :
    (properties : List (String × Schema)) →
      (∀ id ∈ Schema.propertyReferences properties,
        Agrees schemas inProgress (resolve id) (typeOf id)) →
      Agrees schemas inProgress (defineAll resolve owner properties)
        (Schema.expandAll typeOf owner properties)
  | [], _ => .pure _
  | (name, schema) :: rest, h =>
      (define_agrees owner name schema fun id hid => h id (List.mem_append_left _ hid)).bind
        fun _ => (defineAll_agrees owner rest fun id hid => h id (List.mem_append_right _ hid)).bind
          fun _ => .pure _

end

/-- Resolving an id, case by case: a kept type is returned, a type in progress leads back to itself,
a type that is not declared is unknown, and any other type is entered within the budget. -/
theorem resolveWithin_run (schemas : Table Schema) (budget : Nat) (owner id : String)
    (resolver : Resolver) :
    resolveWithin schemas budget owner id resolver =
      match resolver.resolved.get? id with
      | some type => .ok (type, resolver)
      | none =>
          if resolver.inProgress.contains id then .error (.cyclicType id)
          else
            match schemas.get? id, budget with
            | none, _ => .error (.unknownType owner (Reference.ofType id))
            | some _, 0 => .error (.cyclicType id)
            | some schema, budget + 1 =>
                (define (resolveWithin schemas budget id) id id schema (start id resolver)).map
                  fun result =>
                    (.ofDefinition id result.1, finish (.ofDefinition id result.1) result.2) := by
  unfold resolveWithin
  -- the reads of the resolver's state are run, the cases of the function are left
  show (match resolver.resolved.get? id with
    | some _ => _
    | none => _ : Resolving CustomType) resolver = _
  cases resolver.resolved.get? id with
  | some type => rfl
  | none =>
      dsimp only
      split
      · rfl
      · cases schemas.get? id with
        | none => rfl
        | some schema =>
            cases budget with
            | zero => rfl
            | succ budget =>
                dsimp only
                show (define (resolveWithin schemas budget id) id id schema
                  (start id resolver)).bind _ = _
                cases define (resolveWithin schemas budget id) id id schema (start id resolver) with
                | error error => rfl
                | ok result => rfl

/-- Distinct declared ids are at most as many as there are declared types. -/
theorem length_le_size {ids : List String} (hnodup : ids.Nodup) (hdeclared : ids ⊆ schemas.names) :
    ids.length ≤ schemas.size := by
  have hle := hnodup.length_le_of_subset hdeclared
  rwa [Table.names, Entries.names, List.length_map] at hle

/-- Resolving an id within a budget comes to what expanding it inside the types in progress gives,
if these are distinct declared types that lead to the id, and all further types fit into the
budget. -/
theorem resolveWithin_agrees (budget : Nat) {inProgress : List String} {owner id : String}
    (hnodup : inProgress.Nodup) (hdeclared : inProgress ⊆ schemas.names)
    (hbudget : schemas.size ≤ budget + inProgress.length)
    (hchain : ∀ outer ∈ inProgress, Relation.TransGen (Schema.Follows schemas) outer id) :
    Agrees schemas inProgress (resolveWithin schemas budget owner id)
      (expandType schemas inProgress owner id) := by
  refine .of_run fun {resolver} hready => ?_
  rw [resolveWithin_run]
  cases hkept : resolver.resolved.get? id with
  | some type =>
      -- A kept type does not lead back to itself, so expanding it meets no type in progress either.
      exact .inl ⟨type, resolver, rfl, expandType_complete (hready.resolves hkept) hchain,
        .refl hready⟩
  | none =>
      dsimp only
      rw [hready.inProgress_eq]
      by_cases hentered : id ∈ inProgress
      · rw [if_pos (List.contains_iff_mem.2 hentered), expandType_of_mem hentered]
        exact .inr ⟨_, rfl, rfl⟩
      rw [if_neg (mt List.contains_iff_mem.1 hentered)]
      cases hschema : schemas.get? id with
      | none =>
          rw [expandType_of_none hentered hschema]
          exact .inr ⟨_, rfl, rfl⟩
      | some schema =>
          have hnodup' : (id :: inProgress).Nodup := List.nodup_cons.2 ⟨hentered, hnodup⟩
          have hdeclared' : id :: inProgress ⊆ schemas.names :=
            List.cons_subset.2 ⟨Table.mem_names_of_get? hschema, hdeclared⟩
          cases budget with
          | zero =>
              -- All declared types are in progress already, so this one is.
              have hle := length_le_size hnodup' hdeclared'
              rw [List.length_cons] at hle
              omega
          | succ budget =>
              -- Entering the type moves one unit from the budget to the types in progress.
              have hbudget' : schemas.size ≤ budget + (id :: inProgress).length := by
                rw [List.length_cons]
                omega
              have hdefine : Agrees schemas (id :: inProgress)
                  (define (resolveWithin schemas budget id) id id schema)
                  (schema.expand (expandType schemas (id :: inProgress) id) id id) := by
                refine define_agrees id id schema fun next hnext =>
                  resolveWithin_agrees budget hnodup' hdeclared' hbudget' fun outer houter => ?_
                have hstep : Schema.Follows schemas id next := ⟨schema, hschema, hnext⟩
                rcases List.mem_cons.1 houter with rfl | houter
                · exact .single hstep
                · exact .tail (hchain outer houter) hstep
              have hstarted := hready.start id
              rw [expandType_of_some hentered hschema]
              dsimp only
              cases hrun : define (resolveWithin schemas budget id) id id schema
                  (start id resolver) with
              | error error =>
                  rw [hdefine.error hstarted hrun]
                  exact .inr ⟨error, rfl, rfl⟩
              | ok result =>
                  have hexpand := hdefine.value hstarted hrun
                  have htype := resolves_iff.2 ⟨schema, result.1, hschema,
                    Schema.Defines.mono schema (fun _ _ _ => expandType_sound)
                      ((Schema.expand_eq_ok_iff id id schema).1 hexpand), rfl⟩
                  rw [hexpand]
                  exact .inl ⟨_, _, rfl, rfl, (hdefine.continues hstarted hrun).finish htype⟩

/-- Resolving an id while no type is in progress comes to what expanding it gives. -/
theorem resolve_agrees (owner id : String) :
    Agrees schemas [] (resolve schemas owner id) (expandType schemas [] owner id) :=
  resolveWithin_agrees schemas.size .nil (List.nil_subset _) (Nat.le_refl _) fun _ h => by cases h

/-- Following named JSON values comes to what expanding them gives. -/
theorem parameters_agrees (owner : String) (values : Table Json) :
    Agrees schemas [] (parameters schemas owner values) (expandTable schemas owner values) :=
  (defineAll_agrees owner (values.map Schema.ofJson).entries fun id _ =>
    resolve_agrees owner id).bind fun _ => .pure _

end Resolver

/-- While these types are in progress, the action succeeds exactly with the values that satisfy the
specification, and leaves the resolver ready. -/
structure Computes (schemas : Table Schema) (inProgress : List String) (action : Resolving α)
    (spec : α → Prop) : Prop where
  sound : ∀ {resolver value final}, resolver.Ready schemas inProgress →
    action resolver = .ok (value, final) →
    spec value ∧ resolver.Continues schemas inProgress final
  complete : ∀ {resolver value}, resolver.Ready schemas inProgress → spec value →
    ∃ final, action resolver = .ok (value, final)

/-- An action that comes to a result computes the value of the result. -/
theorem Agrees.computes {action : Resolving α} {result : Except DescriptionError α}
    {spec : α → Prop} (h : Agrees schemas inProgress action result)
    (hspec : ∀ {value}, result = .ok value ↔ spec value) :
    Computes schemas inProgress action spec where
  sound hready hok := ⟨hspec.1 (h.value hready hok), h.continues hready hok⟩
  complete {resolver value} hready hvalue := by
    have houtcome := (h.outcome hready).trans (hspec.2 hvalue)
    cases haction : action resolver with
    | error error =>
        rw [haction] at houtcome
        cases houtcome
    | ok pair =>
        rw [haction] at houtcome
        exact ⟨pair.2, congrArg Except.ok (Prod.ext (Except.ok.inj houtcome) rfl)⟩

namespace Computes

/-- Returning a value computes this value. -/
theorem pure (value : α) :
    Computes schemas inProgress (pure value) (fun other => other = value) :=
  (Agrees.pure value).computes pure_eq_ok_iff

/-- What is computed may be specified in other words. -/
theorem congr {action : Resolving α} {spec spec' : α → Prop}
    (h : Computes schemas inProgress action spec) (heq : ∀ value, spec value ↔ spec' value) :
    Computes schemas inProgress action spec' where
  sound hready hrun := (h.sound hready hrun).imp (heq _).1 id
  complete hready hspec := h.complete hready ((heq _).2 hspec)

/-- A sequence computes what its second part computes from what its first part computes. -/
theorem bind {action : Resolving α} {next : α → Resolving β} {spec : α → Prop}
    {spec' : α → β → Prop} (h : Computes schemas inProgress action spec)
    (hnext : ∀ value, spec value → Computes schemas inProgress (next value) (spec' value)) :
    Computes schemas inProgress (action >>= next)
      (fun result => ∃ value, spec value ∧ spec' value result) where
  sound {resolver result final} hready hrun := by
    obtain ⟨value, middle, haction, hrun⟩ := Resolving.exists_of_bind hrun
    obtain ⟨hspec, hmiddle⟩ := h.sound hready haction
    obtain ⟨hspec', hfinal⟩ := (hnext value hspec).sound hmiddle.ready hrun
    exact ⟨⟨value, hspec, hspec'⟩, hmiddle.trans hfinal⟩
  complete {resolver result} hready hresult := by
    obtain ⟨value, hspec, hspec'⟩ := hresult
    obtain ⟨middle, haction⟩ := h.complete hready hspec
    obtain ⟨-, hmiddle⟩ := h.sound hready haction
    obtain ⟨final, hrun⟩ := (hnext value hspec).complete hmiddle.ready hspec'
    refine ⟨final, ?_⟩
    rw [Resolving.bind_run, haction]
    exact hrun

/-- Running an action for each of some values computes one result for each. -/
theorem mapM {action : α → Resolving β} {spec : α → β → Prop}
    (h : ∀ value, Computes schemas inProgress (action value) (spec value)) (values : List α) :
    Computes schemas inProgress (values.mapM action) (List.Forall₂ spec values) := by
  induction values with
  | nil =>
      rw [List.mapM_nil]
      exact (pure []).congr fun results => by simp
  | cons head rest ih =>
      rw [List.mapM_cons]
      refine ((h head).bind fun result _ => ih.bind fun results _ =>
        pure (result :: results)).congr fun results => ?_
      constructor
      · rintro ⟨result, hresult, others, hothers, rfl⟩
        exact .cons hresult hothers
      · intro hresults
        cases hresults with
        | cons hresult hothers => exact ⟨_, hresult, _, hothers, rfl⟩

end Computes

namespace Resolver

/-- Resolving an id while no type is in progress computes the type that the id names. -/
theorem resolve_computes (owner id : String) :
    Computes schemas [] (resolve schemas owner id) (Resolves schemas id) :=
  (resolve_agrees owner id).computes expandType_eq_ok_iff

/-- Following named JSON values computes the table of the definitions that they declare. -/
theorem parameters_computes (owner : String) (values : Table Json) :
    Computes schemas [] (parameters schemas owner values) (DefinesTable schemas values) :=
  (parameters_agrees owner values).computes expandTable_eq_ok_iff

end Resolver

end AppManifest
