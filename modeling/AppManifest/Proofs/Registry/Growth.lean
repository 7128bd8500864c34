import AppManifest.Proofs.Registry.Part

/-!
# What registering parts does to a registry

Registering parts only ever appends entries and events. Afterwards every given part is met: a part
is registered under its id, and either equals it or is reported to be in conflict with it. So is
every part that an added part uses; and every part that was added, or that a conflict was reported
for, was given or is used by a part that is registered (`Registry.Grows`,
`Registry.registerParts_grows`).

A walk stops at every id that is taken, also while the part that has the id is still being walked.
What a part uses is therefore settled only at the end of its own walk, and the statement speaks of
the parts added between two states and not of all parts of one.
-/

namespace AppManifest.Registry

/-- Every section of a registry, and its log, begins with what it held before. -/
structure Extends (before after : Registry) : Prop where
  functions : before.functions.entries <+: after.functions.entries
  types : before.types.entries <+: after.types.entries
  workflows : before.workflows.entries <+: after.workflows.entries
  datastores : before.datastores.entries <+: after.datastores.entries
  providers : before.providers.entries <+: after.providers.entries
  events : before.events <+: after.events

/-- A part is registered under the id of this part, and either equals it or is reported to be in
conflict with it. Nothing is reported of a provider whose key is taken. -/
def Meets (registry : Registry) (part : Part) : Prop :=
  ∃ kept : Part, registry.Keeps kept ∧ kept.kind = part.kind ∧ kept.id = part.id ∧
    (part.kind = .provider ∨ kept.same part = true ∨
      .conflicting part.kind part.id ∈ registry.events)

/-- The parts that registering the given parts can come to: the given ones, and what registered ones
among them use. -/
inductive Reaches (registry : Registry) (given : List Part) : Part → Prop where
  | given {part : Part} : part ∈ given → Reaches registry given part
  | used {part used : Part} :
      Reaches registry given part → registry.Keeps part → used ∈ part.uses →
      Reaches registry given used

/-- A part that can be come to differs from the registered part of the kind and the id. -/
def Clashes (registry : Registry) (given : List Part) (kind : EntityKind) (id : String) : Prop :=
  ∃ kept part : Part, registry.Keeps kept ∧ registry.Reaches given part ∧ kept.kind = kind ∧
    part.kind = kind ∧ kept.id = id ∧ part.id = id ∧ kind ≠ .provider ∧ kept.same part = false

/-- What registering the given parts does to a coherent registry. -/
structure Grows (given : List Part) (before after : Registry) : Prop where
  coherent : after.Coherent
  extension : before.Extends after
  meets : ∀ part ∈ given, after.Meets part
  settles : ∀ part, after.Keeps part → before.Keeps part ∨ ∀ used ∈ part.uses, after.Meets used
  origin : ∀ part, after.Keeps part → before.Keeps part ∨ after.Reaches given part
  conflicts : ∀ kind id, .conflicting kind id ∈ after.events →
    .conflicting kind id ∈ before.events ∨ after.Clashes given kind id

variable {before middle after registry : Registry} {given first second : List Part} {part : Part}

/-- Every registry extends itself. -/
theorem Extends.refl (registry : Registry) : registry.Extends registry :=
  ⟨List.prefix_rfl, List.prefix_rfl, List.prefix_rfl, List.prefix_rfl, List.prefix_rfl,
    List.prefix_rfl⟩

/-- What extends an extension extends the registry. -/
theorem Extends.trans (h : before.Extends middle) (h' : middle.Extends after) :
    before.Extends after where
  functions := h.functions.trans h'.functions
  types := h.types.trans h'.types
  workflows := h.workflows.trans h'.workflows
  datastores := h.datastores.trans h'.datastores
  providers := h.providers.trans h'.providers
  events := h.events.trans h'.events

/-- An extension keeps every part. -/
theorem Extends.keeps (h : before.Extends after) (hpart : before.Keeps part) :
    after.Keeps part := by
  cases part with
  | function entity => exact h.functions.subset hpart
  | type entity => exact h.types.subset hpart
  | workflow entity => exact h.workflows.subset hpart
  | datastore entity => exact h.datastores.subset hpart
  | provider entity => exact h.providers.subset hpart

/-- Noting an event extends a registry. -/
theorem Extends.note (registry : Registry) (event? : Option Event) :
    registry.Extends (registry.note event?) :=
  ⟨List.prefix_rfl, List.prefix_rfl, List.prefix_rfl, List.prefix_rfl, List.prefix_rfl,
    List.prefix_append _ _⟩

/-- Keeping a part extends a registry. -/
theorem Extends.keep (registry : Registry) (part : Part) :
    registry.Extends (registry.keep part) := by
  have h := Extends.note registry (some (.registered part.kind part.id))
  cases part with
  | function entity => exact { h with functions := List.prefix_append _ _ }
  | type entity => exact { h with types := List.prefix_append _ _ }
  | workflow entity => exact { h with workflows := List.prefix_append _ _ }
  | datastore entity => exact { h with datastores := List.prefix_append _ _ }
  | provider entity => exact { h with providers := List.prefix_append _ _ }

/-- A part that is met stays met. -/
theorem Meets.mono (hextends : before.Extends after) (h : before.Meets part) :
    after.Meets part := by
  obtain ⟨kept, hkept, hkind, hid, hsame⟩ := h
  exact ⟨kept, hextends.keeps hkept, hkind, hid,
    hsame.imp_right (Or.imp_right (hextends.events.subset ·))⟩

/-- A registered part is met. -/
theorem Meets.of_keeps (h : registry.Keeps part) : registry.Meets part :=
  ⟨part, h, rfl, rfl, .inr (.inl part.same_self)⟩

/-- A part that is met has its id taken. -/
theorem Meets.isTaken (h : registry.Meets part) (hregistry : registry.Coherent) :
    registry.isTaken part.kind part.id = true := by
  obtain ⟨kept, hkept, hkind, hid, -⟩ := h
  exact hregistry.isTaken_iff.2 ⟨kept, hkept, hkind, hid⟩

/-- An extension reaches what the registry reaches, also from more parts. -/
theorem Reaches.mono (hextends : before.Extends after) (hgiven : ∀ part ∈ first, part ∈ second)
    (h : before.Reaches first part) : after.Reaches second part := by
  induction h with
  | given hmem => exact .given (hgiven _ hmem)
  | used _ hkeeps hused ih => exact ih.used (hextends.keeps hkeeps) hused

/-- What is reached from parts that are themselves reached is reached. -/
theorem Reaches.trans (hgiven : ∀ part ∈ first, registry.Reaches second part)
    (h : registry.Reaches first part) : registry.Reaches second part := by
  induction h with
  | given hmem => exact hgiven _ hmem
  | used _ hkeeps hused ih => exact ih.used hkeeps hused

/-- A clash stays one, also if more parts are given. -/
theorem Clashes.mono (hextends : before.Extends after) (hgiven : ∀ part ∈ first, part ∈ second)
    {kind : EntityKind} {id : String} (h : before.Clashes first kind id) :
    after.Clashes second kind id := by
  obtain ⟨kept, part, hkept, hpart, hclash⟩ := h
  exact ⟨kept, part, hextends.keeps hkept, hpart.mono hextends hgiven, hclash⟩

/-- Registering nothing changes nothing. -/
theorem Grows.refl (h : registry.Coherent) : Grows [] registry registry where
  coherent := h
  extension := .refl registry
  meets _ hpart := by cases hpart
  settles _ hkeeps := .inl hkeeps
  origin _ hkeeps := .inl hkeeps
  conflicts _ _ hevent := .inl hevent

/-- Registering parts and then more parts is registering all of them. -/
theorem Grows.trans (h : Grows first before middle) (h' : Grows second middle after) :
    Grows (first ++ second) before after where
  coherent := h'.coherent
  extension := h.extension.trans h'.extension
  meets part hpart := by
    rcases List.mem_append.1 hpart with hpart | hpart
    · exact (h.meets part hpart).mono h'.extension
    · exact h'.meets part hpart
  settles part hkeeps := by
    rcases h'.settles part hkeeps with hmiddle | hsettled
    · exact (h.settles part hmiddle).imp_right fun hsettled used hused =>
        (hsettled used hused).mono h'.extension
    · exact .inr hsettled
  origin part hkeeps := by
    rcases h'.origin part hkeeps with hmiddle | hreaches
    · exact (h.origin part hmiddle).imp_right
        (Reaches.mono h'.extension fun _ => List.mem_append_left _)
    · exact .inr (hreaches.mono (.refl after) fun _ => List.mem_append_right _)
  conflicts kind id hevent := by
    rcases h'.conflicts kind id hevent with hmiddle | hclash
    · exact (h.conflicts kind id hmiddle).imp_right
        (Clashes.mono h'.extension fun _ => List.mem_append_left _)
    · exact .inr (hclash.mono (.refl after) fun _ => List.mem_append_right _)

/-- Registering a part with a taken id adds nothing but the report of it. -/
theorem Grows.of_taken (h : registry.Coherent)
    (htaken : registry.isTaken part.kind part.id = true) :
    Grows [part] registry (registry.registerPart part) := by
  obtain ⟨kept, hkept, hkind, hid, heq⟩ := registerPart_of_taken h htaken
  rw [heq]
  exact
    { coherent := h.note _
      extension := .note registry _
      meets := fun other hother => by
        cases List.mem_singleton.1 hother
        refine ⟨kept, keeps_note.2 hkept, hkind, hid, ?_⟩
        by_cases hprovider : part.kind = .provider
        · exact .inl hprovider
        · rw [if_neg hprovider, Part.verdict]
          cases hsame : kept.same part with
          | true => exact .inr (.inl rfl)
          | false => exact .inr (.inr (List.mem_append_right _ List.mem_cons_self))
      settles := fun other hother => .inl (keeps_note.1 hother)
      origin := fun other hother => .inl (keeps_note.1 hother)
      conflicts := fun kind id hevent => by
        rcases List.mem_append.1 hevent with hevent | hevent
        · exact .inl hevent
        · -- the event is the one that was noted, so the verdict was a conflict
          split at hevent
          next => cases hevent
          next hprovider =>
            cases hsame : kept.same part with
            | true =>
                rw [Part.verdict, if_pos hsame] at hevent
                cases List.mem_singleton.1 hevent
            | false =>
                rw [Part.verdict, if_neg (Bool.eq_false_iff.1 hsame)] at hevent
                cases List.mem_singleton.1 hevent
                exact .inr ⟨kept, part, keeps_note.2 hkept, .given List.mem_cons_self, hkind, rfl,
                  hid, rfl, hprovider, hsame⟩ }

/-- Registering what a kept part uses registers the part. -/
theorem Grows.of_keep (h : Grows part.uses (registry.keep part) after) :
    Grows [part] registry after := by
  have hpart : after.Keeps part := h.extension.keeps (keeps_keep.2 (.inr rfl))
  have hgiven : after.Reaches [part] part := .given List.mem_cons_self
  have huses : ∀ used ∈ part.uses, after.Reaches [part] used := fun _ => hgiven.used hpart
  exact
    { coherent := h.coherent
      extension := (Extends.keep registry part).trans h.extension
      meets := fun other hother => by
        cases List.mem_singleton.1 hother
        exact .of_keeps hpart
      settles := fun other hother => by
        rcases h.settles other hother with hkept | hsettled
        · rcases keeps_keep.1 hkept with hkept | rfl
          · exact .inl hkept
          · -- only now, after the walk, is all that the part itself uses met
            exact .inr h.meets
        · exact .inr hsettled
      origin := fun other hother => by
        rcases h.origin other hother with hkept | hreaches
        · rcases keeps_keep.1 hkept with hkept | rfl
          · exact .inl hkept
          · exact .inr hgiven
        · exact .inr (hreaches.trans huses)
      conflicts := fun kind id hevent => by
        rcases h.conflicts kind id hevent with hkept | ⟨kept, other, hkept, hother, hclash⟩
        · rw [events_keep] at hkept
          exact .inl (by simpa using hkept)
        · exact .inr ⟨kept, other, hkept, hother.trans huses, hclash⟩ }

/-- Registering parts grows a registry if registering each of them does. -/
theorem registerParts_grows_of (parts : List Part)
    (hparts : ∀ part ∈ parts, ∀ {registry : Registry}, registry.Coherent →
      Grows [part] registry (registry.registerPart part))
    (h : registry.Coherent) : Grows parts registry (registry.registerParts parts) := by
  induction parts generalizing registry with
  | nil => exact .refl h
  | cons part rest ih =>
      have hpart := hparts part List.mem_cons_self h
      exact hpart.trans (ih (fun other hother => hparts other (List.mem_cons_of_mem _ hother))
        hpart.coherent)

/-- Registering a part grows a registry. -/
theorem registerPart_grows (part : Part) (h : registry.Coherent) :
    Grows [part] registry (registry.registerPart part) := by
  -- on what the part uses, in any registry: the walk changes it before it comes to a used part
  induction part using Part.usesInduction generalizing registry with
  | step part ih =>
      by_cases htaken : registry.isTaken part.kind part.id = true
      · exact .of_taken h htaken
      · have hfree := Bool.eq_false_iff.2 htaken
        rw [registerPart_of_free hfree]
        exact .of_keep (registerParts_grows_of part.uses ih (h.keep hfree))

/-- Registering parts grows a registry. -/
theorem registerParts_grows (parts : List Part) (h : registry.Coherent) :
    Grows parts registry (registry.registerParts parts) :=
  registerParts_grows_of parts (fun part _ => registerPart_grows part) h

/-- Operations on a fresh registry grow it by their parts. -/
theorem applyAll_grows (operations : List Operation) :
    Grows (operations.flatMap Operation.parts) .empty (Registry.empty.applyAll operations) := by
  rw [applyAll_eq]
  exact registerParts_grows _ .empty

/-- Every given part has its id taken. -/
theorem Grows.covers (h : Grows given before after) :
    ∀ part ∈ given, after.isTaken part.kind part.id = true :=
  fun part hpart => (h.meets part hpart).isTaken h.coherent

/-- In a registry in which parts have been registered, all parts that a registered part uses are
met. -/
theorem Grows.meets_used (h : Grows given .empty registry) (part used : Part)
    (hpart : registry.Keeps part) (hused : used ∈ part.uses) : registry.Meets used := by
  rcases h.settles part hpart with hempty | hsettled
  · cases part <;> cases hempty
  · exact hsettled used hused

/-- In a registry in which parts have been registered, the ids of all parts that a registered part
uses are taken. -/
theorem Grows.settled (h : Grows given .empty registry) (part used : Part)
    (hpart : registry.Keeps part) (hused : used ∈ part.uses) :
    registry.isTaken used.kind used.id = true :=
  (h.meets_used part used hpart hused).isTaken h.coherent

/-- In a registry in which parts have been registered, every registered part is reached from
them. -/
theorem Grows.reached (h : Grows given .empty registry) {part : Part}
    (hpart : registry.Keeps part) : registry.Reaches given part := by
  rcases h.origin part hpart with hempty | hreaches
  · cases part <;> cases hempty
  · exact hreaches

end AppManifest.Registry
