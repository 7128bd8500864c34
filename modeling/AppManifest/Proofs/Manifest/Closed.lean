import AppManifest.Proofs.Manifest.Registration

/-!
# Manifests that declare everything they use

If a manifest declares every part that its parts use, and no two parts of a kind under one id, then
what is registered when it is exported are just its declarations (`Manifest.Closed.keeps_iff`): the
walk comes to no other part, and no declaration is taken for a repetition.
-/

namespace AppManifest

namespace Manifest

/-- Every part that is used is declared, and no two declarations of a kind have the same id. -/
structure Closed (manifest : Manifest) : Prop where
  uses : ∀ part ∈ manifest.parts, ∀ used ∈ part.uses, used ∈ manifest.parts
  distinct : ∀ first ∈ manifest.parts, ∀ second ∈ manifest.parts, first.kind = second.kind →
    first.id = second.id → first = second

variable {manifest : Manifest} {part : Part}

/-- The part is one of the declarations of its kind. -/
def Has (manifest : Manifest) : Part → Prop
  | .function entity => entity ∈ manifest.functions
  | .type entity => entity ∈ manifest.types
  | .workflow entity => entity ∈ manifest.workflows
  | .datastore entity => entity ∈ manifest.datastores
  | .provider entity => entity ∈ manifest.providers

/-- The declared parts are the declarations of each kind. -/
theorem mem_parts_iff : part ∈ manifest.parts ↔ manifest.Has part := by
  cases part <;> simp [parts, Has]

/-- Declarations of a kind differ in their ids if the ids are listed without repetition. -/
theorem distinct_of_nodup (hfunctions : (manifest.functions.map AppFunction.id).Nodup)
    (htypes : (manifest.types.map CustomType.id).Nodup)
    (hworkflows : (manifest.workflows.map Workflow.id).Nodup)
    (hdatastores : (manifest.datastores.map Datastore.name).Nodup)
    (hproviders : (manifest.providers.map Provider.key).Nodup) {first second : Part}
    (hfirst : first ∈ manifest.parts) (hsecond : second ∈ manifest.parts)
    (hkind : first.kind = second.kind) (hid : first.id = second.id) : first = second := by
  rw [mem_parts_iff] at hfirst hsecond
  cases first <;> cases second <;> cases hkind
  case function.function => rw [List.inj_on_of_nodup_map hfunctions hfirst hsecond hid]
  case type.type => rw [List.inj_on_of_nodup_map htypes hfirst hsecond hid]
  case workflow.workflow => rw [List.inj_on_of_nodup_map hworkflows hfirst hsecond hid]
  case datastore.datastore => rw [List.inj_on_of_nodup_map hdatastores hfirst hsecond hid]
  case provider.provider => rw [List.inj_on_of_nodup_map hproviders hfirst hsecond hid]

/-- What is registered is reached from the declarations, and every declaration has its id taken. -/
theorem collected_grows (manifest : Manifest) :
    Registry.Grows manifest.parts .empty manifest.collected :=
  Registry.registerParts_grows manifest.parts Registry.Coherent.empty

/-- Only declared parts are reached. -/
theorem Closed.mem_of_reaches (h : manifest.Closed) {registry : Registry}
    (hreaches : registry.Reaches manifest.parts part) : part ∈ manifest.parts := by
  induction hreaches with
  | given hmem => exact hmem
  | used _ _ hused ih => exact h.uses _ ih _ hused

/-- The registered parts are the declared ones. -/
theorem Closed.keeps_iff (h : manifest.Closed) :
    manifest.collected.Keeps part ↔ part ∈ manifest.parts := by
  have hgrows := manifest.collected_grows
  constructor
  · intro hkeeps
    exact h.mem_of_reaches (hgrows.reached hkeeps)
  · intro hmem
    -- whatever has the id was reached, hence declared, hence is the part
    obtain ⟨kept, hkeeps, hkind, hid⟩ := hgrows.coherent.isTaken_iff.1 (hgrows.covers part hmem)
    have hkept := h.mem_of_reaches (hgrows.reached hkeeps)
    exact h.distinct kept hkept part hmem hkind hid ▸ hkeeps

end Manifest

end AppManifest
