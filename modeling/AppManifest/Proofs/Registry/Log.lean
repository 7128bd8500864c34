import AppManifest.Proofs.Registry.Growth

/-!
# What the log says

Whatever holds of a registry and stays true when a part with a free id is kept and when anything
else is reported holds after every walk (`Registry.registerParts_induction`). So every event is that
of a registration (`Registry.Reports`), and a part is reported to be registered once if its id is
taken and never if it is free (`Registry.Logged`).
-/

namespace AppManifest.Registry

section Induction

variable {motive : Registry → Prop} {registry : Registry}

/-- What registering each of some parts preserves holds after all of them have been registered. -/
theorem registerParts_preserves (parts : List Part)
    (hparts : ∀ part ∈ parts, ∀ {registry : Registry}, registry.Coherent → motive registry →
      motive (registry.registerPart part))
    (hcoherent : registry.Coherent) (h : motive registry) :
    motive (registry.registerParts parts) := by
  induction parts generalizing registry with
  | nil => exact h
  | cons part rest ih =>
      exact ih (fun other hother => hparts other (List.mem_cons_of_mem _ hother))
        (registerPart_grows part hcoherent).coherent (hparts part List.mem_cons_self hcoherent h)

variable
  (keep : ∀ {registry : Registry} {part : Part}, registry.isTaken part.kind part.id = false →
    motive registry → motive (registry.keep part))
  (note : ∀ {registry : Registry} {outcome : Registration} {kind : EntityKind} {id : String},
    outcome ≠ .inserted → motive registry → motive (registry.note (some (outcome.event kind id))))

include keep note

/-- What keeping a part with a free id preserves, and reporting any outcome but an insertion, holds
after a part has been registered. -/
theorem registerPart_induction (part : Part) (hcoherent : registry.Coherent)
    (h : motive registry) : motive (registry.registerPart part) := by
  induction part using Part.usesInduction generalizing registry with
  | step part ih =>
      by_cases htaken : registry.isTaken part.kind part.id = true
      · obtain ⟨kept, -, -, -, heq⟩ := registerPart_of_taken hcoherent htaken
        rw [heq]
        split
        · simpa [Registry.note] using h
        · exact note (kept.verdict_ne_inserted part) h
      · have hfree := Bool.eq_false_iff.2 htaken
        rw [registerPart_of_free hfree]
        exact registerParts_preserves part.uses ih (hcoherent.keep hfree) (keep hfree h)

/-- What keeping a part with a free id preserves, and reporting any outcome but an insertion, holds
after parts have been registered. -/
theorem registerParts_induction (parts : List Part) (hcoherent : registry.Coherent)
    (h : motive registry) : motive (registry.registerParts parts) :=
  registerParts_preserves parts (fun part _ => registerPart_induction keep note part) hcoherent h

end Induction

/-- Every event is that of a registration. -/
def Reports (registry : Registry) : Prop :=
  ∀ event ∈ registry.events, ∃ (outcome : Registration) (kind : EntityKind) (id : String),
    event = outcome.event kind id

/-- A part was reported to be registered once if its id is taken, and never if it is free. -/
def Logged (registry : Registry) : Prop :=
  ∀ kind id, registry.events.count (.registered kind id) =
    if registry.isTaken kind id = true then 1 else 0

/-- Nothing is reported but registrations. -/
theorem reports_registerParts (parts : List Part) :
    (Registry.empty.registerParts parts).Reports := by
  refine registerParts_induction (fun {registry part} _ h event hevent => ?_)
    (fun {registry outcome kind id} _ h event hevent => ?_) parts .empty
    (fun event hevent => by cases hevent)
  · rw [events_keep] at hevent
    rcases List.mem_append.1 hevent with hevent | hevent
    · exact h event hevent
    · exact ⟨.inserted, part.kind, part.id, List.mem_singleton.1 hevent⟩
  · rcases List.mem_append.1 hevent with hevent | hevent
    · exact h event hevent
    · exact ⟨outcome, kind, id, List.mem_singleton.1 hevent⟩

/-- Keeping a part with a free id reports it once. -/
theorem Logged.keep {registry : Registry} {part : Part} (h : registry.Logged)
    (hfree : registry.isTaken part.kind part.id = false) : (registry.keep part).Logged := by
  intro kind id
  rw [events_keep, List.count_append, List.count_singleton, h kind id]
  by_cases heq : kind = part.kind ∧ id = part.id
  · obtain ⟨rfl, rfl⟩ := heq
    rw [hfree, if_pos (isTaken_keep.2 (.inr ⟨rfl, rfl⟩))]
    simp
  · have hother : (Event.registered part.kind part.id == .registered kind id) = false := by
      simp only [beq_eq_false_iff_ne, ne_eq, Event.registered.injEq]
      exact fun hsame => heq ⟨hsame.1.symm, hsame.2.symm⟩
    have htaken : (registry.keep part).isTaken kind id = true ↔
        registry.isTaken kind id = true := by
      rw [isTaken_keep, or_iff_left heq]
    rw [hother, if_congr htaken rfl rfl]
    rfl

/-- Reporting any outcome but an insertion reports no part as registered. -/
theorem Logged.note {registry : Registry} {outcome : Registration} {kind : EntityKind} {id : String}
    (h : registry.Logged) (houtcome : outcome ≠ .inserted) :
    (registry.note (some (outcome.event kind id))).Logged := by
  intro kind' id'
  have hother : (outcome.event kind id == .registered kind' id') = false := by
    cases outcome with
    | inserted => exact absurd rfl houtcome
    | unchanged | conflicting => rfl
  have hcount := h kind' id'
  show (registry.events ++ [outcome.event kind id]).count _ = _
  rw [List.count_append, List.count_singleton, hother, hcount]
  rfl

/-- Every part that is registered is reported once. -/
theorem logged_registerParts (parts : List Part) : (Registry.empty.registerParts parts).Logged := by
  refine registerParts_induction (fun hfree h => h.keep hfree) (fun houtcome h => h.note houtcome)
    parts .empty (fun kind id => ?_)
  cases kind <;> rfl

end AppManifest.Registry
