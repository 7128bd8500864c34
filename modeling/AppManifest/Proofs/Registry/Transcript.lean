import AppManifest.Proofs.Registry.Attempts
import AppManifest.Proofs.Registry.Log

/-!
# Transcripts of runs

A run tries to insert parts, one after the other, and after each that is inserted the parts that it
uses (`Registry.Runs`). Its transcript says of each visit to a part what came of it and which visits
it led to. The log is read off the transcript: each visit is reported as it begins, before those
that it leads to, but for a rejected provider (`Registry.Follows`, `Registry.Runs.follows`). What
comes of a visit is told by the earlier ones: a part is refused because of an equal or different
part that was inserted before it.
-/

namespace AppManifest

/-- An entry of a list to which one is added is the added one or an entry from before. -/
theorem eq_or_of_concat_eq {α : Type} {history front back : List α} {last entry : α}
    (h : history ++ [last] = front ++ entry :: back) :
    (front = history ∧ entry = last) ∨ ∃ rest, history = front ++ entry :: rest := by
  obtain rfl | ⟨rest, final, rfl⟩ := List.eq_nil_or_concat back
  · obtain ⟨rfl, hlast⟩ := List.append_inj' h rfl
    exact .inl ⟨rfl, (List.singleton_inj.1 hlast).symm⟩
  · rw [List.concat_eq_append, ← List.cons_append, ← List.append_assoc] at h
    exact .inr ⟨rest, (List.append_inj' h rfl).1⟩

/-- A visit to a part during a run: what came of trying to insert it, or nothing for a provider that
was rejected, and the visits to which this led. -/
structure Visit where
  part : Part
  outcome : Option Registration
  nested : List Visit

namespace Visit

mutual

/-- A visit and all visits to which it led, at any depth, in the order in which they began. -/
def all : Visit → List Visit
  | ⟨part, outcome, nested⟩ => ⟨part, outcome, nested⟩ :: allOf nested

/-- Some visits and all visits to which they led, in the order in which they began. -/
def allOf : List Visit → List Visit
  | [] => []
  | visit :: rest => visit.all ++ allOf rest

end

/-- A visit comes first, before those to which it led. -/
theorem all_eq (visit : Visit) : visit.all = visit :: allOf visit.nested := by
  cases visit
  rfl

/-- The visited part and what came of the visit. -/
def entry (visit : Visit) : Part × Option Registration :=
  (visit.part, visit.outcome)

/-- The visited parts and what came of each visit, in the order in which the visits began. -/
def entries (visits : List Visit) : List (Part × Option Registration) :=
  (allOf visits).map entry

/-- The event that reports what came of visiting a part. A rejected provider is not reported. -/
def report (entry : Part × Option Registration) : Option Event :=
  entry.2.map (·.event entry.1.kind entry.1.id)

/-- The events that report some visits and those to which they led. -/
def log (visits : List Visit) : List Event :=
  (entries visits).filterMap report

/-- The visits that begin with one are it, those to which it led, and the rest. -/
theorem entries_cons (visit : Visit) (rest : List Visit) :
    entries (visit :: rest) = visit.entry :: (entries visit.nested ++ entries rest) := by
  rw [entries, allOf, all_eq, List.cons_append, List.map_cons, List.map_append]
  rfl

mutual

/-- The visits to which a visit led directly follow it. -/
theorem exists_all_eq : (root : Visit) → ∀ visit ∈ root.all, ∃ front back,
    root.all = front ++ visit :: (allOf visit.nested ++ back)
  | ⟨part, outcome, nested⟩, visit, hvisit => by
      rcases List.mem_cons.1 hvisit with rfl | hvisit
      · exact ⟨[], [], by rw [all_eq, List.append_nil, List.nil_append]⟩
      · obtain ⟨front, back, heq⟩ := exists_allOf_eq nested visit hvisit
        exact ⟨⟨part, outcome, nested⟩ :: front, back, by rw [all, heq, List.cons_append]⟩

/-- The visits to which a visit led directly follow it. -/
theorem exists_allOf_eq : (visits : List Visit) → ∀ visit ∈ allOf visits, ∃ front back,
    allOf visits = front ++ visit :: (allOf visit.nested ++ back)
  | [], _, hvisit => by cases hvisit
  | head :: rest, visit, hvisit => by
      rcases List.mem_append.1 hvisit with hvisit | hvisit
      · obtain ⟨front, back, heq⟩ := exists_all_eq head visit hvisit
        exact ⟨front, back ++ allOf rest, by
          rw [allOf, heq, List.append_assoc, List.cons_append, List.append_assoc]⟩
      · obtain ⟨front, back, heq⟩ := exists_allOf_eq rest visit hvisit
        exact ⟨head.all ++ front, back, by rw [allOf, heq, List.append_assoc]⟩

end

/-- A visit is reported before all those to which it led, at any depth. -/
theorem exists_log_eq {visits : List Visit} {visit : Visit} (h : visit ∈ allOf visits) :
    ∃ front back, log visits =
      front ++ (report visit.entry).toList ++ log visit.nested ++ back := by
  obtain ⟨front, back, heq⟩ := exists_allOf_eq visits visit h
  refine ⟨(front.map entry).filterMap report, (back.map entry).filterMap report, ?_⟩
  rw [log, entries, heq]
  cases hreport : report visit.entry <;>
    simp [log, entries, hreport]

end Visit

namespace Registry

/-- Registering the parts, one after the other, leads from the first registry to the second one,
with this transcript. A provider whose key is taken is rejected and leaves the registry as it is.
Any other part is tried, and if it is inserted, the parts that it uses are registered before the
next one. -/
inductive Runs : Registry → List Part → List Visit → Registry → Prop
  | done {registry : Registry} : Runs registry [] [] registry
  | rejected {registry after : Registry} {part : Part} {parts : List Part} {visits : List Visit} :
      part.kind = .provider ∧ registry.isTaken .provider part.id = true →
      Runs registry parts visits after →
      Runs registry (part :: parts) (⟨part, none, []⟩ :: visits) after
  | refused {registry middle after : Registry} {part : Part} {parts : List Part}
      {visits : List Visit} {outcome : Registration} :
      ¬ (part.kind = .provider ∧ registry.isTaken .provider part.id = true) →
      registry.insertPart part = (outcome, middle) → outcome ≠ .inserted →
      Runs middle parts visits after →
      Runs registry (part :: parts) (⟨part, some outcome, []⟩ :: visits) after
  | inserted {registry middle inner after : Registry} {part : Part} {parts : List Part}
      {nested visits : List Visit} :
      ¬ (part.kind = .provider ∧ registry.isTaken .provider part.id = true) →
      registry.insertPart part = (.inserted, middle) →
      Runs middle part.uses nested inner → Runs inner parts visits after →
      Runs registry (part :: parts) (⟨part, some .inserted, nested⟩ :: visits) after

variable {registry after : Registry} {parts : List Part} {visits : List Visit}

/-- A run ends where registering the parts does. -/
theorem Runs.registerParts_eq (h : registry.Runs parts visits after) :
    after = registry.registerParts parts := by
  induction h with
  | done => rfl
  | rejected hrejected _ ih => rw [registerParts_cons, registerPart_eq, if_pos hrejected, ih]
  | refused hnot hinsert hne _ ih =>
      rw [registerParts_cons, registerPart_eq, if_neg hnot, hinsert, if_neg hne, ih]
  | inserted hnot hinsert _ _ ihnested ih =>
      rw [registerParts_cons, registerPart_eq, if_neg hnot, hinsert, if_pos rfl, ih, ihnested]

/-- A run has one transcript. -/
theorem Runs.unique (h : registry.Runs parts visits after) {others : List Visit} {other : Registry}
    (hother : registry.Runs parts others other) : visits = others ∧ after = other := by
  induction h generalizing others other with
  | done =>
      cases hother
      exact ⟨rfl, rfl⟩
  | rejected hrejected _ ih =>
      cases hother with
      | rejected _ hrest =>
          obtain ⟨rfl, rfl⟩ := ih hrest
          exact ⟨rfl, rfl⟩
      | refused hnot | inserted hnot => exact absurd hrejected hnot
  | refused hnot hinsert hne _ ih =>
      cases hother with
      | rejected hrejected => exact absurd hrejected hnot
      | refused _ hinsert' _ hrest =>
          obtain ⟨rfl, rfl⟩ := Prod.mk.inj (hinsert.symm.trans hinsert')
          obtain ⟨rfl, rfl⟩ := ih hrest
          exact ⟨rfl, rfl⟩
      | inserted _ hinsert' => exact absurd (Prod.mk.inj (hinsert.symm.trans hinsert')).1 hne
  | inserted hnot hinsert _ _ ihnested ih =>
      cases hother with
      | rejected hrejected => exact absurd hrejected hnot
      | refused _ hinsert' hne =>
          exact absurd (Prod.mk.inj (hinsert'.symm.trans hinsert)).1 hne
      | inserted _ hinsert' hnested hrest =>
          obtain ⟨-, rfl⟩ := Prod.mk.inj (hinsert.symm.trans hinsert')
          obtain ⟨rfl, rfl⟩ := ihnested hnested
          obtain ⟨rfl, rfl⟩ := ih hrest
          exact ⟨rfl, rfl⟩

/-- There is a run for any parts if there is one for each of them, whatever comes after it. -/
theorem exists_runs_of (parts : List Part)
    (hparts : ∀ part ∈ parts, ∀ registry : Registry, ∃ visit after,
      ∀ {rest : List Part} {visits : List Visit} {final : Registry},
        Runs after rest visits final → Runs registry (part :: rest) (visit :: visits) final)
    (registry : Registry) : ∃ visits after, registry.Runs parts visits after := by
  induction parts generalizing registry with
  | nil => exact ⟨[], registry, .done⟩
  | cons part rest ih =>
      obtain ⟨hpart, hrest⟩ := List.forall_mem_cons.1 hparts
      obtain ⟨visit, middle, hvisit⟩ := hpart registry
      obtain ⟨visits, after, hruns⟩ := ih hrest middle
      exact ⟨visit :: visits, after, hvisit hruns⟩

/-- Every part can be visited. -/
theorem exists_visit (part : Part) : ∀ registry : Registry, ∃ visit after,
    ∀ {rest : List Part} {visits : List Visit} {final : Registry},
      Runs after rest visits final → Runs registry (part :: rest) (visit :: visits) final := by
  induction part using Part.usesInduction with | step part ih
  intro registry
  by_cases hrejected : part.kind = .provider ∧ registry.isTaken .provider part.id = true
  · exact ⟨_, _, .rejected hrejected⟩
  · obtain ⟨outcome, middle, hinsert⟩ : ∃ outcome middle,
        registry.insertPart part = (outcome, middle) := ⟨_, _, rfl⟩
    by_cases houtcome : outcome = .inserted
    · subst houtcome
      obtain ⟨nested, inner, hnested⟩ := exists_runs_of part.uses ih middle
      exact ⟨_, _, .inserted hrejected hinsert hnested⟩
    · exact ⟨_, _, .refused hrejected hinsert houtcome⟩

/-- Every registration is a run. -/
theorem exists_runs (registry : Registry) (parts : List Part) :
    ∃ visits, ∀ others after, registry.Runs parts others after ↔
      others = visits ∧ after = registry.registerParts parts := by
  obtain ⟨visits, after, hruns⟩ := exists_runs_of parts (fun part _ => exists_visit part) registry
  refine ⟨visits, fun others other => ⟨fun hother => ?_, ?_⟩⟩
  · exact ⟨(hother.unique hruns).1, hother.registerParts_eq⟩
  · rintro ⟨rfl, rfl⟩
    exact hruns.registerParts_eq ▸ hruns

/-- Each visit in a run leads to visits of the parts that the visited part uses, in order, if it was
inserted, and to none otherwise. -/
theorem Runs.nested_eq (h : registry.Runs parts visits after) :
    visits.map Visit.part = parts ∧ ∀ visit ∈ Visit.allOf visits, visit.nested.map Visit.part =
      if visit.outcome = some .inserted then visit.part.uses else [] := by
  induction h with
  | done => exact ⟨rfl, fun _ hvisit => by cases hvisit⟩
  | rejected _ _ ih =>
      refine ⟨congrArg _ ih.1, fun visit hvisit => ?_⟩
      rcases List.mem_cons.1 hvisit with rfl | hvisit
      · rfl
      · exact ih.2 visit hvisit
  | refused _ _ hne _ ih =>
      refine ⟨congrArg _ ih.1, fun visit hvisit => ?_⟩
      rcases List.mem_cons.1 hvisit with rfl | hvisit
      · rw [if_neg fun hinserted => hne (Option.some.inj hinserted)]
        rfl
      · exact ih.2 visit hvisit
  | inserted _ _ _ _ ihnested ih =>
      refine ⟨congrArg _ ih.1, fun visit hvisit => ?_⟩
      rw [Visit.allOf, Visit.all, List.cons_append, List.mem_cons, List.mem_append] at hvisit
      rcases hvisit with rfl | hvisit | hvisit
      · rw [if_pos rfl]
        exact ihnested.1
      · exact ihnested.2 visit hvisit
      · exact ih.2 visit hvisit

/-! ## What a transcript says of the registry -/

/-- A part that was inserted earlier has the kind and the id of the part, and the part was refused
because of it: as equal to it or in conflict with it, and a provider without a word. -/
def RefusedAfter (earlier : List (Part × Option Registration))
    (entry : Part × Option Registration) : Prop :=
  ∃ kept : Part, (kept, some .inserted) ∈ earlier ∧ kept.kind = entry.1.kind ∧
    kept.id = entry.1.id ∧
    entry.2 = if entry.1.kind = .provider then none else some (kept.verdict entry.1)

/-- The registry keeps just the parts that were inserted, its events are the reports of all entries,
and every part that was not inserted was refused because of an earlier one. -/
structure Follows (registry : Registry) (history : List (Part × Option Registration)) : Prop where
  coherent : registry.Coherent
  keeps_iff : ∀ part, registry.Keeps part ↔ (part, some .inserted) ∈ history
  events : registry.events = history.filterMap Visit.report
  refused : ∀ front entry back, history = front ++ entry :: back → entry.2 ≠ some .inserted →
    RefusedAfter front entry

variable {history : List (Part × Option Registration)} {part kept : Part}

/-- A fresh registry follows nothing. -/
theorem Follows.empty : Registry.empty.Follows [] where
  coherent := .empty
  keeps_iff part := by
    constructor
    · intro hkeeps
      cases part <;> cases hkeeps
    · intro hmem
      cases hmem
  events := rfl
  refused front entry back h := by
    cases front <;> cases h

/-- A part with a free id is inserted. -/
theorem Follows.keep (h : registry.Follows history)
    (hfree : registry.isTaken part.kind part.id = false) :
    (registry.keep part).Follows (history ++ [(part, some .inserted)]) where
  coherent := h.coherent.keep hfree
  keeps_iff other := by
    rw [keeps_keep, h.keeps_iff, List.mem_append, List.mem_singleton, Prod.mk.injEq,
      and_iff_left rfl]
  events := by
    rw [events_keep, h.events, List.filterMap_append]
    rfl
  refused front entry back heq hne := by
    rcases eq_or_of_concat_eq heq with ⟨-, rfl⟩ | ⟨rest, hrest⟩
    · exact absurd rfl hne
    · exact h.refused front entry rest hrest hne

/-- A part whose id is taken is refused. -/
theorem Follows.refuse (h : registry.Follows history) (hkept : registry.Keeps kept)
    (hkind : kept.kind = part.kind) (hid : kept.id = part.id) {outcome : Option Registration}
    (houtcome : outcome =
      if part.kind = .provider then none else some (kept.verdict part)) :
    (registry.note (Visit.report (part, outcome))).Follows (history ++ [(part, outcome)]) where
  coherent := h.coherent.note _
  keeps_iff other := by
    have hne : (other, some Registration.inserted) ≠ (part, outcome) := by
      rw [houtcome]
      split
      · intro heq
        cases heq
      · intro heq
        exact kept.verdict_ne_inserted part (Option.some.inj (Prod.mk.inj heq).2).symm
    rw [keeps_note, h.keeps_iff, List.mem_append, List.mem_singleton, or_iff_left hne]
  events := by
    show registry.events ++ (Visit.report (part, outcome)).toList = _
    rw [h.events, List.filterMap_append]
    cases hreport : Visit.report (part, outcome) <;> simp [hreport]
  refused front entry back heq hne := by
    rcases eq_or_of_concat_eq heq with ⟨rfl, rfl⟩ | ⟨rest, hrest⟩
    · exact ⟨kept, (h.keeps_iff kept).1 hkept, hkind, hid, houtcome⟩
    · exact h.refused front entry rest hrest hne

/-- After a run the registry follows the entries of the transcript as well. -/
theorem Runs.follows (h : registry.Runs parts visits after) (hfollows : registry.Follows history) :
    after.Follows (history ++ Visit.entries visits) := by
  induction h generalizing history with
  | done => simpa [Visit.entries, Visit.allOf] using hfollows
  | @rejected registry after part parts visits hrejected _ ih =>
      obtain ⟨kept, hkept, hkind, hid⟩ := hfollows.coherent.isTaken_iff.1 hrejected.2
      have hstep :=
        hfollows.refuse hkept (hkind.trans hrejected.1.symm) hid (if_pos hrejected.1).symm
      have hnote : registry.note (Visit.report (part, none)) = registry := by
        simp [note, Visit.report]
      rw [hnote] at hstep
      have hrest := ih hstep
      rw [List.append_assoc] at hrest
      rw [Visit.entries_cons]
      exact hrest
  | @refused registry middle after part parts visits outcome hnot hinsert hne _ ih =>
      have htaken : registry.isTaken part.kind part.id = true := by
        refine Bool.not_eq_false _ ▸ fun hfree => hne ?_
        exact (Prod.mk.inj (hinsert.symm.trans (insertPart_of_free hfree))).1
      have hkind : part.kind ≠ .provider := fun hkind => hnot ⟨hkind, hkind ▸ htaken⟩
      obtain ⟨kept, hkept, hkept', hid, heq⟩ := insertPart_of_taken hfollows.coherent htaken
      obtain ⟨rfl, rfl⟩ := Prod.mk.inj (hinsert.symm.trans heq)
      have hrest := ih (hfollows.refuse hkept hkept' hid (if_neg hkind).symm)
      rw [List.append_assoc] at hrest
      rw [Visit.entries_cons]
      exact hrest
  | @inserted registry middle inner after part parts nested visits hnot hinsert _ _ ihnested ih =>
      have hfree : registry.isTaken part.kind part.id = false :=
        (hfollows.coherent.insertPart_iff part).1 (congrArg Prod.fst hinsert)
      obtain ⟨-, rfl⟩ := Prod.mk.inj (hinsert.symm.trans (insertPart_of_free hfree))
      have hrest := ih (ihnested (hfollows.keep hfree))
      rw [List.append_assoc, List.append_assoc] at hrest
      rw [Visit.entries_cons]
      exact hrest

/-- Every report of a part that was not inserted comes after the report that a part of its kind and
id was. -/
theorem Follows.preceded (h : registry.Follows history) {kind : EntityKind} {id : String}
    {front back : List Event} {event : Event} (heq : registry.events = front ++ event :: back)
    (hevent : event = .alreadyRegistered kind id ∨ event = .conflicting kind id) :
    .registered kind id ∈ front := by
  rw [h.events, List.filterMap_eq_append_iff] at heq
  obtain ⟨early, late, hhistory, hfront, hlate⟩ := heq
  obtain ⟨silent, ⟨part, outcome⟩, rest, rfl, hsilent, hreport, -⟩ :=
    List.filterMap_eq_cons_iff.1 hlate
  rw [← List.append_assoc] at hhistory
  obtain ⟨registration, rfl, rfl⟩ := Option.map_eq_some_iff.1 hreport
  have hsame : registration ≠ .inserted ∧ kind = part.kind ∧ id = part.id := by
    cases registration <;> rcases hevent with hevent | hevent <;> cases hevent <;>
      exact ⟨nofun, rfl, rfl⟩
  obtain ⟨hne, rfl, rfl⟩ := hsame
  obtain ⟨kept, hkept, hkind, hid, -⟩ :=
    h.refused _ _ _ hhistory fun heq => hne (Option.some.inj heq)
  rw [← hfront]
  refine List.mem_filterMap.2 ⟨(kept, some .inserted), ?_, ?_⟩
  · -- an insertion is always reported, so it is not among the silent entries
    rcases List.mem_append.1 hkept with hkept | hkept
    · exact hkept
    · cases hsilent _ hkept
  · show some (Event.registered kept.kind kept.id) = some (Event.registered part.kind part.id)
    rw [hkind, hid]

/-! ## Registered ids -/

end Registry

/-- The id of a part of a kind that an event reports as registered. -/
def Event.registeredId? (kind : EntityKind) : Event → Option String
  | .registered kind' id => if kind' = kind then some id else none
  | _ => none

namespace Registry

variable {registry : Registry} {part : Part}

/-- Keeping a part adds its id to those of its kind. -/
theorem ids_keep (registry : Registry) (part : Part) (kind : EntityKind) :
    (registry.keep part).ids kind =
      registry.ids kind ++ ((Event.registered part.kind part.id).registeredId? kind).toList := by
  cases part <;> cases kind <;> simp [keep, note, ids, EntitySet.append, Part.kind, Part.id,
    Entity.id, Event.registeredId?]

/-- The ids of the parts of a kind are those that are reported as registered, in this order. -/
theorem filterMap_registeredId? (parts : List Part) (kind : EntityKind) :
    (Registry.empty.registerParts parts).events.filterMap (Event.registeredId? kind) =
      (Registry.empty.registerParts parts).ids kind := by
  refine registerParts_induction (motive := fun registry =>
      registry.events.filterMap (Event.registeredId? kind) = registry.ids kind)
    (fun {registry part} _ h => ?_) (fun {registry outcome kind' id} hne h => ?_) parts .empty ?_
  · rw [events_keep, List.filterMap_append, h, ids_keep]
    cases hid : (Event.registered part.kind part.id).registeredId? kind <;> simp [hid]
  · have hnone : (outcome.event kind' id).registeredId? kind = none := by
      cases outcome with
      | inserted => exact absurd rfl hne
      | unchanged | conflicting => rfl
    show (registry.events ++ [outcome.event kind' id]).filterMap _ = registry.ids kind
    rw [List.filterMap_append, h]
    simp [hnone]
  · cases kind <;> rfl

end Registry

end AppManifest
