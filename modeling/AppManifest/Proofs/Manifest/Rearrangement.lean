import AppManifest.Proofs.Manifest.Conflicts

/-!
# Rearranging declarations

The document of a manifest without conflicts depends only on what the manifest contains
(`Manifest.compile_depends_on_contents`): in which order its parts are declared, how often, and
which of the parts that others use are declared as well makes no difference.

Documents are equal up to the signs of floating-point zeros, since parts that differ only there do
not conflict and either may be the one that is written. Without such parts the documents are the
same.
-/

namespace AppManifest

/-- Equality of documents. -/
def Document.same (first second : Document) : Bool :=
  first.name == second.name && first.description == second.description &&
    first.longDescription == second.longDescription && first.icon == second.icon &&
    first.botScopes == second.botScopes && first.sections == second.sections

instance : BEq Document :=
  ⟨Document.same⟩

/-- The declaration of a part. -/
def Part.declaration : Part → Manifest.Declaration
  | .function entity => .function entity
  | .type entity => .type entity
  | .workflow entity => .workflow entity
  | .datastore entity => .datastore entity
  | .provider entity => .provider entity

namespace Manifest

/-- The manifests agree on everything but their parts. -/
structure SameHeader (first second : Manifest) : Prop where
  name : first.name = second.name
  description : first.description = second.description
  longDescription : first.longDescription = second.longDescription
  icon : first.icon = second.icon
  botScopes : first.botScopes = second.botScopes

/-- Everything in the first manifest equals something in the second. -/
def ContentsWithin (first second : Manifest) : Prop :=
  ∀ part, first.Contains part → ∃ other, second.Contains other ∧ part.same other = true

/-- Each of the manifests declares only what the other contains: the declarations are permuted or
repeated, or parts that are used anyway are declared in one of them only. -/
structure Rearranges (first second : Manifest) : Prop where
  forward : ∀ part ∈ first.parts, second.Contains part
  backward : ∀ part ∈ second.parts, first.Contains part

/-- Both manifests are exported, and the documents are equal. They are the same if both manifests
contain the same parts, at most one for each kind and id. -/
def CompilesAlike (first second : Manifest) : Prop :=
  ∃ document other, first.compile.result = .ok document ∧ second.compile.result = .ok other ∧
    (document == other) = true ∧
    (first.Unambiguous → (∀ part, first.Contains part ↔ second.Contains part) → document = other)

variable {manifest first second : Manifest} {part : Part}

/-- What a manifest contains is in every manifest that contains its declarations. -/
theorem Contains.of_declared (h : ∀ part ∈ first.parts, second.Contains part)
    (hpart : first.Contains part) : second.Contains part := by
  induction hpart with
  | declared hmem => exact h _ hmem
  | used _ hused ih => exact ih.used hused

/-- Declaring a part adds just this part to the declared ones. -/
theorem mem_parts_declare {other : Part} :
    other ∈ (manifest.declare part.declaration).parts ↔ other ∈ manifest.parts ∨ other = part := by
  simp only [mem_parts_iff]
  cases part <;> cases other <;> simp [Has, declare, Part.declaration]

/-- Declaring a part leaves the header as it is. -/
theorem sameHeader_declare (manifest : Manifest) (part : Part) :
    manifest.SameHeader (manifest.declare part.declaration) := by
  cases part <;> exact ⟨rfl, rfl, rfl, rfl, rfl⟩

namespace Rearranges

/-- A rearranged manifest contains the same parts. -/
theorem contains_iff (h : first.Rearranges second) (part : Part) :
    first.Contains part ↔ second.Contains part :=
  ⟨Contains.of_declared h.forward, Contains.of_declared h.backward⟩

/-- Manifests that declare the same parts, in any order and however often, rearrange each other. -/
theorem of_mem_iff (h : ∀ part, part ∈ first.parts ↔ part ∈ second.parts) :
    first.Rearranges second where
  forward part hpart := .declared ((h part).1 hpart)
  backward part hpart := .declared ((h part).2 hpart)

/-- Declaring a part that a manifest contains rearranges it. -/
theorem declare (h : manifest.Contains part) :
    manifest.Rearranges (manifest.declare part.declaration) where
  forward _ hother := .declared (mem_parts_declare.2 (.inl hother))
  backward other hother := by
    rcases mem_parts_declare.1 hother with hother | rfl
    · exact .declared hother
    · exact h

/-- A rearranged manifest is as free of conflicts. -/
theorem conflictFree (h : first.Rearranges second) (hfree : first.ConflictFree) :
    second.ConflictFree := fun part other hpart hother =>
  hfree part other ((h.contains_iff part).2 hpart) ((h.contains_iff other).2 hother)

/-- Everything in a manifest is in a rearranged one. -/
theorem contentsWithin (h : first.Rearranges second) : first.ContentsWithin second :=
  fun part hpart => ⟨part, (h.contains_iff part).1 hpart, part.same_self⟩

/-- Rearranging works both ways. -/
theorem symm (h : first.Rearranges second) : second.Rearranges first :=
  ⟨h.backward, h.forward⟩

end Rearranges

/-- A part that equals it is registered for everything in a manifest without conflicts that equals
something in it. -/
theorem ContentsWithin.collected (h : first.ContentsWithin second) (hfree : second.ConflictFree)
    (hkeys : (second.providers.map Provider.key).Nodup) :
    first.collected.Within second.collected := by
  intro part hpart
  obtain ⟨other, hother, hsame⟩ := h part (.of_keeps hpart)
  obtain ⟨kept, hkept, hsame'⟩ := exists_kept hkeys hfree.quiet hother
  exact ⟨kept, hkept, Part.same_trans hsame (Part.same_symm hsame')⟩

/-- Of an unambiguous manifest, what is registered is registered for every manifest that contains
the same parts. -/
theorem Unambiguous.keeps (h : first.Unambiguous)
    (hcontains : ∀ part, first.Contains part ↔ second.Contains part) (hfree : second.ConflictFree)
    (hkeys : (second.providers.map Provider.key).Nodup) (hpart : first.Contains part) :
    second.collected.Keeps part := by
  obtain ⟨kept, hkept, hsame⟩ := exists_kept hkeys hfree.quiet ((hcontains part).1 hpart)
  have heq : kept = part := h kept part ((hcontains kept).2 (.of_keeps hkept)) hpart
    (Part.kind_eq_of_same hsame) (Part.id_eq_of_same _ _ hsame)
  exact heq ▸ hkept

/-- Manifests without conflicts that contain equal parts are exported alike. -/
theorem compilesAlike_of_contents (hfree : first.ConflictFree) (hfree' : second.ConflictFree)
    (hheader : first.SameHeader second) (hkeys : (first.providers.map Provider.key).Nodup)
    (hkeys' : (second.providers.map Provider.key).Nodup) (hwithin : first.ContentsWithin second)
    (hwithin' : second.ContentsWithin first) : first.CompilesAlike second := by
  have hcoherent := first.collected_grows.coherent
  have hcoherent' := second.collected_grows.coherent
  refine ⟨_, _, compile_of_nodup hkeys, compile_of_nodup hkeys', ?_, fun honly hcontains => ?_⟩
  · have hsections := Registry.sections_beq hcoherent hcoherent' (hwithin.collected hfree' hkeys')
      (hwithin'.collected hfree hkeys)
    show Document.same _ _ = true
    simp only [Document.same, documentOf, hheader.name, hheader.description,
      hheader.longDescription, hheader.icon, hheader.botScopes, hsections, BEq.rfl, Bool.and_self]
  · have honly' : second.Unambiguous := fun part other hpart hother =>
      honly part other ((hcontains part).2 hpart) ((hcontains other).2 hother)
    have hsections : first.collected.sections = second.collected.sections :=
      Registry.sections_eq hcoherent hcoherent' fun part =>
        ⟨fun hpart => honly.keeps hcontains hfree' hkeys' (.of_keeps hpart),
          fun hpart => honly'.keeps (fun part => (hcontains part).symm) hfree hkeys
            (.of_keeps hpart)⟩
    rw [documentOf, documentOf, hheader.name, hheader.description, hheader.longDescription,
      hheader.icon, hheader.botScopes, hsections]

/-- The document of a manifest without conflicts whose providers have distinct keys depends only on
its header and on what it contains: it is the same for every other such manifest with equal
contents. In particular, rearranging the declarations brings no conflicts in and leaves the document
as it is; and declaring the same parts in another order or more often, or declaring a part that the
manifest contains anyway, is rearranging. -/
theorem compile_depends_on_contents :
    (∀ {first second : Manifest}, first.ConflictFree → second.ConflictFree →
      first.SameHeader second → (first.providers.map Provider.key).Nodup →
      (second.providers.map Provider.key).Nodup → first.ContentsWithin second →
      second.ContentsWithin first → first.CompilesAlike second) ∧
    (∀ {first second : Manifest}, first.ConflictFree → first.SameHeader second →
      (first.providers.map Provider.key).Nodup → (second.providers.map Provider.key).Nodup →
      first.Rearranges second → second.ConflictFree ∧ first.CompilesAlike second) ∧
    (∀ {first second : Manifest}, (∀ part, part ∈ first.parts ↔ part ∈ second.parts) →
      first.Rearranges second) ∧
    ∀ {manifest : Manifest} {part : Part}, manifest.Contains part →
      manifest.SameHeader (manifest.declare part.declaration) ∧
        manifest.Rearranges (manifest.declare part.declaration) := by
  refine ⟨compilesAlike_of_contents, fun hfree hheader hkeys hkeys' h => ?_, .of_mem_iff,
    fun {manifest part} hpart => ⟨manifest.sameHeader_declare part, .declare hpart⟩⟩
  have hfree' := h.conflictFree hfree
  exact ⟨hfree', compilesAlike_of_contents hfree hfree' hheader hkeys hkeys' h.contentsWithin
    h.symm.contentsWithin⟩

/-- Declaring the labels as well, which the app that closes issues contains anyway, leaves its
document the very same. -/
theorem closeManifest_rearranged : ∃ document,
    closeManifest.compile.result = .ok document ∧
      (closeManifest.declare (.type labelType)).compile.result = .ok document := by
  have hlabel : closeManifest.Contains (.type labelType) :=
    closeManifest_contains_iff.2 (by simp)
  obtain ⟨hheader, hrearranges⟩ := compile_depends_on_contents.2.2.2 hlabel
  have hfree := closeManifest_unambiguous.conflictFree
  obtain ⟨hfree', -⟩ :=
    compile_depends_on_contents.2.1 hfree hheader .nil .nil hrearranges
  obtain ⟨document, other, hdocument, hother, -, hsame⟩ :=
    compile_depends_on_contents.1 hfree hfree' hheader .nil .nil hrearranges.contentsWithin
      hrearranges.symm.contentsWithin
  rw [← hsame closeManifest_unambiguous hrearranges.contains_iff] at hother
  exact ⟨document, hdocument, hother⟩

end Manifest

end AppManifest
