import AppManifest.Proofs.Placeholder

/-!
# Navigating in parts

A chain of names may be followed in one go or in parts, from an object or from the placeholder that
it is. In every placeholder that can be made (`Placeholder.Made`) each step of a navigation goes one
segment deeper, whether the property is declared, so that its path was fixed when the placeholder
was built, or not, so that its path is found on the way (`Placeholder.navigation_composes`).
-/

namespace AppManifest.Placeholder

/-- The placeholder can be made: it is that of a parameter, of a parameter set or of a path, or a
property leads to it from one that can be made. -/
inductive Made : Placeholder → Prop where
  | build (space name : String) (definition : Definition) : Made (.build space name definition)
  | ofSet (space name : String) (set : ParameterSet) : Made (.object (.ofSet space name set))
  | dynamic (path : Path) : Made (.object (.dynamic path))
  | leaf (path : Path) : Made (.leaf path)
  | property {placeholder inner : Placeholder} {name : String} :
      Made placeholder → placeholder.get? name = some inner → Made inner

variable {placeholder inner : Placeholder} {name : String}

/-- Every placeholder that can be made is that of a definition. -/
theorem Made.exists_definition (h : placeholder.Made) :
    ∃ segments definition, placeholder = .ofDefinition (.ofSegments segments) definition := by
  induction h with
  | build space name definition => exact ⟨[space, name], definition, rfl⟩
  | ofSet space name set => exact ⟨[space, name], set.asObject, rfl⟩
  | dynamic path => exact ⟨[path.text], .object, by rw [Path.ofSegments_text]; rfl⟩
  | leaf path => exact ⟨[path.text], .primitive default, by rw [Path.ofSegments_text]; rfl⟩
  | @property _ inner name _ hget ih =>
      obtain ⟨segments, definition, rfl⟩ := ih
      cases hleaf : definition.isLeaf with
      | true => cases (get?_of_leaf hleaf name).symm.trans hget
      | false =>
          rw [get?_of_not_leaf hleaf, Path.child_ofSegments] at hget
          cases hget
          cases definition.property? name with
          | some reached => exact ⟨segments ++ [name], reached, rfl⟩
          | none => exact ⟨segments ++ [name], .object, rfl⟩

/-- A property leads one segment deeper. -/
theorem Made.path_of_get? (h : placeholder.Made) (hget : placeholder.get? name = some inner) :
    inner.path = placeholder.path.child name := by
  obtain ⟨segments, definition, rfl⟩ := h.exists_definition
  have hfront : (ofDefinition (.ofSegments segments) definition).path = .ofSegments segments :=
    path_ofReached _ (some definition)
  cases hleaf : definition.isLeaf with
  | true => cases (get?_of_leaf hleaf name).symm.trans hget
  | false =>
      rw [get?_of_not_leaf hleaf] at hget
      cases hget
      rw [path_ofReached, hfront]

/-- What a chain leads to can be made. -/
theorem Made.at? {names : List String} (h : placeholder.Made)
    (hat : placeholder.at? names = some inner) : inner.Made := by
  induction names generalizing placeholder with
  | nil =>
      cases hat
      exact h
  | cons name rest ih =>
      rw [at?_cons, Option.bind_eq_some_iff] at hat
      obtain ⟨next, hget, hat⟩ := hat
      exact ih (h.property hget) hat

/-- A chain is followed by following its front and then the rest of it. -/
theorem at?_append (placeholder : Placeholder) (front back : List String) :
    placeholder.at? (front ++ back) = (placeholder.at? front).bind (·.at? back) :=
  List.foldlM_append

/-- Navigating from an object is navigating from it as any placeholder, and a chain can be followed
in parts. On the way of any chain that leads somewhere, each name leads from the placeholder before
it to one whose path is one segment deeper. -/
theorem navigation_composes :
    (∀ (node : ObjectPlaceholder) (names : List String),
      node.at? names = (Placeholder.object node).at? names) ∧
    (∀ (placeholder : Placeholder) (front back : List String),
      placeholder.at? (front ++ back) = (placeholder.at? front).bind (·.at? back)) ∧
    ∀ placeholder : Placeholder, placeholder.Made → ∀ (front back : List String) (name : String)
      (last : Placeholder), placeholder.at? (front ++ name :: back) = some last →
        ∃ node next, placeholder.at? front = some node ∧ node.get? name = some next ∧
          next.at? back = some last ∧ next.path = node.path.child name := by
  refine ⟨ObjectPlaceholder.at?_eq, at?_append, ?_⟩
  intro placeholder hmade front back name last hlast
  rw [at?_append, Option.bind_eq_some_iff] at hlast
  obtain ⟨node, hnode, hlast⟩ := hlast
  rw [at?_cons, Option.bind_eq_some_iff] at hlast
  obtain ⟨next, hnext, hlast⟩ := hlast
  exact ⟨node, next, hnode, hnext, hlast, (hmade.at? hnode).path_of_get? hnext⟩

/-- The definition of an issue, whose author is of a custom type. -/
def issue : Definition :=
  let person := Definition.typedObject.withProperty "email" (.primitive .string)
  Definition.typedObject.withProperty "author" (.custom ⟨"person", person, none, none⟩)

/-- From an issue one comes by a declared property to its author, and from there by properties that
are not declared further, one segment deeper with each of them. -/
theorem issue_composes :
    ((build "inputs" "issue" issue).at? ["author", "teams", "0"]).map (·.path) =
        some ⟨"inputs.issue.author.teams.0"⟩ ∧
      ∃ node next, (build "inputs" "issue" issue).at? ["author"] = some node ∧
        node.get? "teams" = some next ∧ next.path = node.path.child "teams" := by
  have hlast : (build "inputs" "issue" issue).at? (["author"] ++ "teams" :: ["0"]) =
      some (.object (.dynamic ⟨"inputs.issue.author.teams.0"⟩)) := rfl
  obtain ⟨node, next, hnode, hnext, -, hpath⟩ :=
    navigation_composes.2.2 _ (.build "inputs" "issue" issue) _ _ _ _ hlast
  exact ⟨congrArg (Option.map path) hlast, node, next, hnode, hnext, hpath⟩

end AppManifest.Placeholder
