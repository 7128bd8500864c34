import AppManifest.Proofs.Placeholder
import AppManifest.Proofs.Table

/-!
# Chains of links

What a chain of links builds is told from the chain: of what links give, the last is kept, and
required names come in order of first mention (`Kind.DescribedBy`). Kinds that are no objects stay
as they are, and an untyped object is described by the part of the chain that starts with its first
property. Chains that build parameter sets do the same, and build the same as a typed object
(`Definition.chains_closedForm`).
-/

namespace AppManifest

section LastGiven

variable {ι : Type} {α : Type} (given : ι → Option α)

/-- What is given last in a chain, of what its links give. -/
def lastGiven (links : List ι) : Option α :=
  (links.filterMap given).getLast?

/-- What is given behind wins over what was given before. -/
theorem lastGiven_append (front back : List ι) :
    lastGiven given (front ++ back) = (lastGiven given back).or (lastGiven given front) := by
  rw [lastGiven, List.filterMap_append, List.getLast?_append, lastGiven, lastGiven]

/-- A single link gives what it gives. -/
theorem lastGiven_singleton (link : ι) : lastGiven given [link] = given link := by
  rw [lastGiven, List.filterMap_cons]
  cases given link <;> rfl

/-- A link at the end of a chain wins over what was given before it. -/
theorem lastGiven_concat (front : List ι) (link : ι) :
    lastGiven given (front ++ [link]) = (given link).or (lastGiven given front) := by
  rw [lastGiven_append, lastGiven_singleton]

end LastGiven

/-- Names are mentioned behind those that were mentioned before, each once. -/
theorem mention_eraseDups (names known : List String) :
    mention names known.eraseDups = (known ++ names).eraseDups := by
  induction names generalizing known with
  | nil => rw [List.append_nil]; rfl
  | cons name rest ih =>
      have hstep : (if known.eraseDups.contains name then known.eraseDups
          else known.eraseDups ++ [name]) = (known ++ [name]).eraseDups := by
        rw [List.eraseDups_append]
        by_cases hname : name ∈ known
        · simp [hname, List.removeAll]
        · simp [hname, List.removeAll, List.eraseDups_cons]
      rw [List.append_cons, ← ih, ← hstep]
      rfl

/-- Names mentioned a second time change nothing. -/
theorem eraseDups_twice (names : List String) : (names ++ names).eraseDups = names.eraseDups := by
  have hremove : names.removeAll names = [] := by
    simp [List.removeAll]
  rw [List.eraseDups_append, hremove, List.eraseDups_nil, List.append_nil]

namespace Definition.Link

/-- The definition that the link gives to the property of a name. -/
def propertyOf? (name : String) : Link → Option Definition
  | .property other definition => if name = other then some definition else none
  | _ => none

/-- The names that the link makes required. -/
def mentioned : Link → List String
  | .required names => names
  | _ => []

/-- The word of the link on properties that are not declared. -/
def additional? : Link → Option Bool
  | .additional allowed => some allowed
  | _ => none

/-- The title that the link gives. -/
def title? : Link → Option String
  | .title text => some text
  | _ => none

/-- The description that the link gives. -/
def description? : Link → Option String
  | .description text => some text
  | _ => none

/-- The hint that the link gives. -/
def hint? : Link → Option String
  | .hint text => some text
  | _ => none

/-- The default that the link gives. -/
def default? : Link → Option Json
  | .default value => some value
  | _ => none

/-- The link declares a property. -/
def isProperty : Link → Bool
  | .property _ _ => true
  | _ => false

end Definition.Link

/-- The annotations that are given last in a chain. -/
def Annotations.given (links : List Definition.Link) : Annotations where
  title := lastGiven Definition.Link.title? links
  description := lastGiven Definition.Link.description? links
  hint := lastGiven Definition.Link.hint? links
  default := lastGiven Definition.Link.default? links

/-- The kind is the typed object of a chain: under each name stands the definition that is given
last, the names of all links that make some required come in order of first mention, each once, and
the last word on properties that are not declared is kept. -/
def Kind.DescribedBy (kind : Kind) (links : List Definition.Link) : Prop :=
  ∃ properties : Table Definition,
    (∀ name, properties.get? name = lastGiven (Definition.Link.propertyOf? name) links) ∧
    kind = .typedObject properties.entries (links.flatMap Definition.Link.mentioned).eraseDups
      (lastGiven Definition.Link.additional? links)

/-- The kind is that of an object. -/
def Kind.isObject : Kind → Bool
  | .typedObject _ _ _ | .untypedObject => true
  | _ => false

/-- The kind is what a chain makes of a kind. An untyped object stays one until a property is
declared, and what the chain says before counts for nothing. -/
def Kind.ClosedForm (kind : Kind) (links : List Definition.Link) : Kind → Prop
  | .typedObject _ _ _ => kind.DescribedBy links
  | .untypedObject =>
      match links.dropWhile fun link => !link.isProperty with
      | [] => kind = .untypedObject
      | shaping => kind.DescribedBy shaping
  | start => kind = start

namespace Definition

/-- The definition comes from a constructor: no link was applied to it. -/
inductive Fresh : Definition → Prop where
  | primitive (type : PrimitiveType) : Fresh (.primitive type)
  | object : Fresh .object
  | typedObject : Fresh .typedObject
  | array (items : Definition) : Fresh (.array items)
  | custom (type : CustomType) : Fresh (.custom type)

variable {definition : Definition}

/-! ## One link -/

/-- A link gives its annotation, the others are kept. -/
theorem notes_apply {front : List Link} (h : definition.notes = .given front) (link : Link) :
    (definition.apply link).notes = .given (front ++ [link]) := by
  have hgiven : Annotations.given (front ++ [link]) =
      ⟨link.title?.or definition.notes.title, link.description?.or definition.notes.description,
        link.hint?.or definition.notes.hint, link.default?.or definition.notes.default⟩ := by
    simp only [Annotations.given, lastGiven_concat, h]
  rw [hgiven]
  cases link <;> rfl

/-- A link keeps the typed object of a chain that of the chain with the link. -/
theorem describedBy_apply {front : List Link} (h : definition.kind.DescribedBy front)
    (link : Link) : (definition.apply link).kind.DescribedBy (front ++ [link]) := by
  obtain ⟨properties, hproperties, hkind⟩ := h
  simp only [Kind.DescribedBy, lastGiven_concat, List.flatMap_append, List.flatMap_singleton]
  cases link with
  | property name property =>
      refine ⟨properties.insert name property, fun key => ?_, ?_⟩
      · rw [Table.get?_insert, hproperties, Link.propertyOf?]
        split <;> rfl
      · simp only [apply, withProperty, hkind, Link.mentioned, List.append_nil]
        rfl
  | required names =>
      refine ⟨properties, hproperties, ?_⟩
      simp only [apply, withRequired, hkind, Link.mentioned, ← mention_eraseDups]
      rfl
  | additional allowed =>
      refine ⟨properties, hproperties, ?_⟩
      simp only [apply, withAdditional, hkind, Link.mentioned, List.append_nil]
      rfl
  | title | description | hint | default =>
      refine ⟨properties, hproperties, ?_⟩
      simp only [Link.mentioned, List.append_nil]
      exact hkind

/-- A link keeps a kind that is no object. -/
theorem kind_apply (h : definition.kind.isObject = false) (link : Link) :
    (definition.apply link).kind = definition.kind := by
  obtain ⟨kind, notes⟩ := definition
  cases kind with
  | typedObject | untypedObject => cases h
  | primitive | array | custom => cases link <;> rfl

/-- A link that declares no property keeps an untyped object. -/
theorem kind_apply_untypedObject (h : definition.kind = .untypedObject) {link : Link}
    (hlink : link.isProperty = false) : (definition.apply link).kind = .untypedObject := by
  cases link with
  | property => cases hlink
  | required | additional =>
      simp only [apply, withRequired, withAdditional, h]
      rfl
  | title | description | hint | default => exact h

/-! ## Chains -/

/-- A chain gives the annotations that are given last. -/
theorem notes_applyAll {front : List Link} (h : definition.notes = .given front)
    (links : List Link) : (definition.applyAll links).notes = .given (front ++ links) := by
  induction links generalizing front definition with
  | nil => rwa [List.append_nil]
  | cons link rest ih =>
      rw [List.append_cons]
      exact ih (notes_apply h link)

/-- Chains go on describing typed objects. -/
theorem describedBy_applyAll {front : List Link} (h : definition.kind.DescribedBy front)
    (links : List Link) : (definition.applyAll links).kind.DescribedBy (front ++ links) := by
  induction links generalizing front definition with
  | nil => rwa [List.append_nil]
  | cons link rest ih =>
      rw [List.append_cons]
      exact ih (describedBy_apply h link)

/-- A typed object without properties is that of the empty chain. -/
theorem typedObject_describedBy : typedObject.kind.DescribedBy [] :=
  ⟨∅, fun _ => rfl, rfl⟩

/-- An untyped object becomes what the chain describes from its first property on. -/
theorem closedForm_untypedObject (h : definition.kind = .untypedObject) (links : List Link) :
    (definition.applyAll links).kind.ClosedForm links .untypedObject := by
  induction links generalizing definition with
  | nil => exact h
  | cons link rest ih =>
      cases hlink : link.isProperty with
      | false =>
          have hrest := ih (kind_apply_untypedObject h hlink)
          rw [Kind.ClosedForm] at hrest ⊢
          rw [List.dropWhile_cons, hlink]
          exact hrest
      | true =>
          rw [Kind.ClosedForm, List.dropWhile_cons, hlink]
          cases link with
          | property name property =>
              -- the property makes a typed object of both
              have hpromoted : (definition.apply (.property name property)).kind =
                  (typedObject.apply (.property name property)).kind := by
                rw [apply, withProperty, h]
                rfl
              have hfirst : (definition.apply (.property name property)).kind.DescribedBy
                  ([] ++ [.property name property]) := by
                rw [hpromoted]
                exact describedBy_apply typedObject_describedBy _
              exact describedBy_applyAll hfirst rest
          | required | additional | title | description | hint | default => cases hlink

/-- Chains keep kinds that are no objects. -/
theorem kind_applyAll (h : definition.kind.isObject = false) (links : List Link) :
    (definition.applyAll links).kind = definition.kind := by
  induction links generalizing definition with
  | nil => rfl
  | cons link rest ih =>
      have hlink := kind_apply h link
      rw [← hlink] at h ⊢
      exact ih h

/-- What a chain makes of a definition that comes from a constructor. -/
theorem Fresh.closedForm (h : definition.Fresh) (links : List Link) :
    (definition.applyAll links).notes = .given links ∧
      (definition.applyAll links).kind.ClosedForm links definition.kind := by
  have hblank : definition.notes = .given [] := by
    cases h <;> rfl
  refine ⟨notes_applyAll hblank links, ?_⟩
  cases h with
  | primitive | array | custom => exact kind_applyAll rfl links
  | object => exact closedForm_untypedObject rfl links
  | typedObject => exact describedBy_applyAll typedObject_describedBy links

end Definition

namespace ParameterSet

/-- The link as one of a chain that builds a definition. -/
def Link.onDefinition : Link → Definition.Link
  | .property name definition => .property name definition
  | .required names => .required names

/-- A link does to the objects that have the parameters of a set what it does to the set. -/
theorem asObject_apply (set : ParameterSet) (link : Link) :
    (set.apply link).asObject = set.asObject.apply link.onDefinition := by
  cases link <;> rfl

/-- A chain does to the objects that have the parameters of a set what it does to the set. -/
theorem asObject_applyAll (set : ParameterSet) (links : List Link) :
    (set.applyAll links).asObject = set.asObject.applyAll (links.map Link.onDefinition) := by
  induction links generalizing set with
  | nil => rfl
  | cons link rest ih =>
      rw [List.map_cons]
      show ((set.apply link).applyAll rest).asObject = _
      rw [ih, asObject_apply]
      rfl

/-- The set is what a chain describes: under each name stands the definition that is given last, and
the names of all links that make some required come in order of first mention, each once. -/
structure DescribedBy (set : ParameterSet) (links : List Link) : Prop where
  get?_eq : ∀ name, set.get? name =
    lastGiven (Definition.Link.propertyOf? name) (links.map Link.onDefinition)
  required_eq : set.required =
    ((links.map Link.onDefinition).flatMap Definition.Link.mentioned).eraseDups

/-- A chain builds the set that it describes. -/
theorem describedBy_applyAll (links : List Link) : (empty.applyAll links).DescribedBy links := by
  obtain ⟨properties, hproperties, hkind⟩ :=
    Definition.describedBy_applyAll Definition.typedObject_describedBy (links.map Link.onDefinition)
  have hobject := congrArg Definition.kind (asObject_applyAll empty links)
  obtain ⟨hentries, hrequired, -⟩ := Kind.typedObject.inj (hobject.trans hkind)
  refine ⟨fun name => ?_, hrequired⟩
  rw [get?, Table.ext_entries hentries, hproperties, List.nil_append]

/-- A chain describes only one set. -/
theorem DescribedBy.unique {first second : ParameterSet} {links : List Link}
    (hfirst : first.DescribedBy links) (hsecond : second.DescribedBy links) : first = second := by
  obtain ⟨properties, required⟩ := first
  obtain ⟨others, requirements⟩ := second
  obtain rfl : properties = others := Table.ext_get? fun name =>
    (hfirst.get?_eq name).trans (hsecond.get?_eq name).symm
  obtain rfl : required = requirements := hfirst.required_eq.trans hsecond.required_eq.symm
  rfl

/-- Written twice, a chain describes nothing else. -/
theorem DescribedBy.of_twice {set : ParameterSet} {links : List Link}
    (h : set.DescribedBy (links ++ links)) : set.DescribedBy links := by
  refine ⟨fun name => ?_, ?_⟩
  · rw [h.get?_eq, List.map_append, lastGiven_append, Option.or_self]
  · rw [h.required_eq, List.map_append, List.flatMap_append, eraseDups_twice]

end ParameterSet

/-- What chains of links build can be told from the chains. A definition that comes from a
constructor gets the annotations that are given last; its kind stays if it is no object, and is the
typed object that the chain describes if it is one, where an untyped object counts the chain from
its first property on. A parameter set is what its chain describes, has the parameters of the typed
object that the same chain builds, and does not change when the chain is applied again. -/
theorem Definition.chains_closedForm :
    (∀ fresh : Definition, fresh.Fresh → ∀ links : List Link,
      (fresh.applyAll links).notes = .given links ∧
        (fresh.applyAll links).kind.ClosedForm links fresh.kind) ∧
    ∀ links : List ParameterSet.Link, let set := ParameterSet.empty.applyAll links
      set.DescribedBy links ∧
        set.asObject = typedObject.applyAll (links.map ParameterSet.Link.onDefinition) ∧
        set.applyAll links = set := by
  refine ⟨fun fresh h links => h.closedForm links, fun links => ?_⟩
  refine ⟨ParameterSet.describedBy_applyAll links, ParameterSet.asObject_applyAll _ links, ?_⟩
  have htwice := ParameterSet.describedBy_applyAll (links ++ links)
  rw [ParameterSet.applyAll, List.foldl_append] at htwice
  exact htwice.of_twice.unique (ParameterSet.describedBy_applyAll links)

/-- A chain that requires a name before it declares a property, and declares one property twice. -/
def Definition.incidentLinks : List Link :=
  [.required ["severity"], .title "Issue", .property "id" (.primitive .string),
    .required ["id", "id"], .additional true, .property "id" (.primitive .number),
    .title "Incident", .additional false]

/-- What was required of the untyped object is forgotten, and the last definition, title and word on
other properties are kept. -/
theorem Definition.incident_closedForm :
    let incident := object.applyAll incidentLinks
    incident.notes.title = some "Incident" ∧
      incident.kind = .typedObject [("id", .primitive .number)] ["id"] (some false) ∧
      incident.kind.DescribedBy (incidentLinks.drop 2) := by
  obtain ⟨hnotes, hkind⟩ := chains_closedForm.1 object .object incidentLinks
  exact ⟨congrArg Annotations.title hnotes, rfl, hkind⟩

end AppManifest
