import AppManifest.Description.Conversion
import AppManifest.Proofs.Json.Layout
import AppManifest.Proofs.Json.Tokens

/-!
# Descriptions laid out in different ways

What a text describes does not depend on how its structures are laid out. For each of the structures
`Relaid` relates the trees that differ only in the order of members and in members that are not
declared, in the structure itself or in structures inside it; every reader regards only what this
relation keeps. A text that is accepted has a tree, and every text of a related tree is accepted
with the same description (`AppDescription.layout_irrelevant`).
-/

namespace AppManifest

namespace ParameterSetDescription

/-- Trees of one parameter set. -/
def Relaid : Tree → Tree → Prop :=
  layout.Relaid fun _ => Eq

/-- The fields of a parameter set can be filled in any order. -/
theorem independent : layout.Independent := by
  simp [Layout.Independent, layout, Field.defaulted, Field.commutes]

/-- A parameter set is read from what its layout keeps. -/
theorem regards : layout.read.Regards Relaid :=
  layout.regards
    (List.forall_iff_forall_mem.1
      ⟨Reader.any_regards.table.eq.map _, Reader.string_regards.list.eq.map _⟩)
    independent

end ParameterSetDescription

namespace FunctionDescription

/-- How the values of the fields of a function may be laid out. -/
def parts : String → Tree → Tree → Prop
  | "input_parameters" | "output_parameters" => ParameterSetDescription.Relaid
  | _ => Eq

/-- Trees of one function. -/
def Relaid : Tree → Tree → Prop :=
  layout.Relaid parts

/-- The fields of a function can be filled in any order. -/
theorem independent : layout.Independent := by
  simp [Layout.Independent, layout, Field.mandatory, Field.defaulted, Field.commutes]

/-- A function is read from what its layout keeps. -/
theorem regards : layout.read.Regards Relaid :=
  layout.regards
    (List.forall_iff_forall_mem.1
      ⟨Reader.string_regards.map _, Reader.string_regards.optional_eq.map _,
        Reader.string_regards.map _, ParameterSetDescription.regards.map _,
        ParameterSetDescription.regards.map _⟩)
    independent

end FunctionDescription

namespace StepDescription

/-- Trees of one step. -/
def Relaid : Tree → Tree → Prop :=
  layout.Relaid fun _ => Eq

/-- The fields of a step can be filled in any order. -/
theorem independent : layout.Independent := by
  simp [Layout.Independent, layout, Field.mandatory, Field.defaulted, Field.commutes]

/-- A step is read from what its layout keeps. -/
theorem regards : layout.read.Regards Relaid :=
  layout.regards
    (List.forall_iff_forall_mem.1 ⟨Reader.string_regards.map _, Reader.any_regards.table.eq.map _⟩)
    independent

/-- Steps are the same if they are without their ids. -/
theorem relaid_of_ids {members others : List (Option String × Tree)} {closed : Bool}
    (hids : ∀ member ∈ members ++ others, member.1 = some "id" → member.2.isWellFormed = true)
    (h : (members.filter (·.1 ≠ some "id")).Perm (others.filter (·.1 ≠ some "id"))) :
    Relaid (.object members closed) (.object others closed) := by
  refine Layout.relaid_of_filter (fun member hmember hid => ?_) h
  have hid : member.1 = some "id" := by simpa using hid
  exact ⟨"id", hid, rfl, hids member hmember hid⟩

end StepDescription

namespace WorkflowDescription

/-- How the values of the fields of a workflow may be laid out. -/
def parts : String → Tree → Tree → Prop
  | "input_parameters" | "output_parameters" => ParameterSetDescription.Relaid
  | "steps" => Tree.EachItem StepDescription.Relaid
  | _ => Eq

/-- Trees of one workflow. -/
def Relaid : Tree → Tree → Prop :=
  layout.Relaid parts

/-- The fields of a workflow can be filled in any order. -/
theorem independent : layout.Independent := by
  simp [Layout.Independent, layout, Field.mandatory, Field.defaulted, Field.commutes]

/-- A workflow is read from what its layout keeps. -/
theorem regards : layout.read.Regards Relaid :=
  layout.regards
    (List.forall_iff_forall_mem.1
      ⟨Reader.string_regards.map _, Reader.string_regards.optional_eq.map _,
        ParameterSetDescription.regards.map _, ParameterSetDescription.regards.map _,
        StepDescription.regards.list.map _⟩)
    independent

end WorkflowDescription

namespace DatastoreDescription

/-- Trees of one datastore. -/
def Relaid : Tree → Tree → Prop :=
  layout.Relaid fun _ => Eq

/-- The fields of a datastore can be filled in any order. -/
theorem independent : layout.Independent := by
  simp [Layout.Independent, layout, Field.mandatory, Field.defaulted, Field.commutes]

/-- A datastore is read from what its layout keeps. -/
theorem regards : layout.read.Regards Relaid :=
  layout.regards
    (List.forall_iff_forall_mem.1 ⟨Reader.string_regards.map _, Reader.any_regards.table.eq.map _⟩)
    independent

end DatastoreDescription

namespace ProviderType

/-- A type is read only from a string, or from an object with null under a name. -/
theorem regards : reader.Regards Eq := by
  refine Reader.regards_eq fun levels tree type h => ?_
  rw [reader.eq_def] at h
  split at h
  next => rfl
  next members closed =>
    obtain ⟨_, h⟩ := Reader.exists_of_enter h
    rw [readObject.eq_def] at h
    split at h
    next name content rest =>
      obtain ⟨_, -, h⟩ := bind_eq_ok_iff.1 h
      obtain ⟨_, hcontent, h⟩ := bind_eq_ok_iff.1 h
      split at h
      next hend =>
        obtain ⟨hrest, hclosed⟩ := Bool.and_eq_true_iff.1 hend
        rw [List.isEmpty_iff.1 hrest, hclosed]
        rw [readContent.eq_def] at hcontent
        split at hcontent
        · rfl
        · cases hcontent
      next => cases h
    next => cases h
  next => cases h

end ProviderType

namespace ProviderDescription

/-- Trees of one provider. -/
def Relaid : Tree → Tree → Prop :=
  layout.Relaid fun _ => Eq

/-- The fields of a provider can be filled in any order. -/
theorem independent : layout.Independent := by
  simp [Layout.Independent, layout, Field.mandatory, Field.defaulted, Field.commutes]

/-- A provider is read from what its layout keeps. -/
theorem regards : layout.read.Regards Relaid :=
  layout.regards
    (List.forall_iff_forall_mem.1 ⟨ProviderType.regards.map _, Reader.any_regards.map _⟩)
    independent

end ProviderDescription

namespace ProvidersDescription

/-- Trees of one group of providers, all of whose fields hold providers. -/
def Relaid : Tree → Tree → Prop :=
  layout.Relaid fun _ => Tree.EachMember ProviderDescription.Relaid

/-- Providers are read from what their layout keeps. -/
theorem regards : layout.read.Regards Relaid :=
  layout.regards
    (List.forall_mem_singleton.2 (ProviderDescription.regards.table.map _))
    (List.pairwise_singleton _ _)

end ProvidersDescription

namespace AppDescription

/-- How the values of the fields of an app may be laid out. -/
def parts : String → Tree → Tree → Prop
  | "functions" => Tree.EachMember FunctionDescription.Relaid
  | "workflows" => Tree.EachMember WorkflowDescription.Relaid
  | "datastores" => Tree.EachMember DatastoreDescription.Relaid
  | "external_auth_providers" => ProvidersDescription.Relaid
  | _ => Eq

/-- Trees of one app. -/
def Relaid : Tree → Tree → Prop :=
  layout.Relaid parts

/-- The fields of an app can be filled in any order. -/
theorem independent : layout.Independent := by
  simp [Layout.Independent, layout, Field.mandatory, Field.defaulted, Field.commutes]

/-- An app is read from what its layout keeps. -/
theorem regards : layout.read.Regards Relaid :=
  layout.regards
    (List.forall_iff_forall_mem.1
      ⟨Reader.string_regards.map _, Reader.string_regards.optional_eq.map _,
        Reader.string_regards.optional_eq.map _, Reader.string_regards.optional_eq.map _,
        Reader.string_regards.list.eq.map _, Reader.any_regards.table.eq.map _,
        FunctionDescription.regards.table.map _, WorkflowDescription.regards.table.map _,
        DatastoreDescription.regards.table.map _,
        (ProvidersDescription.regards.optional fun _ _ => Layout.Relaid.eq_or_ne_null).map _⟩)
    independent

/-- What is read from a text is read from its tree. -/
theorem read_of_isOf {tree : Tree} {text : String} (h : tree.IsOf text) :
    read text = layout.read maxLevels tree := by
  have houtline : Outline.ofText text = ⟨tree, false⟩ := (Outline.ofText_eq_iff.2 h).2
  rw [read, houtline, ofOutline]
  cases layout.read maxLevels tree <;> rfl

/-- A text that is accepted has a tree. -/
theorem exists_isOf_of_read {text : String} {app : AppDescription} (h : read text = .ok app) :
    ∃ tree : Tree, tree.IsOf text := by
  obtain ⟨_, hread, hend⟩ := bind_eq_ok_iff.1 h
  split at hend
  next => cases hend
  next htrailing =>
    refine ⟨(Outline.ofText text).tree, Outline.ofText_eq_iff.1 ⟨regards.isWellFormed hread, ?_⟩⟩
    rw [← Bool.eq_false_iff.2 htrailing]

/-- What is read from a tree is read from the tree laid out in another way. -/
theorem read_of_relaid {levels : Nat} {tree tree' : Tree} {app : AppDescription}
    (h : Relaid tree tree') (hread : layout.read levels tree = .ok app) :
    layout.read levels tree' = .ok app := by
  rw [← toOption_eq_some_iff, ← regards.toOption_eq levels h, hread]
  rfl

/-- What a text describes does not depend on how its structures are laid out. A text that is
accepted has a tree. If the tree is laid out in another way, every text that has its tokens is
accepted with the same description, so the same manifest or error comes of it. In particular steps
that differ only in their ids, or in having one, differ only in their layout. -/
theorem layout_irrelevant {text : String} {app : AppDescription} (h : read text = .ok app) :
    (∃ tree : Tree, tree.IsOf text) ∧
    (∀ (tree tree' : Tree) (other : String), tree.IsOf text → Relaid tree tree' →
      Token.scan other.toList = tree'.tokens → read other = .ok app ∧ load other = load text) ∧
    ∀ (members others : List (Option String × Tree)) (closed : Bool),
      (∀ member ∈ members ++ others, member.1 = some "id" → member.2.isWellFormed = true) →
      members.filter (·.1 ≠ some "id") = others.filter (·.1 ≠ some "id") →
      StepDescription.Relaid (.object members closed) (.object others closed) := by
  refine ⟨exists_isOf_of_read h, fun tree tree' other htree hrelaid hscan => ?_,
    fun members others closed hids heq => StepDescription.relaid_of_ids hids (.of_eq heq)⟩
  have hread : layout.read maxLevels tree' = .ok app :=
    read_of_relaid hrelaid (read_of_isOf htree ▸ h)
  have hother : read other = .ok app := by
    rw [read_of_isOf ⟨regards.isWellFormed hread, hscan⟩, hread]
  exact ⟨hother, by rw [load, load, h, hother]⟩

/-- A text with a workflow whose step has an id. -/
def relay : String :=
  "\x7b\"name\": \"bot\", \"workflows\": \x7b\"relay\": \x7b\"title\": \"Relay\", " ++
    "\"steps\": [\x7b\"id\": \"first\", \"function_id\": \"send\"\x7d]\x7d\x7d\x7d"

/-- The text in another layout: the step has no id, but a member that is not declared, whose number
is too large to be read. -/
def relaidRelay : String :=
  "\x7b\"workflows\": \x7b\"relay\": \x7b\"steps\": [\x7b\"function_id\": \"send\", " ++
    "\"weight\": 1e999\x7d], \"title\": \"Relay\"\x7d\x7d, \"name\": \"bot\"\x7d"

/-- A member whose value is a string. -/
def textMember (name value : String) : Option String × Tree :=
  (some name, .scalar (.string (some value)))

/-- A member whose value is an object. -/
def objectMember (name : String) (members : List (Option String × Tree)) : Option String × Tree :=
  (some name, .object members true)

/-- The step of the workflow. -/
def relayStep : Tree :=
  .object [textMember "id" "first", textMember "function_id" "send"] true

/-- The step in the other layout. -/
def relaidRelayStep : Tree :=
  .object [textMember "function_id" "send", (some "weight", .scalar (.number none))] true

/-- The tree of the text. -/
def relayTree : Tree :=
  .object [textMember "name" "bot", objectMember "workflows" [objectMember "relay"
    [textMember "title" "Relay", (some "steps", .array [relayStep] true)]]] true

/-- The tree of the text in the other layout. -/
def relaidRelayTree : Tree :=
  .object [objectMember "workflows" [objectMember "relay"
    [(some "steps", .array [relaidRelayStep] true), textMember "title" "Relay"]],
    textMember "name" "bot"] true

/-- The trees of the two texts differ only in their layout. -/
theorem relayTree_relaid : Relaid relayTree relaidRelayTree := by
  have hstep : StepDescription.Relaid relayStep relaidRelayStep := by
    refine .object ⟨[textMember "function_id" "send"], _, [textMember "id" "first"],
      [(some "weight", .scalar (.number none))], .swap _ _ _, .refl _, .cons (.same _) .nil, ?_⟩
    exact List.forall_iff_forall_mem.1 ⟨⟨"id", rfl, rfl, rfl⟩, ⟨"weight", rfl, rfl, rfl⟩⟩
  have hsteps : WorkflowDescription.layout.SameMember WorkflowDescription.parts
      (some "steps", .array [relayStep] true) (some "steps", .array [relaidRelayStep] true) :=
    .field rfl (Tree.EachItem.array (.cons hstep .nil))
  have hworkflow : WorkflowDescription.Relaid
      (.object [textMember "title" "Relay", (some "steps", .array [relayStep] true)] true)
      (.object [(some "steps", .array [relaidRelayStep] true), textMember "title" "Relay"] true) :=
    .object ⟨_, _, [], [], .refl _, .swap _ _ _, .cons (.same _) (.cons hsteps .nil), nofun⟩
  have hworkflows : layout.SameMember parts
      (objectMember "workflows" [objectMember "relay"
        [textMember "title" "Relay", (some "steps", .array [relayStep] true)]])
      (objectMember "workflows" [objectMember "relay"
        [(some "steps", .array [relaidRelayStep] true), textMember "title" "Relay"]]) :=
    .field rfl (Tree.EachMember.object (.cons ⟨rfl, hworkflow⟩ .nil))
  exact .object ⟨_, _, [], [], .refl _, .swap _ _ _, .cons (.same _) (.cons hworkflows .nil), nofun⟩

/-- Both layouts of the workflow are accepted and mean the same. -/
theorem relay_layout_irrelevant :
    ∃ app, read relay = .ok app ∧ read relaidRelay = .ok app ∧ load relaidRelay = load relay := by
  have htree : relayTree.IsOf relay := ⟨rfl, by decide +kernel⟩
  have hscan : Token.scan relaidRelay.toList = relaidRelayTree.tokens := by decide +kernel
  have haccepted : (layout.read maxLevels relayTree).toOption.isSome = true := by decide +kernel
  obtain ⟨app, happ⟩ := Option.isSome_iff_exists.1 haccepted
  have hread : read relay = .ok app := (read_of_isOf htree).trans (toOption_eq_some_iff.1 happ)
  obtain ⟨-, halike, -⟩ := layout_irrelevant hread
  exact ⟨app, hread, halike relayTree relaidRelayTree relaidRelay htree relayTree_relaid hscan⟩

end AppDescription

end AppManifest
