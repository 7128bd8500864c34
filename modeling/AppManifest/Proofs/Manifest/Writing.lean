import AppManifest.Manifest
import AppManifest.Proofs.Json.Serial

/-!
# Writing documents

A document presents itself field by field, and a field that cannot be written would stop the writing
with an error (`Document.write`). Its own fields have names, and the definitions in its sections are
JSON values: every document is written, as the JSON value that lists its members
(`Document.write_eq`), and it has the text of this value (`Document.writeText_eq`).
-/

namespace AppManifest.Document

/-- The members of a document are those of its parts that are there. -/
theorem toJson_eq (document : Document) : document.toJson = .object (Json.members [
    ("display_information", some (.object (Json.members [
      ("name", some (.string document.name)),
      ("description", document.description.map .string),
      ("long_description", document.longDescription.map .string)]))),
    ("icon", document.icon.map .string),
    ("oauth_config", document.botScopes.map fun scopes =>
      .object [("scopes", .object [("bot", .array (scopes.map .string))])]),
    ("functions", some (.object document.sections.functions.entries)),
    ("types", some (.object document.sections.types.entries)),
    ("workflows", some (.object document.sections.workflows.entries)),
    ("datastores", some (.object document.sections.datastores.entries)),
    ("external_auth_providers", document.sections.providers.map fun providers =>
      .object [("oauth2", .object providers.entries)])]) := by
  simp [toJson, Sections.members, Json.members_cons, Json.member, Json.ofTable, Json.ofStrings]

/-- What a document presents is written as its JSON value. -/
theorem write_serial (document : Document) : document.serial.write = .ok document.toJson := by
  have hstring (text : String) : (Serial.string text).write = .ok (.string text) := rfl
  have hinformation := Serial.write_struct
    (.cons (.present "name" (hstring document.name))
      (.cons (.map hstring "description" document.description)
        (.cons (.map hstring "long_description" document.longDescription) .nil)))
  have hscopes (scopes : List String) := Serial.write_struct_singleton "scopes"
    (Serial.write_struct_singleton "bot" (Serial.write_list_string scopes))
  have hproviders (providers : Table Json) :=
    Serial.write_struct_singleton "oauth2" (Serial.write_table providers)
  rw [toJson_eq]
  exact Serial.write_struct
    (.cons (.present _ hinformation)
      (.cons (.map hstring _ _)
        (.cons (.map hscopes _ _)
          (.cons (.present _ (Serial.write_table _))
            (.cons (.present _ (Serial.write_table _))
              (.cons (.present _ (Serial.write_table _))
                (.cons (.present _ (Serial.write_table _))
                  (.cons (.map hproviders _ _) .nil))))))))

/-- Every document is written. -/
theorem write_eq (document : Document) : document.write = .ok document.toJson := by
  rw [write, write_serial]
  rfl

/-- Every document has a text. -/
theorem writeText_eq (document : Document) (indented : Bool) :
    document.writeText indented = .ok (document.render indented) := by
  rw [writeText, write_eq]
  rfl

end AppManifest.Document
