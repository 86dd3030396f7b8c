import GrantLedger.Error
import GrantLedger.Json.Read

/-!
# Encoded columns

Lists, localized texts and property bags stand in one text column each, as JSON. What is empty is
encoded as no text at all, and no text decodes to what is empty; a text that does not hold the
expected shape is refused as a whole.
-/

namespace GrantLedger

/-- Texts by culture. -/
abbrev Localized := OrdMap String String

/-- Free properties of an entity. -/
abbrev Properties := OrdMap String Json

namespace Codec

/-- The error for a text that does not hold the expected shape. -/
def malformed (shape text : String) : StoreError := .validation (.encodedColumn shape text)

/-! ## 1. Lists -/

/-- Encodes a list of texts. -/
def encodeList (values : List String) : Option String :=
  if values.isEmpty then none else some (Json.ofTexts values).render

/-- Decodes a list of texts. -/
def decodeList (encoded : Option String) : Except StoreError (List String) :=
  match encoded with
  | none => .ok []
  | some text =>
    match (Json.readAsWritten? text).bind Json.texts? with
    | some values => .ok values
    | none => .error (malformed "list" text)

/-! ## 2. Localized texts -/

/-- Localized texts as a JSON object. -/
def localizedJson (values : Localized) : Json := .obj (values.entries.map fun e => (e.1, .str e.2))

/-- Encodes localized texts. -/
def encodeLocalized (values : Localized) : Option String :=
  if values.isEmpty then none else some (localizedJson values).render

/-- The texts of a JSON object that holds nothing else. -/
def localized? : Json → Option Localized
  | .obj members =>
    (members.mapM fun (m : String × Json) => (m.2.text?).map fun s => (m.1, s)).map OrdMap.ofList
  | _ => none

/-- Decodes localized texts. -/
def decodeLocalized (encoded : Option String) : Except StoreError Localized :=
  match encoded with
  | none => .ok .empty
  | some text =>
    match (Json.readAsWritten? text).bind localized? with
    | some values => .ok values
    | none => .error (malformed "map" text)

/-! ## 3. Property bags -/

/-- A property bag as a JSON object. -/
def propertiesJson (values : Properties) : Json := .obj values.entries

/-- Encodes a property bag. -/
def encodeProperties (values : Properties) : Option String :=
  if values.isEmpty then none else some (propertiesJson values).render

/-- The members of a JSON object. -/
def properties? : Json → Option Properties
  | .obj members => some (OrdMap.ofList (Json.canonicalMembers members))
  | _ => none

/-- Decodes a property bag. -/
def decodeProperties (encoded : Option String) : Except StoreError Properties :=
  match encoded with
  | none => .ok .empty
  | some text =>
    match (Json.readAsWritten? text).bind properties? with
    | some values => .ok values
    | none => .error (malformed "property" text)

end Codec

end GrantLedger
