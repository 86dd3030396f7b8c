import GrantLedger.Model.Basic
import GrantLedger.Record.Json
import GrantLedger.Record.Scope
import GrantLedger.Record.Token

/-!
# Models with state of their own

Three models around records with textual identifiers: a scope whose label is stored in its property
bag, a scope that reserves a property and stores nothing in it, and a token with a mark that is not
stored.
-/

namespace GrantLedger

/-- A scope with a label. -/
structure LabelledScope where
  base : Scope String := {}
  label : Option String := none
  deriving DecidableEq, Inhabited

/-- Gives a scope the label that was stored. -/
def LabelledScope.restore (s : LabelledScope) : Json → Except StoreError LabelledScope
  | .null => .ok { s with label := none }
  | .str label => .ok { s with label := some label }
  | _ => .error (.validation (.stated "Malformed label"))

instance : Model LabelledScope (Scope String) String where
  base s := s.base
  withBase s r := { s with base := r }
  ofBase r := { base := r }
  extensionProperty := some "label"
  extension s := .ofText? s.label
  restore := LabelledScope.restore

/-- A scope that reserves the property `tag` and stores null in it. -/
structure TaggedScope where
  base : Scope String := {}
  deriving DecidableEq, Inhabited

instance : Model TaggedScope (Scope String) String where
  base s := s.base
  withBase s r := { s with base := r }
  ofBase r := { base := r }
  extensionProperty := some "tag"

/-- A token with a mark that is not stored. -/
structure AuditedToken where
  base : Token String := {}
  audited : Bool := false
  deriving DecidableEq, Inhabited

instance : Model AuditedToken (Token String) String where
  base t := t.base
  withBase t r := { t with base := r }
  ofBase r := { base := r }

/-! ## JSON forms: the form of the base with one more member -/

/-- An object with one more member. -/
def Json.withMember (j : Json) (name : String) (value : Json) : Json :=
  match j with
  | .obj members => .object (members ++ [(name, value)])
  | other => other

instance : JsonForm LabelledScope where
  toJson s := (JsonForm.toJson s.base).withMember "label" (.ofText? s.label)
  ofJson? j := do
    let label ← match j.member "label" with
      | .null => some none
      | .str label => some (some label)
      | _ => none
    let base ← match j with
      | .obj _ => JsonForm.ofJson? j
      | _ => none
    return { base, label := label }

instance : JsonForm TaggedScope where
  toJson s := JsonForm.toJson s.base
  ofJson? j := (JsonForm.ofJson? j).map fun base => { base := base }

instance : JsonForm AuditedToken where
  toJson t := (JsonForm.toJson t.base).withMember "audited" (.bool t.audited)
  ofJson? j := do
    let audited ← match j.member? "audited" with
      | none => some false
      | some (.bool b) => some b
      | some _ => none
    let base ← match j with
      | .obj _ => JsonForm.ofJson? j
      | _ => none
    return { base, audited := audited }

end GrantLedger
