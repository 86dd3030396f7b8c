import GrantLedger.Model.Extended
import GrantLedger.Record.Application
import GrantLedger.Record.Authorization

/-!
# The known models

`ModelType` lists the models that the library brings along: the four record types over each key type
and the three models with state of their own. A `ModelType` stands for the type itself where types
have to be told apart or named, as when a store is looked up.
-/

namespace GrantLedger

/-- A model that the library brings along. -/
inductive ModelType where
  | application (key : KeyType)
  | authorization (key : KeyType)
  | scope (key : KeyType)
  | token (key : KeyType)
  | labelledScope
  | taggedScope
  | auditedToken
  deriving DecidableEq, Repr, Inhabited

namespace ModelType

/-- The record type over a key type. -/
def ofKind (kind : EntityKind) (key : KeyType) : ModelType :=
  match kind with
  | .application => .application key
  | .authorization => .authorization key
  | .scope => .scope key
  | .token => .token key

/-- The kind of a model's entities. -/
def kind : ModelType → EntityKind
  | .application _ => .application
  | .authorization _ => .authorization
  | .scope _ | .labelledScope | .taggedScope => .scope
  | .token _ | .auditedToken => .token

/-- The key type of a model. -/
def keyType : ModelType → KeyType
  | .application k | .authorization k | .scope k | .token k => k
  | .labelledScope | .taggedScope | .auditedToken => .string

/-- The name of a model. -/
def name : ModelType → String
  | .application k => "application of " ++ k.name ++ " key"
  | .authorization k => "authorization of " ++ k.name ++ " key"
  | .scope k => "scope of " ++ k.name ++ " key"
  | .token k => "token of " ++ k.name ++ " key"
  | .labelledScope => "labelled scope"
  | .taggedScope => "tagged scope"
  | .auditedToken => "audited token"

/-- The type of a model's identifiers. -/
abbrev Key (m : ModelType) : Type := m.keyType.type

/-- The type of a model's records. -/
def Base : ModelType → Type
  | .application k => Application k.type
  | .authorization k => Authorization k.type
  | .scope k => Scope k.type
  | .token k => Token k.type
  | .labelledScope | .taggedScope => Scope String
  | .auditedToken => Token String

/-- The type of a model's entities. -/
def Entity : ModelType → Type
  | .application k => Application k.type
  | .authorization k => Authorization k.type
  | .scope k => Scope k.type
  | .token k => Token k.type
  | .labelledScope => LabelledScope
  | .taggedScope => TaggedScope
  | .auditedToken => AuditedToken

instance (m : ModelType) : Record m.Base m.Key :=
  match m with
  | .application k => inferInstanceAs (Record (Application k.type) k.type)
  | .authorization k => inferInstanceAs (Record (Authorization k.type) k.type)
  | .scope k => inferInstanceAs (Record (Scope k.type) k.type)
  | .token k => inferInstanceAs (Record (Token k.type) k.type)
  | .labelledScope | .taggedScope => inferInstanceAs (Record (Scope String) String)
  | .auditedToken => inferInstanceAs (Record (Token String) String)

instance (m : ModelType) : Model m.Entity m.Base m.Key :=
  match m with
  | .application k => inferInstanceAs (Model (Application k.type) (Application k.type) k.type)
  | .authorization k => inferInstanceAs (Model (Authorization k.type) (Authorization k.type) k.type)
  | .scope k => inferInstanceAs (Model (Scope k.type) (Scope k.type) k.type)
  | .token k => inferInstanceAs (Model (Token k.type) (Token k.type) k.type)
  | .labelledScope => inferInstanceAs (Model LabelledScope (Scope String) String)
  | .taggedScope => inferInstanceAs (Model TaggedScope (Scope String) String)
  | .auditedToken => inferInstanceAs (Model AuditedToken (Token String) String)

instance (m : ModelType) : JsonForm m.Entity :=
  match m with
  | .application k => inferInstanceAs (JsonForm (Application k.type))
  | .authorization k => inferInstanceAs (JsonForm (Authorization k.type))
  | .scope k => inferInstanceAs (JsonForm (Scope k.type))
  | .token k => inferInstanceAs (JsonForm (Token k.type))
  | .labelledScope => inferInstanceAs (JsonForm LabelledScope)
  | .taggedScope => inferInstanceAs (JsonForm TaggedScope)
  | .auditedToken => inferInstanceAs (JsonForm AuditedToken)

end ModelType

end GrantLedger
