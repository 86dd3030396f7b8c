import GrantLedger.Error

/-!
# Types of identifiers

An entity is identified by a value of a key type `K`. The class `EntityKey K` says how such a value
is stored and read back, and whether stores generate identifiers of the type. Four types are key
types: texts and UUIDs, which stores generate, and 64- and 32-bit integers, which the backing
context assigns.
-/

namespace GrantLedger

/-- A type of identifiers. -/
class EntityKey (K : Type) where
  /-- The form in which identifiers of the type are stored. -/
  kind : KeyKind
  /-- The identifier made from a fresh UUID, for types whose identifiers stores generate. -/
  generate? : Uuid → Option K
  /-- The stored form of an identifier. -/
  toKey : K → Key
  /-- Reads an identifier from a stored form. -/
  ofKey : Key → Except StoreError K

namespace EntityKey

/-- The text of an identifier. -/
def toText {K : Type} [EntityKey K] (k : K) : String := (toKey k).toText

/-- Texts identify by themselves; every stored form has a text. -/
instance : EntityKey String where
  kind := .text
  generate? u := some u.toText
  toKey := .text
  ofKey k := .ok k.toText

/-- Reads a UUID from a stored UUID or from a text. -/
def readUuid : Key → Except StoreError Uuid
  | .uuid u => .ok u
  | .text s =>
    match Uuid.ofText? s with
    | some u => .ok u
    | none => .error (.validation (.uuidKey s))
  | .int n => .error (.validation (.integerAsUuid n))

instance : EntityKey Uuid where
  kind := .uuid
  generate? := some
  toKey := .uuid
  ofKey := readUuid

/-- Reads a 64-bit integer from a stored integer or from a numeral. -/
def readInt64 : Key → Except StoreError Int64
  | .int n => .ok n
  | .text s =>
    match Numeral.readInt64 s with
    | .ok n => .ok n
    | .error fault => .error (.validation (.integerKey s fault))
  | .uuid u => .error (.validation (.uuidAsInteger u))

instance : EntityKey Int64 where
  kind := .bigint
  generate? _ := none
  toKey := .int
  ofKey := readInt64

/-- A 64-bit integer as a 32-bit one, if it is in range. -/
def narrow (n : Int64) : Except StoreError Int32 :=
  if n.toInt < -2_147_483_648 then .error (.validation (.narrowKey n .tooSmall))
  else if 2_147_483_648 ≤ n.toInt then .error (.validation (.narrowKey n .tooLarge))
  else .ok n.toInt32

instance : EntityKey Int32 where
  kind := .bigint
  generate? _ := none
  toKey k := .int k.toInt64
  ofKey k := (readInt64 k).bind narrow

end EntityKey

/-- The four key types. -/
inductive KeyType where
  | string
  | uuid
  | int64
  | int32
  deriving DecidableEq, Repr, Inhabited

namespace KeyType

/-- The type of identifiers. -/
def type : KeyType → Type
  | .string => String
  | .uuid => Uuid
  | .int64 => Int64
  | .int32 => Int32

instance (k : KeyType) : EntityKey k.type :=
  match k with
  | .string => inferInstanceAs (EntityKey String)
  | .uuid => inferInstanceAs (EntityKey Uuid)
  | .int64 => inferInstanceAs (EntityKey Int64)
  | .int32 => inferInstanceAs (EntityKey Int32)

/-- The name of a key type. -/
def name : KeyType → String
  | .string => "string"
  | .uuid => "uuid"
  | .int64 => "i64"
  | .int32 => "i32"

/-- All key types. -/
def all : List KeyType := [.string, .uuid, .int64, .int32]

/-- Finds a key type by its name. -/
def ofName? (name : String) : Option KeyType := all.find? (·.name == name)

end KeyType

end GrantLedger
