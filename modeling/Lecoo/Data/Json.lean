namespace Lecoo.Data

/-! # JSON values and derived encodings

What a program writes for its own types is given by attributes on them: how
variants and fields are renamed, and under which key an enumeration is tagged.
-/

inductive Json where
  | null
  | bool (value : Bool)
  | number (value : Int)
  | string (text : String)
  | array (elements : List Json)
  | object (fields : List (String × Json))

namespace Json

/-- What a script gets when it reads a property; nothing when there is none. -/
def property (json : Json) (name : String) : Option Json :=
  match json with
  | .object fields => fields.lookup name
  | _ => none

mutual

/-- A value inside a template string. -/
def text : Json → String
  | .null => "null"
  | .bool value => toString value
  | .number value => toString value
  | .string text => text
  | .array elements => texts elements
  | .object _ => "[object Object]"

def texts : List Json → String
  | [] => ""
  | [.null] => ""
  | [element] => element.text
  | .null :: rest => "," ++ texts rest
  | element :: rest => element.text ++ "," ++ texts rest

end

end Json

inductive RenameRule where
  | none
  | camelCase
  | pascalCase
deriving Repr, DecidableEq

namespace RenameRule

def lowerFirst : List Char → List Char
  | [] => []
  | c :: rest => c.toLower :: rest

/-- Each word begins with a capital, the underscores go. -/
def pascal (capitalize : Bool) : List Char → List Char
  | [] => []
  | '_' :: rest => pascal true rest
  | c :: rest => (if capitalize then c.toUpper else c) :: pascal false rest

/-- The name of a variant, which is declared with capitals. -/
def variant (rule : RenameRule) (name : String) : String :=
  match rule with
  | none | pascalCase => name
  | camelCase => String.ofList (lowerFirst name.toList)

/-- The name of a field, which is declared with underscores. -/
def field (rule : RenameRule) (name : String) : String :=
  match rule with
  | none => name
  | pascalCase => String.ofList (pascal true name.toList)
  | camelCase => String.ofList (lowerFirst (pascal true name.toList))

end RenameRule

/-- The attributes of an enumeration whose variants are told apart by a field. -/
structure TaggedEnum where
  tag : String
  renameAll : RenameRule
  renameAllFields : RenameRule
deriving Repr, DecidableEq

inductive DeserializeError where
  | missingField (name : String)
  | unknownVariant (name : String)
  | invalidType
  | invalidValue
  | invalidLength
deriving Repr, DecidableEq

abbrev Fields := List (String × Json)

def readU8 : Json → Except DeserializeError UInt8
  | .number value =>
      if 0 ≤ value ∧ value < 256 then .ok (UInt8.ofNat value.toNat) else .error .invalidValue
  | _ => .error .invalidType

/-- A field that has to be there; fields nobody asks for are passed over. -/
def required {α : Type} (name : String) (read : Json → Except DeserializeError α)
    (fields : Fields) : Except DeserializeError α :=
  match fields.lookup name with
  | some value => read value
  | none => .error (.missingField name)

/-- An array gives the fields in the order of their declaration, all of them. -/
def readElements {α : Type} (names : List String)
    (read : Fields → Except DeserializeError α) (elements : List Json) :
    Except DeserializeError α :=
  match read (names.zip elements) with
  | .ok value => if elements.length ≤ names.length then .ok value else .error .invalidLength
  | .error (.missingField name) =>
      if name ∈ names.drop elements.length then .error .invalidLength
      else .error (.missingField name)
  | .error error => .error error

def readStruct {α : Type} (names : List String) (read : Fields → Except DeserializeError α) :
    Json → Except DeserializeError α
  | .object fields => read fields
  | .array elements => readElements names read elements
  | _ => .error .invalidType

/-- A variant without data, given by its name, or by an object with the name alone. -/
def readUnit {α : Type} (rule : RenameRule) (variants : List (String × α)) :
    Json → Except DeserializeError α
  | .string name | .object [(name, .null)] =>
      match (variants.map fun (declared, value) => (rule.variant declared, value)).lookup name with
      | some value => .ok value
      | none => .error (.unknownVariant name)
  | _ => .error .invalidType

namespace TaggedEnum

variable {α : Type}

/-- What a value of the given variant is written as. -/
def write (attributes : TaggedEnum) (variant : String) (fields : Fields) : Json :=
  .object ((attributes.tag, .string (attributes.renameAll.variant variant)) ::
    fields.map fun (name, value) => (attributes.renameAllFields.field name, value))

/-- A variant with its declared fields. -/
structure Variant (α : Type) where
  fields : List String
  read : Fields → Except DeserializeError α

/-- The tag picks the variant, which reads its fields from the same object; in an array
the tag stands before the fields. -/
def read (attributes : TaggedEnum) (variants : List (String × Variant α)) :
    Json → Except DeserializeError α
  | .object fields =>
      match fields.lookup attributes.tag with
      | none => .error (.missingField attributes.tag)
      | some tag => do
          let variant ← pick tag
          variant.read fields
  | .array [] => .error (.missingField attributes.tag)
  | .array (tag :: elements) => do
      let variant ← pick tag
      readElements variant.fields variant.read elements
  | _ => .error .invalidType
where
  pick : Json → Except DeserializeError (Variant α)
    | .string name =>
        match (variants.map fun (declared, variant) =>
            (attributes.renameAll.variant declared, variant)).lookup name with
        | some variant => .ok variant
        | none => .error (.unknownVariant name)
    | _ => .error .invalidType

theorem read_object {attributes : TaggedEnum} {variants : List (String × Variant α)}
    {fields : Fields} (tag : Json) {variant : Variant α}
    (tagged : fields.lookup attributes.tag = some tag)
    (picked : read.pick attributes variants tag = .ok variant) :
    attributes.read variants (.object fields) = variant.read fields := by
  simp only [read, tagged, picked]
  rfl

end TaggedEnum

theorem readU8_number {value : Nat} (fits : value < 256) :
    readU8 (.number value) = .ok (UInt8.ofNat value) := by
  have within : (0 : Int) ≤ value ∧ (value : Int) < 256 := by omega
  simp [readU8, within]

end Lecoo.Data
