import SqlRecords.Filter
import SqlRecords.Interchange.Document
import SqlRecords.Paging
import SqlRecords.Value.Reading

/-!
# Exchanged forms

The documents by which values, dialects, orders and pages are exchanged.

* A choice is its name, or an object with the name as its only field and the content in it.
* A structure is an object, in which unknown fields do not matter, or the array of all its fields.

A page that is read from a document is not checked.
-/

namespace SqlRecords

namespace Document

/-- The name of a choice and its content, if there is one. -/
def choice? : Document → Option (String × Option Document)
  | string name => some (name, none)
  | object [(name, content)] => some (name, some content)
  | _ => none

/-- The fields of a structure with the given names. -/
def fields? (names : List String) : Document → Option (List Document)
  | array items => if items.length = names.length then some items else none
  | d@(object _) => names.mapM d.field?
  | _ => none

/-- A choice without content, which may be spelled as nothing. -/
def isUnit : Option Document → Bool
  | none | some null => true
  | _ => false

/-- A truth value. -/
def bool? : Document → Option Bool
  | bool b => some b
  | _ => none

/-- A text. -/
def string? : Document → Option String
  | string s => some s
  | _ => none

/-- A byte. -/
def byte? (d : Document) : Option UInt8 :=
  (d.integer?.filter IntType.uint8.holds).map fun n => UInt8.ofNat n.toNat

/-- An array of bytes. -/
def bytes? : Document → Option (List UInt8)
  | array items => items.mapM byte?
  | _ => none

/-- A text of one character. -/
def char? : Document → Option Char
  | string s =>
    match s.toList with
    | [c] => some c
    | _ => none
  | _ => none

/-- A number without sign of 64 bits. -/
def unsigned? (d : Document) : Option UInt64 :=
  (d.integer?.filter IntType.uint64.holds).map fun n => UInt64.ofNat n.toNat

end Document

namespace Dialect

/-- A dialect by its own name; its other names are not exchanged. -/
def ofDocument? (d : Document) : Option Dialect := do
  let (name, content) ← d.choice?
  if Document.isUnit content then all.find? fun dialect => dialect.name = name else none

/-- The name of a dialect. -/
def toDocument (d : Dialect) : Document := .string d.name

end Dialect

namespace Value

/-- The value of a kind with the given content. -/
def ofContent? : String → Document → Option Value
  | "Null", .null => some null
  | "Bool", d => d.bool?.map bool
  | "Integer", d => (d.integer?.filter IntType.int64.holds).map fun n => integer (.ofInt n)
  | "Real", d => d.real?.map real
  | "Text", d => d.string?.map text
  | "Char", d => d.char?.map char
  | "DateTime", d => (d.string?.bind fun s => DateTime.readInterchange? s.toList).map dateTime
  | "Uuid", d => (d.string?.bind fun s => Uuid.read? s.toList).map uuid
  | "Blob", d => d.bytes?.map blob
  | _, _ => none

/-- A value as the choice of its kind. -/
def ofDocument? (d : Document) : Option Value := do
  let (name, content) ← d.choice?
  match content with
  | some content => ofContent? name content
  | none => if name = "Null" then some null else none

/-- A value as an object with its kind as the only field; `null` is its name alone. -/
def toDocument : Value → Document
  | null => .string "Null"
  | bool b => .object [("Bool", .bool b)]
  | integer n => .object [("Integer", .ofInt n.toInt)]
  | real x => .object [("Real", .ofReal x)]
  | text s => .object [("Text", .string s)]
  | char c => .object [("Char", .string (String.singleton c))]
  | dateTime t => .object [("DateTime", .string (String.ofList (t.text 'T')))]
  | uuid u => .object [("Uuid", .string (String.ofList u.text))]
  | blob bytes => .object [("Blob", .array (bytes.map fun b => .ofInt b.toNat))]

end Value

namespace SortKey

/-- A property to order by, with its direction. -/
def ofDocument? (d : Document) : Option SortKey := do
  let fields ← d.fields? ["property_name", "ascending"]
  match fields with
  | [property, ascending] => return ⟨← property.string?, ← ascending.bool?⟩
  | _ => none

/-- The object of a sort key. -/
def toDocument (s : SortKey) : Document :=
  .object [("property_name", .string s.property), ("ascending", .bool s.ascending)]

end SortKey

namespace Page

/-- A page, unchecked. -/
def ofDocument? (d : Document) : Option Page := do
  let fields ← d.fields? ["index", "size"]
  match fields with
  | [index, size] => return ⟨← index.unsigned?, ← size.unsigned?⟩
  | _ => none

/-- The object of a page. -/
def toDocument (p : Page) : Document :=
  .object [("index", .ofInt p.index.toNat), ("size", .ofInt p.size.toNat)]

end Page

end SqlRecords
