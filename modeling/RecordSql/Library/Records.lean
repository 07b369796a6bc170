import RecordSql.Session.Relation

/-!
# A library of books

Record types for a small library: authors with a profile and with books, books with a publisher, tags and comments. They serve as
examples for every kind of relation and of declaration.
-/

namespace RecordSql.Library

/-- A field that is the primary key. -/
def keyField (name : String) : Field :=
  { Field.of name (.integer .int64) with primaryKey := true }

/-- A field that is the primary key and that the database counts up. -/
def serialField (name : String) : Field :=
  { keyField name with autoIncrement := true }

/-- A field of 64-bit integers. -/
def numberField (name : String) : Field :=
  Field.of name (.integer .int64)

/-- A field of texts. -/
def textField (name : String) : Field :=
  Field.of name .text

/-- A field that may be NULL. -/
def optional (f : Field) : Field :=
  { f with nullable := true }

/-- A field at a position of its record. -/
def atOffset (offset : Nat) (f : Field) : Field :=
  { f with offset := some offset }

/-- Authors have unique names. -/
def author : RecordType where
  id := "Author"
  description :=
    { name := "authors"
      declarations :=
        [.field (atOffset 88 (serialField "id")),
         .field { atOffset 0 (textField "name") with unique := true }] }

/-- An author has at most one profile. -/
def profile : RecordType where
  id := "Profile"
  description :=
    { name := "profiles"
      declarations :=
        [.field (serialField "id"),
         .field { numberField "author_id" with unique := true },
         .field { textField "bio" with defaultValue := some (Value.varchar "") },
         .foreignKey "author_id" "authors" "id"] }

/-- Publishers have keys of their own. -/
def publisher : RecordType where
  id := "Publisher"
  description :=
    { name := "publishers"
      declarations := [.field (keyField "id"), .field (textField "name")] }

/-- A book has one author, who gives each title once. -/
def book : RecordType where
  id := "Book"
  description :=
    { name := "books"
      declarations :=
        [.field (atOffset 136 (serialField "id")),
         .field (atOffset 144 (numberField "author_id")),
         .field (atOffset 0 (optional (numberField "publisher_id"))),
         .field (atOffset 32 (textField "title")),
         .field (atOffset 16 (optional (Field.of "price" (.binary .double)))),
         .index "books_author" ["author_id"] false,
         .index "books_title" ["author_id", "title"] true,
         .foreignKey "author_id" "authors" "id"] }

/-- Tags have unique labels. -/
def tag : RecordType where
  id := "Tag"
  description :=
    { name := "tags"
      declarations := [.field (keyField "id"), .field (textField "label"), .index "tags_label" ["label"] true] }

/-- The join table of books and tags. -/
def bookTag : RecordType where
  id := "BookTag"
  description :=
    { name := "book_tags"
      declarations :=
        [.field (keyField "book_id"),
         .field (keyField "tag_id"),
         .foreignKey "book_id" "books" "id",
         .foreignKey "tag_id" "tags" "id"] }

/-- Comments are only marked when they are deleted. -/
def comment : RecordType where
  id := "Comment"
  description :=
    { name := "comments"
      declarations :=
        [.field (serialField "id"),
         .field (numberField "book_id"),
         .field (textField "body"),
         .field { optional (Field.of "deleted_at" .offsetTimestamp) with softDelete := true }] }

/-- All the record types. -/
def all : List RecordType :=
  [author, profile, publisher, book, tag, bookTag, comment]

/-- The record type of the given name. -/
def type? (name : String) : Option RecordType :=
  all.find? (·.id == name)

/-- The value that a field has when none is given: NULL where it may be, else zero or the empty text. -/
def initialValue (f : Field) : Value :=
  if f.nullable then f.prototype
  else if f.prototype.type = .varchar then Value.varchar ""
  else (Value.integer? .int64 0).getD f.prototype

/-- The value of a field for which a value may be given. It is decoded into the type of the field. -/
def fieldValue (f : Field) (given : Option Value) : Except Fault Value :=
  match given, Native.ofValueType? f.prototype.type with
  | some v, some type => v.decodeField type f.nullable
  | some v, none => .ok v
  | none, _ => .ok (initialValue f)

/-- The values of fields by name, for which values may be given. -/
def fieldValues (given : List (String × Value)) : List Field → Except Fault (List (String × Value))
  | [] => .ok []
  | f :: fs => do
    let v ← fieldValue f (given.lookup f.name)
    let rest ← fieldValues given fs
    .ok ((f.name, v) :: rest)

/-- The record with the given values and with initial values for the other fields. -/
def record (t : RecordType) (given : List (String × Value)) : Except Fault Record :=
  (fieldValues given t.model.fields).map Record.ofValues

/-- The slots of a record type, in order. -/
def slots (t : RecordType) : List String :=
  if t.id = "Author" then ["books", "profile"]
  else if t.id = "Book" then ["publisher", "tags", "comments"]
  else []

/-- The relation of a record type that fills a slot. The books of an author may be linked by another field. -/
def relation? (t : RecordType) (slot : String) (key : Option String) (nested : List Relation) : Option Relation :=
  match t.id, slot with
  | "Author", "books" => some (.oneToMany slot slot book (key.getD "author_id") nested)
  | "Author", "profile" => some (.oneToOne slot slot profile "author_id" nested)
  | "Book", "publisher" => some (.belongsTo slot slot publisher "publisher_id" nested)
  | "Book", "tags" => some (.manyToMany slot slot tag ⟨bookTag, "book_id", "tag_id"⟩ nested)
  | "Book", "comments" => some (.oneToMany slot slot comment "book_id" nested)
  | _, _ => none

end RecordSql.Library
