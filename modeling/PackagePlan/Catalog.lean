import PackagePlan.Definition.Yaml

/-! # Catalogs

A `Catalog` holds the texts of pipeline definitions by name.  A definition is read when its
name is first looked up and kept from then on; a text that cannot be read is read again every
time.  `lookup` says what a name stands for, `resolve` is the lookup that keeps what it has
read. -/

namespace PackagePlan

/-- A definition that has been read. -/
structure Loaded where
  /-- The number of definitions read before it; no two of a catalog have one number. -/
  serial : Nat
  definition : Definition
deriving DecidableEq

/-- Pipeline definitions by name: their texts and those already read. -/
structure Catalog where
  sources : Table String
  loaded : Table Loaded := .empty
deriving DecidableEq

/-- A computation that looks up pipelines in a catalog and may fail.  What it has read stays
in the catalog also when it fails. -/
abbrev CatalogM := ExceptT Error (StateM Catalog)

namespace Catalog

/-- The catalog of named texts; of two texts with one name the later one counts. -/
def ofList (sources : List (String × String)) : Catalog := { sources := .ofList sources }

/-- The names that can be looked up, in ascending order. -/
def names (catalog : Catalog) : List String := catalog.sources.keys

/-- The number of definitions read so far. -/
def loadedCount (catalog : Catalog) : Nat := catalog.loaded.entries.length

/-- The definition that a name stands for. -/
def lookup (catalog : Catalog) (name : String) : Except Error Definition :=
  match catalog.sources.get? name with
  | none => .error (.lookup (.pipeline name))
  | some text => (Definition.parse name text).mapError .schema

/-- Keeps a definition that has just been read. -/
def keep (catalog : Catalog) (name : String) (definition : Definition) : Loaded × Catalog :=
  let entry := ⟨catalog.loadedCount, definition⟩
  (entry, { catalog with loaded := catalog.loaded.insert name entry })

/-- Looks a name up, reading the definition if it has not been read before. -/
def resolve (name : String) : CatalogM Loaded := fun catalog =>
  match catalog.loaded.get? name with
  | some entry => (.ok entry, catalog)
  | none =>
    match catalog.lookup name with
    | .error error => (.error error, catalog)
    | .ok definition =>
      let (entry, catalog) := catalog.keep name definition
      (.ok entry, catalog)

end Catalog

end PackagePlan
