import MeterSight.Document.Basic

/-!
# Tables of TOML

A table can be opened by a header, come into being on the way to a deeper header, or be spelled out
by keys with points. Which of them it was decides what may be added to it later.
-/
namespace MeterSight.Toml

/-- How a table came into being. -/
inductive TableKind where
  /-- Under its own header, once and for all. -/
  | opened
  /-- On the way to a deeper header. -/
  | implied
  /-- By a key with points. -/
  | dotted
  deriving DecidableEq, Repr

/-- A value under construction. -/
inductive Node where
  /-- A complete value, inline tables included. -/
  | leaf (d : Document)
  | table (kind : TableKind) (fields : List (String × Node))
  /-- An array of tables: the one that can still grow, and the earlier ones, latest first. -/
  | tables (latest : List (String × Node)) (earlier : List (List (String × Node)))

abbrev Fields := List (String × Node)

/-- Replaces a field, or appends it. -/
def Fields.alter (name : String) (f : Option Node → Option Node) : Fields → Option Fields
  | [] => (f none).map fun node => [(name, node)]
  | (key, node) :: rest =>
    if key = name then (f (some node)).map fun node => (key, node) :: rest
    else (Fields.alter name f rest).map fun rest => (key, node) :: rest

/-- Follows a path, makes the tables that are missing, and changes the table at its end. A key with
points must not go through a table with a header of its own. -/
def Fields.descend (points : Bool) (change : TableKind → Fields → Option Fields) :
    List String → TableKind → Fields → Option Fields
  | [], kind, fields => change kind fields
  | name :: path, _, fields =>
    fields.alter name fun
      | none =>
        let kind := if points then TableKind.dotted else .implied
        (descend points change path kind []).map (.table kind)
      | some (.leaf _) => none
      | some (.table kind inner) =>
        if points ∧ kind = .opened then none
        else (descend points change path kind inner).map (.table kind)
      | some (.tables latest earlier) =>
        (descend points change path .opened latest).map (.tables · earlier)

/-- Adds a key and its value to a table. A key with points ends in a table of such keys, and no key
is given twice. -/
def Fields.insert (fields : Fields) (key : List String) (d : Document) : Option Fields :=
  match key.getLast? with
  | none => none
  | some name =>
    let path := key.dropLast
    fields.descend true (fun kind inner =>
      if kind = .dotted ↔ path = [] then none
      else inner.alter name fun
        | none => some (.leaf d)
        | some _ => none) path .opened

/-- Adds keys in order. -/
def Fields.insertAll (fields : Fields) (pairs : List (List String × Document)) : Option Fields :=
  pairs.foldlM (fun fields (key, d) => fields.insert key d) fields

/-- A header and the keys under it; the keys before the first header stand in the top table. -/
inductive Section where
  | top (pairs : List (List String × Document))
  | one (path : List String) (pairs : List (List String × Document))
  | more (path : List String) (pairs : List (List String × Document))

/-- Adds a section. A table gets one header, though it may have been implied before; an array of
tables gets an element for each. -/
def Fields.add (root : Fields) : Section → Option Fields
  | .top pairs => root.insertAll pairs
  | .one path pairs =>
    path.getLast?.bind fun name =>
      Fields.descend false (fun _ parent => parent.alter name fun
        | none => (Fields.insertAll [] pairs).map (.table .opened)
        | some (.table .implied fields) => (Fields.insertAll fields pairs).map (.table .opened)
        | some _ => none) path.dropLast .opened root
  | .more path pairs =>
    path.getLast?.bind fun name =>
      Fields.descend false (fun _ parent => parent.alter name fun
        | none => (Fields.insertAll [] pairs).map (.tables · [])
        | some (.tables latest earlier) =>
          (Fields.insertAll [] pairs).map (.tables · (latest :: earlier))
        | some _ => none) path.dropLast .opened root

mutual

/-- The finished value. -/
def Node.toDocument : Node → Document
  | .leaf d => d
  | .table _ fields => .table (documents fields)
  | .tables latest earlier => .array (elements earlier ++ [.table (documents latest)])

/-- The finished values of fields. -/
def documents : List (String × Node) → List (String × Document)
  | [] => []
  | (name, node) :: rest => (name, node.toDocument) :: documents rest

/-- The finished elements, which are given latest first. -/
def elements : List (List (String × Node)) → List Document
  | [] => []
  | fields :: rest => elements rest ++ [.table (documents fields)]

end

/-- The table that sections build. -/
def assemble? (sections : List Section) : Option Document :=
  (sections.foldlM Fields.add []).map fun fields => .table (documents fields)

/-- The inline table of some pairs. -/
def inlineTable? (pairs : List (List String × Document)) : Option Document :=
  assemble? [.top pairs]

end MeterSight.Toml
