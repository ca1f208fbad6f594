import EntityGraph.Schema.Registry

/-!
# Building a registry

`Registry.build` turns descriptors into a registry or reports the first fault, in the order the
module `EntityGraph.Schema.Registry` lists. Every fault is a schema error naming the descriptor
being checked.
-/

namespace EntityGraph

namespace Registry

/-- Accept a plain identifier, or report it on the named entity. -/
def checkIdentifier (entity name : String) : Except Error Unit :=
  if isIdentifier name then pure ()
  else throw (.onEntity .invalidIdentifier entity ("'" ++ name ++ "' is not a valid SQL identifier"))

/-- Entity names and table names: identifiers, each used once. -/
def checkNames (ds : List EntityDescriptor) : Except Error Unit := do
  let step (acc : List String × List String) (d : EntityDescriptor) :
      Except Error (List String × List String) := do
    let (names, tables) := acc
    checkIdentifier d.name d.name
    checkIdentifier d.name d.table
    if names.contains d.name then
      throw (.onEntity .duplicateEntity d.name ("entity '" ++ d.name ++ "' registered twice"))
    if tables.contains d.table then
      throw (.onEntity .duplicateEntity d.name
        ("table '" ++ d.table ++ "' is mapped by more than one entity"))
    pure (d.name :: names, d.table :: tables)
  let _ ← ds.foldlM step ([], [])

/-- The number of a declared entity, or an unknown-entity fault reported on `owner`. -/
def lookupIn (ds : List EntityDescriptor) (owner name : String) : Except Error EntityId :=
  match ds.findIdx? (·.name == name) with
  | some i => pure ⟨i⟩
  | none => throw (.onEntity .unknownEntity owner ("unknown entity '" ++ name ++ "'"))

/-- The columns of one descriptor: identifiers, each name once, one primary key, resolved
reference targets, and an existing sequence column. Parents, implementations and relations are
left empty for the later phases. -/
def resolveColumns (ds : List EntityDescriptor) (i : Nat) (d : EntityDescriptor) :
    Except Error Structure := do
  let step (acc : List String × Option Nat × List (Option EntityId)) (column : Column) :
      Except Error (List String × Option Nat × List (Option EntityId)) := do
    let (seen, pk, targets) := acc
    let index := targets.length
    checkIdentifier d.name column.name
    if seen.contains column.name then
      throw (.onEntity .duplicateColumn d.name ("column '" ++ column.name ++ "' declared twice"))
    match column.role with
    | .primary =>
      if pk.isSome then
        throw (.onEntity .multiplePrimaryKeys d.name "more than one primary-key column")
      pure (column.name :: seen, some index, targets ++ [none])
    | .reference target =>
      let t ← lookupIn ds d.name target
      pure (column.name :: seen, pk, targets ++ [some t])
    | .ordinary => pure (column.name :: seen, pk, targets ++ [none])
  let (_, pk, targets) ← d.columns.foldlM step ([], none, [])
  let some primaryKey := pk
    | throw (.onEntity .missingPrimaryKey d.name "no primary-key column")
  let sequenceColumn ← match d.sequenced with
    | none => pure none
    | some name =>
      match d.columns.findIdx? (·.name == name) with
      | some c => pure (some c)
      | none => throw (.onEntity .unknownColumn d.name
          ("sequence column '" ++ name ++ "' does not exist"))
  pure { id := ⟨i⟩, name := d.name, table := d.table, columns := d.columns, targets,
         primaryKey, parents := [], implementations := [], relations := [], sequenceColumn }

/-- The ancestors of descriptor `i`, root first. Walking up from the descriptor, every parent
must be declared and none may come twice (the descriptor itself counting as seen). A chain
cannot be longer than the number of descriptors without repeating one, so `fuel` at that
number plus one always reaches the root or a repeat. -/
def parentChain (ds : List EntityDescriptor) (i : Nat) (d : EntityDescriptor) :
    Except Error (List EntityId) :=
  let rec walk : (fuel : Nat) → Option String → List Nat → List EntityId →
      Except Error (List EntityId)
    | _, none, _, chain => pure chain
    | 0, some p, _, _ =>
      throw (.onEntity .hierarchyCycle d.name ("inheritance chain loops through '" ++ p ++ "'"))
    | fuel + 1, some p, seen, chain => do
      let parent ← lookupIn ds d.name p
      if seen.contains parent.index then
        throw (.onEntity .hierarchyCycle d.name ("inheritance chain loops through '" ++ p ++ "'"))
      let next := (ds[parent.index]?).bind (·.parent)
      walk fuel next (parent.index :: seen) (parent :: chain)
  walk (ds.length + 1) d.parent [i] []

/-- The position of an own column of a structure, or an unknown-column fault. -/
def ownColumn (s : Structure) (name : String) : Except Error Nat :=
  match s.columnIndex? name with
  | some i => pure i
  | none => throw (.onEntity .unknownColumn s.name ("column '" ++ name ++ "' does not exist"))

/-- Resolve one declared relation of `owner` against the structures built so far. -/
def resolveRelation (ds : List EntityDescriptor) (structures : Array Structure) (owner : Structure) :
    RelationSpec → Except Error Relation
  | .reference name column => do
    let index ← ownColumn owner column
    match owner.target? index with
    | some target => pure { name, owner := owner.id, target, kind := .reference index }
    | none => throw (.onEntity .invalidRelation owner.name
        ("relation '" ++ name ++ "' uses '" ++ column ++ "', which is not a reference column"))
  | .children name target backReference => do
    let t ← lookupIn ds owner.name target
    let ts := structures[t.index]?.getD default
    let levels := t :: ts.parents.reverse
    let found := levels.findSome? fun level =>
      ((structures[level.index]?.getD default).columnIndex? backReference).map fun i => (⟨level, i⟩ : ColumnPosition)
    match found with
    | some pos => pure { name, owner := owner.id, target := t, kind := .children pos }
    | none => throw (.onEntity .unknownColumn owner.name
        ("back reference '" ++ backReference ++ "' does not exist on '" ++ ts.name ++ "'"))
  | .association name target table sourceColumn targetColumn => do
    let t ← lookupIn ds owner.name target
    checkIdentifier owner.name table
    checkIdentifier owner.name sourceColumn
    checkIdentifier owner.name targetColumn
    if sourceColumn == targetColumn then
      throw (.onEntity .invalidRelation owner.name ("relation '" ++ name ++ "' uses '" ++
        sourceColumn ++ "' for both sides of '" ++ table ++ "'"))
    if structures.any (·.table == table) then
      throw (.onEntity .invalidRelation owner.name ("intermediate table '" ++ table ++
        "' of relation '" ++ name ++ "' is mapped by an entity"))
    pure { name, owner := owner.id, target := t, kind := .association table sourceColumn targetColumn }

/-- Implementations and relations of structure `i`: implementations must be registered, must not
inherit, and link through an own column; relation names are identifiers declared once. -/
def resolveLinks (ds : List EntityDescriptor) (structures : Array Structure) (i : Nat)
    (d : EntityDescriptor) : Except Error (List Implementation × List Relation) := do
  let owner := structures[i]?.getD default
  let impls ← d.implementations.mapM fun (entity, link) => do
    let e ← lookupIn ds d.name entity
    let es := structures[e.index]?.getD default
    if !es.parents.isEmpty then
      throw (.onEntity .invalidRelation d.name ("implementation '" ++ es.name ++ "' must not inherit"))
    let linkColumn ← ownColumn owner link
    pure { entity := e, linkColumn : Implementation }
  let step (st : List String × List Relation) (rd : RelationSpec) :
      Except Error (List String × List Relation) := do
    let (names, acc) := st
    checkIdentifier d.name rd.name
    if names.contains rd.name then
      throw (.onEntity .invalidRelation d.name ("relation '" ++ rd.name ++ "' declared twice"))
    let r ← resolveRelation ds structures owner rd
    pure (rd.name :: names, acc ++ [r])
  let (_, relations) ← d.relations.foldlM step ([], [])
  pure (impls, relations)

/-- Check descriptors and build the registry, numbering entities in list order. -/
def build (ds : List EntityDescriptor) : Except Error Registry := do
  checkNames ds
  let structures ← (ds.zipIdx.mapM fun (d, i) => resolveColumns ds i d)
  let structures ← (structures.zip ds).zipIdx.mapM fun ((s, d), i) => do
    let parents ← parentChain ds i d
    pure { s with parents }
  let arr := structures.toArray
  let link (arr : Array Structure) (di : EntityDescriptor × Nat) : Except Error (Array Structure) := do
    let (d, i) := di
    let (implementations, relations) ← resolveLinks ds arr i d
    pure (arr.modify i fun s => { s with implementations, relations })
  let arr ← ds.zipIdx.foldlM link arr
  pure ⟨arr⟩

end Registry

end EntityGraph
