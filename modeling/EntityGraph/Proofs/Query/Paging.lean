import EntityGraph.Proofs.Session.Run
import EntityGraph.Schema.Registry.Build

/-!
# Paging a query with joins

A page of a query with joins should count primary instances: taking `limit` and `offset` should
give the corresponding slice of the unpaged result. When neither the primary filter nor the
primary ordering names a joined column, the page is cut by a subquery over the primary table that
carries the primary filter and ordering only. A filter on a join is applied to the joined rows
afterwards, so it can remove every row of a primary instance the page already counted.

`Session.paged_fetch_loses_filtered_instance` shows this over two heroes, Alpha with a patrol and
Beta with a rescue, asked for the heroes with a rescue in alias order. The whole result is Beta;
the first page of one hero is empty, because the page subquery picks Alpha before the join filter
removes Alpha's only row.
-/

namespace EntityGraph

namespace Session

/-- Heroes and their missions, a mission's `hero_id` being the back reference of its hero's
`missions`. -/
def heroesRegistry : Registry :=
  let hero : EntityDescriptor :=
    { name := "Hero", table := "hero",
      columns := [Column.primary "id", Column.ordinary "alias" .text],
      relations := [.children "missions" "Mission" "hero_id"] }
  let mission : EntityDescriptor :=
    { name := "Mission", table := "mission",
      columns := [Column.primary "id", Column.ordinary "title" .text,
        Column.reference "hero_id" "Hero"] }
  match Registry.build [hero, mission] with
  | .ok r => r
  | .error _ => default

/-- The heroes with a mission titled Rescue, in alias order. -/
def rescuers : Query :=
  { entity := ⟨0⟩, order := [⟨"alias", .asc⟩],
    joins := [{ relation := "missions", filter := Filter.empty.is "title" (.text "Rescue") }] }

/-- The first page of one hero of `rescuers`. -/
def firstRescuer : Query := { rescuers with limit := some 1, offset := some 0 }

/-- The statement `rescuers` compiles to: the join filter in the outer `WHERE`. -/
def rescuersSql : String :=
  "SELECT t0.id, t0.alias, t1.id, t1.title, t1.hero_id FROM hero t0 LEFT JOIN mission t1 ON " ++
    "t1.hero_id = t0.id WHERE t1.title = ? ORDER BY t0.alias ASC, t0.id, t1.id"

/-- The statement `firstRescuer` compiles to: the page is cut from the hero table alone. -/
def firstRescuerSql : String :=
  "SELECT t0.id, t0.alias, t1.id, t1.title, t1.hero_id FROM (SELECT t0.* FROM hero t0 ORDER BY " ++
    "t0.alias ASC, t0.id LIMIT 1 OFFSET 0) t0 LEFT JOIN mission t1 ON t1.hero_id = t0.id " ++
    "WHERE t1.title = ? ORDER BY t0.alias ASC, t0.id, t1.id"

/-- A store that answers each statement with the rows listed for its text. -/
structure Answers where
  rows : List (String × List (List Value))

instance : Transport Answers where
  query a sql _ := (a, .ok ((a.rows.lookup sql).getD []))
  execute a _ _ := (a, .ok 0)
  insert a _ _ := (a, .ok 0)
  begin a := (a, .ok ())
  commit a := (a, .ok ())
  rollback a := (a, .ok ())

/-- The answers of a database holding the heroes Alpha (id 1) and Beta (id 2) and the missions
Patrol (id 1, of Alpha) and Rescue (id 2, of Beta), with `?` bound to Rescue. Over the whole join
only Beta's row has the title Rescue. The page subquery keeps Alpha, the first hero by alias,
whose one joined row is Patrol, so the outer filter leaves no row. -/
def heroesAnswers : Answers :=
  { rows := [(rescuersSql, [[.int 2, .text "Beta", .int 2, .text "Rescue", .int 2]]),
             (firstRescuerSql, [])] }

/-- A fresh session over the heroes and those answers. -/
def heroesWorld : World Answers :=
  { engine := Engine.new heroesRegistry {}, session := Session.new {}, transport := heroesAnswers }

/-- The rescuers are Beta alone, yet the first page of one rescuer is empty: it is not the first
element of the whole result. -/
theorem paged_fetch_loses_filtered_instance :
    (rescuers.compile heroesRegistry {}).toOption.map (·.sql) = some rescuersSql ∧
      (firstRescuer.compile heroesRegistry {}).toOption.map (·.sql) = some firstRescuerSql ∧
      ((fetch rescuers).run.run heroesWorld).1.toOption = some [⟨0⟩] ∧
      ((((fetch rescuers).run.run heroesWorld).2.session.arena.get? ⟨0⟩).bind
        (·.id ((fetch rescuers).run.run heroesWorld).2.engine.pool.store)) = some 2 ∧
      ((fetch firstRescuer).run.run heroesWorld).1.toOption = some [] :=
  ⟨by decide +kernel, by decide +kernel, by decide +kernel, by decide +kernel, by decide +kernel⟩

end Session

end EntityGraph
