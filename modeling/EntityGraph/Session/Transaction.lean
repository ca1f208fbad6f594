import EntityGraph.Session.Basic

/-!
# Transactions of a session

A session opens a transaction on its transport at most once at a time. Saves and deletes form a
unit of work: with `autoBegin` they open a transaction first, and without an open transaction
each unit is published as soon as it is written. Committing publishes the unit: the row cache
takes the rows written, and the saved and deleted instances are announced, saved ones first.
Rolling back forgets the unit and any postponed work; instances keep what they hold in memory,
keys assigned by rolled-back insertions included.

Announcements come in this order: `beforeCommit`, then the instances, then `afterCommit`. A
listener that refuses the commit stops it after `beforeCommit`, before the transport is asked.
-/

namespace EntityGraph

namespace Session

variable {τ : Type} [Transport τ]

/-- Open a transaction unless the session has one open. -/
def begin : SessionM τ Unit := do
  if !(← get).session.inTransaction then
    send Transport.begin
    modifySession fun s => { s with inTransaction := true }

/-- Start a unit of work: open a transaction when the session is set to. -/
def beginUnit : SessionM τ Unit := do
  if (← get).session.config.autoBegin then begin

/-- Hand the unit's rows to the row cache and announce its instances. -/
def publish : SessionM τ Unit := do
  let w ← get
  let (pool, published) := w.session.changes.publish w.engine.pool
  set { w with engine := { w.engine with pool }, session := { w.session with changes := {} } }
  published.updated.forM fun e => announce (.updated e)
  published.deleted.forM fun e => announce (.deleted e)

/-- End a unit of work: outside a transaction it is published at once. -/
def endUnit : SessionM τ Unit := do
  if !(← get).session.inTransaction then publish

/-- Commit the open transaction, then publish the unit. -/
def commit : SessionM τ Unit := do
  if !(← get).session.inTransaction then
    throw (.session .noTransaction "commit without an open transaction")
  announce .beforeCommit
  if let some e := (← get).commitVeto then throw e
  send Transport.commit
  modifySession fun s => { s with inTransaction := false }
  publish
  announce .afterCommit

/-- Undo the open transaction and forget the unit without touching the row cache. The session
counts as outside a transaction afterwards even when the transport fails. -/
def rollback : SessionM τ Unit := do
  if !(← get).session.inTransaction then
    throw (.session .noTransaction "rollback without an open transaction")
  let w ← get
  let (t, r) := Transport.rollback w.transport
  set { w with transport := t,
               session := { w.session with inTransaction := false, deferred := [], changes := {} } }
  ofExcept r
  announce .afterRollback

end Session

end EntityGraph
