import EntityGraph.Database.Connection
import EntityGraph.Transport

/-!
# A connection as a transport

One connection of a host, used by a session to send its statements: queries give their rows,
writes the number of rows the connection last changed, insertions the connection's last row id,
and the transaction commands go through the connection's own record of whether a transaction is
open.
-/

namespace EntityGraph

namespace Database

/-- One connection of a host. -/
structure Link where
  host : Host
  connection : Nat
  deriving Inhabited

namespace Link

/-- Run a host operation on the link's connection. -/
def on {α : Type} (l : Link) (f : Host → Nat → Host × α) : Link × α :=
  let (host, a) := f l.host l.connection
  ({ l with host }, a)

instance : Transport Link where
  query l sql ps := l.on fun h c => match h.query c sql ps with
    | (h, r) => (h, r.map (·.2))
  execute l sql ps := l.on (Host.execute · · sql ps)
  insert l sql ps := l.on (Host.insert · · sql ps)
  begin l := l.on Host.begin
  commit l := l.on Host.commit
  rollback l := l.on Host.rollback

end Link

end Database

end EntityGraph
