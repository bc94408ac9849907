import ProxySelection.Proofs.Table.Settled

/-!
Operations on a table, one after the other.

`RouteTable.Operation` lists what can be done with a table, and `perform` does it: it answers,
and says what the table is afterwards. An operation that fails leaves the table as it was. All
of them are settled (`perform_settled`), because each is made of reading values, of announcing
routes and of matching.
-/

namespace ProxySelection

namespace RouteTable

/-- What may be done with a table. -/
inductive Operation where
  /-- The items of a value take the place of the routes. -/
  | fill (v : Json)
  /-- Routes take the place of the routes. -/
  | fillWith (rs : List Route)
  /-- What a file holds takes the place of the routes. -/
  | load (depth : Nat) (path : Text) (file : File)
  | add (v : Json)
  | append (r : Route)
  | find (pattern : Text)
  | remove (pattern : Text)
  | update (pattern : Text) (options : Json)
  | select (url : Json)
  | describe (redact : Bool)
  /-- The routes are listed. -/
  | list

/-- What an operation answers. -/
def Operation.Answer : Operation → Type
  | .fill _ => Except Fault Unit
  | .fillWith _ => Unit
  | .load _ _ _ => Except LoadFault Unit
  | .add _ => Except (List Issue) Route
  | .append _ => Unit
  | .find _ => Option Route
  | .remove _ => Nat
  | .update _ _ => Except Url.OverlayFault (Option Route)
  | .select _ => Except Decimal.Fault (Option Route)
  | .describe _ => Except Decimal.Fault (List Json)
  | .list => List Route

/-- The answer of an attempt and the table afterwards: after a failure, the table before. -/
def orKept {ε α : Type} (t : RouteTable) : Except ε (α × RouteTable) → Except ε α × RouteTable
  | .ok (a, t') => (.ok a, t')
  | .error e => (.error e, t)

/-- Does something with a table: the answer and the table afterwards. -/
def perform (t : RouteTable) : (op : Operation) → Run (op.Answer × RouteTable)
  | .fill v => (fun x => t.orKept (x.map fun t' => ((), t'))) <$> (ofJson v).outcome
  | .fillWith rs => (fun t' => ((), t')) <$> ofRoutes rs
  | .load depth path file =>
    (fun x => t.orKept (x.map fun t' => ((), t'))) <$> (load depth path file).outcome
  | .add v => t.orKept <$> (t.add v).outcome
  | .append r => (fun t' => ((), t')) <$> t.append r
  | .find pattern => pure (t.find? pattern, t)
  | .remove pattern => pure (t.remove pattern)
  | .update pattern options => t.orKept <$> (t.update pattern options).outcome
  | .select url => (fun selected => (selected, t)) <$> (t.select url).outcome
  | .describe redact => pure (t.describe redact, t)
  | .list => pure (t.routes, t)

/-- What is done with a table does not depend on the cache. -/
theorem perform_settled (t : RouteTable) (op : Operation) : (t.perform op).Settled := by
  cases op with
  | fill v => exact (ofJson_settled v).map _
  | fillWith rs => exact (appendAll_settled empty rs).map _
  | load depth path file => exact (load_settled depth path file).map _
  | add v => exact (add_settled t v).map _
  | append r => exact (append_gives t r).settled.map _
  | find pattern => exact (Run.gives_pure _).settled
  | remove pattern => exact (Run.gives_pure _).settled
  | update pattern options => exact (update_settled t pattern options).map _
  | select url => exact (t.select_gives url).settled.map _
  | describe redact => exact (Run.gives_pure _).settled
  | list => exact (Run.gives_pure _).settled

end RouteTable

end ProxySelection
