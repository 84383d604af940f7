import Nostream.Repositories.FindByFilters
import Nostream.Schemas
import Nostream.Shared.Ranking

set_option autoImplicit false

namespace Nostream

open Utf16 Hex Sql

structure Database where
  events : EventsTable
  eventTags : List EventTag
  place : DBEvent → Nat
  placed : Ranking.Separates place events

namespace Database

def sortKey (database : Database) (orderBy : Direction) (r : DBEvent) : Int ×ₗ Nat :=
  match orderBy with
  | .ascending => toLex (r.eventCreatedAt, database.place r)
  | .descending => toLex (-r.eventCreatedAt, database.place r)

def candidates (database : Database) (query : Query) : List DBEvent :=
  database.events.flatMap fun event =>
    ((query.joined database.eventTags event).filter (query.accepts event)).map fun _ => event

def rows (database : Database) (query : Query) : List DBEvent :=
  Ranking.first (database.sortKey query.orderBy) query.limit (database.candidates query)

def invalidQuery : Thrown := .error "the database cannot run the query"

-- knex puts the order and the limit of the first builder after the union, around all branches.
def branches (database : Database) (query : Query) (subqueries : List Query) : List DBEvent :=
  (database.candidates query ++ subqueries.flatMap database.rows).dedup

def unionRows (database : Database) (query : Query) (subqueries : List Query) : List DBEvent :=
  Ranking.first (database.sortKey query.orderBy) query.limit (database.branches query subqueries)

def findByFilters (database : Database) : List SubscriptionFilter → Except Thrown (List DBEvent)
  | [] => .error (.error "Filters cannot be empty")
  | [filter] =>
    if (findByFilter filter).valid then .ok (database.rows (findByFilter filter)) else .error invalidQuery
  | filter :: rest =>
    if (filter :: rest).all fun f => (findByFilter f).valid then
      .ok (database.unionRows (findByFilter filter) (rest.map findByFilter))
    else .error invalidQuery

end Database

end Nostream
