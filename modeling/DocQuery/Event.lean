import DocQuery.Catalog.Error
import DocQuery.Text.Debug
import DocQuery.Text.Decimal

/-!
# Events

What the library reports while it works. An event is kept as what happened; its wording is that of
`Event.entry`.
-/

namespace DocQuery

inductive Level where
  | trace
  | debug
  | info
  | warn
deriving DecidableEq, Repr

def Level.name : Level → String
  | .trace => "TRACE"
  | .debug => "DEBUG"
  | .info => "INFO"
  | .warn => "WARN"

/-- The requests that are tried again. -/
inductive Operation where
  | list
  | create
  | delete
deriving DecidableEq, Repr

def Operation.name : Operation → String
  | .list => "list_functions"
  | .create => "create_function"
  | .delete => "delete_function"

inductive Event where
  | rawPredicate (predicate : String)
  | compiled (query : String) (functions : Nat)
  /-- A catalog listed the functions under a link. -/
  | served (link : String) (count : Nat)
  /-- A catalog registered a function under a link. -/
  | registered (link id : String)
  | allCached (container : Container) (functions : Nat)
  | found (container : Container)
  | creating (container : Container) (missing : List String)
  | removed (container : Container) (id : String)
  | listed (container : Container) (count : Nat) (catalog : String)
  | createdElsewhere (container : Container) (id : String)
  | created (container : Container) (id handle : String)
  | alreadyExists (container : Container) (id : String)
  | createFailed (container : Container) (id : String) (error : Catalog.Error)
  | retrying (operation : Operation) (attempt : Nat) (error : Catalog.Error)
deriving DecidableEq, Repr

/-- An event in words. The fields stand in the order of their names. -/
structure LogEntry where
  level : Level
  source : String
  message : String
  fields : List (String × String)
deriving DecidableEq, Repr

namespace Event

open Text

def planner : String := "planner"

def connectors : String := "connectors"

def engine : String := "engine_core"

def entry : Event → LogEntry
  | .rawPredicate predicate =>
    ⟨.trace, planner, "passing raw predicate through", [("predicate", predicate)]⟩
  | .compiled query functions =>
    ⟨.debug, planner, "compiled filter",
      [("functions", decimalText functions), ("query", query)]⟩
  | .served link count =>
    ⟨.debug, connectors, "Listed functions", [("container", link), ("count", decimalText count)]⟩
  | .registered link id =>
    ⟨.debug, connectors, "Created function", [("container", link), ("id", id)]⟩
  | .allCached container functions =>
    ⟨.debug, engine, "All functions cached",
      [("container", container.display), ("functions", decimalText functions)]⟩
  | .found container =>
    ⟨.debug, engine, "Functions found in catalog", [("container", container.display)]⟩
  | .creating container missing =>
    ⟨.debug, engine, "Creating functions",
      [("container", container.display), ("missing", debugList missing)]⟩
  | .removed container id =>
    ⟨.info, engine, "Removed function", [("container", container.display), ("id", id)]⟩
  | .listed container count catalog =>
    ⟨.debug, engine, "Listed functions",
      [("catalog", catalog), ("container", container.display), ("count", decimalText count)]⟩
  | .createdElsewhere container id =>
    ⟨.debug, engine, "Function created by a concurrent resolve",
      [("container", container.display), ("id", id)]⟩
  | .created container id handle =>
    ⟨.info, engine, "Created function",
      [("container", container.display), ("handle", handle), ("id", id)]⟩
  | .alreadyExists container id =>
    ⟨.warn, engine, "Function already exists; refreshing catalog",
      [("container", container.display), ("id", id)]⟩
  | .createFailed container id error =>
    ⟨.warn, engine, "Failed to create function",
      [("container", container.display), ("error", error.message), ("id", id)]⟩
  | .retrying operation attempt error =>
    ⟨.warn, engine, "Catalog request failed; retrying",
      [("attempt", decimalText attempt), ("error", error.message),
        ("operation", operation.name)]⟩

end Event
end DocQuery
