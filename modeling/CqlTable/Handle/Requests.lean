import CqlTable.Handle.Basic

/-!
# Requests: what a table handle is asked to do
-/

namespace CqlTable.TableHandle

/-- A request to a handle. -/
inductive Request
  | create
  | openTable
  | close
  | drop
  | truncate
  | rename
  | write (row : Row)
  | update (old new : Row)
  | delete (row : Row)
  | startScan (fresh : Bool)
  | readNext
  | reference
  | readReferenced (ref : Bytes)
  | endScan
  | lookUp (parts : List Value) (map : Option Double)
  | lookUpNext
  | lookUpFirst
  | lookUpPrevious
  | lookUpLast
  | estimates
  | abilities
  | shutdown
  | useKeyspace (keyspace : String)

/-- How many rows a table is taken to hold, how many of them deleted, and how
    many in a range of keys. -/
structure Estimates where
  records : Nat
  deleted : Nat
  inRange : Nat
  deriving DecidableEq

/-- The estimates for any table. -/
def estimates : Estimates := ⟨10000, 0, 10⟩

/-- What tables can do and what they cannot. -/
def abilities : List (String × Bool) :=
  [("forwardScan", true), ("positionalAccess", true), ("keyEqualityLookup", true),
    ("fullTableScan", true), ("rangeScan", false), ("orderedScan", false), ("reverseScan", false),
    ("secondaryIndexScan", false), ("transactions", false)]

/-- What a handle replies. -/
inductive Reply
  | done
  | row (row : Option DecodedRow)
  | reference (ref : Bytes)
  | estimates (estimates : Estimates)
  | abilities (abilities : List (String × Bool))

variable {W : Type} (config : Config) (schema : TableSchema) (cluster : Cluster W)

/-- A request carried out. -/
def perform : Request → Operation (TableHandle W) Reply
  | .create => do create config schema cluster; return .done
  | .openTable => do onSession (Session.connect cluster config); return .done
  | .close => do moveCursor (fun _ => Cursor.released); return .done
  | .drop => do runReleasing config cluster (.dropTable schema.qualifiedName); return .done
  | .truncate => do runReleasing config cluster (.truncate schema.qualifiedName); return .done
  | .rename => Operation.fail (.unsupported .renameTable)
  | .write row => do
    let _ ← runBuilt config cluster (config.dialect.insert schema row)
    return .done
  | .update old new => do
    let _ ← runBuilt config cluster (config.dialect.update schema old new)
    return .done
  | .delete row => do
    let _ ← runBuilt config cluster (config.dialect.delete schema row)
    return .done
  | .startScan fresh => do startScan config schema cluster fresh; return .done
  | .readNext => do return .row (← readNext config schema)
  | .reference => do return .reference (← reference)
  | .readReferenced ref => do return .row (← readReferenced config schema ref)
  | .endScan => do moveCursor (fun _ => Cursor.released); return .done
  | .lookUp parts map => do return .row (← lookUp config schema cluster parts map)
  | .lookUpNext => do return .row (← readNext config schema)
  | .lookUpFirst => do return .row (← readFirst config schema)
  | .lookUpPrevious => Operation.fail (.unsupported .indexPrev)
  | .lookUpLast => Operation.fail (.unsupported .indexLast)
  | .estimates => return .estimates estimates
  | .abilities => return .abilities abilities
  | .shutdown => do onSession (Session.shutdown cluster); return .done
  | .useKeyspace keyspace => do onSession (Session.useKeyspace cluster config keyspace); return .done

end CqlTable.TableHandle
