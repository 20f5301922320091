import SupplyChainTracker.Libs.Messaging

/-!
# A database with a clock

The tables of a service as its statements leave them, one statement after the other,
with the `NOW()` of each.
-/

namespace SupplyChainTracker

/-- Tables with the clock of their database. -/
structure Database (Db : Type) where
  db : Db
  /-- `NOW()` of one statement after the other. -/
  clock : Clock
  /-- How many statements have been executed. -/
  statements : Nat

namespace Database

variable {Db : Type}

/-- `NOW()` of the next statement. -/
def now (w : Database Db) : DateTime := w.clock w.statements

/-- The database after a statement that has left the tables `db`. -/
def after (w : Database Db) (db : Db) : Database Db :=
  { w with
    db := db
    statements := w.statements + 1 }

/-- The database after a statement that has left the tables alone. -/
def read (w : Database Db) : Database Db := w.after w.db

@[simp] theorem db_after (w : Database Db) (db : Db) : (w.after db).db = db := rfl

@[simp] theorem db_read (w : Database Db) : w.read.db = w.db := rfl

end Database

end SupplyChainTracker
