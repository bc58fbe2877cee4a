import Rollup.Bucket.Granularity

/-!
The key of a metric record: an entity at a time bucket, and the service that owns the entity when
it is an instance or an endpoint.
-/
namespace Rollup

structure KeyColumns where
  id : String
  entity : String
  service : String
  bucket : String

def keyColumns : KeyColumns :=
  ⟨"id", "entity_id", "service_id", "time_bucket"⟩

/-- A column that is stored under its own name in every table. -/
def isKeyColumn (column : String) : Bool :=
  column = keyColumns.id || column = keyColumns.entity || column = keyColumns.service ||
    column = keyColumns.bucket

namespace Record

structure Key where
  entity : String
  service : Option String
  bucket : Int64
deriving DecidableEq, Repr

namespace Key

def id (key : Key) : String :=
  Numeral.render key.bucket.toInt ++ "_" ++ key.entity

def toHour (key : Key) : Except Error Key :=
  (Bucket.toHour key.bucket.toInt).map fun bucket => { key with bucket := Int64.ofInt bucket }

def toDay (key : Key) : Except Error Key :=
  (Bucket.toDay key.bucket.toInt).map fun bucket => { key with bucket := Int64.ofInt bucket }

end Key

end Record

end Rollup
