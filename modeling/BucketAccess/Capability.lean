import BucketAccess.Json.Value

/-!
# Capabilities

A capability is a single permission that the service can grant to an
authorization or to an application key.  Some act on the whole account, and a
key that is limited to one bucket cannot hold those.
-/

namespace BucketAccess

/-- The permissions that the service knows. -/
inductive Capability where
  | listKeys
  | writeKeys
  | deleteKeys
  | listAllBucketNames
  | listBuckets
  | readBuckets
  | writeBuckets
  | deleteBuckets
  | readBucketRetentions
  | writeBucketRetentions
  | readBucketEncryption
  | writeBucketEncryption
  | listFiles
  | readFiles
  | shareFiles
  | writeFiles
  | deleteFiles
  | readFileLegalHolds
  | writeFileLegalHolds
  | readFileRetentions
  | writeFileRetentions
  | bypassGovernance
deriving DecidableEq, Repr

namespace Capability

/-- All capabilities, in the order in which they are listed. -/
def all : List Capability :=
  [listKeys, writeKeys, deleteKeys, listAllBucketNames, listBuckets, readBuckets,
   writeBuckets, deleteBuckets, readBucketRetentions, writeBucketRetentions,
   readBucketEncryption, writeBucketEncryption, listFiles, readFiles, shareFiles,
   writeFiles, deleteFiles, readFileLegalHolds, writeFileLegalHolds,
   readFileRetentions, writeFileRetentions, bypassGovernance]

/-- The name of a capability on the wire. -/
def name : Capability → String
  | listKeys => "listKeys"
  | writeKeys => "writeKeys"
  | deleteKeys => "deleteKeys"
  | listAllBucketNames => "listAllBucketNames"
  | listBuckets => "listBuckets"
  | readBuckets => "readBuckets"
  | writeBuckets => "writeBuckets"
  | deleteBuckets => "deleteBuckets"
  | readBucketRetentions => "readBucketRetentions"
  | writeBucketRetentions => "writeBucketRetentions"
  | readBucketEncryption => "readBucketEncryption"
  | writeBucketEncryption => "writeBucketEncryption"
  | listFiles => "listFiles"
  | readFiles => "readFiles"
  | shareFiles => "shareFiles"
  | writeFiles => "writeFiles"
  | deleteFiles => "deleteFiles"
  | readFileLegalHolds => "readFileLegalHolds"
  | writeFileLegalHolds => "writeFileLegalHolds"
  | readFileRetentions => "readFileRetentions"
  | writeFileRetentions => "writeFileRetentions"
  | bypassGovernance => "bypassGovernance"

/-- The capability of exactly this name. -/
def ofName? (text : String) : Option Capability :=
  all.find? fun capability => capability.name = text

/-- The capability that a value names. -/
def ofJson? : Json → Option Capability
  | .str (.whole text) => ofName? text
  | _ => none

/-- Acts on the whole account. -/
def isAccountLevel : Capability → Bool
  | listKeys | writeKeys | deleteKeys | listAllBucketNames | writeBuckets
  | deleteBuckets => true
  | _ => false

/-- A key that is limited to one bucket may hold it. -/
def isBucketScopable (capability : Capability) : Bool := !capability.isAccountLevel

/-- Whether a value is among those that are granted, as values. -/
def isGranted (granted : List Json) (asked : Json) : Bool := granted.any (·.equal asked)

/-- The list of capabilities is complete. -/
theorem mem_all (capability : Capability) : capability ∈ all := by
  cases capability <;> decide

/-- A capability is found under its own name. -/
theorem ofName?_name (capability : Capability) : ofName? capability.name = some capability := by
  cases capability <;> decide

end Capability

end BucketAccess
