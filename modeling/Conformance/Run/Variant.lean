namespace Conformance

inductive Variant where
  | all
  | string
  | incr
  | list
  | hash
  | set
  | zset
  | keyspace
  | knownGood
  deriving DecidableEq

namespace Variant

def every : List Variant :=
  [all, string, incr, list, hash, set, zset, keyspace, knownGood]

def tags : Variant → String
  | all => ""
  | string => "string"
  | incr => "incr"
  | list => "list"
  | hash => "hash"
  | set => "set"
  | zset => "zset"
  | keyspace => "keyspace"
  | knownGood => "string incr hash keyspace"

def name : Variant → String
  | all => "all"
  | knownGood => "known-good"
  | v => v.tags

def ofName? (name : String) : Option Variant :=
  every.find? fun v => v.name == name

def unknown (name : String) : String :=
  "unknown variant '" ++ name ++ "' (expected one of: " ++ ", ".intercalate (every.map Variant.name) ++ ")"

end Variant

end Conformance
