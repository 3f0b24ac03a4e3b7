import AuditTrail.Entries
import AuditTrail.Pattern.Basic
import AuditTrail.Request.Operation

/-! # Clusters

The indices of a store and the aliases for groups of them, and the indices that a request refers
to by names, aliases and patterns.
-/

namespace AuditTrail

structure Cluster where
  indices : NameSet := {}
  aliases : Table NameSet := {}
deriving DecidableEq

/-- Finds the indices that names refer to. -/
abbrev IndexResolver := Cluster → IndicesOptions → List String → List String

namespace Cluster

/-- The name that stands for all indices. -/
def allIndices : String := "_all"

/-- What one name refers to: an index or the target of an alias that it matches if it is a
pattern, and otherwise the targets of the alias or the index of that name. -/
def referredTo (e : Pattern.Engine) (c : Cluster) (options : IndicesOptions) (name : String) :
    List String :=
  let p := Pattern.ofText e name
  if p.isWildcard then
    if options.expandWildcards then
      c.indices.names.filter p.accepts ++
        (c.aliases.entries.filter fun a => p.accepts a.1).flatMap fun a => a.2.names
    else []
  else
    match c.aliases.find? name with
    | some targets => targets.names
    | none => if c.indices.contains name || !options.ignoreUnavailable then [name] else []

/-- The indices that a list of names refers to, in ascending order. An empty list stands for all
indices. -/
def resolve (e : Pattern.Engine) (c : Cluster) (options : IndicesOptions) (names : List String) :
    List String :=
  if names.isEmpty || names.contains allIndices then c.indices.names
  else distinctNames (names.flatMap (c.referredTo e options))

end Cluster

/-- Whether a name and a protected index are the same under the patterns that either writes. -/
def concernsIndex (e : Pattern.Engine) (protectedIndex name : String) : Bool :=
  (Pattern.ofText e protectedIndex).accepts name ||
    (Pattern.ofText e name).accepts protectedIndex

end AuditTrail
