import FacetedSearch.Container.Store

/-!
# Resolved containers

Containers that were resolved are kept, under the identifier of the catalog and the name of the
container as they were asked for. A cache lasts until it is invalidated, a scope as long as one
compilation.
-/

namespace FacetedSearch

/-- What a container is asked for by: the identifier of its catalog, and its name. -/
abbrev ContainerKey := String × String

/-- Containers under the keys they were resolved by. -/
structure Resolved where
  entries : List (ContainerKey × Container)

namespace Resolved

def empty : Resolved := ⟨[]⟩

def get? (r : Resolved) (key : ContainerKey) : Option Container := r.entries.lookup key

/-- Keep a container under a key that is not there yet. -/
def add (r : Resolved) (key : ContainerKey) (c : Container) : Resolved :=
  if (r.get? key).isSome then r else ⟨r.entries ++ [(key, c)]⟩

def size (r : Resolved) : Nat := r.entries.length

end Resolved

/-- How often a source was asked. -/
structure Calls where
  catalog : Nat := 0
  container : Nat := 0
  deriving DecidableEq, Repr

instance : Add Calls := ⟨fun a b => ⟨a.catalog + b.catalog, a.container + b.container⟩⟩

/-- A result together with what became of the cache and what the source was asked. -/
structure Resolution where
  result : Result Container
  cache : Resolved
  calls : Calls := {}

namespace Source

/-- Ask the source for the catalog, then for the container in it. -/
def resolve (s : Source) (key : ContainerKey) : Result Container × Calls :=
  match s.catalog key.1 with
  | .error e => (.error e, { catalog := 1 })
  | .ok c => (s.container c key.2, { catalog := 1, container := 1 })

end Source

namespace Resolved

/-- Resolve a key by what is kept, else by the source; a success is kept. -/
def resolve (cache : Resolved) (s : Source) (key : ContainerKey) : Resolution :=
  match cache.get? key with
  | some c => { result := .ok c, cache }
  | none =>
    match s.resolve key with
    | (.ok c, calls) => { result := .ok c, cache := cache.add key c, calls }
    | (.error e, calls) => { result := .error e, cache, calls }

/-- Resolve a key within a scope, else through the cache; a success is kept in the scope. -/
def resolveIn (scope cache : Resolved) (s : Source) (key : ContainerKey) : Resolution × Resolved :=
  match scope.get? key with
  | some c => ({ result := .ok c, cache }, scope)
  | none =>
    let r := cache.resolve s key
    match r.result with
    | .ok c => (r, scope.add key c)
    | .error _ => (r, scope)

end Resolved

end FacetedSearch
