/-
# Layers of settings

Settings are built up from layers, each of which goes over those before it.  Tables are merged
entry by entry and anything else is replaced.  Keys of tables do not depend on case.  The names at
the root of a layer may be paths.
-/
import Admission.Settings
import Admission.Settings.Path
import Admission.Text.Lowercase

namespace Admission.Settings

open Text

/-- Puts an entry into the entries of a table, in the place of one with the same key. -/
def putEntry (key : String) (value : Settings) :
    List (String × Settings) → List (String × Settings)
  | [] => [(key, value)]
  | (k, v) :: entries =>
    if k = key then (key, value) :: entries else (k, v) :: putEntry key value entries

/-- Changes the entry under a key, given what it was.  A value that is no table is replaced by
a table first. -/
def update (key : String) (change : Option Settings → Settings) : Settings → Settings
  | .table origin entries => .table origin (putEntry key (change (entries.lookup key)) entries)
  | _ => .table none [(key, change none)]

mutual

/-- A value laid over the one that was there. -/
def laidOver : Settings → Option Settings → Settings
  | .leaf origin value, _ => .leaf origin value
  | .list origin items, _ => .list origin items
  | .table _ entries, below => entriesOver entries (below.getD empty)

/-- The entries of a table laid over a value, one after the other. -/
def entriesOver : List (String × Settings) → Settings → Settings
  | [], below => below
  | (key, value) :: entries, below =>
    entriesOver entries (below.update (lowercase key) fun old => laidOver value old)

end

/-- How many items a list can be made to have. -/
def maxItems : Nat := 16777216

/-- The place in a list of the given length that a number stands for.  There is none before the
start of a list, nor further out than lists can reach. -/
def resolvePlace? (length : Nat) (n : Int) : Option Nat :=
  let place := if 0 ≤ n then n else n + length
  if 0 ≤ place ∧ place < maxItems then some place.toNat else none

/-- Items of which there are more than `place`; what is missing has no value. -/
def extended (place : Nat) (items : List Settings) : List Settings :=
  items ++ List.replicate (place + 1 - items.length) (.leaf none .null)

/-- The entry under a key, to be changed by a path that leads further.  It is made if it is not
there. -/
def child (key : String) (s : Settings) : Settings :=
  (s.entries.lookup key).getD (.leaf none .null)

/-- The origin and the items of a list; any other value is replaced by an empty list. -/
def listParts : Settings → Option String × List Settings
  | .list origin items => (origin, items)
  | _ => (none, [])

/-- Lays a value over what is at the end of a path.  The value takes the place of an item of a
list as it is.  There is no result if a place in a list is out of reach. -/
def putAt? (value : Settings) : List Step → Settings → Option Settings
  | [], below => some (laidOver value (some below))
  | [.key name], below => some (below.update (lowercase name) fun old => laidOver value old)
  | .key name :: path, below =>
    (putAt? value path (below.child (lowercase name))).map fun inner =>
      below.update (lowercase name) fun _ => inner
  | .place n :: path, below =>
    let (origin, items) := below.listParts
    match resolvePlace? items.length n with
    | none => none
    | some place =>
      let items := extended place items
      let inner? := match path with
        | [] => some value
        | _ => putAt? value path (items[place]?.getD (.leaf none .null))
      inner?.map fun inner => .list origin (items.set place inner)

/-- Lays the entries of a layer over settings. -/
def addLayer? (below : Settings) (layer : Settings) : Option Settings :=
  layer.entries.foldlM (fun s (name, value) => putAt? value (Path.ofName name) s) below

/-- Settings with the given defaults and layers, the later ones over the earlier ones. -/
def ofLayers? (defaults : Settings) (layers : List Settings) : Option Settings :=
  (layers.foldlM addLayer? empty).bind (addLayer? defaults)

end Admission.Settings
