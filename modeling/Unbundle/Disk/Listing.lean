-- SUMMARY: What a directory holds, and how two states of it differ.
import Unbundle.Disk

/-!
# Listings

A listing names every file below a directory, and every directory that holds nothing. Two listings are
compared path by path.
-/

namespace Unbundle.Disk

/-- A file with its content, or a directory that holds nothing. -/
inductive Item where
  | file (content : ByteArray)
  | hollow
deriving DecidableEq, Inhabited

/-- Nothing is below a route. -/
def isHollow (d : Disk) (l : Route) : Bool :=
  !d.nodes.any fun e => l.isPrefixOf e.1 && e.1 != l

/-- What a path below a route is called; the path of a directory ends with a slash. -/
def listingEntry (d : Disk) (root : Route) : Route × Node → Option (String × Item)
  | (l, node) =>
    if root.isPrefixOf l && l != root then
      let path := "/".intercalate (l.drop root.length)
      match node with
      | .file content _ => some (path, .file content)
      | .dir => if d.isHollow l then some (path ++ "/", .hollow) else none
    else none

/-- Everything below a route. -/
def listing (d : Disk) (root : Route) : List (String × Item) :=
  d.nodes.filterMap (d.listingEntry root)

/-- How a listing differs from an earlier one: what is new or changed, and `none` for what is gone. -/
def changes (before after : List (String × Item)) : List (String × Option Item) :=
  (after.filter fun (path, item) => before.lookup path != some item).map
    (fun (path, item) => (path, some item)) ++
  (before.filter fun (path, _) => (after.lookup path).isNone).map fun (path, _) => (path, none)

end Unbundle.Disk
