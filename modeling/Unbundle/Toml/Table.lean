-- SUMMARY: The table that a TOML document denotes.
import Unbundle.Toml.Scalar

/-!
# Tables

A document denotes a table. Its lines are taken in order: a header starts a table of its own, pairs go
to the table that was started last, and a dotted key goes to tables below it. Every value remembers
where it was written.
-/

namespace Unbundle.Toml

/-- How a table came to be, which decides what may be added to it. -/
inductive Origin where
  /-- By a header, or as the document itself. -/
  | header
  /-- By a header of a table below it. -/
  | implied
  /-- By a dotted key. -/
  | dotted
  /-- Between braces. -/
  | braces
deriving DecidableEq, Repr, Inhabited

/-- Tables that no header or braces have made. -/
def Origin.isOpen : Origin → Bool
  | .implied | .dotted => true
  | .header | .braces => false

inductive Value where
  | scalar (s : Scalar)
  /-- An array; `ofTables` if headers have made it. -/
  | array (ofTables : Bool) (items : List (Span × Value))
  | table (origin : Origin) (entries : List (Key × Span × Value))
deriving Repr, Inhabited

/-- The kind of a value, as messages name it. -/
def Value.kindName : Value → String
  | .scalar s => s.kindName
  | .array .. => "array"
  | .table .. => "table"

/-- A key, where its value was written, and the value. -/
abbrev Entry := Key × Span × Value

structure Table where
  origin : Origin
  entries : List Entry
deriving Repr, Inhabited

namespace Table

def empty (origin : Origin) : Table := ⟨origin, []⟩

def toValue (t : Table) : Value := .table t.origin t.entries

def find? (t : Table) (name : String) : Option Entry :=
  t.entries.find? (·.1.name == name)

/-- Replaces the value of a key, or adds it. -/
def put (t : Table) (key : Key) (span : Span) (value : Value) : Table :=
  if (t.find? key.name).isSome then
    { t with entries := t.entries.map fun e =>
        if e.1.name == key.name then (e.1, span, value) else e }
  else { t with entries := t.entries ++ [(key, span, value)] }

def erase (t : Table) (name : String) : Table :=
  { t with entries := t.entries.filter (·.1.name != name) }

/-- A key that is there already. -/
def duplicate (key : Key) : Problem := .plain "duplicate key" key.span

/-- A key that goes below something that is no table. -/
def cannotExtend (kind : String) (key : Key) : Problem :=
  .plain s!"cannot extend value of type {kind} with a dotted key" key.span

/-- Visits the table below a path, and gives what is found there with the changed table. Tables that
are missing are made; `dotted` tells for whom. -/
def visitAt {α : Type} (dotted : Bool) (f : Table → Except Problem (α × Table)) :
    List Key → Table → Except Problem (α × Table)
  | [], t => f t
  | key :: path, t => do
    match t.find? key.name with
    | none =>
      let (a, made) ← visitAt dotted f path (.empty (if dotted then .dotted else .implied))
      return (a, t.put key key.span made.toValue)
    | some (_, span, .table origin entries) =>
      if origin == .braces then throw (cannotExtend "inline table" key)
      else if dotted && !origin.isOpen then throw (duplicate key)
      else
        let (a, changed) ← visitAt dotted f path ⟨origin, entries⟩
        return (a, t.put key span changed.toValue)
    | some (_, span, .array true items) =>
      match items.getLast? with
      | some (itemSpan, .table origin entries) =>
        let (a, changed) ← visitAt dotted f path ⟨origin, entries⟩
        return (a, t.put key span (.array true (items.dropLast ++ [(itemSpan, changed.toValue)])))
      | _ => throw (cannotExtend "array" key)
    | some (_, _, value) => throw (cannotExtend value.kindName key)

/-- Changes the table below a path. -/
def modifyAt (dotted : Bool) (f : Table → Except Problem Table) (path : List Key) (t : Table) :
    Except Problem Table :=
  Prod.snd <$> visitAt dotted (fun t => ((), ·) <$> f t) path t

/-- Adds a new key to a table; a dotted key goes only to tables that dotted keys have made. -/
def add (dotted : Bool) (key : Key) (span : Span) (value : Value) (t : Table) :
    Except Problem Table :=
  if (t.origin == .dotted) != dotted || (t.find? key.name).isSome then .error (duplicate key)
  else .ok (t.put key span value)

/-- Adds a pair whose key may be dotted. -/
def addPair (t : Table) (path : List Key) (key : Key) (span : Span) (value : Value) :
    Except Problem Table :=
  let dotted := !path.isEmpty
  modifyAt dotted (add dotted key span value) path t

end Table

-- ---------------------------------------------------------------------------
-- Values
-- ---------------------------------------------------------------------------

/-- The parts of a key but the last, and the last. -/
def decodePath (key : List WrittenKey) : Except Problem (List Key × Key) := do
  let keys ← key.mapM decodeKey
  return (keys.dropLast, keys.getLast?.getD default)

def Written.span : Written → Span
  | .scalar _ _ span | .array span _ | .table span _ => span

mutual

/-- What a value denotes. -/
def Written.value : Written → Except Problem Value
  | .scalar kind text span => .scalar <$> decodeScalar kind text span
  | .array _ items => .array false <$> itemValues items
  | .table _ pairs => do
    let t ← pairsTable (.empty .header) pairs
    return .table .braces t.entries

def itemValues : List Written → Except Problem (List (Span × Value))
  | [] => return []
  | item :: rest => do
    let value ← item.value
    return (item.span, value) :: (← itemValues rest)

/-- Adds the pairs between braces to a table. -/
def pairsTable (t : Table) : List (List WrittenKey × Written) → Except Problem Table
  | [] => return t
  | (key, item) :: rest => do
    let (path, last) ← decodePath key
    let value ← item.value
    pairsTable (← t.addPair path last item.span value) rest

end

-- ---------------------------------------------------------------------------
-- Documents
-- ---------------------------------------------------------------------------

/-- A header: the table it starts. -/
structure Header where
  isArray : Bool
  path : List Key
  key : Key
  span : Span
deriving Repr, Inhabited

/-- The tables made so far, and the one that pairs go to. -/
structure Draft where
  root : Table
  /-- The header of the table that pairs go to; `none` at the start of the document. -/
  header : Option Header
  current : Table
deriving Repr, Inhabited

namespace Draft

def empty : Draft := ⟨.empty .header, none, .empty .header⟩

/-- Puts the table that was started last into its place. -/
def finish (d : Draft) : Except Problem Table :=
  match d.header with
  | none => .ok d.current
  | some h =>
    Table.modifyAt false (fun parent =>
      if h.isArray then
        let item := (h.span, d.current.toValue)
        match parent.find? h.key.name with
        | none => .ok (parent.put h.key h.span (.array true [item]))
        | some (_, span, .array true items) =>
          .ok (parent.put h.key span (.array true (items ++ [item])))
        | some _ => .error (Table.duplicate h.key)
      else .ok (parent.put h.key h.span d.current.toValue)) h.path d.root

/-- Takes out the entries of a table that was implied before. -/
def takeImplied (key : Key) (parent : Table) : Except Problem (List Entry × Table) :=
  match parent.find? key.name with
  | none => .ok ([], parent)
  | some (_, _, .table .implied entries) => .ok (entries, parent.erase key.name)
  | some _ => .error (Table.duplicate key)

/-- Starts a table. What was implied before is kept; what was defined before is not defined again. -/
def start (root : Table) (h : Header) : Except Problem Draft := do
  if h.isArray then return ⟨root, some h, .empty .header⟩
  else
    let (entries, root) ← Table.visitAt false (takeImplied h.key) h.path root
    return ⟨root, some h, ⟨.header, entries⟩⟩

def addLine (d : Draft) : Line → Except Problem Draft
  | .pair key item => do
    let (path, last) ← decodePath key
    let value ← item.value
    return { d with current := ← d.current.addPair path last item.span value }
  | .header isArray key span => do
    let root ← d.finish
    let (path, last) ← decodePath key
    start root ⟨isArray, path, last, span⟩

end Draft

/-- The table that a document denotes. -/
def Table.ofDocument (document : String) : Except Problem Table := do
  let lines ← read document
  let d ← lines.foldlM Draft.addLine Draft.empty
  d.finish

end Unbundle.Toml
