import QuoteBridge.Toml.Value

/-!
# Tables under construction

The tables of a text are built up from headers and from keys of several parts.  A table is defined
once: by its header, by the keys that lead through it, or as a value.

**Rules.**
* A key of several parts leads only through tables that such keys of the same place have made.
* A header leads through any table and into the last table of an array of tables.
* A header may define a table that longer headers have made before.
-/

namespace QuoteBridge
namespace Toml

mutual

/-- Something under a key. -/
inductive Node
  | value (v : Value)
  | table (t : Table)
  | tables (ts : List Table)

/-- A table; it is implicit until a header defines it, and dotted if a key of several parts has
made it. -/
inductive Table
  | mk (implicit dotted : Bool) (entries : List (String × Node))

end

namespace Table

/-- Whether no header has defined the table. -/
def implicit : Table → Bool
  | mk i _ _ => i

/-- Whether a key of several parts has made the table. -/
def dotted : Table → Bool
  | mk _ d _ => d

/-- What stands in the table. -/
def entries : Table → List (String × Node)
  | mk _ _ es => es

/-- A table that a header defines. -/
def fresh : Table := mk false false []

/-- The same entries in a table that a header defines. -/
def defined (t : Table) : Table := mk false false t.entries

/-- What stands under a key. -/
def find? (t : Table) (k : String) : Option Node := (t.entries.find? (fun e => e.1 = k)).map (·.2)

/-- Puts something under a key. -/
def put (k : String) (n : Node) : Table → Table
  | mk i d es =>
      if es.any (fun e => e.1 = k) then mk i d (es.map (fun e => if e.1 = k then (k, n) else e))
      else mk i d (es ++ [(k, n)])

/-- Changes the table that a path leads to; tables are made on the way if need be. -/
def descend (dotted : Bool) : List String → (Table → Option Table) → Table → Option Table
  | [], f, t => f t
  | k :: ks, f, t =>
      match t.find? k with
      | none => (descend dotted ks f (mk true dotted [])).map (fun c => t.put k (.table c))
      | some (.value _) => none
      | some (.tables ts) =>
          match ts.reverse with
          | [] => none
          | last :: before =>
              (descend dotted ks f last).map (fun c => t.put k (.tables (c :: before).reverse))
      | some (.table c) =>
          if dotted && !c.implicit then none
          else (descend dotted ks f c).map (fun c' => t.put k (.table c'))

/-- The table that a path leads to, if all of it is there. -/
def locate? : List String → Table → Option Table
  | [], t => some t
  | k :: ks, t =>
      match t.find? k with
      | some (.table c) => locate? ks c
      | some (.tables ts) => ts.getLast?.bind (locate? ks)
      | _ => none

/-- Adds a value under a key; `path` holds the parts of the key before the last one. -/
def insert (path : List String) (k : String) (v : Value) (t : Table) : Option Table :=
  descend true path
    (fun c =>
      if c.dotted = path.isEmpty then none
      else if (c.find? k).isSome then none
      else some (c.put k (.value v)))
    t

mutual

/-- Something under a key as a value. -/
def nodeValue : Node → Value
  | .value v => v
  | .table t => tableValue t
  | .tables ts => .array (tablesValues ts)

def tableValue : Table → Value
  | mk _ _ es => .table (entriesValues es)

def tablesValues : List Table → List Value
  | [] => []
  | t :: ts => tableValue t :: tablesValues ts

def entriesValues : List (String × Node) → List (String × Value)
  | [] => []
  | (k, n) :: es => (k, nodeValue n) :: entriesValues es

end

end Table

/-- A document read so far: the tables that are finished, and the one that lines go into, with the
path of its header. -/
structure Draft where
  root : Table
  current : Table
  path : List String
  inArray : Bool

namespace Draft

/-- An empty document. -/
def initial : Draft := ⟨.fresh, .fresh, [], false⟩

/-- A path without its last part, and that part. -/
def unsnoc (path : List String) : Option (List String × String) :=
  match path.reverse with
  | [] => none
  | k :: ks => some (ks.reverse, k)

/-- Puts the current table into its place. -/
def finish (d : Draft) : Option Table :=
  match unsnoc d.path with
  | none => some d.current
  | some (init, k) =>
      Table.descend false init
        (fun parent =>
          match d.inArray, parent.find? k with
          | true, none => some (parent.put k (.tables [d.current]))
          | true, some (.tables ts) => some (parent.put k (.tables (ts ++ [d.current])))
          | true, some _ => none
          | false, none => some (parent.put k (.table d.current))
          | false, some (.table t) =>
              if t.implicit then some (parent.put k (.table d.current)) else none
          | false, some _ => none)
        d.root

/-- Begins the table of a header.  A table that longer headers have made keeps its entries. -/
def beginTable (path : List String) (d : Draft) : Option Draft :=
  match d.finish, unsnoc path with
  | some root, some (init, k) =>
      match Table.descend false init some root with
      | none => none
      | some root' =>
          match (Table.locate? init root').bind (Table.find? · k) with
          | none => some ⟨root', .fresh, path, false⟩
          | some (.table t) =>
              if t.implicit && !t.dotted then some ⟨root', t.defined, path, false⟩ else none
          | some _ => none
  | _, _ => none

/-- Begins one more table of the array of a header. -/
def beginArrayTable (path : List String) (d : Draft) : Option Draft :=
  match d.finish, unsnoc path with
  | some root, some (init, k) =>
      match Table.descend false init some root with
      | none => none
      | some root' =>
          match (Table.locate? init root').bind (Table.find? · k) with
          | none => some ⟨root', .fresh, path, true⟩
          | some (.tables _) => some ⟨root', .fresh, path, true⟩
          | some _ => none
  | _, _ => none

/-- Adds a value under a key to the current table. -/
def insert (key : List String) (v : Value) (d : Draft) : Option Draft :=
  match unsnoc key with
  | none => none
  | some (path, k) => (d.current.insert path k v).map (fun t => { d with current := t })

end Draft

end Toml
end QuoteBridge
