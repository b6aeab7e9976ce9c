/-!
# TOML values and tables

A table is a list of keys with values. `Table.insert`, `Table.openTable` and `Table.openSeries` add what the lines of
a document say, and refuse to define anything twice: a table is opened by one header, keys with dots extend only
tables that such keys have made, and a table in braces is never extended.
-/

namespace Bookmarklet.Toml

/-- How a table came to be. -/
inductive Origin where
  /-- By a header of its own; also the whole document. -/
  | header
  /-- By the header of a table inside it. -/
  | implied
  /-- By a key with dots. -/
  | dotted
  /-- By braces. -/
  | inline
  deriving DecidableEq

/-- A value. Of fractions, dates and times it is only known that they stand there. -/
inductive Value where
  | string (value : String)
  | integer (value : Int)
  | fraction
  | boolean (value : Bool)
  | moment
  | array (items : List Value)
  | table (origin : Origin) (members : List (String × Value))
  /-- Tables that share a header; the last of them is still extended. -/
  | series (earlier : List Value) (last : List (String × Value))

/-- Keys with their values. -/
abbrev Table := List (String × Value)

namespace Table

/-- Gives a key, which is there, another value. -/
def replace (key : String) (value : Value) (t : Table) : Table :=
  t.map fun (k, v) => if k = key then (k, value) else (k, v)

/-- Changes the table at the end of a path. Tables that are missing on the way are made, by a key with dots if
`dotted`, else by a header. -/
def changeAt (dotted : Bool) (change : Origin → Table → Option (Origin × Table)) :
    List String → Origin → Table → Option (Origin × Table)
  | [], origin, t => change origin t
  | key :: path, origin, t =>
    match t.lookup key with
    | none => do
      let (o, inner) ← changeAt dotted change path (if dotted then .dotted else .implied) []
      return (origin, t ++ [(key, .table o inner)])
    | some (.table o inner) => do
      if o = .inline ∨ (dotted ∧ o = .header) then none
      else
        let (o, inner) ← changeAt dotted change path o inner
        return (origin, t.replace key (.table o inner))
    | some (.series earlier last) => do
      let (_, last) ← changeAt dotted change path .header last
      return (origin, t.replace key (.series earlier last))
    | some _ => none

/-- Adds a key with a value to the table at the end of a path of dotted keys, which is not empty if and only if that
table was made by such keys. -/
def insertHere (path : List String) (key : String) (value : Value) (origin : Origin) (t : Table) :
    Option (Origin × Table) :=
  changeAt true
    (fun o inner =>
      if (o == .dotted) = path.isEmpty ∨ (inner.lookup key).isSome then none else some (o, inner ++ [(key, value)]))
    path origin t

/-- Adds a key with a value to a table in braces. -/
def insertInline (path : List String) (key : String) (value : Value) (t : Table) : Option Table :=
  (insertHere path key value .inline t).map (·.2)

/-- Adds a key with a value to the table that the last header opened. -/
def insert (opened path : List String) (key : String) (value : Value) (t : Table) : Option Table :=
  (changeAt false (insertHere path key value) opened .header t).map (·.2)

/-- Opens a table by its header. -/
def openTable (path : List String) (key : String) (t : Table) : Option Table :=
  (changeAt false
    (fun o inner =>
      match inner.lookup key with
      | none => some (o, inner ++ [(key, .table .header [])])
      | some (.table .implied members) => some (o, inner.replace key (.table .header members))
      | some _ => none)
    path .header t).map (·.2)

/-- Opens a further table of those that share a header. -/
def openSeries (path : List String) (key : String) (t : Table) : Option Table :=
  (changeAt false
    (fun o inner =>
      match inner.lookup key with
      | none => some (o, inner ++ [(key, .series [] [])])
      | some (.series earlier last) => some (o, inner.replace key (.series (earlier ++ [.table .header last]) []))
      | some _ => none)
    path .header t).map (·.2)

end Table

/-! ## Documents -/

/-- What a line of a document says, with the path of keys that leads to its last key. -/
inductive Statement where
  | pair (path : List String) (key : String) (value : Value)
  | table (path : List String) (key : String)
  | series (path : List String) (key : String)

/-- The table that statements make, behind a header that opened the table at the end of a path. -/
def build (opened : List String) (t : Table) : List Statement → Option Table
  | [] => some t
  | .pair path key value :: rest => do build opened (← t.insert opened path key value) rest
  | .table path key :: rest => do build (path ++ [key]) (← t.openTable path key) rest
  | .series path key :: rest => do build (path ++ [key]) (← t.openSeries path key) rest

end Bookmarklet.Toml
