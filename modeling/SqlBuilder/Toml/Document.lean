import SqlBuilder.Double.Basic

/-!
# TOML documents

A document is a table of named items.  It is put together line by line, and what a line may still add
to a table depends on how that table came to be, which `Origin` records.

* `Scalar`, `Item`, `Entries` : the values of a document and the entries of a table;
* `define?` : setting a dotted key, which may pass only through tables that dotted keys or the headers
  of tables below them have made;
* `openTable?`, `openElement?` : what the two kinds of headers do;
* `Draft` : a document under way, with the path of the table that the next lines belong to.
-/

namespace SqlBuilder.Toml

/-- A value without parts. -/
inductive Scalar where
  | string (s : String)
  | integer (n : Int)
  | float (d : Double)
  | boolean (b : Bool)
  /-- A date, a time of day, or both, as written. -/
  | moment (s : String)
  deriving DecidableEq, Repr

/-- How a table came to be. -/
inductive Origin where
  /-- Written between braces, and complete. -/
  | inline
  /-- Opened by a header of its own, once and for all. -/
  | header
  /-- Named on the way in the header of a table below it. -/
  | path
  /-- Named on the way in a dotted key. -/
  | dotted
  deriving DecidableEq, Repr

/-- A value of a document. -/
inductive Item where
  | scalar (v : Scalar)
  | array (items : List Item)
  | table (origin : Origin) (entries : List (String × Item))
  /-- The tables that equal headers in double brackets opened one after the other. -/
  | tables (elements : List (List (String × Item)))

namespace Item

/-- Whether an item is an array or a table that holds nothing. -/
def isEmpty : Item → Bool
  | .scalar _ => false
  | .array items => items.isEmpty
  | .table _ entries => entries.isEmpty
  | .tables elements => elements.isEmpty

/-- The truth value an item is. -/
def boolean? : Item → Option Bool
  | .scalar (.boolean b) => some b
  | _ => none

end Item

/-- The entries of a table in the order in which their keys first occur. -/
abbrev Entries := List (String × Item)

/-- Replaces the item of a key. -/
def Entries.replace (key : String) (item : Item) : Entries → Entries
  | [] => []
  | e :: es => if e.1 = key then (key, item) :: es else e :: replace key item es

/-! ### Going down -/

/-- Changes the entries of the table at a path.  A step that meets nothing makes a table; one that
meets tables of equal headers goes to the last of them. -/
def atPath? (change : Entries → Option Entries) : List String → Entries → Option Entries
  | [], es => change es
  | k :: ks, es =>
    match es.lookup k with
    | none => (atPath? change ks []).map fun below => es ++ [(k, .table .path below)]
    | some (.table .inline _) => none
    | some (.table origin below) =>
      (atPath? change ks below).map fun below => es.replace k (.table origin below)
    | some (.tables elements) =>
      elements.getLast?.bind fun below =>
        (atPath? change ks below).map fun below =>
          es.replace k (.tables (elements.dropLast ++ [below]))
    | some _ => none

/-- Sets a dotted key to a value.  The key must be new.  Of the tables on the way those with a header
of their own are closed to dotted keys, and the innermost must itself come from dotted keys;
`isClosed` tells that the table at hand does not. -/
def define? (v : Item) (isClosed : Bool) : List String → Entries → Option Entries
  | [], _ => none
  | [k], es => if isClosed || (es.lookup k).isSome then none else some (es ++ [(k, v)])
  | k :: k' :: ks, es =>
    match es.lookup k with
    | none => (define? v false (k' :: ks) []).map fun below => es ++ [(k, .table .dotted below)]
    | some (.table .dotted below) =>
      (define? v false (k' :: ks) below).map fun below => es.replace k (.table .dotted below)
    | some (.table .path below) =>
      (define? v true (k' :: ks) below).map fun below => es.replace k (.table .path below)
    | some (.tables elements) =>
      elements.getLast?.bind fun below =>
        (define? v true (k' :: ks) below).map fun below =>
          es.replace k (.tables (elements.dropLast ++ [below]))
    | some _ => none

/-! ### Headers -/

/-- Opens a table.  One that so far was only named on the way keeps what is below it. -/
def openTable? (key : String) (es : Entries) : Option Entries :=
  match es.lookup key with
  | none => some (es ++ [(key, .table .header [])])
  | some (.table .path below) => some (es.replace key (.table .header below))
  | some _ => none

/-- Opens one more of the tables that share a header. -/
def openElement? (key : String) (es : Entries) : Option Entries :=
  match es.lookup key with
  | none => some (es ++ [(key, .tables [[]])])
  | some (.tables elements) => some (es.replace key (.tables (elements ++ [[]])))
  | some _ => none

/-! ### Documents under way -/

/-- A document under way. -/
structure Draft where
  entries : Entries
  /-- The path of the table that the next lines belong to. -/
  path : List String

namespace Draft

/-- The document without lines. -/
def empty : Draft := ⟨[], []⟩

/-- The document after a line that sets a dotted key. -/
def define? (d : Draft) (key : List String) (v : Item) : Option Draft :=
  (atPath? (Toml.define? v false key) d.path d.entries).map fun es => ⟨es, d.path⟩

/-- The document after a header, which does `enter` in the table above the one it names. -/
def enter? (d : Draft) (enter : String → Entries → Option Entries) (key : List String) :
    Option Draft :=
  key.getLast?.bind fun last =>
    (atPath? (enter last) key.dropLast d.entries).map fun es => ⟨es, key⟩

end Draft

end SqlBuilder.Toml
