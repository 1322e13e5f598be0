/-!
# Configuration values

A configuration is a tree of tables. A table remembers how it came about, since that decides what
may still be added to it: a header opens a table once, or one more table of an array of tables; a
dotted key never reaches into a table that has a header; nothing is added to an inline table.
-/

namespace MotionController
namespace Toml

/-! ## Values -/

/-- How a table came about. -/
inductive Origin where
  /-- By the header of a table inside it. -/
  | implied
  /-- By a dotted key. -/
  | dotted
  /-- By its own header. -/
  | header
  deriving DecidableEq, Repr

/-- A value in a configuration. -/
inductive Value where
  | text (content : String)
  | integer (value : Int)
  | boolean (value : Bool)
  /-- A floating point number, of which only the presence matters. -/
  | real
  /-- A date, a time or both, of which only the presence matters. -/
  | date
  | array (items : List Value)
  /-- An inline table, to which nothing can be added. -/
  | closed (entries : List (String × Value))
  | table (origin : Origin) (entries : List (String × Value))
  /-- An array of tables with a header each. The last one is kept, which alone can be added to. -/
  | tables (last : List (String × Value))

/-- The entries of a table in the order they were given. -/
abbrev Entries :=
  List (String × Value)

/-! ## Building tables -/

/-- The entries with the value of a present key replaced. -/
def put (key : String) (value : Value) (entries : Entries) : Entries :=
  entries.map fun entry => if entry.1 == key then (key, value) else entry

/-- Changes the table at a path, making the tables on the way that are not there. The way leads
through any table but an inline one, and through the last table of an array of tables. -/
def changeAt (change : Entries → Option Entries) : (path : List String) → Entries → Option Entries
  | [], entries => change entries
  | key :: path, entries =>
      match entries.lookup key with
      | none => do
          let inner ← changeAt change path []
          return entries ++ [(key, .table .implied inner)]
      | some (.table origin inner) => do
          let inner ← changeAt change path inner
          return put key (.table origin inner) entries
      | some (.tables last) => do
          let last ← changeAt change path last
          return put key (.tables last) entries
      | some _ => none

/-- Opens the table of a header, which must not have been opened or filled by dotted keys before. -/
def openTable (key : String) (entries : Entries) : Option Entries :=
  match entries.lookup key with
  | none => some (entries ++ [(key, .table .header [])])
  | some (.table .implied inner) => some (put key (.table .header inner) entries)
  | some _ => none

/-- Opens a further table of an array of tables. -/
def openFurther (key : String) (entries : Entries) : Option Entries :=
  match entries.lookup key with
  | none => some (entries ++ [(key, .tables [])])
  | some (.tables _) => some (put key (.tables []) entries)
  | some _ => none

/-- Gives a key its value, which must have none yet. A dotted key reaches into tables that dotted
keys have made, and never into one that has a header of its own. -/
def insertKey : (path : List String) → Value → Entries → Option Entries
  | [], _, _ => none
  | [key], value, entries =>
      match entries.lookup key with
      | none => some (entries ++ [(key, value)])
      | some _ => none
  | key :: path, value, entries =>
      -- The innermost table must be one that a dotted key made; those around it may be others.
      let isInnermost := path.length = 1
      match entries.lookup key with
      | none => do
          let inner ← insertKey path value []
          return entries ++ [(key, .table .dotted inner)]
      | some (.table origin inner) =>
          if origin = .header ∨ (isInnermost ∧ origin ≠ .dotted) then
            none
          else do
            let inner ← insertKey path value inner
            return put key (.table origin inner) entries
      | some (.tables last) =>
          if isInnermost then
            none
          else do
            let last ← insertKey path value last
            return put key (.tables last) entries
      | some _ => none

end Toml
end MotionController
