import AdvisoryTriage.Keyed

/-!
# TOML values and tables

The values a configuration document can hold. Tables remember how they came about, since the rules
of the format about defining a table twice depend on it. This module also holds these rules:

* a key is given a value only once;
* a header defines a table only once, but may define one that so far was only implied by a header
  further down (`Toml.defineTable?`);
* a header in double brackets opens one more table of an array of tables (`Toml.appendTable?`);
* a dotted key makes the tables on its way, and adds only to tables that dotted keys made
  (`Toml.insert?`);
* a table or array written as a value is complete.
-/

namespace AdvisoryTriage

namespace Toml

/-- How a table came about. -/
inductive Origin where
  /-- It was written as a value, between braces. -/
  | inline
  /-- A header defined it. -/
  | header
  /-- It lies on the way to a table that a header defined. -/
  | implied
  /-- It lies on the way of a dotted key. -/
  | dotted
deriving DecidableEq

/-- A value of a document. -/
inductive Value where
  /-- A string. -/
  | string (text : String)
  /-- An integer. -/
  | integer (n : Int)
  /-- A number with a fraction or an exponent, or one of the special numbers, as it is spelled. -/
  | float (spelling : String)
  /-- A truth value. -/
  | boolean (b : Bool)
  /-- A date, a time or both, as it is spelled. -/
  | dateTime (spelling : String)
  /-- An array written as a value. -/
  | array (items : List Value)
  /-- A table. -/
  | table (origin : Origin) (entries : List (String × Value))
  /-- An array of the tables that headers in double brackets opened. -/
  | tables (elements : List (List (String × Value)))

/-- The entries of a table. -/
abbrev Entries := Keyed Value

/-- Gives a key a value, whether it has one or not. -/
def put (key : String) (v : Value) (es : Entries) : Entries :=
  es.update key v fun _ => v

/-! ### Headers -/

/-- Works on the table that a header finds under a key: the table itself, or the last one of an
array of tables. A table that is not there yet is implied. -/
def inTable? (key : String) (f : Entries → Option Entries) (es : Entries) : Option Entries :=
  match es.get? key with
  | none => do return put key (.table .implied (← f [])) es
  | some (.table origin sub) =>
    if origin = .inline then none else do return put key (.table origin (← f sub)) es
  | some (.tables elements) => do
    return put key (.tables (elements.dropLast ++ [← f (elements.getLast?.getD [])])) es
  | some _ => none

/-- Works on the table that a path of keys leads to. -/
def atPath? : (path : List String) → (Entries → Option Entries) → Entries → Option Entries
  | [], f => f
  | key :: path, f => inTable? key (atPath? path f)

/-- Defines the table of a header. -/
def defineTable? (key : String) (es : Entries) : Option Entries :=
  match es.get? key with
  | none => some (put key (.table .header []) es)
  | some (.table .implied sub) => some (put key (.table .header sub) es)
  | some _ => none

/-- Opens one more table for a header in double brackets. -/
def appendTable? (key : String) (es : Entries) : Option Entries :=
  match es.get? key with
  | none => some (put key (.tables [[]]) es)
  | some (.tables elements) => some (put key (.tables (elements ++ [[]])) es)
  | some _ => none

/-! ### Keys -/

/-- Inserts a value under a dotted key. The last table on the way has to be one that dotted keys
made; tables before it may also be implied, or the last of an array of tables. -/
def insert? : (key : List String) → Value → Entries → Option Entries
  | [], _, _ => none
  | [key], v, es => if (es.get? key).isSome then none else some (put key v es)
  | key :: next :: rest, v, es =>
    match es.get? key, rest with
    | none, _ => do return put key (.table .dotted (← insert? (next :: rest) v [])) es
    | some (.table .dotted sub), _ => do
      return put key (.table .dotted (← insert? (next :: rest) v sub)) es
    | some (.table .implied sub), _ :: _ => do
      return put key (.table .implied (← insert? (next :: rest) v sub)) es
    | some (.tables elements), _ :: _ => do
      let last ← insert? (next :: rest) v (elements.getLast?.getD [])
      return put key (.tables (elements.dropLast ++ [last])) es
    | _, _ => none

end Toml

end AdvisoryTriage
