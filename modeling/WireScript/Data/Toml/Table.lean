import WireScript.Data

/-! # Tables under construction

A document builds its tables piece by piece: by headers, by arrays of tables and
by dotted keys. How a table came about decides what may still be added to it, so
tables keep that until the document is complete. Inline tables and arrays are
closed values.
-/

namespace WireScript.Data.Toml

/-- How a table came about: by a header of its own, on the way of a header to a
table below it, or on the way of a dotted key. -/
inductive Origin where
  | header
  | implied
  | dotted
  deriving DecidableEq

/-- A member of a table under construction. -/
inductive Node where
  | closed (data : Data)
  | table (origin : Origin) (members : List (String × Node))
  | tables (items : List (List (String × Node)))

/-- The members of a table in the order of their first mention. -/
abbrev Members := List (String × Node)

/-- The value of a key. -/
def find? (members : Members) (key : String) : Option Node :=
  (members.find? (fun entry => entry.1 == key)).map Prod.snd

/-- Set the value of a key, in its place if it has one. -/
def put (members : Members) (key : String) (node : Node) : Members :=
  if members.any (fun entry => entry.1 == key) then
    members.map (fun entry => if entry.1 == key then (key, node) else entry)
  else members ++ [(key, node)]

mutual

/-- The value of a member. -/
def Node.data : Node → Data
  | .closed data => data
  | .table _ members => .record (membersData members)
  | .tables items => .list (itemsData items)

/-- The values of the members of a table. -/
def membersData : List (String × Node) → List (Option String × Data)
  | [] => []
  | (key, node) :: rest => (some key, node.data) :: membersData rest

/-- The values of an array of tables. -/
def itemsData : List (List (String × Node)) → List Data
  | [] => []
  | members :: rest => .record (membersData members) :: itemsData rest

end

/-- Change the table at the end of a path, given how that table came about.
Tables missing on the way are created; of an array of tables the last one is
meant. A dotted key may not enter a table that has a header of its own. -/
def alter (isDotted : Bool) (change : Origin → Members → Option Members) :
    List String → Origin → Members → Option Members
  | [], origin, members => change origin members
  | key :: path, _, members =>
      match find? members key with
      | none => do
          let origin := if isDotted then Origin.dotted else .implied
          let inner ← alter isDotted change path origin []
          some (put members key (.table origin inner))
      | some (.table origin inner) =>
          if isDotted && origin == .header then none
          else do
            let inner ← alter isDotted change path origin inner
            some (put members key (.table origin inner))
      | some (.tables items) =>
          match items.getLast? with
          | none => none
          | some last => do
              let last ← alter isDotted change path .header last
              some (put members key (.tables (items.dropLast ++ [last])))
      | some (.closed _) => none

/-- Add a value under a dotted key. A key is set once, and values are added to a
table either all by dotted keys or all by plain ones. -/
def addValue (path : List String) (key : String) (data : Data) (members : Members) :
    Option Members :=
  alter true (fun origin members =>
    if (origin == .dotted) == path.isEmpty || (find? members key).isSome then none
    else some (members ++ [(key, .closed data)])) path .header members

/-- Open the table of a header. One that was only implied before keeps its
members. -/
def openTable (path : List String) (key : String) (root : Members) : Option Members :=
  alter false (fun _ members =>
    match find? members key with
    | none => some (put members key (.table .header []))
    | some (.table .implied inner) => some (put members key (.table .header inner))
    | _ => none) path .header root

/-- Open a further table in the array of a header. -/
def openItem (path : List String) (key : String) (root : Members) : Option Members :=
  alter false (fun _ members =>
    match find? members key with
    | none => some (put members key (.tables [[]]))
    | some (.tables items) => some (put members key (.tables (items ++ [[]])))
    | _ => none) path .header root

end WireScript.Data.Toml
