import Turnstile.Toml

/-!
# Tables under construction

A document is written piece by piece: headers open tables, dotted keys reach into
them. What may still be added to a table depends on how it came about: one that
a header opened is closed to dotted keys from above, one that dotted keys made
is closed to headers, and one that a longer header implied is open to a header
of its own. A value, inline tables included, takes nothing more.
-/

namespace Turnstile.Toml

/-- How a table came about. -/
inductive Origin where
  /-- Opened by a header of its own. -/
  | header
  /-- Needed by the header of a table within it. -/
  | implied
  /-- Needed by a dotted key. -/
  | dotted
  deriving DecidableEq, Repr

/-- A part of a document. -/
inductive Tree where
  | value (content : Toml)
  | table (origin : Origin) (members : List (String × Tree))
  /-- An array whose tables have headers of their own, the last one being open. -/
  | tables (earlier : List (List (String × Tree))) (last : List (String × Tree))
  deriving Inhabited

namespace Tree

/-- The members of a table under construction. -/
abbrev Members := List (String × Tree)

/-- The member under a key. -/
def member? (members : Members) (key : String) : Option Tree :=
  (members.find? fun (other, _) => other = key).map Prod.snd

/-- The members with another one under a key; a new key goes to the end. -/
def setMember (members : Members) (key : String) (tree : Tree) : Members :=
  match members with
  | [] => [(key, tree)]
  | (other, held) :: rest =>
      if other = key then (key, tree) :: rest else (other, held) :: setMember rest key tree

/-- Put a value under a dotted key. It ends in the table where it starts or in one
that dotted keys made; on its way it enters no table that a header opened. -/
def put (mayEnd : Bool) (members : Members) (path : List String) (value : Toml) :
    Option Members :=
  match path with
  | [] => none
  | [key] =>
      match mayEnd, member? members key with
      | true, none => some (setMember members key (.value value))
      | _, _ => none
  | key :: rest =>
      match member? members key with
      | none =>
          (put true [] rest value).map fun made => setMember members key (.table .dotted made)
      | some (.table .header _) => none
      | some (.table origin inner) =>
          (put (origin = .dotted) inner rest value).map fun made =>
            setMember members key (.table origin made)
      | some (.tables earlier last) =>
          (put false last rest value).map fun made =>
            setMember members key (.tables earlier made)
      | some (.value _) => none

/-- Change the table at a path that is there, in an array of tables its last one. -/
def within (change : Members → Option Members) (members : Members) :
    List String → Option Members
  | [] => change members
  | key :: rest =>
      match member? members key with
      | some (.table origin inner) =>
          (within change inner rest).map fun made => setMember members key (.table origin made)
      | some (.tables earlier last) =>
          (within change last rest).map fun made => setMember members key (.tables earlier made)
      | _ => none

/-- Change the table above the end of a header's path, making the tables on the way. -/
def above (change : Members → String → Option Members) (members : Members) :
    List String → Option Members
  | [] => none
  | [key] => change members key
  | key :: rest =>
      match member? members key with
      | none =>
          (above change [] rest).map fun made => setMember members key (.table .implied made)
      | some (.table origin inner) =>
          (above change inner rest).map fun made => setMember members key (.table origin made)
      | some (.tables earlier last) =>
          (above change last rest).map fun made => setMember members key (.tables earlier made)
      | some (.value _) => none

/-- Open a table by its header: a new one, or one that was only implied. -/
def openTable (members : Members) (path : List String) : Option Members :=
  above (fun members key =>
    match member? members key with
    | none => some (setMember members key (.table .header []))
    | some (.table .implied inner) => some (setMember members key (.table .header inner))
    | _ => none) members path

/-- Open the next table of an array by its header. -/
def openElement (members : Members) (path : List String) : Option Members :=
  above (fun members key =>
    match member? members key with
    | none => some (setMember members key (.tables [] []))
    | some (.tables earlier last) =>
        some (setMember members key (.tables (earlier ++ [last]) []))
    | _ => none) members path

mutual

/-- The value that a part of a document is. -/
def toValue : Tree → Toml
  | value content => content
  | table _ members => .table (toMembers members)
  | tables earlier last => .array (toTables earlier ++ [.table (toMembers last)])

/-- The members of a table as values. -/
def toMembers : List (String × Tree) → List (String × Toml)
  | [] => []
  | (key, tree) :: rest => (key, toValue tree) :: toMembers rest

/-- The tables of an array as values. -/
def toTables : List (List (String × Tree)) → List Toml
  | [] => []
  | members :: rest => .table (toMembers members) :: toTables rest

end

/-- The members that pairs of dotted keys and values make. -/
def ofPairs? (pairs : List (List String × Toml)) : Option (List (String × Toml)) :=
  (pairs.foldlM (fun members (path, content) => put true members path content) []).map toMembers

end Tree

end Turnstile.Toml
