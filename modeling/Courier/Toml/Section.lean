import Courier.Toml.Basic

/-!
# Putting tables together

Lines of a file fill tables by dotted keys and by headers. A table that is only named on the way to
another may still be opened by a header; one that was opened, or built by dotted keys, may not.
-/

namespace Courier.Toml

mutual

/-- What a key of a table holds while the file is read. -/
inductive Entry where
  | value (v : Toml)
  | child (s : Section)
  /-- Tables that a double header adds one by one, the last first. -/
  | children (ss : List Section)

/-- A table while the file is read: whether it was only named on the way to another, whether dotted
keys built it, and what it holds so far. -/
inductive Section where
  | mk (implicit dotted : Bool) (members : List (String × Entry))

end

namespace Section

/-- A table with nothing in it that a header opens. -/
def empty : Section := .mk false false []

/-- Whether a table was only named on the way to another. -/
def isImplicit : Section → Bool
  | .mk implicit _ _ => implicit

/-- Whether dotted keys built a table. -/
def isDotted : Section → Bool
  | .mk _ dotted _ => dotted

/-- What a table holds so far. -/
def members : Section → List (String × Entry)
  | .mk _ _ members => members

/-- The table as its header opens it. -/
def opened : Section → Section
  | .mk _ _ members => .mk false false members

/-- What a key holds. -/
def get? (s : Section) (key : String) : Option Entry :=
  s.members.lookup key

/-- The table with a key set. -/
def put (s : Section) (key : String) (e : Entry) : Section :=
  match s with
  | .mk implicit dotted members =>
    .mk implicit dotted (members.filter (fun m => m.1 ≠ key) ++ [(key, e)])

/-- Changes the table at a path. Tables that are missing on the way are made; a dotted path does not
enter a table that was opened. -/
def update (dotted : Bool) (f : Section → Option Section) : List String → Section → Option Section
  | [], s => f s
  | key :: path, s =>
    match s.get? key with
    | none => (update dotted f path (.mk true dotted [])).map fun c => s.put key (.child c)
    | some (.child c) =>
      if dotted && !c.isImplicit then none
      else (update dotted f path c).map fun c => s.put key (.child c)
    | some (.children (c :: cs)) =>
      (update dotted f path c).map fun c => s.put key (.children (c :: cs))
    | some (.children []) | some (.value _) => none

/-- Sets a value at a dotted key. A key holds one value, and dotted keys fill only tables that they
built themselves. -/
def insert (s : Section) (path : List String) (key : String) (v : Toml) : Option Section :=
  update true (fun t =>
    if t.isDotted = path.isEmpty ∨ (t.get? key).isSome then none else some (t.put key (.value v)))
    path s

end Section

mutual

/-- What a key holds, as a value. -/
def Entry.toToml : Entry → Toml
  | .value v => v
  | .child s => s.toToml
  | .children ss => .array (Section.toTomls ss).reverse

/-- A table as a value. -/
def Section.toToml : Section → Toml
  | .mk _ _ members => .table (Entry.toTomls members)

/-- Tables as values. -/
def Section.toTomls : List Section → List Toml
  | [] => []
  | s :: ss => s.toToml :: Section.toTomls ss

/-- The members of a table as values. -/
def Entry.toTomls : List (String × Entry) → List (String × Toml)
  | [] => []
  | (key, e) :: rest => (key, e.toToml) :: Entry.toTomls rest

end

/-- A file while it is read: its tables so far, and the one that lines go to now. -/
structure Draft where
  root : Section
  /-- The path of the open table; empty before the first header. -/
  path : List String
  /-- Whether the open table is one of several under its key. -/
  repeats : Bool
  current : Section

namespace Draft

/-- Before the first line. -/
def start : Draft := ⟨.empty, [], false, .empty⟩

/-- The tables of a file, with the open one in its place. -/
def close (d : Draft) : Option Section :=
  match d.path.reverse with
  | [] => some d.current
  | key :: above =>
    Section.update false (fun parent =>
      match parent.get? key, d.repeats with
      | none, true => some (parent.put key (.children [d.current]))
      | some (.children ss), true => some (parent.put key (.children (d.current :: ss)))
      | none, false => some (parent.put key (.child d.current))
      | some (.child s), false =>
        if s.isImplicit then some (parent.put key (.child d.current)) else none
      | _, _ => none) above.reverse d.root

/-- What the tables hold at a path. -/
def entryAt? (s : Section) : List String → Option Entry
  | [] => none
  | [key] => s.get? key
  | key :: path =>
    match s.get? key with
    | some (.child c) => entryAt? c path
    | some (.children (c :: _)) => entryAt? c path
    | _ => none

/-- A header opens a table. -/
def openTable (d : Draft) (path : List String) : Option Draft := do
  let root ← d.close
  let root ← Section.update false some path.dropLast root
  match entryAt? root path with
  | none => some ⟨root, path, false, .empty⟩
  | some (.child s) =>
    if s.isImplicit && !s.isDotted then some ⟨root, path, false, s.opened⟩ else none
  | some _ => none

/-- A double header opens one more table under its key. -/
def openItem (d : Draft) (path : List String) : Option Draft := do
  let root ← d.close
  let root ← Section.update false some path.dropLast root
  match entryAt? root path with
  | none | some (.children _) => some ⟨root, path, true, .empty⟩
  | some _ => none

/-- A line sets a key of the open table. -/
def set (d : Draft) (path : List String) (key : String) (v : Toml) : Option Draft :=
  (d.current.insert path key v).map fun s => { d with current := s }

end Draft

end Courier.Toml
