import ClusterMetrics.Store.Backend

/-! # The database behind the store

The store is kept in a database that an address names: a file, or the memory of the process, which
forgets its tables when it is closed. A process has one database at a time. It is chosen when a manager
connects, and stays chosen: whoever asks for it later opens it again.

* **`DatabaseLocation.ofUrl?`**: where an address leads. **`Disk`**: the files that there are.
* **`DatabaseProcess`**: a process with its manager. **`connect`**, **`close`**, **`ping`** and
  **`tables`**: what can be asked of it. **`backend`**: the store that a server finds in it. -/

namespace ClusterMetrics

/-- Where a database is **kept**. -/
inductive DatabaseLocation
  | memory
  | file (path : String)
  /-- An address with a host or parameters, which no database of these kinds takes. -/
  | unusable
  /-- A database of a kind that nothing is there to reach. -/
  | unreachable
  deriving DecidableEq, Repr

namespace DatabaseLocation

/-- The name of the memory in addresses. -/
def memoryName : String := ":memory:"

/-- The kinds of addresses that lead to a database. -/
def schemes : List String := ["sqlite", "sqliteext", "sqlite+pool", "sqliteext+pool"]

/-- The kinds of addresses that lead to a database out of reach. -/
def remoteSchemes : List String :=
  ["mysql", "mysql+pool", "postgres", "postgres+pool", "postgresql", "postgresql+pool"]

/-- The kind of an address in lower case, and what follows its colon. -/
def splitScheme? (url : List Char) : Option (String × List Char) :=
  match url.dropWhile (· != ':') with
  | [] => none
  | _ :: rest => some (String.ofList ((url.takeWhile (· != ':')).map Char.toLower), rest)

/-- Whether a character ends the host of an address. -/
def endsHost (c : Char) : Bool := c == '/' || c == '?' || c == '#'

/-- The host of an address behind its kind, and what follows it. -/
def splitHost : List Char → List Char × List Char
  | '/' :: '/' :: rest => (rest.takeWhile (!endsHost ·), rest.dropWhile (!endsHost ·))
  | rest => ([], rest)

/-- The characters of an address that count: not the blanks in front, and no tabs or line ends. -/
def plainUrl (url : String) : List Char :=
  (url.toList.dropWhile (· ≤ ' ')).filter fun c => c != '\t' && c != '\n' && c != '\r'

/-- The **location of an address**, or nothing for an address of no known kind. -/
def ofUrl? (url : String) : Option DatabaseLocation := do
  let (scheme, rest) ← splitScheme? (plainUrl url)
  if schemes.contains scheme then
    let (host, rest) := splitHost rest
    let below := rest.takeWhile (· != '#')
    let parameters := (below.dropWhile (· != '?')).drop 1
    let name := String.ofList ((below.takeWhile (· != '?')).drop 1)
    if !host.isEmpty || !parameters.isEmpty then return unusable
    else return if name = "" ∨ name = memoryName then memory else file name
  else if remoteSchemes.contains scheme then return unreachable
  else none

end DatabaseLocation

/-- The directories and the database files **on disk**, each file with its tables. -/
structure Disk where
  directories : List String
  databases : List (String × List TableName)

namespace Disk

/-- The directory that a path lies in; without a slash it is the one of the process. -/
def parent (path : String) : String :=
  match (path.splitOn "/").dropLast with
  | [] => ""
  | [""] => "/"
  | parts => String.intercalate "/" parts

/-- Whether a path can be **opened** as a database: its directory is there, and it is none itself. -/
def canOpen (disk : Disk) (path : String) : Bool :=
  !path.endsWith "/" && !disk.directories.contains path && disk.directories.contains (parent path)

/-- The tables of a database file. -/
def tablesOf (disk : Disk) (path : String) : List TableName :=
  (disk.databases.lookup path).getD []

/-- Puts tables into a database file. -/
def putTables (disk : Disk) (path : String) (tables : List TableName) : Disk :=
  { disk with databases := (path, tables) :: disk.databases }

end Disk

/-- Why the database **does not answer**. -/
inductive DatabaseFault
  /-- None has been chosen. -/
  | unbound
  /-- Its file cannot be opened. -/
  | cannotOpen
  /-- It does not take the address. -/
  | unusable
  /-- Nothing is there to reach it. -/
  | unreachable
  deriving DecidableEq, Repr

/-- A **process** with its database and its manager. -/
structure DatabaseProcess where
  url : String
  disk : Disk
  /-- The database that was chosen. -/
  bound : Option DatabaseLocation
  /-- The tables of the memory. -/
  memoryTables : List TableName
  /-- Whether the manager is connected. -/
  isConnected : Bool

namespace DatabaseProcess

/-- A process that has chosen no database. -/
def start (url : String) (disk : Disk) : DatabaseProcess := ⟨url, disk, none, [], false⟩

/-- The tables of the chosen database. -/
def tables (p : DatabaseProcess) : Except DatabaseFault (List TableName) :=
  match p.bound with
  | none => .error .unbound
  | some .memory => .ok p.memoryTables
  | some .unusable => .error .unusable
  | some .unreachable => .error .unreachable
  | some (.file path) =>
    if p.disk.canOpen path then .ok (p.disk.tablesOf path) else .error .cannotOpen

/-- A round trip to the chosen database, which is opened if it has to be. -/
def ping (p : DatabaseProcess) : Except DatabaseFault Unit := p.tables.map fun _ => ()

/-- **Chooses** the database of the address. A new memory is empty. -/
def bind (p : DatabaseProcess) : DatabaseProcess :=
  match DatabaseLocation.ofUrl? p.url with
  | none => p
  | some location => { p with bound := some location, memoryTables := [] }

/-- **Creates** all tables that are not there. -/
def createTables (p : DatabaseProcess) : DatabaseProcess :=
  match p.bound with
  | none => p
  | some .unusable => p
  | some .unreachable => p
  | some .memory => { p with memoryTables := TableName.all }
  | some (.file path) => { p with disk := p.disk.putTables path TableName.all }

/-- **Opens** the database of the address, with its tables if they are to be created, and tells whether
that succeeded. -/
def openUrl (p : DatabaseProcess) (create : Bool) : DatabaseProcess × Except DatabaseFault Bool :=
  match DatabaseLocation.ofUrl? p.url with
  | none => (p, .ok false)
  | some _ =>
    let p := p.bind
    match p.ping with
    | .ok _ => (if create then p.createTables else p, .ok true)
    | .error .unusable => (p, .error .unusable)
    | .error _ => (p, .ok false)

/-- **Connects** the manager, and tells whether that succeeded. -/
def connect (p : DatabaseProcess) (create : Bool) : DatabaseProcess × Except DatabaseFault Bool :=
  let (opened, result) := p.openUrl create
  match result with
  | .ok true => ({ opened with isConnected := true }, result)
  | _ => (opened, result)

/-- **Closes** the database if the manager is connected. -/
def close (p : DatabaseProcess) : DatabaseProcess :=
  if p.isConnected then { p with isConnected := false, memoryTables := [] } else p

/-- The **store that a server finds**. The memory is another one for each thread, so a server finds none of
its tables. -/
def backend (p : DatabaseProcess) : Backend :=
  match p.bound, p.tables with
  | some .memory, _ => ⟨.empty, TableName.all, none⟩
  | _, .error .unbound => ⟨.empty, [], some .isAbsent⟩
  | _, .error .unusable => ⟨.empty, [], some .crashes⟩
  | _, .error .unreachable => ⟨.empty, [], some (.refuses "no driver for the database")⟩
  | _, .error .cannotOpen => ⟨.empty, [], some (.refuses "unable to open database file")⟩
  | _, .ok tables => ⟨.empty, TableName.all.filter fun t => !tables.contains t, none⟩

/-- The process after a server was **started and stopped** in it, and the store that the server found. -/
def serve (p : DatabaseProcess) (create : Bool) : DatabaseProcess × Except DatabaseFault Backend :=
  let (opened, result) := p.openUrl create
  ({ opened with memoryTables := [] }, result.map fun _ => opened.backend)

end DatabaseProcess

end ClusterMetrics
