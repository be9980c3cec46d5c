import Inspection.Sql.Sqlite
import Inspection.Text.Percent
import Inspection.Text.Quoted

/-!
# Sql — Where a database within the program is kept

A url names a file and gives options; the name of the file may itself be a `file:` name with options
of its own.  A database that is kept in memory, or in a file without a name, needs nothing that
exists already.

* `Opening.ofUrl`: what a url asks for.
* `Storage.ofUrl`: where the database of a url is kept.
* `Storage.select`: the rows of a query for constants, asked of a database.
-/

namespace Inspection.Sql.Sqlite

/-- What may be done to a file, from the least to the most. -/
inductive Rights where
  | none
  | read
  | write
  | create
deriving DecidableEq, Repr

/-- The place in that order. -/
def Rights.rank : Rights → Nat
  | .none => 0
  | .read => 1
  | .write => 2
  | .create => 3

/-- How a database is opened. -/
structure Opening where
  /-- The name of the file. -/
  filename : List Char
  rights : Rights := .write
  memory : Bool := false
  /-- The file does not change. -/
  immutable : Bool := false
  /-- The name of what gives access to files, where it is asked for. -/
  vfs : Option (List UInt8) := none

/-- Where a database is kept. -/
inductive Storage where
  /-- Within the program, or in a file that has no name. -/
  | held
  | file (path : String) (creates : Bool)
deriving DecidableEq, Repr

/-! ### The options of a url -/

/-- A url that is not well formed. -/
def malformed (detail : String) : BackendError :=
  .connect ("error with configuration: " ++ detail)

/-- The value of an option is none that it may have. -/
def unknownValue (name value : String) : BackendError :=
  malformed ("unknown value " ++ Text.quoted value ++ " for \x60" ++ name ++ "\x60")

namespace Opening

/-- The opening with one more option; that nothing is written outweighs that a file is made. -/
def withOption (o : Opening) (name value : String) : Except BackendError Opening :=
  match name with
  | "mode" =>
    match value with
    | "ro" => .ok { o with rights := .read }
    | "rw" => .ok o
    | "rwc" => .ok (if o.rights = .read then o else { o with rights := .create })
    | "memory" => .ok { o with memory := true }
    | _ => .error (unknownValue name value)
  | "cache" =>
    if ["private", "shared"].contains value then .ok o else .error (unknownValue name value)
  | "immutable" =>
    if ["true", "1"].contains value then .ok { o with immutable := true }
    else if ["false", "0"].contains value then .ok { o with immutable := false }
    else .error (unknownValue name value)
  | "vfs" =>
    let plus : UInt8 := 0x2B
    let octets := (Text.encode value).map fun b => if b = 0x20 then plus else b
    .ok { o with vfs := some (octets.takeWhile (· != 0)) }
  | _ =>
    .error (malformed
      ("unknown query parameter \x60" ++ name ++ "\x60 while parsing connection URL"))

/-- A text without any number of the same words in front. -/
def dropHeads (head : List Char) : Nat → List Char → List Char
  | 0, s => s
  | fuel + 1, s =>
    match Text.dropHead? head s with
    | some rest => dropHeads head fuel rest
    | none => s

/-- What a url asks for: its name may be repeated in front, and the name of the file is a text in
percent escapes. -/
def ofUrl (url : String) : Except BackendError Opening := do
  let s := url.toList
  let s := dropHeads "sqlite://".toList s.length s
  let s := dropHeads "sqlite:".toList s.length s
  let (path, options) := (Text.splitFirst? (· == '?') s).getD (s, [])
  let octets := Text.percentOctets path
  if let some fault := Text.utf8Fault? octets then throw (malformed fault)
  let isMemory := path == ":memory:".toList
  let o : Opening := { filename := (Text.readLossy octets).toList, memory := isMemory }
  (Text.assignments options).foldlM
    (fun o (name, value) => o.withOption (Text.formText name) (Text.formText value)) o

end Opening

/-! ### The options of a file's name -/

/-- The values of the option that says what may be done. -/
def modes : List (String × Rights × Bool) :=
  [("ro", .read, false), ("rw", .write, false), ("rwc", .create, false), ("memory", .none, true)]

namespace Opening

/-- The octets of a part of a `file:` name, which ends at a zero. -/
def partOctets (s : List Char) : List UInt8 := (Text.percentOctets s).takeWhile (· != 0)

/-- The opening with one more option of a `file:` name; it may not ask for more than is granted,
unless the database is in memory anyway. -/
def withFileOption (o : Opening) (name value : List UInt8) : Except BackendError Opening :=
  let text := Text.readLossy value
  match Text.readLossy name with
  | "vfs" => .ok { o with vfs := some value }
  | "cache" =>
    if ["shared", "private"].contains text then .ok o
    else .error (failure 1 ("no such cache mode: " ++ text))
  | "mode" =>
    match modes.lookup text with
    | none => .error (failure 1 ("no such access mode: " ++ text))
    | some (rights, memory) =>
      if !o.memory && o.rights.rank < rights.rank then
        .error (failure 3 ("access mode not allowed: " ++ text))
      else .ok { o with rights, memory }
  | _ => .ok o

/-- A `file:` name, behind its mark: it ends at a `#`, may name this machine, and gives a path and
options. -/
def withFileName (o : Opening) (s : List Char) : Except BackendError (List UInt8 × Opening) := do
  let path ← match Text.dropHead? ['/', '/'] s with
    | none => pure s
    | some rest =>
      let authority := rest.takeWhile (· != '/')
      if authority.isEmpty || authority == "localhost".toList then
        pure (rest.dropWhile (· != '/'))
      else throw (failure 1 ("invalid uri authority: " ++ String.ofList authority))
  let named := path.takeWhile (· != '#')
  let (path, options) := (Text.splitFirst? (· == '?') named).getD (named, [])
  let options := (Text.assignments options).map fun (n, v) => (partOctets n, partOctets v)
  let o ← (options.filter (!·.1.isEmpty)).foldlM (fun o (n, v) => o.withFileOption n v) o
  return (partOctets path, o)

/-- The path of the file and how it is opened.  Where an option has to be handed on, the name of the
file is taken as it is; else it may be a `file:` name, and holds no zero. -/
def resolve (o : Opening) : Except BackendError (List UInt8 × Opening) :=
  let octets := Text.encode (String.ofList o.filename)
  if o.immutable || o.vfs.isSome then .ok (octets.takeWhile (· != 0), o)
  else if octets.contains 0 then
    .error (.connect ("error communicating with database: "
      ++ "filename passed to SQLite must not contain nul bytes"))
  else match Text.dropHead? "file:".toList o.filename with
    | some s => o.withFileName s
    | none => .ok (octets, o)

end Opening

/-! ### Storage -/

/-- What gives access to files; the last keeps them in memory. -/
def accesses : List String := ["unix", "unix-none", "unix-dotfile", "unix-excl", "memdb"]

namespace Storage

/-- Where a database is kept that is opened so. -/
def ofOpening (o : Opening) : Except BackendError Storage := do
  let (path, o) ← o.resolve
  let path := Text.readLossy path
  let vfs := (o.vfs.map Text.readLossy).getD "unix"
  if !accesses.contains vfs then throw (failure 1 ("no such vfs: " ++ vfs))
  else if o.memory || ["", ":memory:"].contains path || vfs = "memdb" then return held
  else return file path (o.rights = .create)

/-- Where the database of a url is kept. -/
def ofUrl (url : String) : Except BackendError Storage := Opening.ofUrl url >>= ofOpening

/-- Files that every machine has.  They hold no database, but a query for constants does not look
into them. -/
def commonFiles : List String :=
  ["/dev/null", "/dev/zero", "/etc/passwd", "/etc/group", "/etc/hosts", "/etc/hostname"]

/-- Directories in which a file can be made. -/
def openDirectories : List String := ["", "./", "/tmp/", "/var/tmp/", "/dev/shm/"]

/-- A file can be made at the path. -/
def isFree (path : String) : Bool :=
  openDirectories.any fun directory =>
    (Text.dropHead? directory.toList path.toList).any fun name =>
      !name.isEmpty && !name.contains '/' && name != ['.'] && name != ['.', '.']

/-- The rows of a query. -/
def select (sql : String) : Storage → Except BackendError (List (List String))
  | .held => Sqlite.select sql
  | .file path creates =>
    if commonFiles.contains path || (creates && isFree path) then Sqlite.select sql
    else .error (failure 14 "unable to open database file")

end Storage

end Inspection.Sql.Sqlite
