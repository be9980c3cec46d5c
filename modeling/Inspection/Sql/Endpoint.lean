import Inspection.Backend.Basic
import Inspection.Sql.Server
import Inspection.Sql.Sqlite.Storage
import Inspection.Text.Slice

/-!
# Sql — The databases of nodes

A node names its database by a url, and the scheme of the url says of which kind it is.  Urls are
shown without their passwords.

* `ask`: what the database of a node answers.
* `redact?`, `redact`: a url without its password.
-/

namespace Inspection.Sql

/-- The kind of a database. -/
inductive Scheme where
  | server
  | sqlite
  | unsupported (name : String)
deriving DecidableEq, Repr

/-- The kind that a url names before its first colon. -/
def Scheme.ofUrl (url : String) : Scheme :=
  match String.ofList (url.toList.takeWhile (· != ':')) with
  | "mysql" | "mariadb" => .server
  | "sqlite" => .sqlite
  | name => .unsupported name

/-- What answers at the url of a server, or why nothing does. -/
abbrev Network := String → Except String Server

/-- No server can be reached. -/
def Network.down (reason : String) : Network := fun _ => .error reason

/-- What a server answers over a network. -/
def askServer (network : Network) (url : String) : Except BackendError Rows :=
  match network url with
  | .ok server => server.rows
  | .error reason => .error (.connect ("error communicating with database: " ++ reason))

/-- What the database of a node answers. -/
def ask (network : Network) (node : Node) (sql : String) : Except BackendError Rows :=
  match node.sqlUrl with
  | none => .error (.notConfigured ("node " ++ node.id ++ " has no sql_url"))
  | some url =>
    match Scheme.ofUrl url with
    | .server => askServer network url
    | .sqlite => Sqlite.Storage.ofUrl url >>= fun storage => storage.select sql
    | .unsupported name => .error (.connect ("unsupported SQL url scheme '" ++ name ++ "'"))

/-- A url without its password, which stands between the first colon after the scheme and the last
at sign; every other url is left as it is.  None if a slice of the url would end before it
starts. -/
def redact? (url : String) : Option String :=
  let s := url.toList
  match Text.find? "://".toList s, Text.findLast? (· == '@') s with
  | some scheme, some sign =>
    if scheme < sign then do
      let credentials ← Text.slice? (scheme + 3) sign s
      match Text.splitFirst? (· == ':') credentials with
      | some (user, _) =>
        let front ← Text.slice? 0 (scheme + 3) s
        let back ← Text.slice? sign (Text.octetCount s) s
        return String.ofList (front ++ user ++ ":***".toList ++ back)
      | none => return url
    else some url
  | _, _ => some url

/-- A url as it is shown. -/
def redact (url : String) : String := (redact? url).getD ""

end Inspection.Sql
