import LabelForge.Url.Host

/-!
# LabelForge.Url.Basic

**Addresses of the web and of other things.** An address has a scheme, and then a host with what
belongs to it, a path, a query and a fragment, as far as they are given.

Design points:

* All parts are stored as they are written, so an address has one text.
* A path is a text without a structure only if the address has neither a host nor a slash.
* Two slashes at the start of a path would be read as those before a host. Where there is no host,
  a dot is written between them.
-/

namespace LabelForge

namespace Url

/-- What says how a host is to be reached. -/
structure Authority where
  /-- The name of a user; empty if there is none. -/
  user : List Char
  password : Option (List Char)
  host : Host
  /-- The number of the service on the host, if it is not the one of the scheme. -/
  service : Option Nat
  deriving DecidableEq, Repr

/-- A path. -/
inductive Path where
  | text (cs : List Char)
  | segments (names : List (List Char))
  deriving DecidableEq, Repr

end Url

open Url

/-- An address. -/
structure Url where
  scheme : List Char
  authority : Option Authority
  path : Path
  query : Option (List Char)
  fragment : Option (List Char)
  deriving DecidableEq, Repr

namespace Url

/-- A scheme for which hosts, slashes and service numbers have a meaning. -/
def isSpecial (scheme : List Char) : Bool :=
  ["http", "https", "ws", "wss", "ftp", "file"].any fun s => s.toList == scheme

/-- The service number that belongs to a scheme. -/
def defaultService? (scheme : List Char) : Option Nat :=
  [("http", 80), ("https", 443), ("ws", 80), ("wss", 443), ("ftp", 21)].lookup (.ofList scheme)

/-- Whether a host is given. -/
def hasHost (u : Url) : Bool :=
  match u.authority with
  | some a => a.host != .name []
  | none => false

/-- The name and the password of a user before a host. -/
def Authority.userText (a : Authority) : List Char :=
  match a.password with
  | some password => a.user ++ ':' :: password ++ ['@']
  | none => if a.user.isEmpty then [] else a.user ++ ['@']

/-- The text of what stands between two slashes and the path. -/
def Authority.toList (a : Authority) : List Char :=
  a.userText ++ a.host.toList ++ (match a.service with
    | some service => ':' :: Number.natDigits service
    | none => [])

/-- The text of a path; where there is no host, it must not look like one. -/
def Path.toList (afterHost : Bool) : Path → List Char
  | .text cs => cs
  | .segments names =>
    let written := names.flatMap ('/' :: ·)
    match afterHost, written with
    | false, '/' :: '/' :: _ => '/' :: '.' :: written
    | _, _ => written

/-- An optional part behind its mark. -/
def marked (mark : Char) : Option (List Char) → List Char
  | some part => mark :: part
  | none => []

/-- The characters of an address. -/
def toList (u : Url) : List Char :=
  u.scheme ++ ':' ::
    (match u.authority with
      | some a => '/' :: '/' :: a.toList
      | none => []) ++
    u.path.toList u.authority.isSome ++ marked '?' u.query ++ marked '#' u.fragment

/-- The text of an address. -/
def render (u : Url) : String :=
  .ofList u.toList

/-- The address without a user, if the name of the user is text. A password alone is left where it
is unless it is text. -/
def withoutUser (u : Url) : Url :=
  match u.authority with
  | none => u
  | some a =>
    match percentText? a.user with
    | none => u
    | some user =>
      if !user.isEmpty || (a.password.bind percentText?).isSome then
        { u with authority := some { a with user := [], password := none } }
      else u

end Url

end LabelForge
