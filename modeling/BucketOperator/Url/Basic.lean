import BucketOperator.Url.Host

/-!
# URLs

The parts of a URL, each in its escaped form, and the text they make up. The path of a web URL is
a list of segments; the path of a URL that names no place, such as a mail address, is one text.
-/

namespace BucketOperator

/-- The path of a URL. -/
inductive Url.Path where
  | segments (items : List String)
  | single (text : String)
  deriving DecidableEq, Repr

structure Url where
  scheme : String
  username : String
  password : Option String
  /-- Missing when the URL has no authority. -/
  host : Option String
  /-- Missing when it is the scheme's own. -/
  port : Option Nat
  path : Url.Path
  query : Option String
  fragment : Option String
  deriving DecidableEq, Repr

namespace Url

/-- The schemes of the web, with the port each uses on its own. -/
def defaultPorts : List (String × Nat) :=
  [("http", 80), ("https", 443), ("ws", 80), ("wss", 443), ("ftp", 21)]

/-- Whether a scheme always has a host and takes backslashes for slashes. -/
def isSpecial (scheme : String) : Bool := (defaultPorts.lookup scheme).isSome

/-- The text of a path. -/
def Path.render : Path → String
  | .segments items => String.join (items.map ("/" ++ ·))
  | .single text => text

/-- The user information in front of a host. -/
def renderUser (url : Url) : String :=
  match url.username, url.password with
  | "", none => ""
  | user, none => user ++ "@"
  | user, some password => user ++ ":" ++ password ++ "@"

/-- Scheme, user information, host and port. -/
def renderOrigin (url : Url) : String :=
  url.scheme ++ ":" ++
    (match url.host with
      | some host =>
        "//" ++ url.renderUser ++ host ++
          (match url.port with
            | some port => ":" ++ toString port
            | none => "")
      | none => "")

/-- The text of a URL. -/
def render (url : Url) : String :=
  url.renderOrigin ++ url.path.render ++
    (match url.query with
      | some query => "?" ++ query
      | none => "") ++
    (match url.fragment with
      | some fragment => "#" ++ fragment
      | none => "")

/-- Add a name and a value to the query. -/
def appendQuery (url : Url) (name value : String) : Url :=
  let pair := form [(name, value)]
  { url with
    query := some (match url.query with
      | none => pair
      | some "" => pair
      | some query => query ++ "&" ++ pair) }

/-- Scheme, host and port: where requests to this URL are sent. -/
def origin (url : Url) : String × Option String × Option Nat :=
  (url.scheme, url.host, url.port)

end Url

end BucketOperator
