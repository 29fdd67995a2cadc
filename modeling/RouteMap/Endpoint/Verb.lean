/-!
# HTTP verbs and authentication

The verbs that an endpoint may answer to, and the two ways in which its callers are
authenticated. Both are known by exact names.
-/

namespace RouteMap

/-- An HTTP verb. -/
inductive Verb where
  | get
  | post
  | put
  | delete
  | head
  | options
deriving DecidableEq, Repr, Inhabited

namespace Verb

/-- The verbs. -/
def all : List Verb := [get, post, put, delete, head, options]

/-- The name of a verb. -/
def name : Verb → String
  | get => "GET"
  | post => "POST"
  | put => "PUT"
  | delete => "DELETE"
  | head => "HEAD"
  | options => "OPTIONS"

/-- The verb of a name. -/
def ofName? (name : String) : Option Verb := all.find? fun v => v.name == name

theorem ofName?_name (v : Verb) : ofName? v.name = some v := by cases v <;> decide

end Verb

/-- How callers are authenticated. -/
inductive Authentication where
  /-- As an end user. -/
  | user
  /-- As a client application. -/
  | clientApp
deriving DecidableEq, Repr, Inhabited

namespace Authentication

/-- The two ways. -/
def all : List Authentication := [user, clientApp]

/-- The name of a way. -/
def name : Authentication → String
  | user => "user"
  | clientApp => "client-app"

/-- The way of a name. -/
def ofName? (name : String) : Option Authentication := all.find? fun a => a.name == name

theorem ofName?_name (a : Authentication) : ofName? a.name = some a := by cases a <;> decide

end Authentication

end RouteMap
