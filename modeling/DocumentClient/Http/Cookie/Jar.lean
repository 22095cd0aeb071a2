/-
  Jars — the cookies a client has at a time.

  A jar holds at most one cookie of a name for each domain and path.  Its cookies are in
  the order in which their domains were first met, within a domain in that of their
  paths, and within a path in that of their names; a cookie set anew keeps its place.
-/
import DocumentClient.Http.Cookie.Basic
import DocumentClient.Http.Header

namespace DocumentClient.Http.Cookie

/-! ## Shelves -/

/-- Values in the order of their first names. -/
abbrev Shelf (α : Type) := List (String × α)

namespace Shelf

variable {α : Type}

/-- Changes the value of a name, or adds one at the end. -/
def alter (name : String) (change : Option α → α) : Shelf α → Shelf α
  | [] => [(name, change none)]
  | (n, a) :: rest =>
    if n = name then (n, change (some a)) :: rest else (n, a) :: alter name change rest

/-- Changes the value of a name, if there is one. -/
def adjust (name : String) (change : α → α) (shelf : Shelf α) : Shelf α :=
  shelf.map fun (n, a) => if n = name then (n, change a) else (n, a)

/-- Removes the value of a name. -/
def remove (name : String) (shelf : Shelf α) : Shelf α := shelf.filter fun (n, _) => n != name

end Shelf

/-! ## Jars -/

/-- The cookies of a client, by domain, path and name. -/
structure Jar where
  domains : Shelf (Shelf (Shelf Cookie)) := []

namespace Jar

/-- All cookies. -/
def toList (jar : Jar) : List Cookie :=
  jar.domains.flatMap fun (_, paths) => paths.flatMap fun (_, names) => names.map Prod.snd

/-- Whether there is no cookie. -/
def isEmpty (jar : Jar) : Bool := jar.toList.isEmpty

/-- Sets a cookie. -/
def put (c : Cookie) (jar : Jar) : Jar :=
  { domains := jar.domains.alter c.domain fun paths =>
      Shelf.alter c.path (fun names => Shelf.alter c.name (fun _ => c) (names.getD []))
        (paths.getD []) }

/-- Removes a cookie; its domain and its path keep their places. -/
def remove (domain path name : String) (jar : Jar) : Jar :=
  { domains := jar.domains.adjust domain (Shelf.adjust path (Shelf.remove name)) }

/-! ## Receiving -/

/-- The state of a jar while orders are read: cookies are dropped at once, and those to
    be kept are set aside. -/
structure Sorting where
  jar : Jar
  /-- The cookies set aside, the last one first. -/
  aside : List Cookie := []

/-- Follows an order. -/
def Sorting.follow (s : Sorting) : Order → Sorting
  | .keep c => { s with aside := c :: s.aside }
  | .drop domain path name => { s with jar := s.jar.remove domain path name }

/-- Follows the orders of settings; if one of them rules the response out, nothing is set
    aside. -/
def follow (recipient : Recipient) (s : Sorting) : List (Part × Attributes) → Sorting
  | [] => s
  | (cookie, attributes) :: rest =>
    match orderOf recipient cookie attributes with
    | .error _ => { s with aside := [] }
    | .ok none => follow recipient s rest
    | .ok (some order) => follow recipient (s.follow order) rest

/-- What the headers of a response set; nothing if one of them rules the response out. -/
def settings (headers : Headers) : List (Part × Attributes) :=
  let read : Except Flaw (List (Part × Attributes)) := do
    let settings ← (headers.values "set-cookie").mapM Setting.read
    let described ← (settings.filterMap id).mapM fun setting => do
      return (← attributesOf setting).map (setting.cookie, ·)
    return described.filterMap id
  match read with
  | .ok settings => settings
  | .error _ => []

/-- Takes the cookies of a response. -/
def receive (recipient : Recipient) (headers : Headers) (jar : Jar) : Jar :=
  let sorted := follow recipient { jar := jar } (settings headers)
  (sorted.aside.reverse.filter (isAdmissible recipient)).foldl (fun jar c => jar.put c) sorted.jar

/-! ## Sending -/

/-- The cookies that a request carries, those of longer paths first. -/
def carried (recipient : Recipient) (jar : Jar) : List Cookie :=
  (jar.toList.filter (goesTo recipient)).mergeSort fun a b => b.path.length ≤ a.path.length

/-- The header of a request; none if it carries no cookies. -/
def header? (recipient : Recipient) (jar : Jar) : Option String :=
  match jar.carried recipient with
  | [] => none
  | cookies => some (String.intercalate "; " (cookies.map shown))

end Jar

end DocumentClient.Http.Cookie
