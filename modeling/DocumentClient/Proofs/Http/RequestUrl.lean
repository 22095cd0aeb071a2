/-
  The URLs that commands are sent to.

  A commander joins its endpoint, its path and the further path of a request with one slash
  at each seam, whatever slashes they begin or end with.  So slashes around the endpoint and
  the path and in front of the further path do not show in the URL (`requestUrl_of_padded`).

  The further path of a command begins with the name of its database.  The commands for two
  databases go to one URL if the names differ in the slashes they begin with, and only then;
  they are then sent alike (`commandUrl_eq_iff`).
-/
import DocumentClient.Http.Gateway
import DocumentClient.Proofs.Http.Masking
import Mathlib.Data.List.DropRight

namespace DocumentClient.Http

namespace Commander

/-! ## Slashes -/

/-- So many slashes. -/
def slashes (n : Nat) : String := String.ofList (List.replicate n '/')

theorem dropWhile_slashes_append (n : Nat) (cs : List Char) :
    (List.replicate n '/' ++ cs).dropWhile (· == '/') = cs.dropWhile (· == '/') :=
  List.dropWhile_append_of_pos fun _ hc => beq_iff_eq.2 (List.eq_of_mem_replicate hc)

theorem dropLeadingSlashes_slashes_append (n : Nat) (text : String) :
    dropLeadingSlashes (slashes n ++ text) = dropLeadingSlashes text := by
  rw [dropLeadingSlashes, slashes, String.toList_append, String.toList_ofList,
    dropWhile_slashes_append, dropLeadingSlashes]

theorem dropTrailingSlashes_append_slashes (n : Nat) (text : String) :
    dropTrailingSlashes (text ++ slashes n) = dropTrailingSlashes text := by
  rw [dropTrailingSlashes, slashes, String.toList_append, String.toList_ofList,
    List.reverse_append, List.reverse_replicate, dropWhile_slashes_append, dropTrailingSlashes]

theorem dropTrailingSlashes_idem (text : String) :
    dropTrailingSlashes (dropTrailingSlashes text) = dropTrailingSlashes text := by
  have hidem := List.rdropWhile_idempotent (· == '/') text.toList
  rw [dropTrailingSlashes, dropTrailingSlashes, String.toList_ofList]
  exact congrArg String.ofList hidem

/-- Unless the first text is slashes only, what follows it stays. -/
theorem dropLeadingSlashes_append (first second : String) :
    dropLeadingSlashes (first ++ second)
      = if dropLeadingSlashes first = "" then dropLeadingSlashes second
        else dropLeadingSlashes first ++ second := by
  have hempty : dropLeadingSlashes first = "" ↔ first.toList.dropWhile (· == '/') = [] := by
    rw [dropLeadingSlashes, ← String.toList_inj, String.toList_ofList]
    rfl
  simp only [hempty, ← List.isEmpty_iff]
  simp only [dropLeadingSlashes, String.toList_append, List.dropWhile_append]
  split
  · rfl
  · rw [String.ofList_append, String.ofList_toList]

/-- A text is slashes and a rest that begins with none. -/
theorem slashes_append_dropLeadingSlashes (text : String) :
    ∃ n, slashes n ++ dropLeadingSlashes text = text := by
  refine ⟨(text.toList.takeWhile (· == '/')).length, ?_⟩
  have hall : text.toList.takeWhile (· == '/')
      = List.replicate (text.toList.takeWhile (· == '/')).length '/' :=
    List.eq_replicate_of_mem fun c hc => by simpa using List.mem_takeWhile_imp hc
  rw [slashes, ← hall, dropLeadingSlashes, ← String.ofList_append,
    List.takeWhile_append_dropWhile, String.ofList_toList]

/-- What is left is the same for texts that differ in the slashes they begin with, and only for
    them. -/
theorem dropLeadingSlashes_eq_iff {first second : String} :
    dropLeadingSlashes first = dropLeadingSlashes second ↔
      ∃ i j rest, first = slashes i ++ rest ∧ second = slashes j ++ rest := by
  constructor
  · intro heq
    obtain ⟨i, hi⟩ := slashes_append_dropLeadingSlashes first
    obtain ⟨j, hj⟩ := slashes_append_dropLeadingSlashes second
    exact ⟨i, j, dropLeadingSlashes first, hi.symm, by rw [heq, hj]⟩
  · rintro ⟨i, j, rest, rfl, rfl⟩
    rw [dropLeadingSlashes_slashes_append, dropLeadingSlashes_slashes_append]

theorem head?_dropWhile_ne_slash (cs : List Char) :
    (cs.dropWhile (· == '/')).head? ≠ some '/' := by
  intro hhead
  have hslash := List.head?_dropWhile_not (· == '/') cs
  rw [hhead] at hslash
  simp at hslash

/-- What is left after the leading slashes begins with none. -/
theorem head?_dropLeadingSlashes (text : String) :
    (dropLeadingSlashes text).toList.head? ≠ some '/' := by
  rw [dropLeadingSlashes, String.toList_ofList]
  exact head?_dropWhile_ne_slash _

/-- What is left before the trailing slashes ends with none. -/
theorem getLast?_dropTrailingSlashes (text : String) :
    (dropTrailingSlashes text).toList.getLast? ≠ some '/' := by
  rw [dropTrailingSlashes, String.toList_ofList, List.getLast?_reverse]
  exact head?_dropWhile_ne_slash _

/-! ## Padded endpoints and paths -/

variable {c : Commander}

theorem getLast?_fullPath (c : Commander) : c.fullPath.toList.getLast? ≠ some '/' :=
  getLast?_dropTrailingSlashes _

theorem requestUrl_some {further : String} (h : further ≠ "") :
    c.requestUrl (some further) = c.fullPath ++ "/" ++ dropLeadingSlashes further := by
  rw [requestUrl, if_neg h, fullPath, dropTrailingSlashes_idem]

/-- Slashes at the end of a path are at the end of what is left of it, unless nothing is. -/
theorem dropLeadingSlashes_append_slashes (text : String) (n : Nat) :
    ∃ k, dropLeadingSlashes (text ++ slashes n) = dropLeadingSlashes text ++ slashes k := by
  rw [dropLeadingSlashes_append]
  split
  · rename_i hempty
    have hslashes : dropLeadingSlashes (slashes n) = dropLeadingSlashes "" := by
      simpa using dropLeadingSlashes_slashes_append n ""
    exact ⟨0, by rw [hslashes, hempty]; rfl⟩
  · exact ⟨n, rfl⟩

theorem fullPath_of_padded (endpoint path : String) (i j k : Nat)
    (headers : List (String × Option String)) (secretHeaders : List String)
    (address : Option Address) :
    (Commander.of (endpoint ++ slashes i) (slashes j ++ path ++ slashes k) headers secretHeaders
        address).fullPath
      = (Commander.of endpoint path headers secretHeaders address).fullPath := by
  obtain ⟨n, hn⟩ := dropLeadingSlashes_append_slashes path k
  have hpath : dropLeadingSlashes (slashes j ++ path ++ slashes k)
      = dropLeadingSlashes path ++ slashes n := by
    rw [String.append_assoc, dropLeadingSlashes_slashes_append, hn]
  simp only [fullPath, Commander.of]
  rw [hpath, dropTrailingSlashes_append_slashes, ← String.append_assoc,
    dropTrailingSlashes_append_slashes]

/-- **Slashes around the parts of a URL do not show in it.**  The full path does not depend on them,
    and ends with none; and between it and what follows is one. -/
theorem requestUrl_of_padded (endpoint path further : String) (i j k l : Nat)
    (headers : List (String × Option String)) (secretHeaders : List String)
    (address : Option Address) :
    let plain := Commander.of endpoint path headers secretHeaders address
    let padded := Commander.of (endpoint ++ slashes i) (slashes j ++ path ++ slashes k) headers
      secretHeaders address
    padded.fullPath = plain.fullPath ∧
    plain.fullPath.toList.getLast? ≠ some '/' ∧
    (further ≠ "" →
      padded.requestUrl (some (slashes l ++ further)) = plain.requestUrl (some further) ∧
      ∃ n rest, further = slashes n ++ rest ∧ rest.toList.head? ≠ some '/' ∧
        plain.requestUrl (some further) = plain.fullPath ++ "/" ++ rest) := by
  intro plain padded
  have hfull : padded.fullPath = plain.fullPath := fullPath_of_padded ..
  refine ⟨hfull, getLast?_fullPath _, fun hfurther => ⟨?_, ?_⟩⟩
  · have hpadded : slashes l ++ further ≠ "" := by simp [hfurther]
    rw [requestUrl_some hpadded, requestUrl_some hfurther, dropLeadingSlashes_slashes_append, hfull]
  · obtain ⟨n, hn⟩ := slashes_append_dropLeadingSlashes further
    exact ⟨n, dropLeadingSlashes further, hn.symm, head?_dropLeadingSlashes _,
      requestUrl_some hfurther⟩

theorem requestUrl_of_padded_gateway :
    "db/command" ≠ "" ∧
    (Commander.of ("http://gw" ++ slashes 1) (slashes 1 ++ "api" ++ slashes 2)).requestUrl
        (some (slashes 3 ++ "db/command"))
      = (Commander.of "http://gw" "api").requestUrl (some "db/command") ∧
    (Commander.of "http://gw" "api").requestUrl (some "db/command")
      = "http://gw/api/db/command" :=
  ⟨by decide,
    ((requestUrl_of_padded "http://gw" "api" "db/command" 1 1 2 3 [] [authorizationHeader]
      none).2.2 (by decide)).1,
    by decide +kernel⟩

/-! ## Requests to one URL -/

section
variable {r : Request} {furtherPath : Option String}

/-- A request is prepared by its URL. -/
theorem prepare_congr (h : c.requestUrl furtherPath = c.requestUrl r.furtherPath)
    (timeout : Option Duration) :
    c.prepare { r with furtherPath := furtherPath } timeout = c.prepare r timeout := by
  rw [prepare_eq, prepare_eq, h]
  rfl

/-- What is done for a request depends on its further path by the URL only. -/
theorem run_congr {σ : Type} (h : c.requestUrl furtherPath = c.requestUrl r.furtherPath)
    (errorsPass : Bool) :
    c.run (σ := σ) { r with furtherPath := furtherPath } errorsPass = c.run r errorsPass := by
  have hlog : c.logRequest (σ := σ) { r with furtherPath := furtherPath } = c.logRequest r := by
    unfold logRequest
    rw [h]
  unfold run exchange
  simp only [hlog, prepare_congr h]
  rfl

end

end Commander

namespace Gateway

open Commander (slashes)

variable {σ : Type} (g : Gateway)

/-! ## Commands for databases -/

/-- The request that carries a command. -/
def commandRequest (database : String) (command : Document) (secondaryOk : Bool) : Request where
  payload := some command
  furtherPath := some (database ++ "/command")
  parameters := if secondaryOk then [("secondaryOk", .text "true")] else []
  bound := g.bound

theorem command_eq (released : Bool) (database : String) (command : Document)
    (secondaryOk : Bool) (names : FieldRule) (decode : Decoder) :
    g.command (σ := σ) released database command secondaryOk names decode = (do
      Program.ofOutcome (ensureUsable released .connectionReleased)
      Program.ofValid (names.check command)
      let reply ← g.commander.run (g.commandRequest database command secondaryOk)
      Program.ofOutcome (decode (.doc reply))) := rfl

/-- The URL that the commands for a database are sent to. -/
def commandUrl (database : String) : String :=
  g.commander.requestUrl (some (database ++ "/command"))

/-- The further path for a database whose name begins with no slash. -/
def commandPath (database : String) : String :=
  if database = "" then "command" else database ++ "/command"

theorem commandPath_inj {a b : String} : commandPath a = commandPath b ↔ a = b := by
  have hlonger : ∀ {d : String}, "command" = d ++ "/command" → False := fun {d} h => by
    have hlength : "command".length = d.length + "/command".length :=
      (congrArg String.length h).trans (String.length_append ..)
    have hshorter : "command".length < "/command".length := by decide
    omega
  unfold commandPath
  by_cases ha : a = "" <;> by_cases hb : b = ""
  · simp [ha, hb]
  · rw [if_pos ha, if_neg hb]
    exact ⟨fun h => (hlonger h).elim, fun h => absurd (h ▸ ha) hb⟩
  · rw [if_neg ha, if_pos hb]
    exact ⟨fun h => (hlonger h.symm).elim, fun h => absurd (h ▸ hb) ha⟩
  · rw [if_neg ha, if_neg hb, String.append_left_inj]

theorem commandUrl_eq (database : String) :
    g.commandUrl database = g.commander.fullPath ++ "/" ++
      commandPath (Commander.dropLeadingSlashes database) := by
  have hne : database ++ "/command" ≠ "" := by simp
  rw [commandUrl, Commander.requestUrl_some hne, Commander.dropLeadingSlashes_append]
  rfl

variable {g} {a b : String}

/-- Commands that go to one URL are sent alike. -/
theorem command_congr (h : g.commandUrl a = g.commandUrl b) (released : Bool)
    (command : Document) (secondaryOk : Bool) (names : FieldRule) (decode : Decoder) :
    g.command (σ := σ) released a command secondaryOk names decode
      = g.command released b command secondaryOk names decode := by
  have hrun : g.commander.run (σ := σ) (g.commandRequest a command secondaryOk)
      = g.commander.run (g.commandRequest b command secondaryOk) :=
    Commander.run_congr (r := g.commandRequest b command secondaryOk) h false
  rw [command_eq, command_eq, hrun]

/-- **The commands for two databases go to one URL exactly if the names differ in the slashes they
    begin with only**, and then they are sent alike. -/
theorem commandUrl_eq_iff (g : Gateway) (a b : String) :
    (g.commandUrl a = g.commandUrl b ↔
      ∃ i j rest, a = slashes i ++ rest ∧ b = slashes j ++ rest) ∧
    (g.commandUrl a = g.commandUrl b →
      ∀ (released : Bool) (command : Document) (secondaryOk : Bool) (names : FieldRule)
        (decode : Decoder),
        g.command (σ := σ) released a command secondaryOk names decode
          = g.command released b command secondaryOk names decode) := by
  refine ⟨?_, command_congr⟩
  rw [commandUrl_eq, commandUrl_eq, String.append_right_inj, commandPath_inj,
    Commander.dropLeadingSlashes_eq_iff]

/-- A gateway behind an endpoint with a path. -/
def sample : Gateway where
  commander := Commander.of "http://gw.test:8080/api"
  server := { address := ⟨"gw.test", 8080⟩ }
  preference := .primary
  settings := .default

theorem command_of_doubled_slash :
    sample.commandUrl "/db" = sample.commandUrl "//db" ∧
    sample.command (σ := Unit) false "/db" [("ping", .int 1)] false .any Decoder.document
      = sample.command false "//db" [("ping", .int 1)] false .any Decoder.document :=
  ⟨by decide +kernel,
    (commandUrl_eq_iff sample "/db" "//db").2 (by decide +kernel) ..⟩

/-- A slash in front of a name is lost: the commands for `/db` go to `db`. -/
theorem commandUrl_slash_db :
    "db" ≠ "" ∧ "/db" ≠ "" ∧ "db" ≠ "/db" ∧
    sample.commandUrl "db" = "http://gw.test:8080/api/db/command" ∧
    sample.commandUrl "/db" = "http://gw.test:8080/api/db/command" ∧
    sample.command (σ := Unit) false "/db" [("ping", .int 1)] false .any Decoder.document
      = sample.command false "db" [("ping", .int 1)] false .any Decoder.document :=
  ⟨by decide, by decide, by decide, by decide +kernel, by decide +kernel,
    command_congr (by decide +kernel) ..⟩

end Gateway

end DocumentClient.Http
