/-
  Values — what commands and replies are made of.

  A document is an ordered list of named values: the order of the fields is
  part of it, a name stands in it at most once.  `lookup` reads a field, `put`
  writes one: a new name goes last, a known name keeps its place.
-/
import DocumentClient.Decimal.Double

namespace DocumentClient

/-- A value of a command or a reply. -/
inductive Value where
  | null
  | bool (b : Bool)
  | int (n : Int)
  | double (x : Double)
  | text (s : String)
  | list (items : List Value)
  | doc (fields : List (String × Value))

/-- A document: named values, in order. -/
abbrev Document := List (String × Value)

instance : Inhabited Value := ⟨.null⟩

namespace Value

/-! ## Equality -/

mutual

/-- Decides equality of two values. -/
def decEq : (a b : Value) → Decidable (a = b)
  | .null, .null => isTrue rfl
  | .bool a, .bool b => if h : a = b then isTrue (by rw [h]) else isFalse (by simp [h])
  | .int a, .int b => if h : a = b then isTrue (by rw [h]) else isFalse (by simp [h])
  | .double a, .double b => if h : a = b then isTrue (by rw [h]) else isFalse (by simp [h])
  | .text a, .text b => if h : a = b then isTrue (by rw [h]) else isFalse (by simp [h])
  | .list a, .list b => match decEqItems a b with
    | isTrue h => isTrue (by rw [h])
    | isFalse h => isFalse (by simp [h])
  | .doc a, .doc b => match decEqFields a b with
    | isTrue h => isTrue (by rw [h])
    | isFalse h => isFalse (by simp [h])
  | .null, .bool _ | .null, .int _ | .null, .double _ | .null, .text _ | .null, .list _
  | .null, .doc _ | .bool _, .null | .bool _, .int _ | .bool _, .double _ | .bool _, .text _
  | .bool _, .list _ | .bool _, .doc _ | .int _, .null | .int _, .bool _ | .int _, .double _
  | .int _, .text _ | .int _, .list _ | .int _, .doc _ | .double _, .null | .double _, .bool _
  | .double _, .int _ | .double _, .text _ | .double _, .list _ | .double _, .doc _
  | .text _, .null | .text _, .bool _ | .text _, .int _ | .text _, .double _ | .text _, .list _
  | .text _, .doc _ | .list _, .null | .list _, .bool _ | .list _, .int _ | .list _, .double _
  | .list _, .text _ | .list _, .doc _ | .doc _, .null | .doc _, .bool _ | .doc _, .int _
  | .doc _, .double _ | .doc _, .text _ | .doc _, .list _ => isFalse (by simp)
termination_by structural a => a

/-- Decides equality of two lists of values. -/
def decEqItems : (a b : List Value) → Decidable (a = b)
  | [], [] => isTrue rfl
  | x :: xs, y :: ys => match decEq x y, decEqItems xs ys with
    | isTrue h, isTrue k => isTrue (by rw [h, k])
    | isFalse h, _ => isFalse (by simp [h])
    | _, isFalse h => isFalse (by simp [h])
  | [], _ :: _ | _ :: _, [] => isFalse (by simp)
termination_by structural a => a

/-- Decides equality of two documents. -/
def decEqFields : (a b : List (String × Value)) → Decidable (a = b)
  | [], [] => isTrue rfl
  | (m, x) :: xs, (n, y) :: ys =>
    if hn : m = n then match decEq x y, decEqFields xs ys with
      | isTrue h, isTrue k => isTrue (by rw [hn, h, k])
      | isFalse h, _ => isFalse (by simp [h])
      | _, isFalse h => isFalse (by simp [h])
    else isFalse (by simp [hn])
  | [], _ :: _ | _ :: _, [] => isFalse (by simp)
termination_by structural a => a

end

instance : DecidableEq Value := decEq

/-! ## Truth -/

/-- Whether a value counts as true: null, false, zero and everything empty do
    not. -/
def truthy : Value → Bool
  | .null => false
  | .bool b => b
  | .int n => n != 0
  | .double x => !x.isZero
  | .text s => s != ""
  | .list items => !items.isEmpty
  | .doc fields => !fields.isEmpty

end Value

/-! ## Fields -/

namespace Document

/-- The value of a field. -/
def lookup (name : String) : Document → Option Value
  | [] => none
  | (n, v) :: rest => if n = name then some v else lookup name rest

/-- Whether a document has a field. -/
def has (name : String) (d : Document) : Bool := (lookup name d).isSome

/-- The value of a field, null if there is none. -/
def get (name : String) (d : Document) : Value := (lookup name d).getD .null

/-- The field names, in order. -/
def names (d : Document) : List String := d.map Prod.fst

/-- Sets a field: in its place if the name is known, else at the end. -/
def put (name : String) (value : Value) : Document → Document
  | [] => [(name, value)]
  | (n, v) :: rest => if n = name then (n, value) :: rest else (n, v) :: put name value rest

/-- The document of a list of fields in which a later field replaces the value
    of an earlier one of the same name. -/
def ofFields (fields : List (String × Value)) : Document :=
  fields.foldl (fun d field => put field.1 field.2 d) []

theorem lookup_put (name other : String) (value : Value) (d : Document) :
    lookup other (put name value d) = if name = other then some value else lookup other d := by
  induction d with
  | nil => simp [put, lookup]
  | cons field rest ih =>
    obtain ⟨n, v⟩ := field
    by_cases h : n = name
    · subst h
      by_cases k : n = other <;> simp [put, lookup, k]
    · by_cases k : n = other
      · subst k
        have : name ≠ n := fun e => h e.symm
        simp [put, lookup, h, this]
      · simp [put, lookup, h, k, ih]

end Document

/-- The fields of a value that is a document. -/
def Value.doc? : Value → Option Document
  | .doc fields => some fields
  | _ => none

end DocumentClient
