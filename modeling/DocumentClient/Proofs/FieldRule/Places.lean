/-
  The places of field names.

  A field of a document stands at a place: it has a name of its own, and a path, the names of
  the fields around it from the outside in.  To stand in a list is no step of the path.
  `HasField` says at which places a value has fields, and `places` lists them in the order of
  the document, a field before what it holds.  A rule allows a place if the rule that is found
  by following it along the path admits the name.

  `check_iff_allows`: a document passes a rule exactly if the rule allows the place of every
  field, and what it is refused for is the first place, in that order, that is not allowed.  A
  rule with special rules leaves to these what stands in the fields they are for, and all the
  rest to its default (`Delegates`).
-/
import DocumentClient.FieldRule

namespace DocumentClient

/-! ## Places -/

/-- Where a field stands. -/
structure Place where
  /-- The names of the fields around it, from the outside in. -/
  path : List String
  name : String
  deriving DecidableEq

/-- The place of a field as it is seen from around the field that holds it. -/
def Place.under (field : String) (p : Place) : Place := ⟨field :: p.path, p.name⟩

/-- A value has a field at a place. -/
inductive HasField : Value → Place → Prop
  | here {fields : Document} {name : String} {v : Value} (h : (name, v) ∈ fields) :
      HasField (.doc fields) ⟨[], name⟩
  | inside {fields : Document} {name : String} {v : Value} {p : Place} (h : (name, v) ∈ fields)
      (hp : HasField v p) : HasField (.doc fields) (p.under name)
  | item {items : List Value} {v : Value} {p : Place} (h : v ∈ items) (hp : HasField v p) :
      HasField (.list items) p

namespace Value

mutual

/-- The places of the fields of a value, in order. -/
def places : Value → List Place
  | .doc fields => fieldPlaces fields
  | .list items => itemPlaces items
  | _ => []
termination_by structural v => v

/-- The places of the fields of listed values, in order. -/
def itemPlaces : List Value → List Place
  | [] => []
  | v :: rest => places v ++ itemPlaces rest
termination_by structural vs => vs

/-- The places of the fields of a document, in order: a field comes before what it holds. -/
def fieldPlaces : List (String × Value) → List Place
  | [] => []
  | (name, v) :: rest => ⟨[], name⟩ :: ((places v).map (Place.under name) ++ fieldPlaces rest)
termination_by structural fs => fs

end

mutual

/-- The places listed are those at which there are fields. -/
theorem mem_places (p : Place) : ∀ v : Value, p ∈ v.places ↔ HasField v p
  | .doc fields => by
    rw [places, mem_fieldPlaces p fields]
    constructor
    · rintro ⟨name, v, hv, rfl | ⟨q, hq, rfl⟩⟩
      · exact .here hv
      · exact .inside hv hq
    · intro h
      cases h with
      | here hv => exact ⟨_, _, hv, .inl rfl⟩
      | inside hv hq => exact ⟨_, _, hv, .inr ⟨_, hq, rfl⟩⟩
  | .list items => by
    rw [places, mem_itemPlaces p items]
    constructor
    · rintro ⟨v, hv, hp⟩
      exact .item hv hp
    · intro h
      cases h with
      | item hv hp => exact ⟨_, hv, hp⟩
  | .null | .bool _ | .int _ | .double _ | .text _ => by
    simp only [places, List.not_mem_nil, false_iff]
    exact nofun
termination_by structural v => v

theorem mem_itemPlaces (p : Place) : ∀ items : List Value,
    p ∈ itemPlaces items ↔ ∃ v ∈ items, HasField v p
  | [] => by simp [itemPlaces]
  | v :: rest => by simp [itemPlaces, mem_places p v, mem_itemPlaces p rest]
termination_by structural vs => vs

theorem mem_fieldPlaces (p : Place) : ∀ fields : List (String × Value),
    p ∈ fieldPlaces fields ↔
      ∃ name v, (name, v) ∈ fields ∧ (p = ⟨[], name⟩ ∨ ∃ q, HasField v q ∧ p = q.under name)
  | [] => by simp [fieldPlaces]
  | (name, v) :: rest => by
    rw [fieldPlaces, List.mem_cons, List.mem_append, List.mem_map, mem_fieldPlaces p rest]
    constructor
    · rintro (rfl | ⟨q, hq, rfl⟩ | ⟨other, w, hw, hp⟩)
      · exact ⟨name, v, List.mem_cons_self, .inl rfl⟩
      · exact ⟨name, v, List.mem_cons_self, .inr ⟨q, (mem_places q v).1 hq, rfl⟩⟩
      · exact ⟨other, w, List.mem_cons_of_mem _ hw, hp⟩
    · rintro ⟨other, w, hw, hp⟩
      rcases List.mem_cons.1 hw with heq | hw
      · obtain ⟨rfl, rfl⟩ := Prod.mk.inj heq.symm
        rcases hp with rfl | ⟨q, hq, rfl⟩
        · exact .inl rfl
        · exact .inr (.inl ⟨q, (mem_places q v).2 hq, rfl⟩)
      · exact .inr (.inr ⟨other, w, hw, hp⟩)
termination_by structural fs => fs

end

end Value

/-! ## Rules along paths -/

namespace FieldRule

/-- The rule for what stands in some fields, one inside the other. -/
def along (rule : FieldRule) : List String → FieldRule
  | [] => rule
  | name :: path => (rule.inside name).along path

/-- Whether a rule allows a field at a place. -/
def allows (rule : FieldRule) (p : Place) : Bool := (rule.along p.path).admits p.name

/-- The first of some places that a rule does not allow. -/
def firstRefused (rule : FieldRule) (ps : List Place) : Option Place :=
  ps.find? fun p => !rule.allows p

theorem allows_under (rule : FieldRule) (name : String) (p : Place) :
    rule.allows (p.under name) = (rule.inside name).allows p := rfl

theorem allows_top (rule : FieldRule) (name : String) :
    rule.allows ⟨[], name⟩ = rule.admits name := rfl

theorem allows_any (p : Place) : any.allows p = true := by
  obtain ⟨path, name⟩ := p
  induction path with
  | nil => rfl
  | cons field path ih => exact ih

/-- Inside a field it is the rule for its contents that decides. -/
theorem firstRefused_under (rule : FieldRule) (name : String) (ps : List Place) :
    rule.firstRefused (ps.map (Place.under name))
      = ((rule.inside name).firstRefused ps).map (Place.under name) := by
  rw [firstRefused, List.find?_map]
  rfl

theorem firstRefused_append (rule : FieldRule) (ps qs : List Place) :
    rule.firstRefused (ps ++ qs) = (rule.firstRefused ps).or (rule.firstRefused qs) :=
  List.find?_append

theorem firstRefused_eq_none {rule : FieldRule} {ps : List Place} :
    rule.firstRefused ps = none ↔ ∀ p ∈ ps, rule.allows p := by
  simp [firstRefused]

theorem firstRefused_eq_some {rule : FieldRule} {ps : List Place} {p : Place} :
    rule.firstRefused ps = some p ↔ ∃ before after, ps = before ++ p :: after ∧
      (∀ q ∈ before, rule.allows q) ∧ rule.allows p = false := by
  rw [firstRefused, List.find?_eq_some_iff_append]
  constructor
  · rintro ⟨hp, before, after, rfl, hbefore⟩
    exact ⟨before, after, rfl, fun q hq => by simpa using hbefore q hq, by simpa using hp⟩
  · rintro ⟨before, after, rfl, hbefore, hp⟩
    exact ⟨by simp [hp], before, after, rfl, fun q hq => by simp [hbefore q hq]⟩

mutual

/-- The name a rule rejects in a value stands at the first place that it does not allow. -/
theorem rejected_eq (rule : FieldRule) : ∀ v : Value,
    rule.rejected v = (rule.firstRefused v.places).map Place.name
  | .doc fields => by rw [rejected, Value.places, rejectedField_eq rule fields]
  | .list items => by rw [rejected, Value.places, rejectedItem_eq rule items]
  | .null | .bool _ | .int _ | .double _ | .text _ => rfl
termination_by structural v => v

theorem rejectedItem_eq (rule : FieldRule) : ∀ items : List Value,
    rule.rejectedItem items = (rule.firstRefused (Value.itemPlaces items)).map Place.name
  | [] => rfl
  | v :: rest => by
    rw [rejectedItem, Value.itemPlaces, firstRefused_append, Option.map_or, rejected_eq rule v,
      rejectedItem_eq rule rest]
termination_by structural vs => vs

theorem rejectedField_eq (rule : FieldRule) : ∀ fields : List (String × Value),
    rule.rejectedField fields = (rule.firstRefused (Value.fieldPlaces fields)).map Place.name
  | [] => rfl
  | (name, v) :: rest => by
    rw [rejectedField, Value.fieldPlaces]
    by_cases hadmits : rule.admits name
    · have htop : rule.firstRefused (⟨[], name⟩ :: ((v.places).map (Place.under name)
          ++ Value.fieldPlaces rest)) = rule.firstRefused ((v.places).map (Place.under name)
          ++ Value.fieldPlaces rest) := by
        simp [firstRefused, allows_top, hadmits]
      rw [if_pos hadmits, htop, firstRefused_append, Option.map_or, firstRefused_under,
        Option.map_map, rejectedField_eq rule rest, rejected_eq (rule.inside name) v]
      rfl
    · have htop : rule.firstRefused (⟨[], name⟩ :: ((v.places).map (Place.under name)
          ++ Value.fieldPlaces rest)) = some ⟨[], name⟩ := by
        simp [firstRefused, allows_top, hadmits]
      rw [if_neg hadmits, htop]
      rfl
termination_by structural fs => fs

end

/-- A document passes a rule that allows all its places. -/
theorem rejectedField_eq_none {rule : FieldRule} {d : Document} :
    rule.rejectedField d = none ↔ ∀ p, HasField (.doc d) p → rule.allows p := by
  rw [rejectedField_eq, Option.map_eq_none_iff, firstRefused_eq_none]
  exact forall_congr' fun p => imp_congr_left (Value.mem_places p (.doc d))

theorem check_eq_ok {rule : FieldRule} {d : Document} :
    rule.check d = .ok () ↔ rule.rejectedField d = none := by
  unfold check
  rcases rule.rejectedField d with _ | name <;> simp

theorem check_eq_error {rule : FieldRule} {d : Document} {name : String} :
    rule.check d = .error (.fieldName name) ↔ rule.rejectedField d = some name := by
  unfold check
  rcases rule.rejectedField d with _ | other <;> simp

/-! ## Special rules -/

/-- What a rule with special rules leaves to whom. -/
structure Delegates (default : FieldRule) (special : List (String × FieldRule)) : Prop where
  /-- The fields of the document itself are up to the default. -/
  top : ∀ name, (mapped default special).allows ⟨[], name⟩ = default.allows ⟨[], name⟩
  /-- What stands in a field with a rule of its own is up to that rule. -/
  own : ∀ field rule, find field special = some rule →
    ∀ p : Place, (mapped default special).allows (p.under field) = rule.allows p
  /-- What stands in any other field is up to the default. -/
  others : ∀ field, find field special = none →
    ∀ p : Place, (mapped default special).allows (p.under field) = default.allows (p.under field)

theorem delegates (default : FieldRule) (special : List (String × FieldRule)) :
    Delegates default special where
  top name := rfl
  own field rule h p := by rw [allows_under, inside, h, Option.getD_some]
  others field h p := by rw [allows_under, inside, h, Option.getD_none, allows_under]

/-- **Every name is checked by the rule for its place.**  A document passes exactly if all its
    places are allowed, and what is rejected is the name at the first place, in the order of the
    document, that is not.  The special rules of a rule decide on what stands in their fields, and
    its default on all the rest. -/
theorem check_iff_allows (rule : FieldRule) (d : Document) :
    (rule.check d = .ok () ↔ ∀ p, HasField (.doc d) p → rule.allows p) ∧
    (∀ name, rule.check d = .error (.fieldName name) ↔ ∃ before path after,
      Value.places (.doc d) = before ++ ⟨path, name⟩ :: after ∧
        (∀ p ∈ before, rule.allows p) ∧ rule.allows ⟨path, name⟩ = false) ∧
    (∀ p, p ∈ Value.places (.doc d) ↔ HasField (.doc d) p) ∧
    ∀ default special, Delegates default special := by
  refine ⟨check_eq_ok.trans rejectedField_eq_none, fun name => ?_,
    fun p => Value.mem_places p (.doc d), delegates⟩
  rw [check_eq_error, rejectedField_eq, Option.map_eq_some_iff]
  constructor
  · rintro ⟨⟨path, _⟩, hfirst, rfl⟩
    obtain ⟨before, after, heq, hbefore, hp⟩ := firstRefused_eq_some.1 hfirst
    exact ⟨before, path, after, heq, hbefore, hp⟩
  · rintro ⟨before, path, after, heq, hbefore, hp⟩
    exact ⟨⟨path, name⟩, firstRefused_eq_some.2 ⟨before, after, heq, hbefore, hp⟩, rfl⟩

/-- Special rules may have special rules: here for one field of the documents in a list. -/
example : check (.mapped .any [("documents", .mapped .storable [("meta", .any)])])
    [("$db", .int 1), ("documents", .list [.doc [("meta", .doc [("a.b", .null)])],
      .list [.doc [("x", .doc [("c.d", .null)])]]])] = .error (.fieldName "c.d") := rfl

end FieldRule

end DocumentClient
