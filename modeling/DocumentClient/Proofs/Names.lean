/-
  Names of collections and addresses of servers, written and read.

  A full name is `database.collection`, and is read by its first dot.  What is read is the one
  namespace of that name whose database has no dot in it (`parse_eq_ok_iff`), and a name that
  is not read fails for one of three causes (`parse_eq_error_iff`).

  `parse_fullName`: so a namespace is read from its full name exactly if its database has no
  dot, whatever dots its collection has.

  An address is `host:port`, and is read by its last colon: what follows it is a numeral of the
  port, in any spelling (`Address.parse_eq_ok_iff`).

  `parse_text`: so an address is read from its text exactly if its port has no more digits than
  are read, whatever colons its host has; an address of any other port is read from no text.
-/
import DocumentClient.Address
import DocumentClient.Namespace
import DocumentClient.Proofs.Text.Numeral

namespace DocumentClient

namespace Text

variable {separator : Char} {cs before after : List Char}

/-! ## The first separator -/

theorem splitFirst_eq_none : splitFirst separator cs = none ↔ separator ∉ cs := by
  induction cs with
  | nil => simp [splitFirst]
  | cons c rest ih =>
    by_cases hc : c = separator
    · simp [splitFirst, hc]
    · simp [splitFirst, hc, ih, Ne.symm hc]

theorem splitFirst_append (h : separator ∉ before) :
    splitFirst separator (before ++ separator :: after) = some (before, after) := by
  induction before with
  | nil => simp [splitFirst]
  | cons c rest ih =>
    obtain ⟨hc, hrest⟩ : separator ≠ c ∧ separator ∉ rest := by simpa using h
    simp [splitFirst, hc.symm, ih hrest]

/-! ## The last separator -/

theorem splitLast_append (h : separator ∉ after) :
    splitLast separator (before ++ separator :: after) = some (before, after) := by
  induction before with
  | nil => rw [List.nil_append, splitLast, splitLast_eq_none.2 h, if_pos rfl]
  | cons c rest ih => rw [List.cons_append, splitLast, ih]

end Text

namespace Namespace

variable {s : String} {ns : Namespace} {e : Invalid}

/-! ## Namespaces of two names -/

theorem of_eq_ok_iff {database collection : String} :
    of database collection = .ok ns ↔ ns.database = database ∧ ns.collection = collection := by
  unfold of
  split
  · rename_i hd
    exact iff_of_false (by simp) fun h => ns.database_nonempty (h.1.trans hd)
  · split
    · rename_i hc
      exact iff_of_false (by simp) fun h => ns.collection_nonempty (h.2.trans hc)
    · constructor
      · rintro ⟨⟩
        exact ⟨rfl, rfl⟩
      · rintro ⟨rfl, rfl⟩
        rfl

theorem of_eq_error_iff {database collection : String} :
    of database collection = .error e ↔
      (e = .emptyDatabase ∧ database = "") ∨
      (e = .emptyCollection ∧ database ≠ "" ∧ collection = "") := by
  unfold of
  split
  · rename_i hd
    simp [hd, eq_comm]
  · split
    · rename_i hd hc
      simp [hd, hc, eq_comm]
    · rename_i hd hc
      simp [hd, hc]

/-! ## Full names -/

theorem toList_fullName (ns : Namespace) :
    ns.fullName.toList = ns.database.toList ++ '.' :: ns.collection.toList := by
  simp [fullName]

theorem parse_of_absent (h : '.' ∉ s.toList) : parse s = .error (.noCollection s) := by
  rw [parse, Text.splitFirst_eq_none.2 h]

theorem parse_of_split {before after : List Char} (hs : s.toList = before ++ '.' :: after)
    (h : '.' ∉ before) : parse s = of (String.ofList before) (String.ofList after) := by
  rw [parse, hs, Text.splitFirst_append h]

/-- A name has no dot, or is split at its first one. -/
theorem absent_or_split (s : String) :
    '.' ∉ s.toList ∨ ∃ before after, s.toList = before ++ '.' :: after ∧ '.' ∉ before := by
  rcases hsplit : Text.splitFirst '.' s.toList with _ | ⟨before, after⟩
  · exact .inl (Text.splitFirst_eq_none.1 hsplit)
  · exact .inr ⟨before, after, Text.splitFirst_eq_some hsplit⟩

/-- What is read is the namespace of that name whose database has no dot. -/
theorem parse_eq_ok_iff : parse s = .ok ns ↔ ns.fullName = s ∧ '.' ∉ ns.database.toList := by
  constructor
  · intro hparse
    rcases absent_or_split s with habsent | ⟨before, after, hs, habsent⟩
    · rw [parse_of_absent habsent] at hparse
      cases hparse
    · rw [parse_of_split hs habsent, of_eq_ok_iff] at hparse
      obtain ⟨hdatabase, hcollection⟩ := hparse
      rw [← String.toList_inj, toList_fullName, hdatabase, hcollection, String.toList_ofList,
        String.toList_ofList]
      exact ⟨hs.symm, habsent⟩
  · rintro ⟨rfl, habsent⟩
    rw [parse_of_split ns.toList_fullName habsent, of_eq_ok_iff, String.ofList_toList,
      String.ofList_toList]
    exact ⟨rfl, rfl⟩

/-- A name is not read if it has no dot, if it begins with one, or if its only dot ends it. -/
theorem parse_eq_error_iff :
    parse s = .error e ↔
      (e = .noCollection s ∧ '.' ∉ s.toList) ∨
      (e = .emptyDatabase ∧ ∃ after, s.toList = '.' :: after) ∨
      (e = .emptyCollection ∧ ∃ before, before ≠ [] ∧ '.' ∉ before ∧
        s.toList = before ++ ['.']) := by
  constructor
  · intro hparse
    rcases absent_or_split s with habsent | ⟨before, after, hs, habsent⟩
    · rw [parse_of_absent habsent] at hparse
      exact .inl ⟨(Except.error.inj hparse).symm, habsent⟩
    · rw [parse_of_split hs habsent, of_eq_error_iff] at hparse
      obtain ⟨he, hbefore⟩ | ⟨he, hbefore, hafter⟩ := hparse
      · obtain rfl : before = [] := by simpa using hbefore
        exact .inr (.inl ⟨he, after, hs⟩)
      · obtain rfl : after = [] := by simpa using hafter
        exact .inr (.inr ⟨he, before, by simpa using hbefore, habsent, hs⟩)
  · rintro (⟨rfl, habsent⟩ | ⟨rfl, after, hs⟩ | ⟨rfl, before, hbefore, habsent, hs⟩)
    · exact parse_of_absent habsent
    · rw [parse_of_split (show s.toList = [] ++ '.' :: after from hs) (by simp)]
      exact of_eq_error_iff.2 (.inl ⟨rfl, rfl⟩)
    · rw [parse_of_split hs habsent]
      exact of_eq_error_iff.2 (.inr ⟨rfl, by simpa using hbefore, rfl⟩)

/-- A name is read if its first dot has something before and something after it. -/
theorem exists_parse_iff (s : String) :
    (∃ ns, parse s = .ok ns) ↔
      ∃ before after, s.toList = before ++ '.' :: after ∧ '.' ∉ before ∧ before ≠ [] ∧
        after ≠ [] := by
  constructor
  · rintro ⟨ns, hparse⟩
    obtain ⟨rfl, habsent⟩ := parse_eq_ok_iff.1 hparse
    exact ⟨_, _, ns.toList_fullName, habsent, by simpa using ns.database_nonempty,
      by simpa using ns.collection_nonempty⟩
  · rintro ⟨before, after, hs, habsent, hbefore, hafter⟩
    refine ⟨⟨String.ofList before, String.ofList after, by simpa using hbefore,
      by simpa using hafter⟩, ?_⟩
    rw [parse_of_split hs habsent, of_eq_ok_iff]
    exact ⟨rfl, rfl⟩

/-- **Full names are read back.**  A name is read if its first dot has something before and
    after it, and what is read has that name and no dot in its database; a namespace is read
    from its full name exactly if its database has no dot. -/
theorem parse_fullName (s : String) (ns : Namespace) :
    ((∃ found, parse s = .ok found) ↔
      ∃ before after, s.toList = before ++ '.' :: after ∧ '.' ∉ before ∧ before ≠ [] ∧
        after ≠ []) ∧
    (∀ e, parse s = .error e ↔
      (e = .noCollection s ∧ '.' ∉ s.toList) ∨
      (e = .emptyDatabase ∧ ∃ after, s.toList = '.' :: after) ∨
      (e = .emptyCollection ∧ ∃ before, before ≠ [] ∧ '.' ∉ before ∧
        s.toList = before ++ ['.'])) ∧
    (parse s = .ok ns ↔ ns.fullName = s ∧ '.' ∉ ns.database.toList) ∧
    (parse ns.fullName = .ok ns ↔ '.' ∉ ns.database.toList) := by
  refine ⟨exists_parse_iff s, fun _ => parse_eq_error_iff, parse_eq_ok_iff, ?_⟩
  rw [parse_eq_ok_iff]
  exact ⟨And.right, fun h => ⟨rfl, h⟩⟩

end Namespace

/-! ## Ports -/

theorem readWhole_eq_ok_iff {text : String} {n : Int} :
    readWhole text = .ok n ↔ Text.IsNumeral text.toList n := by
  rw [← Text.readInt_eq_ok_iff, readWhole]
  cases Text.readInt text <;> simp [Except.mapError]

namespace Address

variable {s : String} {a : Address} {host port : List Char}

/-! ## Addresses -/

theorem toList_text (a : Address) :
    a.text.toList = a.host.toList ++ ':' :: (toString a.port).toList := by
  simp [text]

theorem parse_of_absent (h : ':' ∉ s.toList) : parse s = .ok ⟨s, 27017⟩ := by
  rw [parse, Text.splitLast_eq_none.2 h]

theorem parse_of_split (hs : s.toList = host ++ ':' :: port) (h : ':' ∉ port) :
    parse s = (readWhole (String.ofList port)).map fun n => ⟨String.ofList host, n⟩ := by
  rw [parse, hs, Text.splitLast_append h]

/-- An address is read from its host alone if it has the usual port and a host without a colon,
    and from its host, a colon and a numeral of its port. -/
theorem parse_eq_ok_iff :
    parse s = .ok a ↔
      (':' ∉ s.toList ∧ a = ⟨s, 27017⟩) ∨
      ∃ port, s.toList = a.host.toList ++ ':' :: port ∧ Text.IsNumeral port a.port := by
  constructor
  · intro hparse
    rcases hsplit : Text.splitLast ':' s.toList with _ | ⟨host, port⟩
    · have habsent := Text.splitLast_eq_none.1 hsplit
      rw [parse_of_absent habsent] at hparse
      exact .inl ⟨habsent, (Except.ok.inj hparse).symm⟩
    · obtain ⟨hs, habsent⟩ := Text.splitLast_eq_some hsplit
      rw [parse_of_split hs habsent] at hparse
      obtain ⟨n, hn, rfl⟩ := Text.map_eq_ok_iff.1 hparse
      rw [readWhole_eq_ok_iff, String.toList_ofList] at hn
      exact .inr ⟨port, by rw [String.toList_ofList, hs], hn⟩
  · rintro (⟨habsent, rfl⟩ | ⟨port, hs, hnumeral⟩)
    · exact parse_of_absent habsent
    · have hread : readWhole (String.ofList port) = .ok a.port := by
        rwa [readWhole_eq_ok_iff, String.toList_ofList]
      rw [parse_of_split hs (Text.colon_notMem_of_isNumeral hnumeral), hread, String.ofList_toList]
      rfl

/-- The ports that addresses are read with. -/
theorem natAbs_port_lt_of_parse (h : parse s = .ok a) :
    a.port.natAbs < 10 ^ Text.longestNumeral := by
  rcases parse_eq_ok_iff.1 h with ⟨-, rfl⟩ | ⟨port, -, hnumeral⟩
  · exact lt_of_lt_of_le (show 27017 < 10 ^ 5 by decide)
      (Nat.pow_le_pow_right (by decide) (by decide))
  · exact Text.natAbs_lt_of_isNumeral hnumeral

theorem parse_text_eq (a : Address) :
    parse a.text
      = if a.port.natAbs < 10 ^ Text.longestNumeral then .ok a
        else .error (.tooManyDigits (Nat.toDigits 10 a.port.natAbs).length) := by
  rw [parse_of_split (toList_text a) (Text.colon_notMem_toString _), String.ofList_toList,
    String.ofList_toList, readWhole, Text.readInt_toString]
  split <;> rfl

theorem parse_text_eq_ok_iff : parse a.text = .ok a ↔ a.port.natAbs < 10 ^ Text.longestNumeral := by
  rw [parse_text_eq]
  split <;> simp_all

theorem exists_parse_text_eq_error_iff :
    (∃ e, parse a.text = .error e) ↔ 10 ^ Text.longestNumeral ≤ a.port.natAbs := by
  rw [parse_text_eq, ← not_lt]
  split <;> simp_all

/-- **Addresses are read back.**  An address is read from its text if its port has no more digits
    than are read, and refused if it has; what is read from any text is also read from its own.
    A text without a colon is a host with the usual port, and in any other one a numeral of the
    port follows the last colon. -/
theorem parse_text (a : Address) :
    (parse a.text = .ok a ↔ a.port.natAbs < 10 ^ Text.longestNumeral) ∧
    ((∃ e, parse a.text = .error e) ↔ 10 ^ Text.longestNumeral ≤ a.port.natAbs) ∧
    (∀ s, parse s = .ok a → parse a.text = .ok a) ∧
    (∀ s, ':' ∉ s.toList → parse s = .ok ⟨s, 27017⟩) ∧
    (∀ s, parse s = .ok a ↔
      (':' ∉ s.toList ∧ a = ⟨s, 27017⟩) ∨
      ∃ port, s.toList = a.host.toList ++ ':' :: port ∧ Text.IsNumeral port a.port) :=
  ⟨parse_text_eq_ok_iff, exists_parse_text_eq_error_iff,
    fun _ h => parse_text_eq_ok_iff.2 (natAbs_port_lt_of_parse h), fun _ => parse_of_absent,
    fun _ => parse_eq_ok_iff⟩

theorem parse_text_literal :
    parse "fe80::1: +１_000 " = .ok ⟨"fe80::1", 1000⟩ ∧
    parse "fe80::1:1000" = .ok ⟨"fe80::1", 1000⟩ ∧
    ':' ∉ "shard-0".toList ∧
    parse "shard-0" = .ok ⟨"shard-0", 27017⟩ := by
  have hread : parse "fe80::1: +１_000 " = .ok ⟨"fe80::1", 1000⟩ := rfl
  have habsent : ':' ∉ "shard-0".toList := by decide
  obtain ⟨-, -, hback, husual, -⟩ := parse_text ⟨"fe80::1", 1000⟩
  exact ⟨hread, hback _ hread, habsent, husual _ habsent⟩

/-- A port of one digit more than are read is not read back. -/
theorem parse_text_ne_of_longPort :
    parse (text ⟨"shard-0", 10 ^ Text.longestNumeral⟩)
      ≠ .ok ⟨"shard-0", 10 ^ Text.longestNumeral⟩ := by
  simp [parse_text_eq_ok_iff, Int.natAbs_pow]

end Address

end DocumentClient
