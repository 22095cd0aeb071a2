/-
  Numerals, written and read.

  `IsNumeral` says what a numeral of a number looks like: blanks, a sign, digits of any script
  with a single `_` between two of them at most, and blanks.  A number is read from its numerals
  and from nothing else (`readInt_eq_ok_iff`).

  A numeral has at most `longestNumeral` digits, so only numbers with no more have one
  (`natAbs_lt_of_isNumeral`).  What these are written as is one of theirs, and what any other
  number is written as is refused for its length (`readInt_toString`).
-/
import DocumentClient.Text.Numeral
import Mathlib.Data.List.TakeWhile
import Mathlib.Data.Nat.Digits.Lemmas

namespace DocumentClient.Text

/-! ## The grammar -/

/-- Characters that go on with these digits, where one `_` may stand before each. -/
inductive GoesOn : List Char → List Nat → Prop
  | nil : GoesOn [] []
  | digit {c d cs ds} : digit? c = some d → GoesOn cs ds → GoesOn (c :: cs) (d :: ds)
  | spaced {c d cs ds} : digit? c = some d → GoesOn cs ds → GoesOn ('_' :: c :: cs) (d :: ds)

/-- Characters that spell these digits: the first of them stands first. -/
inductive Spells : List Char → List Nat → Prop
  | digits {c d cs ds} : digit? c = some d → GoesOn cs ds → Spells (c :: cs) (d :: ds)

theorem Spells.goesOn {cs : List Char} {ds : List Nat} (h : Spells cs ds) : GoesOn cs ds := by
  obtain ⟨hd, hgoes⟩ := h
  exact .digit hd hgoes

/-- The number with these digits. -/
def ofDigits (ds : List Nat) : Nat := Nat.ofDigits 10 ds.reverse

/-- The signs of a numeral. -/
inductive Sign where
  | none
  | plus
  | minus

namespace Sign

/-- How a sign is written. -/
def chars : Sign → List Char
  | none => []
  | plus => ['+']
  | minus => ['-']

/-- The number with a sign. -/
def apply : Sign → Nat → Int
  | minus, n => -n
  | _, n => n

end Sign

/-- Characters that are all skipped around a numeral. -/
def Blanks (cs : List Char) : Prop := ∀ c ∈ cs, isBlank c = true

/-- The numerals of a number. -/
inductive IsNumeral : List Char → Int → Prop
  | of {before digits after ds} (sign : Sign) :
      Blanks before → Spells digits ds → ds.length ≤ longestNumeral → Blanks after →
      IsNumeral (before ++ (sign.chars ++ (digits ++ after))) (sign.apply (ofDigits ds))

variable {c : Char} {d n value count : Nat} {cs rest digits : List Char} {ds : List Nat}

/-! ## Digits among the other characters -/

/-- Where the rows of digits lie: the blanks, the signs and the `_` lie between them. -/
theorem zeros_lie : ∀ z ∈ zeros, z = 0x30 ∨ (0x660 ≤ z ∧ z + 10 ≤ 0x1680) ∨
    (0x1680 < z ∧ z + 10 ≤ 0x2000) ∨ 0x3000 < z := by
  decide

theorem digit?_lies (h : digit? c = some d) :
    (0x30 ≤ c.toNat ∧ c.toNat ≤ 0x39) ∨ (0x660 ≤ c.toNat ∧ c.toNat < 0x1680) ∨
      (0x1680 < c.toNat ∧ c.toNat < 0x2000) ∨ 0x3000 < c.toNat := by
  obtain ⟨z, found, -⟩ := Option.map_eq_some_iff.1 h
  have hrow := List.find?_some found
  have hz := zeros_lie z (List.mem_of_find?_eq_some found)
  simp only [Bool.and_eq_true, decide_eq_true_eq] at hrow
  omega

theorem isBlank_of_digit? (h : digit? c = some d) : isBlank c = false := by
  have := digit?_lies h
  simp only [isBlank, Bool.or_eq_false_iff, Bool.and_eq_false_iff, beq_eq_false_iff_ne,
    decide_eq_false_iff_not]
  omega

theorem digit?_of_isBlank (h : isBlank c = true) : digit? c = none := by
  cases hd : digit? c with
  | none => rfl
  | some d =>
    rw [isBlank_of_digit? hd] at h
    cases h

theorem ne_of_digit? {x : Char} (hx : digit? x = none) (h : digit? c = some d) : c ≠ x := by
  rintro rfl
  rw [hx] at h
  cases h

theorem digit?_underscore : digit? '_' = none := by decide

theorem digit?_plus : digit? '+' = none := by decide

theorem digit?_minus : digit? '-' = none := by decide

theorem digit?_colon : digit? ':' = none := by decide

/-- The ASCII digits. -/
theorem digit?_of_isDigit (h : c.isDigit = true) : digit? c = some (c.toNat - '0'.toNat) := by
  have hc : 0x30 ≤ c.toNat ∧ c.toNat < 0x3a := by
    simp only [Char.isDigit, Bool.and_eq_true, decide_eq_true_eq] at h
    exact ⟨h.1, Nat.lt_succ_of_le h.2⟩
  simp [digit?, zeros, hc.1, hc.2]

/-! ## Digits read -/

/-- What digits do not go on with. -/
def Stops (rest : List Char) : Prop := ∀ c ∈ rest.head?, c ≠ '_' ∧ digit? c = none

theorem blanks_nil : Blanks [] := by simp [Blanks]

theorem stops_of_blanks (h : Blanks cs) : Stops cs := by
  intro c hc
  have hblank := h c (List.mem_of_mem_head? hc)
  refine ⟨?_, digit?_of_isBlank hblank⟩
  rintro rfl
  cases hblank

theorem ofDigits_cons (d : Nat) (ds : List Nat) :
    ofDigits (d :: ds) = d * 10 ^ ds.length + ofDigits ds := by
  rw [ofDigits, ofDigits, List.reverse_cons, Nat.ofDigits_append, Nat.ofDigits_singleton,
    List.length_reverse]
  ring

theorem digitsFrom_digit (h : digit? c = some d) :
    digitsFrom value count (c :: rest) = digitsFrom (10 * value + d) (count + 1) rest := by
  have hc := ne_of_digit? digit?_underscore h
  rw [digitsFrom, h]
  · exact fun _ _ heq _ => hc heq
  · exact fun heq _ => hc heq

theorem digitsFrom_spaced (h : digit? c = some d) :
    digitsFrom value count ('_' :: c :: rest) = digitsFrom (10 * value + d) (count + 1) rest := by
  rw [digitsFrom, h, Option.bind_some]

theorem digitsFrom_of_stops (h : Stops rest) :
    digitsFrom value count rest = some (value, count, rest) := by
  cases rest with
  | nil => rw [digitsFrom]
  | cons c rest =>
    obtain ⟨hc, hd⟩ := h c rfl
    rw [digitsFrom, hd]
    · exact fun _ _ heq _ => hc heq
    · exact fun heq _ => hc heq

theorem digitsFrom_append (h : GoesOn cs ds) (hstop : Stops rest) (value count : Nat) :
    digitsFrom value count (cs ++ rest)
      = some (value * 10 ^ ds.length + ofDigits ds, count + ds.length, rest) := by
  -- each digit shifts the value so far by one place, which the places still to come make up for
  induction h generalizing value count with
  | nil => simpa [ofDigits] using digitsFrom_of_stops hstop
  | @digit c d cs ds hd _ ih =>
    rw [List.cons_append, digitsFrom_digit hd, ih, ofDigits_cons, List.length_cons]
    congr 2 <;> ring_nf
  | @spaced c d cs ds hd _ ih =>
    rw [List.cons_append, List.cons_append, digitsFrom_spaced hd, ih, ofDigits_cons,
      List.length_cons]
    congr 2 <;> ring_nf

/-- What is read goes on with digits, up to where they stop. -/
theorem goesOn_of_digitsFrom {read : Nat × Nat × List Char}
    (h : digitsFrom value count cs = some read) :
    ∃ taken ds rest, cs = taken ++ rest ∧ GoesOn taken ds ∧ Stops rest := by
  fun_induction digitsFrom value count cs with
  | case1 => exact ⟨[], [], [], rfl, .nil, by simp [Stops]⟩
  | case2 value count c rest ih =>
    obtain ⟨d, hd, h⟩ := Option.bind_eq_some_iff.1 h
    obtain ⟨taken, ds, rest, rfl, hgoes, hstop⟩ := ih d h
    exact ⟨_, _, rest, rfl, .spaced hd hgoes, hstop⟩
  | case3 => cases h
  | case4 value count c rest _ _ d hd ih =>
    obtain ⟨taken, ds, rest, rfl, hgoes, hstop⟩ := ih h
    exact ⟨_, _, rest, rfl, .digit hd hgoes, hstop⟩
  | case5 value count c rest hspaced halone hd =>
    refine ⟨[], [], c :: rest, rfl, .nil, ?_⟩
    rintro _ ⟨⟩
    refine ⟨?_, hd⟩
    rintro rfl
    cases rest with
    | nil => exact halone rfl rfl
    | cons c rest => exact hspaced c rest rfl rfl

/-! ## Natural numbers read -/

theorem readNat_append (h : Spells digits ds) (hstop : Stops rest) :
    readNat (digits ++ rest)
      = if longestNumeral < ds.length then .error (.tooLong ds.length)
        else if rest.all isBlank then .ok (ofDigits ds) else .error .notNumeral := by
  obtain ⟨hd, hgoes⟩ := h
  rw [List.cons_append, readNat, hd, Option.bind_some, digitsFrom_append hgoes hstop, ofDigits_cons,
    List.length_cons, Nat.add_comm 1]

/-- Characters begin with digits, or nothing is read from them. -/
theorem spells_or_notNumeral (cs : List Char) :
    (∃ digits ds rest, cs = digits ++ rest ∧ Spells digits ds ∧ Stops rest) ∨
      readNat cs = .error .notNumeral := by
  cases cs with
  | nil => exact .inr rfl
  | cons c rest =>
    cases hread : (digit? c).bind fun d => digitsFrom d 1 rest with
    | none => exact .inr (by rw [readNat, hread])
    | some read =>
      obtain ⟨d, hd, hfrom⟩ := Option.bind_eq_some_iff.1 hread
      obtain ⟨taken, ds, rest, rfl, hgoes, hstop⟩ := goesOn_of_digitsFrom hfrom
      exact .inl ⟨c :: taken, d :: ds, rest, rfl, .digits hd hgoes, hstop⟩

theorem readNat_eq_ok_iff :
    readNat cs = .ok n ↔
      ∃ digits ds after, cs = digits ++ after ∧ Spells digits ds ∧ ds.length ≤ longestNumeral ∧
        Blanks after ∧ ofDigits ds = n := by
  constructor
  · intro hread
    rcases spells_or_notNumeral cs with ⟨digits, ds, rest, rfl, hspells, hstop⟩ | hnone
    · rw [readNat_append hspells hstop] at hread
      split at hread
      · cases hread
      · rename_i hshort
        split at hread
        · rename_i hblank
          exact ⟨digits, ds, rest, rfl, hspells, not_lt.1 hshort, List.all_eq_true.1 hblank,
            Except.ok.inj hread⟩
        · cases hread
    · rw [hnone] at hread
      cases hread
  · rintro ⟨digits, ds, after, rfl, hspells, hshort, hblank, rfl⟩
    rw [readNat_append hspells (stops_of_blanks hblank), if_neg (not_lt.2 hshort),
      if_pos (List.all_eq_true.2 hblank)]

/-! ## Whole numbers read -/

variable {text : String} {i : Int} {before : List Char}

/-- A sign, or none, is taken off in front of the digits. -/
theorem exists_signed (text : String) :
    ∃ sign cs, text.toList.dropWhile isBlank = Sign.chars sign ++ cs ∧
      readInt text = (readNat cs).map sign.apply := by
  rw [readInt]
  split
  · rename_i rest hdrop
    exact ⟨.minus, rest, hdrop, by cases readNat rest <;> rfl⟩
  · rename_i rest hdrop
    exact ⟨.plus, rest, hdrop, rfl⟩
  · exact ⟨.none, _, rfl, rfl⟩

theorem readInt_of_signed (sign : Sign)
    (hdrop : text.toList.dropWhile isBlank = sign.chars ++ c :: cs) (hd : digit? c = some d) :
    readInt text = (readNat (c :: cs)).map sign.apply := by
  rw [readInt, hdrop]
  cases sign with
  | minus => cases hread : readNat (c :: cs) <;> simp [Sign.chars, hread, Sign.apply, Except.map]
  | plus => rfl
  | none =>
    split
    · rename_i rest h
      exact absurd (List.head_eq_of_cons_eq h) (ne_of_digit? digit?_minus hd)
    · rename_i rest h
      exact absurd (List.head_eq_of_cons_eq h) (ne_of_digit? digit?_plus hd)
    · rfl

/-- The blanks in front of a sign, or of digits where there is none, are skipped. -/
theorem dropWhile_blanks_append (h : Blanks before) (sign : Sign) (hd : digit? c = some d) :
    (before ++ (sign.chars ++ c :: cs)).dropWhile isBlank = sign.chars ++ c :: cs := by
  rw [List.dropWhile_append_of_pos h]
  cases sign with
  | none => exact List.dropWhile_cons_of_neg (by simp [isBlank_of_digit? hd])
  | plus => exact List.dropWhile_cons_of_neg (by decide)
  | minus => exact List.dropWhile_cons_of_neg (by decide)

theorem readInt_append (sign : Sign) (h : Blanks before) (hspells : Spells digits ds)
    (htext : text.toList = before ++ (sign.chars ++ (digits ++ rest))) :
    readInt text = (readNat (digits ++ rest)).map sign.apply := by
  obtain ⟨hd, -⟩ := hspells
  rw [List.cons_append] at htext ⊢
  exact readInt_of_signed sign (by rw [htext, dropWhile_blanks_append h sign hd]) hd

theorem map_eq_ok_iff {ε α β : Type} {x : Except ε α} {f : α → β} {b : β} :
    x.map f = .ok b ↔ ∃ a, x = .ok a ∧ f a = b := by
  cases x <;> simp [Except.map]

/-- **A number is read from its numerals**, and from nothing else. -/
theorem readInt_eq_ok_iff : readInt text = .ok i ↔ IsNumeral text.toList i := by
  constructor
  · intro hread
    obtain ⟨sign, cs, hdrop, hsigned⟩ := exists_signed text
    rw [hsigned] at hread
    obtain ⟨n, hn, rfl⟩ := map_eq_ok_iff.1 hread
    obtain ⟨digits, ds, after, rfl, hspells, hshort, hafter, rfl⟩ := readNat_eq_ok_iff.1 hn
    rw [← List.takeWhile_append_dropWhile (p := isBlank) (l := text.toList), hdrop]
    exact .of sign (fun c hc => List.mem_takeWhile_imp hc) hspells hshort hafter
  · intro hnumeral
    generalize htext : text.toList = cs at hnumeral
    obtain @⟨before, digits, after, ds, sign, hbefore, hspells, hshort, hafter⟩ := hnumeral
    rw [readInt_append sign hbefore hspells htext, map_eq_ok_iff]
    exact ⟨_, readNat_eq_ok_iff.2 ⟨digits, ds, after, rfl, hspells, hshort, hafter, rfl⟩, rfl⟩

example : readInt " +１_000 " = .ok 1000 := rfl

/-! ## The characters of a numeral -/

theorem mem_of_goesOn (h : GoesOn cs ds) :
    ∀ c ∈ cs, c = '_' ∨ ∃ d, digit? c = some d := by
  induction h with
  | nil => simp
  | digit hd _ ih => exact List.forall_mem_cons.2 ⟨.inr ⟨_, hd⟩, ih⟩
  | spaced hd _ ih =>
    exact List.forall_mem_cons.2 ⟨.inl rfl, List.forall_mem_cons.2 ⟨.inr ⟨_, hd⟩, ih⟩⟩

/-- The characters of a numeral. -/
theorem mem_of_isNumeral (h : IsNumeral cs i) :
    ∀ c ∈ cs, isBlank c = true ∨ c ∈ ['+', '-', '_'] ∨ ∃ d, digit? c = some d := by
  obtain ⟨sign, hbefore, hspells, -, hafter⟩ := h
  have hsign : ∀ c ∈ sign.chars, c ∈ ['+', '-', '_'] := by
    cases sign <;> simp [Sign.chars]
  simp only [List.forall_mem_append]
  refine ⟨fun c hc => .inl (hbefore c hc), fun c hc => .inr (.inl (hsign c hc)), ?_,
    fun c hc => .inl (hafter c hc)⟩
  intro c hc
  rcases mem_of_goesOn hspells.goesOn c hc with rfl | hdigit
  · exact .inr (.inl (by decide))
  · exact .inr (.inr hdigit)

theorem colon_notMem_of_isNumeral (h : IsNumeral cs i) : ':' ∉ cs := by
  intro hc
  rcases mem_of_isNumeral h _ hc with hblank | hother | ⟨d, hd⟩
  · exact absurd hblank (by decide)
  · exact absurd hother (by decide)
  · rw [digit?_colon] at hd
    cases hd

/-! ## Numbers written -/

theorem lt_of_goesOn (h : GoesOn cs ds) : ∀ d ∈ ds, d < 10 := by
  induction h with
  | nil => simp
  | digit hd _ ih => exact List.forall_mem_cons.2 ⟨digit?_lt hd, ih⟩
  | spaced hd _ ih => exact List.forall_mem_cons.2 ⟨digit?_lt hd, ih⟩

theorem ofDigits_lt (h : Spells cs ds) : ofDigits ds < 10 ^ ds.length := by
  have hlt := Nat.ofDigits_lt_base_pow_length (b := 10) (by decide)
    fun d hd => lt_of_goesOn h.goesOn d (List.mem_reverse.1 hd)
  rwa [List.length_reverse] at hlt

theorem Sign.natAbs_apply (sign : Sign) (n : Nat) : (sign.apply n).natAbs = n := by
  cases sign <;> simp [Sign.apply]

/-- No numeral has more digits than are read. -/
theorem natAbs_lt_of_isNumeral (h : IsNumeral cs i) : i.natAbs < 10 ^ longestNumeral := by
  obtain ⟨sign, -, hspells, hshort, -⟩ := h
  rw [Sign.natAbs_apply]
  exact (ofDigits_lt hspells).trans_le (Nat.pow_le_pow_right (by decide) hshort)

/-- The value of an ASCII digit, in which numbers are written. -/
def digitValue (c : Char) : Nat := c.toNat - '0'.toNat

theorem goesOn_of_isDigit (h : ∀ c ∈ cs, c.isDigit = true) : GoesOn cs (cs.map digitValue) := by
  induction cs with
  | nil => exact .nil
  | cons c cs ih =>
    obtain ⟨hc, hcs⟩ := List.forall_mem_cons.1 h
    exact .digit (digit?_of_isDigit hc) (ih hcs)

theorem spells_of_isDigit (h : ∀ c ∈ cs, c.isDigit = true) (hne : cs ≠ []) :
    Spells cs (cs.map digitValue) := by
  cases cs with
  | nil => exact absurd rfl hne
  | cons c cs =>
    obtain ⟨hc, hcs⟩ := List.forall_mem_cons.1 h
    exact .digits (digit?_of_isDigit hc) (goesOn_of_isDigit hcs)

theorem ofDigits_digitValue (cs : List Char) :
    ofDigits (cs.map digitValue) = Nat.ofDigitChars 10 cs 0 := by
  induction cs with
  | nil => rfl
  | cons c cs ih =>
    calc ofDigits ((c :: cs).map digitValue)
        = digitValue c * 10 ^ cs.length + Nat.ofDigitChars 10 cs 0 := by
          rw [List.map_cons, ofDigits_cons, List.length_map, ih]
      _ = Nat.ofDigitChars 10 cs (digitValue c) := by
          rw [Nat.mul_comm, ← Nat.ofDigitChars_eq_ofDigitChars_zero]
      _ = Nat.ofDigitChars 10 (c :: cs) 0 := by
          rw [Nat.ofDigitChars_cons, Nat.mul_zero, Nat.zero_add, digitValue]

theorem toList_toString (i : Int) :
    ∃ sign, (toString i).toList = Sign.chars sign ++ Nat.toDigits 10 i.natAbs ∧
      sign.apply i.natAbs = i := by
  rw [Int.toString_eq_repr, Int.repr_eq_if]
  split
  · rename_i hi
    have habs : i.toNat = i.natAbs := by omega
    exact ⟨.none, by rw [habs, Nat.toList_repr]; rfl, Int.natAbs_of_nonneg hi⟩
  · rename_i hi
    have habs : (-i).toNat = i.natAbs := by omega
    refine ⟨.minus, ?_, ?_⟩
    · rw [habs, String.toList_append, Nat.toList_repr]
      rfl
    · rw [Sign.apply]
      omega

theorem spells_toDigits (n : Nat) :
    Spells (Nat.toDigits 10 n) ((Nat.toDigits 10 n).map digitValue) :=
  spells_of_isDigit (fun _ hc => Nat.isDigit_of_mem_toDigits (by decide) (by decide) hc)
    Nat.toDigits_ne_nil

theorem readNat_toDigits (n : Nat) :
    readNat (Nat.toDigits 10 n)
      = if n < 10 ^ longestNumeral then .ok n
        else .error (.tooLong (Nat.toDigits 10 n).length) := by
  have hread := readNat_append (spells_toDigits n) (stops_of_blanks blanks_nil)
  have hlong : longestNumeral < (Nat.toDigits 10 n).length ↔ ¬ n < 10 ^ longestNumeral := by
    rw [← not_le, Nat.length_toDigits_le_iff (by decide) (by decide)]
  rw [List.append_nil, List.length_map, ofDigits_digitValue, Nat.ofDigitChars_ten_toDigits] at hread
  simp only [hread, hlong, ite_not]
  rfl

theorem colon_notMem_toString (i : Int) : ':' ∉ (toString i).toList := by
  obtain ⟨sign, htext, -⟩ := toList_toString i
  rw [htext, List.mem_append]
  rintro (hsign | hdigit)
  · cases sign <;> exact absurd hsign (by decide)
  · exact absurd (Nat.isDigit_of_mem_toDigits (by decide) (by decide) hdigit) (by decide)

/-- **A number is read from what it is written as**, unless it has more digits than are read. -/
theorem readInt_toString (i : Int) :
    readInt (toString i)
      = if i.natAbs < 10 ^ longestNumeral then .ok i
        else .error (.tooLong (Nat.toDigits 10 i.natAbs).length) := by
  obtain ⟨sign, htext, hvalue⟩ := toList_toString i
  have hparts : (toString i).toList = [] ++ (sign.chars ++ (Nat.toDigits 10 i.natAbs ++ [])) := by
    rw [htext, List.nil_append, List.append_nil]
  rw [readInt_append sign blanks_nil (spells_toDigits _) hparts, List.append_nil, readNat_toDigits]
  split
  · rw [Except.map, hvalue]
  · rfl

end DocumentClient.Text
