/-
  Field names and the envelope.

  A router gets a command inside an envelope, together with the read preference.  The field
  names are checked on the document as it is sent, so inside the envelope the rule of a command
  meets `$query` first, and every name of the command one level deeper than in the command
  itself.

  `refuses_iff`: a command is refused for the first name that its rule rejects in what is sent.
  That is the name rejected in the command itself, for all commands of a rule, exactly if there
  is no envelope or the rule accepts every document: a rule that admits `$query` and tells no
  difference one level deeper accepts everything (`accepts_of_indifferent`).
-/
import DocumentClient.Proofs.Command.Stages
import DocumentClient.Proofs.FieldRule.Places

namespace DocumentClient

/-! ## Rules that do not tell levels apart -/

namespace FieldRule

/-- A rule that accepts every document. -/
def AcceptsAll (rule : FieldRule) : Prop := ∀ d : Document, rule.check d = .ok ()

/-- Two rules reject the same names in the same documents. -/
def Alike (rule other : FieldRule) : Prop :=
  ∀ d : Document, rule.rejectedField d = other.rejectedField d

theorem acceptsAll_iff {rule : FieldRule} :
    rule.AcceptsAll ↔ ∀ d : Document, rule.rejectedField d = none :=
  forall_congr' fun _ => check_eq_ok

theorem acceptsAll_any : any.AcceptsAll :=
  acceptsAll_iff.2 fun _ => rejectedField_eq_none.2 fun p _ => allows_any p

theorem Alike.acceptsAll {rule other : FieldRule} (h : rule.Alike other) (hall : rule.AcceptsAll) :
    other.AcceptsAll :=
  acceptsAll_iff.2 fun d => (h d).symm.trans (acceptsAll_iff.1 hall d)

/-- A document of one field. -/
theorem rejectedField_single (rule : FieldRule) (name : String) (v : Value) :
    rule.rejectedField [(name, v)]
      = if rule.admits name then (rule.inside name).rejected v else some name := by
  simp [rejectedField]

theorem rejected_doc (rule : FieldRule) (d : Document) :
    rule.rejected (.doc d) = rule.rejectedField d := by
  rw [rejected]

theorem Alike.admits_eq {rule other : FieldRule} (h : rule.Alike other) (name : String) :
    rule.admits name = other.admits name := by
  have hsingle := h [(name, .null)]
  rw [rejectedField_single, rejectedField_single] at hsingle
  by_cases hrule : rule.admits name <;> by_cases hother : other.admits name <;>
    simp_all [rejected]

/-- Rules that are alike are alike in every field they admit. -/
theorem Alike.inside {rule other : FieldRule} (h : rule.Alike other) {name : String}
    (hadmits : rule.admits name) : (rule.inside name).Alike (other.inside name) := by
  intro d
  have hsingle := h [(name, .doc d)]
  rwa [rejectedField_single, rejectedField_single, if_pos hadmits,
    if_pos (h.admits_eq name ▸ hadmits), rejected_doc, rejected_doc] at hsingle

theorem sizeOf_find {name : String} : ∀ {special : List (String × FieldRule)} {rule : FieldRule},
    find name special = some rule → sizeOf rule < sizeOf special
  | [], _, h => by simp [find] at h
  | (other, own) :: rest, rule, h => by
    rw [find] at h
    by_cases hname : other = name
    · rw [if_pos hname] at h
      obtain rfl := Option.some.inj h
      simp
      omega
    · rw [if_neg hname] at h
      have hrest := sizeOf_find h
      simp
      omega

theorem sizeOf_inside_mapped {default : FieldRule} {name : String}
    (h : sizeOf (default.inside name) ≤ sizeOf default) (special : List (String × FieldRule)) :
    sizeOf ((mapped default special).inside name) < sizeOf (mapped default special) := by
  rw [FieldRule.inside]
  rcases hfind : find name special with _ | own
  · simp only [Option.getD_none, mapped.sizeOf_spec]
    omega
  · have hown := sizeOf_find hfind
    simp only [Option.getD_some, mapped.sizeOf_spec]
    omega

/-- What a rule says of the contents of a field is no larger than the rule. -/
theorem sizeOf_inside_le (name : String) :
    ∀ rule : FieldRule, sizeOf (rule.inside name) ≤ sizeOf rule
  | any => Nat.le_refl _
  | storable => Nat.le_refl _
  | mapped default special =>
    Nat.le_of_lt (sizeOf_inside_mapped (sizeOf_inside_le name default) special)
termination_by structural rule => rule

/-- A rule that admits a name no stored field has, and is the same inside that field as around it,
    accepts everything: inside, a rule with special rules is smaller. -/
theorem accepts_of_indifferent {name : String} (hname : storable.admits name = false)
    (rule : FieldRule) (hadmits : rule.admits name) (halike : (rule.inside name).Alike rule) :
    rule.AcceptsAll := by
  induction hsize : sizeOf rule using Nat.strongRecOn generalizing rule with
  | ind n ih =>
    cases rule with
    | any => exact acceptsAll_any
    | storable => exact absurd (hadmits.symm.trans hname) (by decide)
    | mapped default special =>
      have hinside := halike.admits_eq name ▸ hadmits
      have hlt := sizeOf_inside_mapped (sizeOf_inside_le name default) special
      exact halike.acceptsAll (ih _ (hsize ▸ hlt) _ hinside (halike.inside hinside) rfl)

end FieldRule

/-- Where a stage fails, followed by others. -/
theorem Stage.judge_bind_eq_error {α β : Type} {stage failed : Stage} {o : Outcome α}
    {f : α → Ending β} {e : Failure} : (stage.judge o >>= f) = .error (failed, e) ↔
      (stage = failed ∧ o = .error e) ∨ ∃ a, o = .ok a ∧ f a = .error (failed, e) := by
  rcases o with e' | a
  · change (.error (stage, e') : Ending β) = _ ↔ _
    simp
  · change f a = _ ↔ _
    simp

theorem ofValid_eq_error {α : Type} {v : Except Invalid α} {invalid : Invalid} :
    Outcome.ofValid v = .error (.invalid invalid) ↔ v = .error invalid := by
  rcases v with other | a <;> simp [Outcome.ofValid]

/-! ## What is sent -/

/-- Whether a command goes into an envelope. -/
def Enveloped (preference : ReadPreference) (server : Server) : Prop :=
  server.type = .shardRouter ∧ preference.isPrimary = false

/-- A rule rejects a name in a command as it is sent. -/
def RejectsSent (rule : FieldRule) (command : Document) (preference : ReadPreference)
    (server : Server) (name : String) : Prop :=
  ∃ sent, wrapCommand command preference server = .ok sent ∧
    rule.check sent = .error (.fieldName name)

section
variable {rule : FieldRule} {command : Document} {preference : ReadPreference} {server : Server}
  {name : String}

theorem rejectsSent_of_not_enveloped (h : ¬ Enveloped preference server) :
    RejectsSent rule command preference server name ↔
      rule.check command = .error (.fieldName name) := by
  have hwrap : wrapCommand command preference server = .ok command := by
    rw [wrapCommand, if_neg]
    simpa [Enveloped] using h
  simp [RejectsSent, hwrap]

theorem wrapCommand_of_enveloped (h : Enveloped preference server) :
    wrapCommand command preference server = preference.document.map fun document =>
      [(wrappedCommandField, .doc command), (wrappedPreferenceField, .doc document)] := by
  rw [wrapCommand, if_pos ⟨h.1, by simp [h.2]⟩]
  rcases preference.document with e | document <;> rfl

/-- In an envelope `$query` comes first, then what is in the command, then the preference. -/
theorem rejectedField_envelope (rule : FieldRule) (command document : Document) :
    rule.rejectedField
        [(wrappedCommandField, .doc command), (wrappedPreferenceField, .doc document)]
      = if rule.admits wrappedCommandField then
          ((rule.inside wrappedCommandField).rejectedField command).or
            (rule.rejectedField [(wrappedPreferenceField, .doc document)])
        else some wrappedCommandField := by
  rw [FieldRule.rejectedField, FieldRule.rejected_doc]

/-- No rule but one that accepts everything judges every command alike with and without the
    envelope. -/
theorem rejectsSent_iff_check :
    (∀ command name, RejectsSent rule command preference server name ↔
        rule.check command = .error (.fieldName name)) ↔
      ¬ Enveloped preference server ∨ rule.AcceptsAll := by
  constructor
  · intro hsame
    by_cases henvelope : Enveloped preference server
    · refine .inr ?_
      rcases hdocument : preference.document with e | document
      -- without a preference document nothing is sent, so nothing is rejected
      · rw [FieldRule.acceptsAll_iff]
        refine fun d => Option.eq_none_iff_forall_ne_some.2 fun name h => ?_
        obtain ⟨sent, hsent, -⟩ := (hsame d name).2 (FieldRule.check_eq_error.2 h)
        rw [wrapCommand_of_enveloped henvelope, hdocument] at hsent
        cases hsent
      have hsent : ∀ d, rule.rejectedField [(wrappedCommandField, .doc d),
          (wrappedPreferenceField, .doc document)] = rule.rejectedField d := by
        intro d
        refine Option.ext fun name => ?_
        have hd := hsame d name
        rw [RejectsSent, wrapCommand_of_enveloped henvelope, hdocument] at hd
        simpa [Except.map, FieldRule.check_eq_error] using hd
      simp only [rejectedField_envelope] at hsent
      have hempty := hsent []
      by_cases hadmits : rule.admits wrappedCommandField
      · rw [if_pos hadmits] at hempty
        have hpreference : rule.rejectedField [(wrappedPreferenceField, .doc document)] = none := by
          simpa [FieldRule.rejectedField] using hempty
        refine FieldRule.accepts_of_indifferent (by decide +kernel) rule hadmits fun d => ?_
        rw [← hsent d, if_pos hadmits, hpreference, Option.or_none]
      · rw [if_neg hadmits] at hempty
        exact absurd hempty (by simp [FieldRule.rejectedField])
    · exact .inl henvelope
  · rintro (henvelope | hall) command name
    · exact rejectsSent_of_not_enveloped henvelope
    · simp only [RejectsSent, hall command, hall _]
      simp

end

/-! ## Refusals -/

/-- A command is refused for a field name: it gets to the check of the names and not past it. -/
def Refuses {α : Type} (name : String) (seen : Outcome α × Journal) : Prop :=
  seen.1 = .error (.invalid (.fieldName name)) ∧
    .ran .validation ∈ seen.2 ∧ .ran .request ∉ seen.2

namespace Rig

variable {α : Type} (r : Rig)

/-- A command that reads gets to a connection, the one given or one of its own. -/
def Reads (given : Option Connection) (connection : Connection) : Prop :=
  given.or (r.leased .read) = some connection

theorem ending_of_leased {access : Access} {connection : Connection} (call : Call α)
    (preference : ReadPreference) (h : r.leased access = some connection) :
    r.ending call access preference = r.endingOver call preference connection := by
  rw [leased, taken] at h
  rcases hsource : r.source access with e | source
  · simp [hsource, Except.toOption] at h
  rcases hlease : r.lease source with e | other
  · simp [hsource, hlease, Except.toOption] at h
  obtain rfl : other = connection := by
    simpa [hsource, hlease, Except.toOption] using h
  rw [ending, hsource, Stage.judge_ok]
  change (Stage.connection.judge (r.lease source) >>= r.endingOver call preference) = _
  rw [hlease]
  rfl

/-- A command is refused exactly if it fails at the check of the names, whatever is released in the
    end. -/
theorem refuses_ran {stages : List Stage}
    (hstages : stages = Stage.overConnection ∨ stages = Stage.all) (v : Ending α) (name : String)
    {releases : Journal} (hreleases : ∀ s, .ran s ∉ releases) :
    Refuses name (v.outcome,
        ((v.ran stages).filter (Stage.isSeen false)).map Sight.ran ++ releases) ↔
      v = .error (.validation, .invalid (.fieldName name)) := by
  have hmem : ∀ s, .ran s ∈ ((v.ran stages).filter (Stage.isSeen false)).map Sight.ran ++ releases
      ↔ s ∈ v.ran stages ∧ Stage.isSeen false s := by
    intro s
    simp [hreleases]
  rw [Refuses, hmem, hmem]
  rcases v with ⟨stage, e⟩ | a
  · have hstops : (.validation ∈ Ending.ran stages (.error (stage, e) : Ending α) ∧
        .request ∉ Ending.ran stages (.error (stage, e) : Ending α)) ↔ stage = .validation := by
      rcases hstages with rfl | rfl <;> cases stage <;>
        simp [Ending.ran, Stage.overConnection, Stage.all]
    simp only [Ending.outcome_error, Stage.isSeen, and_true, hstops, Except.error.injEq,
      Prod.mk.injEq]
    exact and_comm
  · simp

/-- Over a connection that can be used a command fails at the check of the names for what the rule
    rejects in the document sent. -/
theorem endingOver_eq_refusal (call : Call α) (preference : ReadPreference)
    {connection : Connection} (hadmission : r.admission connection = .ok ()) (name : String) :
    r.endingOver call preference connection = .error (.validation, .invalid (.fieldName name)) ↔
      RejectsSent call.names call.command preference connection.server name := by
  have hlast : ∀ value, Stage.transformation.judge (call.transform value)
      ≠ .error (.validation, .invalid (.fieldName name)) := by
    intro value h
    rcases htransform : call.transform value with e | result <;> rw [htransform] at h <;> cases h
  simp only [endingOver, carriedOut, bind_assoc, Stage.judge_bind_eq_error, hadmission, hlast,
    RejectsSent, ofValid_eq_error]
  simp

theorem refuses_iff_rejectsSent {given : Option Connection} {connection : Connection}
    (hreads : r.Reads given connection) (hadmission : r.admission connection = .ok ())
    (call : Call α) (mode : Mode) (preference : ReadPreference) (name : String) :
    Refuses name (r.observe (call.runRead mode preference given)) ↔
      RejectsSent call.names call.command preference connection.server name := by
  rw [← r.endingOver_eq_refusal call preference hadmission, Call.runRead, ← Call.runMarked_false]
  cases given with
  | some other =>
    obtain rfl : other = connection := by simpa [Reads] using hreads
    rw [r.observe_given, course, ← refuses_ran (.inl rfl) _ name (fun _ => List.not_mem_nil),
      List.append_nil]
  | none =>
    have hleased : r.leased .read = some connection := by simpa [Reads] using hreads
    rw [r.observe_own, course, r.ending_of_leased call preference hleased, List.append_assoc]
    exact refuses_ran (.inr rfl) _ name (by simp)

/-- **Field names are judged as they are sent.**  A command that reads is refused, over a connection
    that can be used, for the first name that its rule rejects in the document sent.  For the
    commands of a rule this is what the rule rejects in the command itself exactly if there is no
    envelope, because the server is no router or the read preference is the primary, or the rule
    accepts every document.  So it is in both modes, over a given connection and over one of its
    own. -/
theorem refuses_iff {given : Option Connection} {connection : Connection}
    (hreads : r.Reads given connection) (hadmission : r.admission connection = .ok ())
    (call : Call α) (mode : Mode) (preference : ReadPreference) :
    (∀ name, Refuses name (r.observe (call.runRead mode preference given)) ↔
      RejectsSent call.names call.command preference connection.server name) ∧
    ((∀ command name,
        Refuses name (r.observe (Call.runRead { call with command } mode preference given)) ↔
          call.names.check command = .error (.fieldName name)) ↔
      ¬ Enveloped preference connection.server ∨ call.names.AcceptsAll) := by
  have hrefuses : ∀ command name,
      Refuses name (r.observe (Call.runRead { call with command } mode preference given)) ↔
        RejectsSent call.names command preference connection.server name := by
    intro command name
    exact r.refuses_iff_rejectsSent hreads hadmission { call with command } mode preference name
  refine ⟨hrefuses call.command, ?_⟩
  rw [← rejectsSent_iff_check]
  exact forall_congr' fun command => forall_congr' fun name =>
    iff_congr (hrefuses command name) .rfl

/-! ## At a router -/

/-- A connection to a router. -/
def router : Connection := ⟨1, { address := {}, type := .shardRouter }⟩

/-- A router that answers every command. -/
def behindRouter : Rig where
  source _ := .ok ⟨1⟩
  lease _ := .ok router
  admission _ := .ok ()
  request _ _ _ _ := .ok (.doc [("ok", .int 1)])

/-- Reads from the other members. -/
def fromSecondary : ReadPreference := ⟨.secondary, [], fun _ => rfl⟩

/-- A command with a rule for its names. -/
def plainCall (names : FieldRule) (command : Document) : Call Value where
  database := "library"
  command := command
  names := names
  transform := .ok

theorem reads_behindRouter : behindRouter.Reads none router := rfl

theorem refuses_iff_behindRouter :
    behindRouter.Reads none router ∧ behindRouter.admission router = .ok () ∧
    (∀ name, Refuses name (behindRouter.observe
        ((plainCall .storable [("ping", .int 1)]).runRead .blocking fromSecondary none)) ↔
      RejectsSent .storable [("ping", .int 1)] fromSecondary router.server name) ∧
    ((∀ command name, Refuses name (behindRouter.observe
        ((plainCall .storable command).runRead .blocking fromSecondary none)) ↔
          FieldRule.storable.check command = .error (.fieldName name)) ↔
      ¬ Enveloped fromSecondary router.server ∨ FieldRule.storable.AcceptsAll) :=
  ⟨rfl, rfl, behindRouter.refuses_iff reads_behindRouter rfl
    (plainCall .storable [("ping", .int 1)]) .blocking fromSecondary⟩

/-- In an envelope a command is refused that has no name its rule rejects, and a special rule of the
    command is not found: what it rejects is sent. -/
theorem not_refuses_iff_check_in_envelope :
    ¬ (Refuses "$query" (behindRouter.observe
        ((plainCall .storable [("ping", .int 1)]).runRead .blocking fromSecondary none)) ↔
      FieldRule.storable.check [("ping", .int 1)] = .error (.fieldName "$query")) ∧
    ¬ (Refuses "$set" (behindRouter.observe
        ((plainCall (.mapped .any [("documents", .storable)])
          [("documents", .list [.doc [("$set", .null)]])]).runRead .async fromSecondary none)) ↔
      FieldRule.check (.mapped .any [("documents", .storable)])
        [("documents", .list [.doc [("$set", .null)]])] = .error (.fieldName "$set")) := by
  constructor
  · intro hverdict
    have hrefuses := (behindRouter.refuses_iff_rejectsSent reads_behindRouter rfl
      (plainCall .storable [("ping", .int 1)]) .blocking fromSecondary "$query").2 ⟨_, rfl, rfl⟩
    cases hverdict.1 hrefuses
  · intro hverdict
    have hrefuses := hverdict.2 rfl
    obtain ⟨sent, hsent, hrejected⟩ :=
      (behindRouter.refuses_iff_rejectsSent reads_behindRouter rfl _ _ _ _).1 hrefuses
    cases hsent
    cases hrejected

end Rig

end DocumentClient
