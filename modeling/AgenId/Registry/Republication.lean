import AgenId.Core.Encoding
import AgenId.Registry.Agreement
import AgenId.Registry.JsonStore
import AgenId.Registry.WriteOnce

/-!
# Publishing a document again

A key document may be published again as it is.  The registry compares the
texts of the two documents, which name their members in order: the document
that a store returns is recognized exactly when its members are in the order
in which the schema writes them.
-/

namespace AgenId.Registry

open AgenId.Core
open AgenId.Ecma
open AgenId.Library
open AgenId.Validation
open AgenId.Validation.Schema

/-! ## Objects of texts -/

/-- A text or null. -/
def Flat : Json → Prop
  | .null | .string _ => True
  | _ => False

theorem eq_of_sameValue_flat
    {left right : Json} (same : SameValue left right) (flat : Flat right) :
    left = right := by
  cases same with
  | null => rfl
  | string text => rfl
  | boolean value => cases flat
  | number value => cases flat
  | array length items => cases flat
  | object names values => cases flat

/-! ## Stored key documents -/

/-- The names of the members of a key document, as its schema writes them. -/
def KeyDocument.memberNames : List JsString :=
  ["key_id", "key_type", "public_key_b64u", "role", "controller",
    "created_at", "status", "retired_at", "revoked_at"].map units

/-- The names of the members of a value, in order. -/
def namesOf : Json → List JsString
  | .object members => members.map Prod.fst
  | _ => []

/-- A store holds a document: what it returns has the same members with the
same values, in any order. -/
structure HoldsAs (stored : Json) (doc : KeyDocument) : Prop where
  wellFormed : WellFormed stored
  same : SameValue stored doc.toJson

theorem flat_of_mem_toJson
    {doc : KeyDocument} {written : Members}
    (isWritten : doc.toJson = .object written)
    {entry : JsString × Json} (isEntry : entry ∈ written) :
    Flat entry.2 := by
  have nullable (text : Option JsString) : Flat (nullableText text) := by
    cases text <;> trivial
  obtain rfl := Json.object.inj isWritten
  simp only [List.filterMap_cons, Option.map_some, List.filterMap_nil,
    List.mem_cons, List.not_mem_nil, or_false] at isEntry
  rcases isEntry with rfl | rfl | rfl | rfl | rfl | rfl | rfl | rfl | rfl
  all_goals first | trivial | exact nullable _

/-- What a store returns of a document: its members, each as it was
written. -/
theorem HoldsAs.members
    {stored : Json} {doc : KeyDocument} (holds : HoldsAs stored doc) :
    ∃ members written, stored = .object members ∧
      doc.toJson = .object written ∧ Distinct members ∧
      (∀ name, members.lookup name = written.lookup name) ∧
      ∀ entry ∈ members, Flat entry.2 := by
  obtain ⟨wellFormed, same⟩ := holds
  obtain ⟨written, isWritten⟩ : ∃ written, doc.toJson = .object written :=
    ⟨_, rfl⟩
  rw [isWritten] at same
  cases stored with
  | object members =>
      have distinct := (wellFormed_object.mp wellFormed).1
      have distinctWritten : Distinct written := by
        have printable := printable_KeyDocument doc
        rw [isWritten] at printable
        exact printable.1
      have lookups (name : JsString) :
          members.lookup name = written.lookup name := by
        have related := sameValue_object_iff.mp same name
        cases isFound : written.lookup name with
        | none =>
            rw [isFound] at related
            generalize members.lookup name = found at related
            cases related
            rfl
        | some value =>
            have flat := flat_of_mem_toJson isWritten
              ((distinctWritten.lookup_eq_some_iff).mp isFound)
            rw [isFound] at related
            generalize members.lookup name = found at related
            cases related with
            | some same => rw [eq_of_sameValue_flat same flat]
      refine ⟨members, written, rfl, isWritten, distinct, lookups, ?_⟩
      intro entry isEntry
      have isFound := distinct.lookup_eq_some_iff.mpr isEntry
      rw [lookups] at isFound
      exact flat_of_mem_toJson isWritten
        (distinctWritten.lookup_eq_some_iff.mp isFound)
  | null => cases same
  | boolean value => cases same
  | number value => cases same
  | string text => cases same
  | array items => cases same

theorem HoldsAs.printable
    {stored : Json} {doc : KeyDocument} (holds : HoldsAs stored doc) :
    stored.Printable := by
  obtain ⟨members, written, rfl, -, distinct, -, flat⟩ := holds.members
  rw [Json.Printable, printableMembers_iff]
  refine ⟨distinct, ?_⟩
  intro entry isEntry
  have isFlat := flat entry isEntry
  cases isValue : entry.2 with
  | null => trivial
  | string text => trivial
  | boolean value | number value | array items | object members =>
      rw [isValue] at isFlat
      cases isFlat

theorem HoldsAs.eq_of_names
    {stored : Json} {doc : KeyDocument} (holds : HoldsAs stored doc)
    (ordered : namesOf stored = KeyDocument.memberNames) :
    stored = doc.toJson := by
  obtain ⟨members, written, rfl, isWritten, distinct, lookups, -⟩ :=
    holds.members
  have names : written.map Prod.fst = KeyDocument.memberNames := by
    obtain rfl := Json.object.inj isWritten
    rfl
  rw [isWritten]
  exact congrArg Json.object
    (distinct.ext_of_keys (ordered.trans names.symm) lookups)

/-- A stored document is told from a submitted one exactly when that is
another, or when the store does not return the members in order. -/
theorem HoldsAs.differs_iff
    {stored : Json} {doc : KeyDocument} (holds : HoldsAs stored doc)
    (submitted : KeyDocument) :
    StoredForm.values.differs (some stored) submitted = false ↔
      submitted = doc ∧ namesOf stored = KeyDocument.memberNames := by
  rw [StoredForm.differs, Option.any_some, decide_eq_false_iff_not, not_not]
  constructor
  · intro sameText
    obtain rfl := stringify_injective holds.printable
      (printable_KeyDocument submitted) sameText
    have ordered : namesOf submitted.toJson = KeyDocument.memberNames := rfl
    have sameJson := holds.eq_of_names ordered
    exact ⟨KeyDocument.toJson_injective sameJson, ordered⟩
  · rintro ⟨isDoc, ordered⟩
    rw [isDoc, holds.eq_of_names ordered]

/-! ## Submissions -/

/-- A request that publishes a key document. -/
inductive Submission where
  | authorityKeys (authorization : Option JsString) (body : Option Json)
  | agents (body : Option Json) (clock ts keyUlid agentUlid : JsString)
  | register (body : Option Json) (clock : Clock)
    (keyUlid agentUlid : JsString)

/-- An answer with the code `key_conflict`. -/
def Answer.IsKeyConflict : Answer → Prop
  | .response sent => ∃ message, sent = err 409 "key_conflict" message
  | .result ended => ∃ message issues,
      ended = .fail 409 "key_conflict" message issues

section Submissions

variable [Platform] (authorityToken : Option JsString)

omit [Platform] in
/-- A submission as a request of the registry. -/
def Submission.request : Submission → Request
  | .authorityKeys authorization body => .authorityKeys authorization body
  | .agents body clock ts keyUlid agentUlid =>
    .agents body clock ts keyUlid agentUlid
  | .register body clock keyUlid agentUlid =>
    .register body clock keyUlid agentUlid

/-- The program of a submission, over a store that answers JSON. -/
def Submission.program (submission : Submission) : JsonProgram Answer :=
  StoredForm.values.program authorityToken submission.request

/-- The key document in the body of a submission. -/
def Submission.Submits : Submission → KeyDocument → Prop
  | .authorityKeys _ body, doc => KeyDocument.schema.accepts body = some doc
  | .agents body _ _ _ _, doc => ∃ registration,
      RegisterBody.schema.accepts body = some registration ∧
        registration.keyDocument = doc
  | .register body _ _ _, doc => ∃ registration,
      readBody body = .ok registration ∧ registration.keyDocument = doc

/-- A submission passes every check before its key document is compared with
the stored one. -/
def Submission.Reaches : Submission → KeyDocument → Prop
  | .authorityKeys authorization body, doc =>
    requireAuthority authorityToken authorization = none ∧
      KeyDocument.schema.accepts body = some doc ∧ doc.role = .authority
  | .agents body clock _ _ _, doc => ∃ registration,
      admitRegistration body clock = .ok registration ∧
        registration.keyDocument = doc
  | .register body clock _ _, doc => ∃ registration registeredAt,
      admitAgent body clock = .ok (registration, registeredAt) ∧
        registration.keyDocument = doc

variable {authorityToken}

theorem Submission.Reaches.submits
    {submission : Submission} {doc : KeyDocument}
    (reaches : submission.Reaches authorityToken doc) :
    submission.Submits doc := by
  cases submission with
  | authorityKeys authorization body => exact reaches.2.1
  | agents body clock ts keyUlid agentUlid =>
      obtain ⟨registration, isAdmitted, isKey⟩ := reaches
      exact ⟨registration, accepts_of_admitRegistration isAdmitted, isKey⟩
  | register body clock keyUlid agentUlid =>
      obtain ⟨registration, registeredAt, isAdmitted, isKey⟩ := reaches
      exact ⟨registration, readBody_of_admitAgent isAdmitted, isKey⟩

theorem Submission.Submits.unique
    {submission : Submission} {doc other : KeyDocument}
    (submits : submission.Submits doc) (also : submission.Submits other) :
    doc = other := by
  cases submission with
  | authorityKeys authorization body =>
      exact Option.some.inj (Eq.trans (Eq.symm submits) also)
  | agents body clock ts keyUlid agentUlid =>
      obtain ⟨registration, isRead, rfl⟩ := submits
      obtain ⟨same, isSame, rfl⟩ := also
      rw [Option.some.inj (isRead.symm.trans isSame)]
  | register body clock keyUlid agentUlid =>
      obtain ⟨registration, isRead, rfl⟩ := submits
      obtain ⟨same, isSame, rfl⟩ := also
      rw [Except.ok.inj (isRead.symm.trans isSame)]

variable {State : Type} {handle : Program.Handler StoreCall.JsonReply State}
  {state : State}

/-- The answer to a submission alone on a store. -/
def Submission.answer (authorityToken : Option JsString)
    (submission : Submission)
    (handle : Program.Handler StoreCall.JsonReply State) (state : State) :
    Answer :=
  ((submission.program authorityToken).run handle state).1

/-- How a registration whose key document is compared ends. -/
theorem values_publish_keyConflict_iff
    (registration : RegisterBody) (ts keyUlid agentUlid : JsString) :
    ((StoredForm.values.publish registration ts keyUlid agentUlid).run handle
        state).1 =
        .ok .keyConflict ↔
      StoredForm.values.differs
        (handle (.getKey registration.keyDocument.keyId) state).1
        registration.keyDocument = true := by
  rw [StoredForm.publish_eq, Program.run_call]
  cases isDiffering : StoredForm.values.differs
      (handle (.getKey registration.keyDocument.keyId) state).1
      registration.keyDocument with
  | true => simp
  | false =>
      simp only [Bool.false_eq_true, if_false, iff_false, Program.run_call]
      split <;> simp

omit [Platform] in
theorem code_of_err_eq
    {status otherStatus : Nat} {code otherCode : String}
    {message otherMessage : JsString}
    (same : err status code message = err otherStatus otherCode
      otherMessage) :
    status = otherStatus ∧ units code = units otherCode := by
  have sameCode := congrArg
    (fun response => response.body.get? (units "error")) same
  exact ⟨congrArg Response.status same,
    Json.string.inj (Option.some.inj sameCode)⟩

omit [Platform] in
theorem publicationResponse_keyConflict_iff
    (registration : RegisterBody)
    (publication : Except AgenIdError Publication) :
    (Answer.response
        (publicationResponse registration publication)).IsKeyConflict ↔
      publication = .ok .keyConflict := by
  constructor
  · intro ⟨message, isConflict⟩
    cases publication with
    | error thrown => cases congrArg Response.status isConflict
    | ok ended =>
        cases ended with
        | keyConflict => rfl
        | agentExists =>
            have sameCode := (code_of_err_eq isConflict).2
            exact absurd sameCode (by decide)
        | published record =>
            unfold publicationResponse at isConflict
            dsimp only at isConflict
            cases isPath : keyResolverPath registration.keyDocument.keyId with
            | error thrown =>
                rw [isPath] at isConflict
                cases congrArg Response.status isConflict
            | ok keyPath =>
                rw [isPath] at isConflict
                cases congrArg Response.status isConflict
  · intro isConflict
    rw [isConflict]
    exact ⟨_, rfl⟩

omit [Platform] in
theorem publicationResult_keyConflict_iff
    (registration : RegisterBody)
    (publication : Except AgenIdError Publication) :
    (Answer.result
        (publicationResult registration publication)).IsKeyConflict ↔
      publication = .ok .keyConflict := by
  constructor
  · intro ⟨message, issues, isConflict⟩
    cases publication with
    | error thrown =>
        cases (RegisterResult.fail.inj isConflict).1
    | ok ended =>
        cases ended with
        | keyConflict => rfl
        | agentExists =>
            have sameCode := (RegisterResult.fail.inj isConflict).2.1
            exact absurd sameCode (by decide)
        | published record => cases isConflict
  · intro isConflict
    rw [isConflict]
    exact ⟨_, _, rfl⟩

/-- A submission that reaches the comparison is answered with a conflict
exactly when the stored document has another text. -/
theorem Submission.Reaches.isKeyConflict_iff
    {submission : Submission} {doc : KeyDocument}
    (reaches : submission.Reaches authorityToken doc) :
    (submission.answer authorityToken handle state).IsKeyConflict ↔
      StoredForm.values.differs (handle (.getKey doc.keyId) state).1 doc =
        true := by
  unfold Submission.answer
  cases submission with
  | authorityKeys authorization body =>
      obtain ⟨isAuthorized, accepted, isAuthority⟩ := reaches
      have isParsed := safeParse_of_accepts accepted
      simp only [Submission.program, Submission.request,
        StoredForm.program, StoredForm.postAuthorityKeys, isAuthorized,
        isParsed]
      rw [if_neg (not_not.mpr isAuthority)]
      simp only [call_eq, Program.call_bind, Program.done_bind,
        Program.run_call]
      cases isDiffering : StoredForm.values.differs
          (handle (.getKey doc.keyId) state).1 doc with
      | true =>
          simp only [if_true, iff_true]
          exact ⟨_, rfl⟩
      | false =>
          simp only [Bool.false_eq_true, if_false, iff_false]
          cases keyResolverPath doc.keyId with
          | error thrown =>
              rintro ⟨message, isConflict⟩
              cases congrArg Response.status isConflict
          | ok keyPath =>
              rintro ⟨message, isConflict⟩
              cases congrArg Response.status isConflict
  | agents body clock ts keyUlid agentUlid =>
      obtain ⟨registration, isAdmitted, rfl⟩ := reaches
      rw [← values_publish_keyConflict_iff registration ts keyUlid agentUlid,
        ← publicationResponse_keyConflict_iff registration]
      simp only [Submission.program, Submission.request,
        StoredForm.program, StoredForm.postAgents, isAdmitted,
        Program.run_bind]
      rfl
  | register body clock keyUlid agentUlid =>
      obtain ⟨registration, registeredAt, isAdmitted, rfl⟩ := reaches
      rw [← values_publish_keyConflict_iff registration registeredAt keyUlid
          agentUlid,
        ← publicationResult_keyConflict_iff registration]
      simp only [Submission.program, Submission.request,
        StoredForm.program, StoredForm.registerAgent, isAdmitted,
        Program.run_bind]
      rfl

omit [Platform] in
theorem requireAuthority_ne_conflict
    {authorization : Option JsString} {message : JsString}
    (isRefused : requireAuthority authorityToken authorization =
      some (err 409 "key_conflict" message)) : False := by
  unfold requireAuthority at isRefused
  split at isRefused
  · cases congrArg (Option.map Response.status) isRefused
  · split at isRefused
    · cases congrArg (Option.map Response.status) isRefused
    · cases isRefused

/-- A submission that does not reach the comparison is not answered with a
conflict. -/
theorem Submission.not_isKeyConflict
    {submission : Submission}
    (stops : ∀ doc, ¬ submission.Reaches authorityToken doc) :
    ¬ (submission.answer authorityToken handle state).IsKeyConflict := by
  unfold Submission.answer
  cases submission with
  | authorityKeys authorization body =>
      simp only [Submission.program, Submission.request,
        StoredForm.program, StoredForm.postAuthorityKeys]
      cases isAuthorized :
          requireAuthority authorityToken authorization with
      | some refused =>
          rintro ⟨message, isConflict⟩
          obtain rfl : refused = err 409 "key_conflict" message := isConflict
          exact requireAuthority_ne_conflict isAuthorized
      | none =>
          cases isParsed : KeyDocument.schema.safeParse body with
          | error issues =>
              rintro ⟨message, isConflict⟩
              cases congrArg Response.status isConflict
          | ok doc =>
              have accepted := safeParse_eq_ok_iff.mp isParsed
              have notAuthority : doc.role ≠ .authority := by
                intro isAuthority
                exact stops doc ⟨isAuthorized, accepted, isAuthority⟩
              dsimp only
              rw [if_pos notAuthority]
              rintro ⟨message, isConflict⟩
              cases congrArg Response.status isConflict
  | agents body clock ts keyUlid agentUlid =>
      cases isAdmitted : admitRegistration body clock with
      | ok registration =>
          exact absurd ⟨registration, isAdmitted, rfl⟩ (stops _)
      | error refused =>
          have status := status_of_admitRegistration isAdmitted
          simp only [Submission.program, Submission.request,
            StoredForm.program, StoredForm.postAgents, isAdmitted]
          rintro ⟨message, isConflict⟩
          obtain rfl : refused = err 409 "key_conflict" message := isConflict
          simp [err] at status
  | register body clock keyUlid agentUlid =>
      rcases admissions_agree body clock with
        ⟨status, code, message, text, issues, isApp, isWeb⟩ |
          ⟨registration, isApp, isWeb⟩
      · have refusedStatus := status_of_admitRegistration isApp
        simp only [Submission.program, Submission.request,
          StoredForm.program, StoredForm.registerAgent, isWeb]
        rintro ⟨other, otherIssues, isConflict⟩
        obtain ⟨rfl, -⟩ := RegisterResult.fail.inj isConflict
        simp [err] at refusedStatus
      · exact absurd ⟨registration, _, isWeb, rfl⟩ (stops _)

/-- The registry accepts a stored document again and refuses every other
under its identifier exactly when, once the document itself reaches the
comparison, the store returns its members in the order of the schema. -/
theorem republication_iff
    {doc : KeyDocument} {stored : Json} (holds : HoldsAs stored doc)
    (isStored : (handle (.getKey doc.keyId) state).1 = some stored)
    (submission : Submission) :
    (submission.Submits doc →
        ¬ (submission.answer authorityToken handle state).IsKeyConflict) ∧
      (∀ other, other ≠ doc → other.keyId = doc.keyId →
        submission.Reaches authorityToken other →
          (submission.answer authorityToken handle state).IsKeyConflict) ↔
    (submission.Reaches authorityToken doc →
      namesOf stored = KeyDocument.memberNames) := by
  constructor
  · intro ⟨accepts, _⟩ reaches
    have recognized := accepts reaches.submits
    rw [reaches.isKeyConflict_iff, isStored, Bool.not_eq_true] at recognized
    exact ((holds.differs_iff doc).mp recognized).2
  · intro ordered
    constructor
    · intro submits
      by_cases reaches : submission.Reaches authorityToken doc
      · rw [reaches.isKeyConflict_iff, isStored, Bool.not_eq_true]
        exact (holds.differs_iff doc).mpr ⟨rfl, ordered reaches⟩
      · apply Submission.not_isKeyConflict
        intro other reachesOther
        obtain rfl := submits.unique reachesOther.submits
        exact reaches reachesOther
    · intro other isOther sameKeyId reaches
      rw [reaches.isKeyConflict_iff, sameKeyId, isStored]
      by_contra recognized
      rw [Bool.not_eq_true] at recognized
      exact isOther ((holds.differs_iff other).mp recognized).1

end Submissions

/-! ## A `jsonb` column -/

/-- The order in which a `jsonb` value keeps the names of an object: shorter
names first, and names of one length by their units. -/
def jsonbBefore (first second : JsString) : Prop :=
  first.length < second.length ∨
    first.length = second.length ∧ first ≤ second

instance : DecidableRel jsonbBefore := fun _ _ =>
  inferInstanceAs (Decidable (_ ∨ _))

mutual

/-- What a `jsonb` column returns of a value. -/
def jsonb : Json → Json
  | .array items => .array (jsonbItems items)
  | .object members => .object ((jsonbMembers members).insertionSort
      fun first second => jsonbBefore first.1 second.1)
  | other => other

/-- The items of an array as the column returns them. -/
def jsonbItems : List Json → List Json
  | [] => []
  | item :: rest => jsonb item :: jsonbItems rest

/-- The members of an object as the column returns them, in their order. -/
def jsonbMembers : Members → Members
  | [] => []
  | (name, value) :: rest => (name, jsonb value) :: jsonbMembers rest

end

theorem jsonbItems_eq_map (items : List Json) :
    jsonbItems items = items.map jsonb := by
  induction items with
  | nil => rfl
  | cons item rest inductionHypothesis =>
      rw [jsonbItems, inductionHypothesis, List.map_cons]

theorem jsonbMembers_eq_map (members : Members) :
    jsonbMembers members =
      members.map fun entry => (entry.1, jsonb entry.2) := by
  induction members with
  | nil => rfl
  | cons entry rest inductionHypothesis =>
      rw [jsonbMembers, inductionHypothesis, List.map_cons]

theorem distinct_jsonbMembers {members : Members}
    (distinct : Distinct members) : Distinct (jsonbMembers members) := by
  unfold Distinct
  rw [jsonbMembers_eq_map, List.map_map]
  exact distinct

/-- The members of an object, as the column returns them, are the members
that were written, each as it is returned. -/
theorem lookup_jsonb {members : Members} (distinct : Distinct members)
    (name : JsString) :
    ((jsonbMembers members).insertionSort fun first second =>
        jsonbBefore first.1 second.1).lookup name =
      (members.lookup name).map jsonb := by
  rw [(distinct_jsonbMembers distinct).lookup_perm
    (List.perm_insertionSort _ _), jsonbMembers_eq_map, lookup_map_value]

theorem wellFormed_jsonb {value : Json} (wellFormed : WellFormed value) :
    WellFormed (jsonb value) := by
  induction value using Json.inductionOn with
  | null | boolean | number | string => exact wellFormed
  | array items inductionHypothesis =>
      have inside := wellFormed_array.mp wellFormed
      rw [jsonb, jsonbItems_eq_map]
      refine wellFormed_array.mpr (List.forall_mem_map.mpr ?_)
      intro item isItem
      exact inductionHypothesis item isItem (inside item isItem)
  | object members inductionHypothesis =>
      obtain ⟨distinct, inside⟩ := wellFormed_object.mp wellFormed
      have order := List.perm_insertionSort (fun first second =>
        jsonbBefore first.1 second.1) (jsonbMembers members)
      rw [jsonb]
      refine wellFormed_object.mpr
        ⟨(distinct_jsonbMembers distinct).perm order, ?_⟩
      intro entry isEntry
      have isMember := order.mem_iff.mp isEntry
      rw [jsonbMembers_eq_map] at isMember
      obtain ⟨member, isWritten, rfl⟩ := List.mem_map.mp isMember
      exact inductionHypothesis member isWritten (inside member isWritten)

/-- A column returns the value that was written. -/
theorem same_jsonb {value : Json} (wellFormed : WellFormed value) :
    SameValue (jsonb value) value := by
  induction value using Json.inductionOn with
  | null => exact .null
  | boolean value => exact .boolean value
  | number value => exact .number rfl
  | string text => exact .string text
  | array items inductionHypothesis =>
      rw [jsonb, jsonbItems_eq_map]
      refine .array (List.length_map _) ?_
      intro index first second isFirst isSecond
      rw [List.getElem?_map, isSecond] at isFirst
      obtain rfl := Option.some.inj isFirst
      have isItem := List.mem_of_getElem? isSecond
      exact inductionHypothesis second isItem
        (wellFormed_array.mp wellFormed second isItem)
  | object members inductionHypothesis =>
      obtain ⟨distinct, inside⟩ := wellFormed_object.mp wellFormed
      rw [jsonb]
      refine sameValue_object_iff.mpr ?_
      intro name
      rw [lookup_jsonb distinct]
      cases isFound : members.lookup name with
      | none => exact .none
      | some value =>
          have isMember := mem_of_lookup isFound
          exact .some (inductionHypothesis _ isMember (inside _ isMember))

theorem wellFormed_KeyDocument (doc : KeyDocument) :
    WellFormed doc.toJson := by
  have nullable (text : Option JsString) : WellFormed (nullableText text) := by
    cases text <;> trivial
  apply wellFormed_record (of_decide_eq_true rfl)
  simp [nullable]

theorem sameValue_of_flat {value : Json} (flat : Flat value) :
    SameValue value value := by
  cases value with
  | null => exact .null
  | string text => exact .string text
  | boolean _ | number _ | array _ | object _ => cases flat

theorem holdsAs_of_perm
    {doc : KeyDocument} {written members : Members}
    (isWritten : doc.toJson = .object written)
    (order : members.Perm written) : HoldsAs (.object members) doc := by
  obtain ⟨distinct, wellFormed⟩ :=
    wellFormed_object.mp (isWritten ▸ wellFormed_KeyDocument doc)
  constructor
  · refine wellFormed_object.mpr ⟨distinct.perm order, ?_⟩
    intro entry isEntry
    exact wellFormed entry (order.mem_iff.mp isEntry)
  · rw [isWritten]
    refine sameValue_object_iff.mpr ?_
    intro name
    rw [distinct.lookup_perm order]
    cases isFound : written.lookup name with
    | none => exact .none
    | some value =>
        exact .some (sameValue_of_flat
          (flat_of_mem_toJson isWritten (mem_of_lookup isFound)))

theorem holdsAs_jsonb (doc : KeyDocument) :
    HoldsAs (jsonb doc.toJson) doc where
  wellFormed := wellFormed_jsonb (wellFormed_KeyDocument doc)
  same := same_jsonb (wellFormed_KeyDocument doc)

/-- A memory store that keeps key documents in a `jsonb` column. -/
def jsonbHandle [Platform] :
    Program.Handler StoreCall.JsonReply MemoryStore
  | .getKey keyId, store =>
    ((store.getKey keyId).map fun doc => jsonb doc.toJson, store)
  | request, store => answeringJson MemoryStore.handle request store

/-- The publication of the sample authority key. -/
def sampleSubmission : Submission :=
  .authorityKeys (some (units "Bearer secret"))
    (some sampleAuthorityKey.toJson)

theorem sampleSubmission_reaches :
    letI := samplePlatform
    sampleSubmission.Reaches sampleToken sampleAuthorityKey :=
  ⟨by decide, sampleAuthorityKey_accepted, rfl⟩

/-- On the memory store the sample key may be published again. -/
theorem republication_sample :
    letI := samplePlatform
    ¬ (sampleSubmission.answer sampleToken
      (answeringJson MemoryStore.handle)
      (MemoryStore.empty.putKey sampleAuthorityKey)).IsKeyConflict := by
  let := samplePlatform
  have holds : HoldsAs sampleAuthorityKey.toJson sampleAuthorityKey :=
    holdsAs_of_perm rfl (List.Perm.refl _)
  have isStored : ((answeringJson MemoryStore.handle)
      (.getKey sampleAuthorityKey.keyId)
      (MemoryStore.empty.putKey sampleAuthorityKey)).1 =
        some sampleAuthorityKey.toJson := rfl
  exact ((@republication_iff _ sampleToken _ _ _ _ _ holds isStored
    sampleSubmission).mpr fun _ => rfl).1 sampleAuthorityKey_accepted

/-- On a store with a `jsonb` column the sample key, published again as it
is, is answered with a conflict. -/
theorem republication_conflicts :
    letI := samplePlatform
    sampleSubmission.Submits sampleAuthorityKey ∧
      (∃ stored, (jsonbHandle (.getKey sampleAuthorityKey.keyId)
          (MemoryStore.empty.putKey sampleAuthorityKey)).1 = some stored ∧
        HoldsAs stored sampleAuthorityKey) ∧
      (sampleSubmission.answer sampleToken jsonbHandle
        (MemoryStore.empty.putKey sampleAuthorityKey)).IsKeyConflict := by
  let := samplePlatform
  have holds := holdsAs_jsonb sampleAuthorityKey
  have isStored : (jsonbHandle (.getKey sampleAuthorityKey.keyId)
      (MemoryStore.empty.putKey sampleAuthorityKey)).1 =
        some (jsonb sampleAuthorityKey.toJson) := rfl
  refine ⟨sampleAuthorityKey_accepted, ⟨_, isStored, holds⟩, ?_⟩
  rw [sampleSubmission_reaches.isKeyConflict_iff, isStored]
  by_contra recognized
  rw [Bool.not_eq_true] at recognized
  have ordered := ((holds.differs_iff _).mp recognized).2
  exact absurd ordered (by decide)

end AgenId.Registry
