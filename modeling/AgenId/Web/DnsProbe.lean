import AgenId.Core.Verified
import AgenId.Web.HeaderText

/-!
# Domain control

`dns-probe.ts` and the two routes that report what it finds.  They prove
control of a domain exactly when one of the records at its host carries the
value that is asked for, in any chunks and between any white space; a token
that ends in white space is never found.
-/

namespace AgenId.Web

open AgenId.Core
open AgenId.Ecma

/-! ## The probe -/

/-- The record that is asked for. -/
structure VerificationRecord where
  type : String
  name : JsString
  value : JsString
  ttl : ℕ

def verificationRecord (domain token : JsString) : VerificationRecord where
  type := "TXT"
  name := units "_agenid." ++ domain
  value := units "agenid-site-verification=" ++ token
  ttl := 300

/-- What `resolveTxt` answers: the chunks of each record, or an error. -/
inductive TxtAnswer where
  | records (records : List (List JsString))
  | error (code : Option JsString) (message : JsString)

structure ProbeError where
  code : Option JsString
  message : JsString

structure TxtProbe where
  host : JsString
  record : VerificationRecord
  found : Bool
  isMatched : Bool
  count : ℕ
  error : Option ProbeError

/-- `probeTxtRecord(domain, token)`, for what the resolver answers to a
host. -/
def probeTxtRecord (resolveTxt : JsString → TxtAnswer)
    (domain token : JsString) : TxtProbe :=
  let record := verificationRecord domain token
  let base : TxtProbe := ⟨record.name, record, false, false, 0, none⟩
  match resolveTxt record.name with
  | .error code message =>
    if code = some (units "ENOTFOUND") ∨ code = some (units "ENODATA") then
      base
    else
      { base with error := some ⟨code, message⟩ }
  | .records records =>
    let values := records.map List.flatten
    { base with
      found := !values.isEmpty
      isMatched := values.any fun value => trim value == record.value
      count := values.length }

def DOMAIN_CONTROL_DISCLOSURES : List String := [
  "Domain control is evidence, not a verification level. It does not by " ++
    "itself raise an agent above L1.",
  "No verification level is issued by this endpoint under any outcome.",
  "L2_DOMAIN_VERIFIED requires an assertion signed by the root authority " ++
    "key, which does not exist yet."]

/-! ## The routes -/

/-- A body that is refused. -/
structure ProbeRefusal where
  status : ℕ
  error : String
  message : String

/-- A member of a body, when it is a text. -/
def textMember (name : String) (body : Json) : Option JsString :=
  match body.get? (units name) with
  | some (.string text) => some text
  | _ => none

/-- What both routes read of a body, once the rate limit admits the request.
The body is none when it is not JSON. -/
def readProbe (tokenMessage : String) (body : Option Json) :
    Except ProbeRefusal (JsString × JsString) := do
  let body ← body.elim
    (.error ⟨400, "invalid_json", "request body must be JSON"⟩) .ok
  let domain ← ((textMember "domain" body).filter isValidHostname).elim
    (.error ⟨400, "invalid_domain", "`domain` must be a valid hostname"⟩) .ok
  let token ← ((textMember "token" body).filter fun token =>
      decide (16 ≤ token.length)).elim
    (.error ⟨400, "invalid_token", tokenMessage⟩) .ok
  return (domain, token)

/-- `/^E[A-Z]+$/`. -/
def errorCodeRegex : Regex :=
  .whole (literally "E" ++ [.run (within 'A' 'Z') 1 none])

/-- The answer of `api/verify-dns` when there are records. -/
structure ProbeAnswer where
  ok : Bool
  domain : JsString
  host : JsString
  found : Bool
  isMatched : Bool
  recordCount : ℕ
  proves : Option String
  disclosures : List String

inductive VerifyDnsResponse where
  | refused (refusal : ProbeRefusal)
  | failed (refusal : ProbeRefusal) (code : Option JsString)
  | absent (domain host : JsString) (reason : String)
  | answered (answer : ProbeAnswer)

/-- `POST` of `api/verify-dns`. -/
def postVerifyDns (resolveTxt : JsString → TxtAnswer) (body : Option Json) :
    VerifyDnsResponse :=
  match readProbe ("`token` must be the per-domain value you generated " ++
    "(>= 16 chars)") body with
  | .error refusal => .refused refusal
  | .ok (domain, token) =>
    let probe := probeTxtRecord resolveTxt domain token
    match probe.error with
    | some error =>
      .failed ⟨502, "dns_error", "The DNS lookup failed before an answer " ++
        "was returned. The record's state is unknown, not absent — try again."⟩
        (error.code.filter errorCodeRegex.test)
    | none =>
      if probe.found then
        .answered
          { ok := probe.isMatched
            domain := domain
            host := probe.host
            found := true
            isMatched := probe.isMatched
            recordCount := probe.count
            proves := if probe.isMatched then some "domain_control" else none
            disclosures := DOMAIN_CONTROL_DISCLOSURES }
      else
        .absent domain probe.host "no_txt_record"

/-- What `api/domain/status` says of the record. -/
structure DomainStatus where
  ok : Bool
  domain : JsString
  record : VerificationRecord
  status : String
  observedCount : ℕ
  otherRecordsPresent : Bool
  domainControl : Bool
  proves : Option String
  disclosures : List String

/-- `POST` of `api/domain/status`, less the provider and the keys. -/
def postDomainStatus (resolveTxt : JsString → TxtAnswer)
    (body : Option Json) : Except ProbeRefusal DomainStatus := do
  let (domain, token) ← readProbe "`token` must be >= 16 characters" body
  let txt := probeTxtRecord resolveTxt domain token
  return {
    ok := true
    domain := domain
    record := txt.record
    status := if txt.isMatched then "verified" else "pending"
    observedCount := txt.count
    otherRecordsPresent := txt.found && !txt.isMatched
    domainControl := txt.isMatched
    proves := if txt.isMatched then some "domain_control" else none
    disclosures := DOMAIN_CONTROL_DISCLOSURES }

/-! ## What is sent -/

/-- A body that both routes read. -/
structure AsksFor (body : Option Json) (domain token : JsString) : Prop where
  sent : ∃ json, body = some json ∧
    textMember "domain" json = some domain ∧
    textMember "token" json = some token
  isHostname : isValidHostname domain = true
  isLong : 16 ≤ token.length

theorem elim_eq_ok_iff
    {ε α : Type} {value : Option α} {thrown : ε} {found : α} :
    value.elim (.error thrown) .ok = Except.ok found ↔
      value = some found := by
  cases value with
  | none => simp
  | some other => simp

theorem readProbe_eq_ok_iff
    {tokenMessage : String} {body : Option Json} {domain token : JsString} :
    readProbe tokenMessage body = .ok (domain, token) ↔
      AsksFor body domain token := by
  simp only [readProbe, except_bind_eq_ok_iff, elim_eq_ok_iff,
    pure_eq_ok_iff, Option.filter_eq_some_iff, decide_eq_true_eq,
    Prod.mk.injEq]
  constructor
  · rintro ⟨json, isBody, _, ⟨isDomain, isHost⟩, _, ⟨isToken, isLong⟩, rfl,
      rfl⟩
    exact ⟨⟨json, isBody, isDomain, isToken⟩, isHost, isLong⟩
  · rintro ⟨⟨json, isBody, isDomain, isToken⟩, isHost, isLong⟩
    exact ⟨json, isBody, domain, ⟨isDomain, isHost⟩, token,
      ⟨isToken, isLong⟩, rfl, rfl⟩

theorem AsksFor.unique
    {body : Option Json} {domain token other text : JsString}
    (asks : AsksFor body domain token) (again : AsksFor body other text) :
    other = domain ∧ text = token := by
  have same : readProbe "" body = .ok (domain, token) :=
    readProbe_eq_ok_iff.mpr asks
  rw [readProbe_eq_ok_iff.mpr again] at same
  exact Prod.mk.inj (Except.ok.inj same)

/-! ## What is found -/

/-- A text between white space. -/
def IsPadded (text value : JsString) : Prop :=
  ∃ before after, (∀ unit ∈ before, isWhiteSpace unit = true) ∧
    (∀ unit ∈ after, isWhiteSpace unit = true) ∧
    text = before ++ value ++ after

/-- A text does not end in white space. -/
def EndsInk (text : JsString) : Prop :=
  ∀ last ∈ text.getLast?, isWhiteSpace last = false

theorem trim_padded (text : JsString) : IsPadded text (trim text) := by
  refine ⟨text.takeWhile isWhiteSpace,
    (text.dropWhile isWhiteSpace).rtakeWhile isWhiteSpace,
    fun _ isMember => List.mem_takeWhile_imp isMember,
    fun _ isMember => List.mem_rtakeWhile_imp isMember, ?_⟩
  rw [trim, List.append_assoc, List.rdropWhile_append_rtakeWhile,
    List.takeWhile_append_dropWhile]

theorem endsInk_trim (text : JsString) : EndsInk (trim text) := by
  intro last isLast
  obtain ⟨nonempty, rfl⟩ := List.mem_getLast?_eq_getLast isLast
  exact Bool.eq_false_of_not_eq_true
    (List.rdropWhile_last_not isWhiteSpace _ nonempty)

/-- What is trimmed to a text that starts with ink. -/
theorem trim_eq_cons_iff
    {text rest : JsString} {first : UInt16}
    (isInk : isWhiteSpace first = false) :
    trim text = first :: rest ↔
      EndsInk (first :: rest) ∧ IsPadded text (first :: rest) := by
  constructor
  · intro isTrim
    rw [← isTrim]
    exact ⟨endsInk_trim text, trim_padded text⟩
  · rintro ⟨ends, before, after, areBefore, areAfter, rfl⟩
    have isFront : (before ++ first :: rest ++ after).dropWhile
        isWhiteSpace = first :: rest ++ after := by
      rw [List.append_assoc, List.dropWhile_append_of_pos areBefore,
        List.cons_append, List.dropWhile_cons_of_neg (by simp [isInk])]
    obtain ⟨others, last, isEnd⟩ :=
      (List.eq_nil_or_concat' (first :: rest)).resolve_left
        (List.cons_ne_nil _ _)
    have notSpace : isWhiteSpace last = false := by
      refine ends last ?_
      rw [isEnd, List.getLast?_concat]
      rfl
    rw [trim, isFront, isEnd, List.append_assoc, List.singleton_append,
      rdropWhile_append_cons notSpace,
      List.rdropWhile_eq_nil_iff.mpr areAfter]

/-- One of the records of a host carries a value. -/
def PublishesValue (answer : TxtAnswer) (value : JsString) : Prop :=
  ∃ records, answer = .records records ∧
    ∃ record ∈ records, IsPadded record.flatten value

section Probe

variable {resolveTxt : JsString → TxtAnswer} {domain token : JsString}

theorem endsInk_append {text : JsString} (nonempty : text ≠ [])
    (before : JsString) : EndsInk (before ++ text) ↔ EndsInk text := by
  unfold EndsInk
  rw [List.getLast?_append_of_ne_nil _ nonempty]

theorem probe_of_records {records : List (List JsString)}
    (isAnswer : resolveTxt (units "_agenid." ++ domain) = .records records) :
    probeTxtRecord resolveTxt domain token =
      { host := units "_agenid." ++ domain
        record := verificationRecord domain token
        found := !(records.map List.flatten).isEmpty
        isMatched := (records.map List.flatten).any fun value =>
          trim value == units "agenid-site-verification=" ++ token
        count := (records.map List.flatten).length
        error := none } := by
  have isRecords : resolveTxt (verificationRecord domain token).name =
      .records records :=
    isAnswer
  simp only [probeTxtRecord, isRecords]
  rfl

theorem probe_of_error {code : Option JsString} {message : JsString}
    (isAnswer : resolveTxt (units "_agenid." ++ domain) =
      .error code message) :
    (probeTxtRecord resolveTxt domain token).isMatched = false := by
  have isError : resolveTxt (verificationRecord domain token).name =
      .error code message :=
    isAnswer
  simp only [probeTxtRecord, isError]
  split
  · rfl
  · rfl

/-- A record is matched exactly when its value is published, and the token
does not end in white space. -/
theorem probe_isMatched_iff (nonempty : token ≠ []) :
    (probeTxtRecord resolveTxt domain token).isMatched = true ↔
      EndsInk token ∧
        PublishesValue (resolveTxt (units "_agenid." ++ domain))
          (units "agenid-site-verification=" ++ token) := by
  have isValue : units "agenid-site-verification=" ++ token =
      0x61 :: (units "genid-site-verification=" ++ token) :=
    rfl
  have isInk : isWhiteSpace 0x61 = false := by decide
  have ends := endsInk_append nonempty (units "agenid-site-verification=")
  unfold PublishesValue
  cases isAnswer : resolveTxt (units "_agenid." ++ domain) with
  | error code message =>
      rw [probe_of_error isAnswer]
      constructor
      · intro isMatched
        cases isMatched
      · rintro ⟨-, _, isRecords, -⟩
        cases isRecords
  | records records =>
      rw [probe_of_records isAnswer, ← ends, isValue]
      simp only [List.any_map, List.any_eq_true, Function.comp_apply,
        beq_iff_eq, TxtAnswer.records.injEq, exists_eq_left',
        trim_eq_cons_iff isInk]
      constructor
      · rintro ⟨record, isRecord, isInk, padded⟩
        exact ⟨isInk, record, isRecord, padded⟩
      · rintro ⟨isInk, record, isRecord, padded⟩
        exact ⟨record, isRecord, isInk, padded⟩

theorem probe_of_matched
    (isMatched : (probeTxtRecord resolveTxt domain token).isMatched = true) :
    (probeTxtRecord resolveTxt domain token).found = true ∧
      (probeTxtRecord resolveTxt domain token).error = none := by
  cases isAnswer : resolveTxt (units "_agenid." ++ domain) with
  | error code message =>
      rw [probe_of_error isAnswer] at isMatched
      cases isMatched
  | records records =>
      rw [probe_of_records isAnswer] at isMatched ⊢
      cases records with
      | nil => cases isMatched
      | cons record others => exact ⟨rfl, rfl⟩

end Probe

/-! ## What is proved -/

/-- The answer of `api/verify-dns` proves control of a domain. -/
def VerifyDnsResponse.Proves (response : VerifyDnsResponse)
    (domain : JsString) : Prop :=
  ∃ answer, response = .answered answer ∧ answer.domain = domain ∧
    answer.proves = some "domain_control"

/-- The answer of `api/domain/status` proves control of a domain. -/
def StatusProves (response : Except ProbeRefusal DomainStatus)
    (domain : JsString) : Prop :=
  ∃ answer, response = .ok answer ∧ answer.domain = domain ∧
    answer.proves = some "domain_control"

section Routes

variable {resolveTxt : JsString → TxtAnswer} {body : Option Json}
  {domain : JsString}

theorem proves_of_ite_eq_some {condition : Bool}
    (proves : (if condition then some "domain_control" else none) =
      some "domain_control") : condition = true := by
  cases condition with
  | false => cases proves
  | true => rfl

theorem postVerifyDns_proves_iff_isMatched :
    (postVerifyDns resolveTxt body).Proves domain ↔
      ∃ token, AsksFor body domain token ∧
        (probeTxtRecord resolveTxt domain token).isMatched = true := by
  unfold postVerifyDns
  constructor
  · rintro ⟨answer, isAnswer, rfl, proves⟩
    split at isAnswer
    · cases isAnswer
    · rename_i sent token isRead
      dsimp only at isAnswer
      split at isAnswer
      · cases isAnswer
      · split at isAnswer
        · cases isAnswer
          exact ⟨token, readProbe_eq_ok_iff.mp isRead,
            proves_of_ite_eq_some proves⟩
        · cases isAnswer
  · rintro ⟨token, asks, isMatched⟩
    obtain ⟨isFound, noError⟩ := probe_of_matched isMatched
    rw [readProbe_eq_ok_iff.mpr asks]
    dsimp only
    rw [noError]
    dsimp only
    rw [if_pos isFound]
    exact ⟨_, rfl, rfl, if_pos isMatched⟩

theorem postDomainStatus_proves_iff_isMatched :
    StatusProves (postDomainStatus resolveTxt body) domain ↔
      ∃ token, AsksFor body domain token ∧
        (probeTxtRecord resolveTxt domain token).isMatched = true := by
  constructor
  · rintro ⟨answer, isAnswer, rfl, proves⟩
    obtain ⟨pair, isRead, isStatus⟩ := except_bind_eq_ok_iff.mp isAnswer
    obtain ⟨sent, token⟩ := pair
    cases pure_eq_ok_iff.mp isStatus
    exact ⟨token, readProbe_eq_ok_iff.mp isRead,
      proves_of_ite_eq_some proves⟩
  · rintro ⟨token, asks, isMatched⟩
    unfold postDomainStatus
    rw [readProbe_eq_ok_iff.mpr asks]
    exact ⟨_, rfl, rfl, if_pos isMatched⟩

/-- Control of a domain is proved exactly by a long token that does not end in
white space, of which the value is published at the host of the domain. -/
theorem postVerifyDns_proves_iff :
    (postVerifyDns resolveTxt body).Proves domain ↔
      ∃ token, AsksFor body domain token ∧ EndsInk token ∧
        PublishesValue (resolveTxt (units "_agenid." ++ domain))
          (units "agenid-site-verification=" ++ token) := by
  rw [postVerifyDns_proves_iff_isMatched]
  refine exists_congr fun token => and_congr_right fun asks => ?_
  refine probe_isMatched_iff ?_
  rintro rfl
  exact absurd asks.isLong (by decide)

theorem postDomainStatus_proves_iff :
    StatusProves (postDomainStatus resolveTxt body) domain ↔
      (postVerifyDns resolveTxt body).Proves domain := by
  rw [postDomainStatus_proves_iff_isMatched,
    postVerifyDns_proves_iff_isMatched]

end Routes

end AgenId.Web
