import AgenId.Core.KeysDocument
import AgenId.Ecma.JsonText
import AgenId.Ecma.Splitting
import AgenId.Ecma.Utf8Decode
import AgenId.Library.Chunks
import AgenId.Web.HeaderText

/-!
# Probing the keys of a domain

`key-discovery.ts`: the document of an operator's keys is fetched from its
own domain, read up to a bound and classified.  The body arrives in chunks;
what the probe says depends on their bytes alone.
-/

namespace AgenId.Web

open AgenId.Core
open AgenId.Ecma
open AgenId.Library
open AgenId.Validation

/-! ## Responses -/

/-- The chunks that a body yields, and whether reading fails behind them. -/
structure BodyStream where
  chunks : List (List UInt8)
  fails : Bool

/-- A response to the probe, with the headers that it reads. -/
structure KeysResponse where
  status : ℕ
  contentType : Option JsString
  contentLength : Option JsString
  body : Option BodyStream

inductive KeyDiscoveryState where
  | absent | invalid | published | unreachable
  deriving DecidableEq

inductive KeyDiscoveryReason where
  | not_json | malformed_json | schema_invalid | controller_domain_mismatch
  | too_large
  | http (status : ℕ)
  deriving DecidableEq

structure KeyDiscoveryResult where
  state : KeyDiscoveryState
  reason : Option KeyDiscoveryReason
  url : JsString
  httpStatus : Option ℕ
  keyCount : Option ℕ
  deriving DecidableEq

def keyDocumentUrl (domain : JsString) : JsString :=
  units "https://" ++ domain ++ units "/.well-known/agenid/keys.json"

def MAX_KEYS_DOCUMENT_BYTES : ℕ := 64 * 1024

/-! ## The type of the content -/

section ContentType

variable [CaseData]

/-- `[a-z0-9.+-]`. -/
def isSubtypeUnit (unit : UInt16) : Bool :=
  within 'a' 'z' unit || isDigit unit || isOneOf ['.', '+', '-'] unit

/-- `/^application\/[a-z0-9.+-]+\+json$/`. -/
def structuredJson : Regex :=
  .whole (literally "application/" ++ .run isSubtypeUnit 1 none ::
    literally "+json")

def isJsonContentType : Option JsString → Bool
  | none => false
  | some [] => false
  | some value =>
    let essence := Ecma.toLowerCase (trim ((splitOnUnit 0x3B value).headD []))
    decide (essence = units "application/json") ||
      structuredJson.test essence

end ContentType

/-! ## Reading the body -/

/-- The chunks that are kept of a body, and how many bytes were read. -/
structure Reading where
  chunks : List (List UInt8)
  total : ℕ

def Reading.start : Reading := ⟨[], 0⟩

/-- How reading ends: with the body, with a chunk that crosses the bound and
what was not read behind it, or with an error. -/
inductive ReadEnd where
  | done (reading : Reading)
  | crossed (unread : List (List UInt8))
  | failed

/-- One more chunk, unless it crosses the bound. -/
def Reading.receive (limit : ℕ) (reading : Reading) (value : List UInt8) :
    Option Reading :=
  let total := reading.total + value.length
  if limit < total then none else some ⟨reading.chunks ++ [value], total⟩

/-- The loop of `readBounded`. -/
def readChunks (limit : ℕ) (fails : Bool) :
    Reading → List (List UInt8) → ReadEnd
  | reading, [] => if fails then .failed else .done reading
  | reading, value :: rest =>
    match reading.receive limit value with
    | none => .crossed rest
    | some next => readChunks limit fails next rest

/-- The bytes of a body that was read, each chunk set at its offset. -/
def Reading.bytes (reading : Reading) : List UInt8 :=
  overwriteAll (List.replicate reading.total 0) 0 reading.chunks

/-- `Number(res.headers.get("content-length"))`. -/
def declaredLength : Option JsString → JsNumber
  | none => roundToNumber false 0
  | some text => toNumber text

/-- `readBounded(res, limit)`: the text of the body, `null` when it is larger,
or an error. -/
def readBounded (res : KeysResponse) (limit : ℕ) :
    Except Unit (Option JsString) :=
  if exceeds limit (declaredLength res.contentLength) then
    .ok none
  else
    match res.body with
    | none => .ok (some [])
    | some stream =>
      match readChunks limit stream.fails .start stream.chunks with
      | .done reading => .ok (some (decodeUtf8 reading.bytes))
      | .crossed _ => .ok none
      | .failed => .error ()

/-! ## The probe -/

section Probe

variable [Platform] [CaseData] (domain : JsString)

/-- A result of the probe of a domain. -/
def probeResult (state : KeyDiscoveryState) (reason : Option KeyDiscoveryReason)
    (httpStatus : Option ℕ) (keyCount : Option ℕ) : KeyDiscoveryResult :=
  ⟨state, reason, keyDocumentUrl domain, httpStatus, keyCount⟩

/-- What the text of the document is found to be. -/
def probeText (status : ℕ) (text : JsString) : KeyDiscoveryResult :=
  match parseJson text with
  | none => probeResult domain .invalid (some .malformed_json) status none
  | some parsed =>
    match KeysDocument.schema.safeParse (some parsed) with
    | .error _ => probeResult domain .invalid (some .schema_invalid) status none
    | .ok doc =>
      if Ecma.toLowerCase doc.controllerDomain ≠ Ecma.toLowerCase domain then
        probeResult domain .invalid (some .controller_domain_mismatch) status
          none
      else
        probeResult domain .published none status (some doc.keys.length)

/-- `probeKeyDiscovery(domain, opts)`, on what the fetch resolves to. -/
def probeKeyDiscovery (fetched : Option KeysResponse) : KeyDiscoveryResult :=
  match fetched with
  | none => probeResult domain .unreachable none none none
  | some res =>
    let status := res.status
    if status = 404 ∨ status = 410 then
      probeResult domain .absent none status none
    else if 500 ≤ status then
      probeResult domain .unreachable (some (.http status)) status none
    else if status < 200 ∨ 300 ≤ status then
      probeResult domain .invalid (some (.http status)) status none
    else if !isJsonContentType res.contentType then
      probeResult domain .invalid (some .not_json) status none
    else
      match readBounded res MAX_KEYS_DOCUMENT_BYTES with
      | .error _ => probeResult domain .unreachable none status none
      | .ok none => probeResult domain .invalid (some .too_large) status none
      | .ok (some text) => probeText domain status text

end Probe

/-! ## What the loop reads -/

section Loop

variable {limit : ℕ} {reading : Reading} {chunks : List (List UInt8)}

/-- The states that the loop goes through on chunks. -/
inductive Visits (limit : ℕ) : Reading → List (List UInt8) → Reading → Prop
  | here {reading : Reading} {chunks : List (List UInt8)} :
    Visits limit reading chunks reading
  | next {reading next visited : Reading} {value : List UInt8}
    {rest : List (List UInt8)}
    (received : reading.receive limit value = some next)
    (later : Visits limit next rest visited) :
    Visits limit reading (value :: rest) visited

/-- The number of bytes is that of the chunks, and within the bound. -/
structure Reading.Fits (limit : ℕ) (reading : Reading) : Prop where
  counted : reading.total = reading.chunks.flatten.length
  within : reading.total ≤ limit

theorem Reading.fits_start : Reading.start.Fits limit :=
  ⟨rfl, Nat.zero_le limit⟩

theorem Reading.receive_eq_some_iff {value : List UInt8} {next : Reading} :
    reading.receive limit value = some next ↔
      reading.total + value.length ≤ limit ∧
        next = ⟨reading.chunks ++ [value], reading.total + value.length⟩ := by
  unfold Reading.receive
  by_cases crosses : limit < reading.total + value.length
  · simp [crosses]
  · simp [crosses, not_lt.mp crosses, eq_comm]

theorem Reading.receive_eq_none_iff {value : List UInt8} :
    reading.receive limit value = none ↔
      limit < reading.total + value.length := by
  unfold Reading.receive
  simp

theorem Reading.Fits.receive
    (fits : reading.Fits limit) {value : List UInt8} {next : Reading}
    (received : reading.receive limit value = some next) :
    next.Fits limit := by
  obtain ⟨within, isNext⟩ := Reading.receive_eq_some_iff.mp received
  rw [isNext]
  refine ⟨?_, within⟩
  dsimp only
  rw [fits.counted, List.flatten_append, List.length_append]
  simp

/-- Whatever the loop holds fits. -/
theorem Visits.fits
    {visited : Reading} (visits : Visits limit reading chunks visited)
    (fits : reading.Fits limit) : visited.Fits limit := by
  induction visits with
  | here => exact fits
  | next received later inductionHypothesis =>
      exact inductionHypothesis (fits.receive received)

theorem readChunks_within
    (within : reading.total + chunks.flatten.length ≤ limit) :
    readChunks limit false reading chunks = .done
      ⟨reading.chunks ++ chunks, reading.total + chunks.flatten.length⟩ := by
  induction chunks generalizing reading with
  | nil =>
      rw [List.append_nil]
      rfl
  | cons value rest inductionHypothesis =>
      rw [List.flatten_cons, List.length_append] at within
      have received : reading.receive limit value =
          some ⟨reading.chunks ++ [value], reading.total + value.length⟩ :=
        Reading.receive_eq_some_iff.mpr ⟨by omega, rfl⟩
      rw [readChunks, received]
      dsimp only
      rw [inductionHypothesis (by dsimp only; omega), List.append_assoc,
        List.singleton_append, List.flatten_cons, List.length_append,
        Nat.add_assoc]

/-- The loop stops at the first chunk that crosses what is left of the
bound. -/
theorem readChunks_crossed_iff
    (inBound : reading.total ≤ limit) {unread : List (List UInt8)} :
    readChunks limit false reading chunks = .crossed unread ↔
      ∃ before crossing, CrossesAt (limit - reading.total) chunks before
        crossing unread := by
  induction chunks generalizing reading with
  | nil =>
      constructor
      · intro isCrossed
        cases isCrossed
      · rintro ⟨before, crossing, crosses⟩
        exact absurd crosses not_crossesAt_nil
  | cons value rest inductionHypothesis =>
      rw [readChunks]
      cases received : reading.receive limit value with
      | none =>
          have beyond := Reading.receive_eq_none_iff.mp received
          have isFirst : limit - reading.total < value.length := by
            omega
          rw [crossesAt_first_iff isFirst]
          dsimp only
          rw [ReadEnd.crossed.injEq]
      | some next =>
          obtain ⟨inside, isNext⟩ := Reading.receive_eq_some_iff.mp received
          have within : value.length ≤ limit - reading.total := by
            omega
          have stillIn : next.total ≤ limit := by
            rw [isNext]
            exact inside
          dsimp only
          rw [inductionHypothesis stillIn, crossesAt_later_iff within, isNext,
            Nat.sub_sub]

/-- A body beyond the bound is not read to its end. -/
theorem readChunks_beyond (inBound : reading.total ≤ limit)
    (beyond : limit < reading.total + chunks.flatten.length) :
    ∃ unread, readChunks limit false reading chunks = .crossed unread := by
  have isLong : limit - reading.total < chunks.flatten.length := by
    omega
  obtain ⟨unread, crosses⟩ := exists_crossesAt isLong
  exact ⟨unread, (readChunks_crossed_iff inBound).mpr crosses⟩

theorem Reading.Fits.bytes_eq (fits : reading.Fits limit) :
    reading.bytes = reading.chunks.flatten := by
  apply overwriteAll_whole
  rw [List.length_replicate]
  exact fits.counted

end Loop

/-! ## What the probe depends on -/

/-- A response but for its body. -/
structure ResponseHead where
  status : ℕ
  contentType : Option JsString
  contentLength : Option JsString

/-- A response whose body, if it has one, arrives in chunks without an
error. -/
def ResponseHead.respond (head : ResponseHead)
    (body : Option (List (List UInt8))) : KeysResponse :=
  ⟨head.status, head.contentType, head.contentLength,
    body.map fun chunks => ⟨chunks, false⟩⟩

/-- The bytes of a body. -/
def bodyBytes (body : Option (List (List UInt8))) : List UInt8 :=
  (body.getD []).flatten

/-- A whole body is done within the bound and crossed beyond it. -/
theorem readChunks_start (limit : ℕ) (chunks : List (List UInt8)) :
    (limit < chunks.flatten.length →
      ∃ unread, readChunks limit false .start chunks = .crossed unread) ∧
    (chunks.flatten.length ≤ limit →
      ∃ reading, readChunks limit false .start chunks = .done reading ∧
        reading.bytes = chunks.flatten) := by
  have isStart : Reading.start.total + chunks.flatten.length =
      chunks.flatten.length := Nat.zero_add _
  constructor
  · intro beyond
    apply readChunks_beyond (Nat.zero_le limit)
    rw [isStart]
    exact beyond
  · intro within
    have fits : (⟨chunks, chunks.flatten.length⟩ : Reading).Fits limit :=
      ⟨rfl, within⟩
    have isDone := @readChunks_within limit .start chunks (by rwa [isStart])
    rw [isStart] at isDone
    exact ⟨_, isDone, fits.bytes_eq⟩

/-- Reading a body gives the text of its bytes when they, and their declared
number, are within the bound. -/
theorem readBounded_respond
    (head : ResponseHead) (body : Option (List (List UInt8))) (limit : ℕ) :
    readBounded (head.respond body) limit = .ok
      (if exceeds limit (declaredLength head.contentLength) ∨
        limit < (bodyBytes body).length then none
      else some (decodeUtf8 (bodyBytes body))) := by
  have isHeader : (head.respond body).contentLength = head.contentLength := rfl
  rw [readBounded, isHeader]
  by_cases declared : exceeds limit (declaredLength head.contentLength) = true
  · rw [if_pos declared, if_pos (Or.inl declared)]
  · rw [if_neg declared]
    simp only [declared, Bool.false_eq_true, false_or]
    cases body with
    | none =>
        have isSmall : ¬ limit < (bodyBytes none).length :=
          Nat.not_lt_zero limit
        rw [if_neg isSmall]
        rfl
    | some chunks =>
        have isBytes : bodyBytes (some chunks) = chunks.flatten := rfl
        have isBody : (head.respond (some chunks)).body =
            some ⟨chunks, false⟩ := rfl
        obtain ⟨ifBeyond, ifWithin⟩ := readChunks_start limit chunks
        rw [isBytes, isBody]
        dsimp only
        by_cases beyond : limit < chunks.flatten.length
        · obtain ⟨unread, isCrossed⟩ := ifBeyond beyond
          rw [isCrossed, if_pos beyond]
        · obtain ⟨reading, isDone, isWhole⟩ := ifWithin (not_lt.mp beyond)
          rw [isDone, if_neg beyond]
          dsimp only
          rw [isWhole]

section Specified

variable [CaseData]

/-- A JSON type: `application/json`, or a type of its structured syntax;
parameters and case do not matter. -/
def IsJsonType (contentType : Option JsString) : Prop :=
  ∃ text, contentType = some text ∧
    let essence := Ecma.toLowerCase (trim (text.takeWhile (· ≠ 0x3B)))
    essence = units "application/json" ∨
      ∃ name, name ≠ [] ∧ (∀ unit ∈ name, isSubtypeUnit unit = true) ∧
        essence = units "application/" ++ name ++ units "+json"

omit [CaseData] in
theorem structuredJson_iff {text : JsString} :
    structuredJson.test text = true ↔
      ∃ name, name ≠ [] ∧ (∀ unit ∈ name, isSubtypeUnit unit = true) ∧
        text = units "application/" ++ name ++ units "+json" := by
  simp only [structuredJson, Regex.whole, Regex.test, literally,
    List.any_cons, List.any_nil, Bool.or_false, if_true, List.append_assoc,
    List.cons_append]
  rw [matchesAt_units_iff]
  constructor
  · rintro ⟨rest, isText, matched⟩
    obtain ⟨name, ending, isRest, areUnits, nonempty, -, isEnding⟩ :=
      matchesAt_run_iff.mp matched
    obtain ⟨final, isFinal, ended⟩ := matchesAt_units_iff.mp isEnding
    have noMore : final = [] := matchesAt_finish.mp ended
    refine ⟨name, List.length_pos_iff.mp nonempty, areUnits, ?_⟩
    rw [isText, isRest, isFinal, noMore, List.append_nil]
  · rintro ⟨name, nonempty, areUnits, isText⟩
    refine ⟨name ++ units "+json", isText, ?_⟩
    refine matchesAt_run_iff.mpr ⟨name, units "+json", rfl, areUnits,
      List.length_pos_iff.mpr nonempty, rfl, ?_⟩
    exact matchesAt_units_iff.mpr ⟨[], (List.append_nil _).symm,
      matchesAt_finish.mpr rfl⟩

theorem isJsonContentType_iff {contentType : Option JsString} :
    isJsonContentType contentType = true ↔ IsJsonType contentType := by
  match contentType with
  | none =>
      constructor
      · intro isJson
        cases isJson
      · rintro ⟨text, isText, -⟩
        cases isText
  | some [] =>
      constructor
      · intro isJson
        cases isJson
      · rintro ⟨text, isText, isPlain | ⟨name, -, -, isStructured⟩⟩
        · rw [← Option.some.inj isText] at isPlain
          cases isPlain
        · rw [← Option.some.inj isText] at isStructured
          cases isStructured
  | some (first :: others) =>
      have isTested : isJsonContentType (some (first :: others)) =
          (decide (Ecma.toLowerCase (trim ((first :: others).takeWhile
              (· ≠ 0x3B))) = units "application/json") ||
            structuredJson.test (Ecma.toLowerCase (trim
              ((first :: others).takeWhile (· ≠ 0x3B))))) := by
        rw [← headD_splitOnUnit]
        rfl
      rw [isTested, Bool.or_eq_true, decide_eq_true_iff, structuredJson_iff]
      constructor
      · intro isJson
        exact ⟨first :: others, rfl, isJson⟩
      · rintro ⟨text, isText, isJson⟩
        rw [← Option.some.inj isText] at isJson
        exact isJson

variable [Platform]

/-- What makes a response a published document of a domain, in terms of the
bytes of its body. -/
structure Publishes (domain : JsString) (head : ResponseHead)
    (bytes : List UInt8) : Prop where
  success : 200 ≤ head.status ∧ head.status < 300
  jsonType : IsJsonType head.contentType
  declared : ∀ datum, declaredLength head.contentLength = .finite datum →
    numericValue datum ≤ 65536
  small : bytes.length ≤ 65536
  document : ∃ parsed doc, parseJson (decodeUtf8 bytes) = some parsed ∧
    KeysDocument.schema.accepts (some parsed) = some doc ∧
    Ecma.toLowerCase doc.controllerDomain = Ecma.toLowerCase domain

/-- The probe as a function of the bytes of the body. -/
def probeBytes (domain : JsString) (head : ResponseHead)
    (bytes : List UInt8) : KeyDiscoveryResult :=
  let status := head.status
  if status = 404 ∨ status = 410 then
    probeResult domain .absent none status none
  else if 500 ≤ status then
    probeResult domain .unreachable (some (.http status)) status none
  else if status < 200 ∨ 300 ≤ status then
    probeResult domain .invalid (some (.http status)) status none
  else if !isJsonContentType head.contentType then
    probeResult domain .invalid (some .not_json) status none
  else if exceeds MAX_KEYS_DOCUMENT_BYTES
      (declaredLength head.contentLength) ∨
        MAX_KEYS_DOCUMENT_BYTES < bytes.length then
    probeResult domain .invalid (some .too_large) status none
  else
    probeText domain status (decodeUtf8 bytes)

/-- Only the bytes of a body matter, not how they arrive. -/
theorem probeKeyDiscovery_respond
    (domain : JsString) (head : ResponseHead)
    (body : Option (List (List UInt8))) :
    probeKeyDiscovery domain (some (head.respond body)) =
      probeBytes domain head (bodyBytes body) := by
  unfold probeKeyDiscovery probeBytes
  dsimp only
  rw [readBounded_respond]
  dsimp only [ResponseHead.respond]
  by_cases tooLarge : exceeds MAX_KEYS_DOCUMENT_BYTES
      (declaredLength head.contentLength) ∨
        MAX_KEYS_DOCUMENT_BYTES < (bodyBytes body).length
  · rw [if_pos tooLarge, if_pos tooLarge]
    rfl
  · rw [if_neg tooLarge, if_neg tooLarge]
    rfl

theorem probeText_state_iff
    {domain text : JsString} {status : ℕ} :
    (probeText domain status text).state = .published ↔
      ∃ parsed doc, parseJson text = some parsed ∧
        KeysDocument.schema.accepts (some parsed) = some doc ∧
        Ecma.toLowerCase doc.controllerDomain = Ecma.toLowerCase domain := by
  unfold probeText
  cases isParsed : parseJson text with
  | none => simp [probeResult]
  | some parsed =>
      dsimp only
      cases isRead : KeysDocument.schema.safeParse (some parsed) with
      | error issues =>
          constructor
          · intro isPublished
            cases isPublished
          · rintro ⟨other, doc, isSame, accepted, -⟩
            rw [← Option.some.inj isSame] at accepted
            rw [Schema.safeParse_of_accepts accepted] at isRead
            cases isRead
      | ok doc =>
          have accepted := Schema.safeParse_eq_ok_iff.mp isRead
          dsimp only
          by_cases sameDomain : Ecma.toLowerCase doc.controllerDomain =
              Ecma.toLowerCase domain
          · rw [if_neg (not_not.mpr sameDomain)]
            exact iff_of_true rfl ⟨parsed, doc, rfl, accepted, sameDomain⟩
          · rw [if_pos sameDomain]
            constructor
            · intro isPublished
              cases isPublished
            · rintro ⟨other, found, isSame, isFound, isDomain⟩
              rw [← Option.some.inj isSame, accepted] at isFound
              rw [← Option.some.inj isFound] at isDomain
              exact absurd isDomain sameDomain

theorem probeBytes_state_iff
    {domain : JsString} {head : ResponseHead} {bytes : List UInt8} :
    (probeBytes domain head bytes).state = .published ↔
      Publishes domain head bytes := by
  constructor
  · intro isPublished
    unfold probeBytes at isPublished
    dsimp only at isPublished
    split_ifs at isPublished with isAbsent isServer isOther notJson tooLarge
    · cases isPublished
    · cases isPublished
    · cases isPublished
    · cases isPublished
    · cases isPublished
    · rw [not_or] at isOther tooLarge
      rw [Bool.not_eq_true, Bool.not_eq_false'] at notJson
      have declared := exceeds_eq_false_iff.mp
        (Bool.not_eq_true _ ▸ tooLarge.1)
      exact ⟨by omega, isJsonContentType_iff.mp notJson, declared,
        not_lt.mp tooLarge.2, probeText_state_iff.mp isPublished⟩
  · rintro ⟨success, jsonType, declared, small, document⟩
    have isJson := isJsonContentType_iff.mpr jsonType
    have isWithin : ¬ (exceeds MAX_KEYS_DOCUMENT_BYTES
        (declaredLength head.contentLength) = true ∨
          MAX_KEYS_DOCUMENT_BYTES < bytes.length) := by
      rw [not_or, Bool.not_eq_true, exceeds_eq_false_iff]
      exact ⟨declared, not_lt.mpr small⟩
    unfold probeBytes
    dsimp only
    rw [if_neg (by omega), if_neg (by omega), if_neg (by omega), isJson,
      if_neg (by decide), if_neg isWithin, probeText_state_iff]
    exact document

/-- For a response whose body arrives without an error, in any chunks: it is
a published document exactly when its bytes and headers make it one; the
result is that of the bytes; the loop keeps no more than the bound at any
time, and stops at the first chunk that crosses it. -/
theorem probe_depends_on_bytes
    (domain : JsString) (head : ResponseHead)
    (body : Option (List (List UInt8))) :
    ((probeKeyDiscovery domain (some (head.respond body))).state =
        .published ↔
      Publishes domain head (bodyBytes body)) ∧
    (∀ other, bodyBytes other = bodyBytes body →
      probeKeyDiscovery domain (some (head.respond other)) =
        probeKeyDiscovery domain (some (head.respond body))) ∧
    ∀ chunks,
      (∀ visited, Visits MAX_KEYS_DOCUMENT_BYTES .start chunks visited →
        visited.chunks.flatten.length ≤ 65536) ∧
      (∀ unread, readChunks MAX_KEYS_DOCUMENT_BYTES false .start chunks =
          .crossed unread ↔
        ∃ before crossing, CrossesAt 65536 chunks before crossing unread) := by
  refine ⟨?_, ?_, ?_⟩
  · rw [probeKeyDiscovery_respond]
    exact probeBytes_state_iff
  · intro other sameBytes
    rw [probeKeyDiscovery_respond, probeKeyDiscovery_respond, sameBytes]
  · intro chunks
    constructor
    · intro visited visits
      have fits := visits.fits Reading.fits_start
      rw [← fits.counted]
      exact fits.within
    · intro unread
      exact readChunks_crossed_iff (Nat.zero_le _)

end Specified

end AgenId.Web
