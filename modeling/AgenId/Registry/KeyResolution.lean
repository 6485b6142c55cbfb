import AgenId.Core.Identified
import AgenId.Core.WindowSoundness
import AgenId.Registry.ServeKey
import Mathlib.Data.List.Forall2

/-!
# Which references resolve

A key is served to the literal wire form as the last segment of a path, and to
one value of `key_id` that decodes to the logical form; to no other spelling.
-/

namespace AgenId.Registry

open AgenId.Core
open AgenId.Ecma
open AgenId.Validation
open AgenId.Validation.Schema

/-! ## The parts of a target -/

/-- What stands before the first question mark. -/
def targetPath (target : JsString) : JsString :=
  target.takeWhile (· ≠ 0x3F)

/-- What stands after the first question mark. -/
def targetQuery (target : JsString) : JsString :=
  (target.dropWhile (· ≠ 0x3F)).drop 1

/-- What stands after the last slash. -/
def lastSegment (path : JsString) : JsString :=
  path.rtakeWhile (· ≠ 0x2F)

/-- The name of a pair of a query. -/
def pairName (pair : JsString) : JsString :=
  pair.takeWhile (· ≠ 0x3D)

/-- The value of a pair of a query. -/
def pairValue (pair : JsString) : JsString :=
  (pair.dropWhile (· ≠ 0x3D)).drop 1

/-- The pairs of a target's query that are named `key_id`. -/
def keyIdPairs (target : JsString) : List JsString :=
  (splitOnUnit 0x26 (targetQuery target)).filter
    fun pair => pairName pair = units "key_id"

/-! ## Origin form -/

theorem originForm_of_not_infix
    {url : JsString} (noScheme : ¬ units "://" <:+: url) :
    originForm url = url := by
  rw [originForm, indexOf?_eq_none_iff.mpr noScheme]

theorem originForm_of_notMem
    {url : JsString} (noColon : (0x3A : UInt16) ∉ url) :
    originForm url = url := by
  apply originForm_of_not_infix
  intro isInfix
  exact noColon (isInfix.mem (by decide))

/-- An absolute URL is reduced to what follows its host. -/
theorem originForm_absolute
    {host target : JsString} (inHost : (0x2F : UInt16) ∉ host)
    (isTarget : target.head? = some 0x2F) :
    originForm (units "https://" ++ host ++ target) = target := by
  obtain ⟨tail, rfl⟩ : ∃ tail, target = 0x2F :: tail := by
    cases target with
    | nil => cases isTarget
    | cons head tail =>
        obtain rfl := Option.some.inj isTarget
        exact ⟨tail, rfl⟩
  have scheme : indexOf? (units "://")
      (units "https://" ++ host ++ 0x2F :: tail) = some 5 := rfl
  have dropped : (units "https://" ++ host ++ 0x2F :: tail).drop (5 + 3) =
      host ++ 0x2F :: tail := rfl
  have offset : indexOf? (units "/") (host ++ 0x2F :: tail) =
      some host.length := by
    change indexOf? [0x2F] _ = _
    rw [indexOf?_unit, if_pos (by simp), takeWhile_append_unit inHost]
  rw [originForm, scheme]
  dsimp only
  rw [dropped, offset]
  dsimp only
  rw [← List.drop_drop, dropped, List.drop_left]

/-- A text is its own origin form exactly when it has no scheme separator
anywhere. -/
theorem originForm_eq_self_iff {url : JsString} :
    originForm url = url ↔ ¬ units "://" <:+: url := by
  constructor
  · intro same isInfix
    have nonempty : 3 ≤ url.length := isInfix.length_le
    unfold originForm at same
    split at same
    · rename_i isNone
      exact indexOf?_eq_none_iff.mp isNone isInfix
    · split at same
      · rw [← same] at nonempty
        exact absurd nonempty (by decide)
      · have shorter := congrArg List.length same
        rw [List.length_drop] at shorter
        omega
  · exact originForm_of_not_infix

/-! ## What is read from a target -/

theorem splitTarget_eq (url : JsString) :
    splitTarget url =
      if (0x23 : UInt16) ∈ originForm url then
        .error KEY_ERROR_MESSAGES.fragment
      else
        .ok ⟨targetPath (originForm url), targetQuery (originForm url)⟩ := by
  have mark : units "?" = [0x3F] := by decide
  unfold splitTarget
  dsimp only
  rw [mark, slice_before_indexOf?, slice_after_indexOf?]
  simp only [includesUnit, List.contains_iff_mem]
  rfl

theorem ENCODED_HASH_test_iff {text : JsString} :
    ENCODED_HASH.test text = true ↔ [0x25, 0x32, 0x33] <:+: text := by
  have spelled : units "%23" = [0x25, 0x32, 0x33] := by decide
  rw [← spelled, ← @matchesFrom_literal_iff _ _ none]
  simp [ENCODED_HASH, Regex.test, literally]

theorem rawKeyPathSegment_eq_ok_iff {url segment : JsString} :
    rawKeyPathSegment url = .ok segment ↔
      (0x23 : UInt16) ∉ originForm url ∧
        segment = lastSegment (targetPath (originForm url)) ∧
        (0x25 : UInt16) ∉ segment := by
  unfold rawKeyPathSegment
  rw [splitTarget_eq]
  by_cases hasHash : (0x23 : UInt16) ∈ originForm url
  · rw [if_pos hasHash]
    constructor
    · intro isOk
      cases isOk
    · intro conditions
      exact absurd hasHash conditions.1
  · have isSegment : ∀ path : JsString,
        path.drop ((lastIndexOf? 0x2F path).elim 0 (· + 1)) =
          lastSegment path := fun _ => slice_after_lastIndexOf?
    rw [if_neg hasHash, except_ok_bind]
    dsimp only
    rw [isSegment]
    generalize lastSegment (targetPath (originForm url)) = last
    by_cases hasEscape : (0x25 : UInt16) ∈ last
    · have isEscape : includesUnit 0x25 last = true := by
        simpa [includesUnit] using hasEscape
      constructor
      · intro isOk
        rw [isEscape] at isOk
        cases hash : ENCODED_HASH.test last <;> rw [hash] at isOk <;>
          cases isOk
      · intro conditions
        obtain ⟨-, same, notMember⟩ := conditions
        exact absurd (same ▸ hasEscape) notMember
    · have noEscape : includesUnit 0x25 last = false := by
        simpa [includesUnit] using hasEscape
      have noHash : ENCODED_HASH.test last = false := by
        apply Bool.eq_false_of_not_eq_true
        intro isHash
        have isInfix := ENCODED_HASH_test_iff.mp isHash
        exact hasEscape (isInfix.mem (by decide))
      rw [noHash, noEscape]
      constructor
      · intro isOk
        obtain rfl := Except.ok.inj isOk
        exact ⟨hasHash, rfl, hasEscape⟩
      · intro conditions
        rw [conditions.2.1]
        rfl

/-- One value that is read: a pair's, decoded once. -/
def ReadsAs (pair value : JsString) : Prop :=
  ¬ [0x25, 0x32, 0x33] <:+: pairValue pair ∧
    decodeURIComponent (pairValue pair) = some value

theorem keyIdValues_cons_of_other
    {pair : JsString} (other : pairName pair ≠ units "key_id")
    (rest values : List JsString) :
    keyIdValues (pair :: rest) values = keyIdValues rest values := by
  have mark : units "=" = [0x3D] := by decide
  rw [keyIdValues]
  dsimp only
  rw [mark, slice_before_indexOf?]
  change (if pair.length = 0 then _ else
    if pairName pair ≠ units "key_id" then _ else _) = _
  rw [if_pos other, ite_self]

theorem keyIdValues_cons_of_named
    {pair : JsString} (named : pairName pair = units "key_id")
    (rest values all : List JsString) :
    keyIdValues (pair :: rest) values = .ok all ↔
      ∃ value, ReadsAs pair value ∧
        keyIdValues rest (values ++ [value]) = .ok all := by
  have mark : units "=" = [0x3D] := by decide
  have nonempty : pair.length ≠ 0 := by
    intro empty
    rw [List.length_eq_zero_iff.mp empty] at named
    exact absurd named (by decide)
  rw [keyIdValues]
  dsimp only
  rw [mark, slice_before_indexOf?, slice_after_indexOf?, if_neg nonempty]
  rw [← pairName, ← pairValue, if_neg (not_not.mpr named)]
  unfold ReadsAs
  rw [← ENCODED_HASH_test_iff]
  cases hash : ENCODED_HASH.test (pairValue pair) with
  | true => simp
  | false =>
      cases isDecoded : decodeURIComponent (pairValue pair) with
      | none => simp
      | some value => simp

theorem keyIdValues_eq_ok_iff {pairs values all : List JsString} :
    keyIdValues pairs values = .ok all ↔
      ∃ more, all = values ++ more ∧
        List.Forall₂ ReadsAs
          (pairs.filter fun pair => pairName pair = units "key_id") more := by
  induction pairs generalizing values with
  | nil =>
      simp only [keyIdValues, Except.ok.injEq, List.filter_nil,
        List.forall₂_nil_left_iff]
      constructor
      · intro same
        exact ⟨[], by simp [same], rfl⟩
      · intro isRead
        obtain ⟨more, isAll, rfl⟩ := isRead
        simp [isAll]
  | cons pair rest inductionHypothesis =>
      by_cases named : pairName pair = units "key_id"
      · have kept : (pair :: rest).filter
            (fun pair => pairName pair = units "key_id") =
              pair :: rest.filter
                fun pair => pairName pair = units "key_id" :=
          List.filter_cons_of_pos (decide_eq_true named)
        rw [keyIdValues_cons_of_named named, kept]
        constructor
        · intro isRead
          obtain ⟨value, reads, isRest⟩ := isRead
          obtain ⟨more, isAll, readRest⟩ := inductionHypothesis.mp isRest
          exact ⟨value :: more, by simp [isAll], .cons reads readRest⟩
        · intro isRead
          obtain ⟨more, isAll, readAll⟩ := isRead
          cases readAll with
          | @cons _ value _ others reads readRest =>
              refine ⟨value, reads, inductionHypothesis.mpr ?_⟩
              exact ⟨others, by simp [isAll], readRest⟩
      · have dropped : (pair :: rest).filter
            (fun pair => pairName pair = units "key_id") =
              rest.filter fun pair => pairName pair = units "key_id" :=
          List.filter_cons_of_neg (by simpa using named)
        rw [keyIdValues_cons_of_other named, dropped, inductionHypothesis]

theorem rawKeyQueryValues_eq_ok_iff {url : JsString} {values : List JsString} :
    rawKeyQueryValues url = .ok values ↔
      (0x23 : UInt16) ∉ originForm url ∧
        List.Forall₂ ReadsAs (keyIdPairs (originForm url)) values := by
  unfold rawKeyQueryValues
  rw [splitTarget_eq]
  by_cases hasHash : (0x23 : UInt16) ∈ originForm url
  · rw [if_pos hasHash]
    constructor
    · intro isOk
      cases isOk
    · intro conditions
      exact absurd hasHash conditions.1
  · rw [if_neg hasHash, except_ok_bind, keyIdValues_eq_ok_iff]
    simp [hasHash, keyIdPairs]

/-! ## What a reference resolves to -/

/-- The key identifier that a reference of a position's form stands for. -/
def logicalForm : KeyReferencePosition → JsString → JsString
  | .path, text => units "agenid:key:" ++ text
  | .query, text => text

section Forms

variable {position : KeyReferencePosition} {text : JsString}

theorem parseKeyReference_of_isForm (formed : position.isForm text = true) :
    parseKeyReference text = .ok (logicalForm position text) := by
  cases position with
  | path => exact parseKeyReference_of_isValidUlid formed
  | query => exact parseKeyReference_of_isValidKeyId formed

theorem notMem_of_isForm
    (formed : position.isForm text = true) {unit : UInt16}
    (notAlphanumeric : isAlphanumeric unit = false)
    (notColon : unit ≠ 0x3A) : unit ∉ text := by
  cases position with
  | path => exact notMem_of_isValidUlid formed notAlphanumeric
  | query => exact notMem_of_isValidKeyId formed notAlphanumeric notColon

theorem canonicalKeyReference_of_isForm
    (formed : position.isForm text = true) :
    canonicalKeyReference (some text) position =
      .ok (logicalForm position text) := by
  have noHash : (0x23 : UInt16) ∉ text :=
    notMem_of_isForm formed (by decide) (by decide)
  have noEscape : (0x25 : UInt16) ∉ text :=
    notMem_of_isForm formed (by decide) (by decide)
  have isParsed := parseKeyReference_of_isForm formed
  cases text with
  | nil => cases position <;> cases formed
  | cons head tail =>
      simp [canonicalKeyReference, includesUnit, noHash, noEscape, formed,
        isParsed]

theorem canonicalKeyReference_iff
    {ref : Option JsString} {keyId : JsString} :
    canonicalKeyReference ref position = .ok keyId ↔
      ∃ text, ref = some text ∧ position.isForm text = true ∧
        keyId = logicalForm position text := by
  constructor
  · intro isOk
    cases ref with
    | none => cases isOk
    | some text =>
        cases formed : position.isForm text with
        | true =>
            rw [canonicalKeyReference_of_isForm formed] at isOk
            exact ⟨text, rfl, formed, (Except.ok.inj isOk).symm⟩
        | false =>
            cases text with
            | nil => cases isOk
            | cons head tail =>
                unfold canonicalKeyReference at isOk
                dsimp only at isOk
                rw [formed] at isOk
                split at isOk
                · cases isOk
                · split at isOk <;> cases isOk
  · intro isFormed
    obtain ⟨text, rfl, formed, rfl⟩ := isFormed
    exact canonicalKeyReference_of_isForm formed

end Forms

section Resolution

variable [Platform]

/-- The stored value of a key is a document that its schema accepts and that
names the key. -/
def Published (reader : KeyReader) (keyId : JsString)
    (document : KeyDocument) : Prop :=
  ∃ raw, reader keyId = .ok raw ∧
    KeyDocument.schema.accepts raw = some document ∧
    document.keyId = keyId

theorem KeyDocument.schema_accepts_none :
    KeyDocument.schema.accepts none = none := rfl

theorem KeyDocument.schema_accepts_null :
    KeyDocument.schema.accepts (some .null) = none := rfl

theorem resolveKeyDocument_found_iff
    {reader : KeyReader} {ref : Option JsString}
    {position : KeyReferencePosition} {document : KeyDocument} :
    resolveKeyDocument reader ref position = .found document ↔
      ∃ keyId, canonicalKeyReference ref position = .ok keyId ∧
        Published reader keyId document := by
  unfold resolveKeyDocument Published
  cases isRef : canonicalKeyReference ref position with
  | error message => simp
  | ok keyId =>
      simp only [Except.ok.injEq, exists_eq_left']
      cases isRead : reader keyId with
      | error thrown => simp
      | ok raw =>
          simp only [Except.ok.injEq, exists_eq_left']
          split
          · rename_i absurdity
            cases absurdity
          · rename_i isNone
            rw [Except.ok.inj isNone, KeyDocument.schema_accepts_none]
            simp
          · rename_i isNull
            rw [Except.ok.inj isNull, KeyDocument.schema_accepts_null]
            simp
          · rename_i value _ isValue
            rw [Except.ok.inj isValue]
            cases isParsed : KeyDocument.schema.safeParse (some value) with
            | error issues =>
                have refused : KeyDocument.schema.accepts (some value) ≠
                    some document := by
                  intro accepted
                  rw [safeParse_of_accepts accepted] at isParsed
                  cases isParsed
                simp [refused]
            | ok parsed =>
                rw [safeParse_eq_ok_iff.mp isParsed]
                dsimp only
                split
                · rename_i different
                  simp only [reduceCtorEq, Option.some.injEq, false_iff]
                  intro both
                  exact different (both.1 ▸ both.2)
                · rename_i same
                  simp only [KeyResolution.found.injEq, Option.some.injEq,
                    iff_self_and]
                  intro isParsed
                  rw [← isParsed]
                  exact not_not.mp same

theorem resolveKeyFromRawPath_found_iff
    {reader : KeyReader} {url : JsString} {framework : Option JsString}
    {document : KeyDocument}
    (isLiteral : framework = none ∨
      framework = some (lastSegment (targetPath (originForm url)))) :
    resolveKeyFromRawPath reader url framework = .found document ↔
      (0x23 : UInt16) ∉ originForm url ∧
        isValidUlid (lastSegment (targetPath (originForm url))) = true ∧
        Published reader (units "agenid:key:" ++
          lastSegment (targetPath (originForm url))) document := by
  unfold resolveKeyFromRawPath
  cases isRaw : rawKeyPathSegment url with
  | error message =>
      simp only [invalidTarget, reduceCtorEq, false_iff]
      intro conditions
      obtain ⟨noHash, isUlid, -⟩ := conditions
      have noEscape := notMem_of_isValidUlid isUlid
        (by decide : isAlphanumeric 0x25 = false)
      rw [rawKeyPathSegment_eq_ok_iff.mpr ⟨noHash, rfl, noEscape⟩] at isRaw
      cases isRaw
  | ok segment =>
      obtain ⟨noHash, isSegment, noEscape⟩ :=
        rawKeyPathSegment_eq_ok_iff.mp isRaw
      rw [← isSegment] at isLiteral ⊢
      have agrees : framework.any (· ≠ segment) = false := by
        rcases isLiteral with rfl | rfl <;> simp
      simp only [agrees, Bool.false_eq_true, if_false]
      rw [resolveKeyDocument_found_iff]
      simp only [canonicalKeyReference_iff, Option.some.injEq,
        KeyReferencePosition.isForm, logicalForm, noHash, not_false_eq_true,
        true_and]
      constructor
      · intro isServed
        obtain ⟨keyId, ⟨text, rfl, isUlid, rfl⟩, published⟩ := isServed
        exact ⟨isUlid, published⟩
      · intro isServed
        exact ⟨_, ⟨segment, rfl, isServed.1, rfl⟩, isServed.2⟩

theorem resolveKeyFromQuery_found_iff
    {reader : KeyReader} {values : List JsString} {document : KeyDocument} :
    resolveKeyFromQuery reader values = .found document ↔
      ∃ keyId, values = [keyId] ∧ isValidKeyId keyId = true ∧
        Published reader keyId document := by
  unfold resolveKeyFromQuery
  split
  · rename_i many
    simp only [reduceCtorEq, false_iff]
    intro isServed
    obtain ⟨keyId, rfl, -⟩ := isServed
    exact absurd many (Nat.lt_irrefl 1)
  · rename_i notMany
    rw [resolveKeyDocument_found_iff]
    simp only [canonicalKeyReference_iff, KeyReferencePosition.isForm,
      logicalForm]
    constructor
    · intro isServed
      obtain ⟨keyId, ⟨text, isHead, isKeyId, rfl⟩, published⟩ := isServed
      cases values with
      | nil => cases isHead
      | cons head tail =>
          obtain rfl := Option.some.inj isHead
          have noMore : tail = [] := by
            simpa using notMany
          exact ⟨head, by rw [noMore], isKeyId, published⟩
    · intro isServed
      obtain ⟨keyId, rfl, isKeyId, published⟩ := isServed
      exact ⟨keyId, ⟨keyId, rfl, isKeyId, rfl⟩, published⟩

theorem resolveKeyFromRawQuery_found_iff
    {reader : KeyReader} {url : JsString} {document : KeyDocument} :
    resolveKeyFromRawQuery reader url = .found document ↔
      (0x23 : UInt16) ∉ originForm url ∧
        ∃ pair keyId, keyIdPairs (originForm url) = [pair] ∧
          decodeURIComponent (pairValue pair) = some keyId ∧
          isValidKeyId keyId = true ∧
          Published reader keyId document := by
  constructor
  · intro isServed
    unfold resolveKeyFromRawQuery at isServed
    split at isServed
    · cases isServed
    · rename_i values isRaw
      obtain ⟨noHash, reads⟩ := rawKeyQueryValues_eq_ok_iff.mp isRaw
      obtain ⟨keyId, rfl, isKeyId, published⟩ :=
        resolveKeyFromQuery_found_iff.mp isServed
      cases isPairs : keyIdPairs (originForm url) with
      | nil =>
          rw [isPairs] at reads
          cases reads
      | cons pair rest =>
          rw [isPairs] at reads
          cases reads with
          | cons read readRest =>
              cases readRest
              exact ⟨noHash, pair, keyId, rfl, read.2, isKeyId, published⟩
  · intro conditions
    obtain ⟨noHash, pair, keyId, isPair, isDecoded, isKeyId, published⟩ :=
      conditions
    have noEncodedHash : ¬ [0x25, 0x32, 0x33] <:+: pairValue pair := by
      intro isInfix
      exact notMem_of_isValidKeyId isKeyId (by decide) (by decide)
        (hash_mem_of_decodeURIComponent isDecoded isInfix)
    have isRaw : rawKeyQueryValues url = .ok [keyId] := by
      rw [rawKeyQueryValues_eq_ok_iff, isPair]
      exact ⟨noHash, .cons ⟨noEncodedHash, isDecoded⟩ .nil⟩
    unfold resolveKeyFromRawQuery
    rw [isRaw]
    exact resolveKeyFromQuery_found_iff.mpr ⟨keyId, rfl, isKeyId, published⟩

/-! ## The two canonical targets of a key -/

section Canonical

variable {reader : KeyReader} {url keyId : JsString}

theorem resolveKeyFromRawPath_of_path
    {ulid : JsString} (isUlid : isValidUlid ulid = true)
    (isTarget : originForm url = units "/v1/keys/" ++ ulid)
    {framework : Option JsString}
    (isLiteral : framework = none ∨ framework = some ulid) :
    resolveKeyFromRawPath reader url framework =
      resolveKeyDocument reader (some ulid) .path := by
  have notIn : ∀ unit : UInt16, isAlphanumeric unit = false →
      unit ∉ ulid := fun unit => notMem_of_isValidUlid isUlid
  have noHash : (0x23 : UInt16) ∉ originForm url := by
    rw [isTarget, List.mem_append, not_or]
    exact ⟨by decide, notIn 0x23 (by decide)⟩
  have noMark : (0x3F : UInt16) ∉ originForm url := by
    rw [isTarget, List.mem_append, not_or]
    exact ⟨by decide, notIn 0x3F (by decide)⟩
  have isSegment : lastSegment (targetPath (originForm url)) = ulid := by
    rw [targetPath, takeWhile_of_notMem noMark, isTarget]
    have slashed : units "/v1/keys/" ++ ulid =
        units "/v1/keys" ++ 0x2F :: ulid := rfl
    rw [slashed]
    exact rtakeWhile_append_unit (notIn 0x2F (by decide))
  have isRaw : rawKeyPathSegment url = .ok ulid :=
    rawKeyPathSegment_eq_ok_iff.mpr
      ⟨noHash, isSegment.symm, notIn 0x25 (by decide)⟩
  have agrees : framework.any (· ≠ ulid) = false := by
    rcases isLiteral with rfl | rfl <;> simp
  unfold resolveKeyFromRawPath
  simp only [isRaw, agrees, Bool.false_eq_true, if_false]

theorem resolveKeyFromRawQuery_of_query
    (isKeyId : isValidKeyId keyId = true)
    (isTarget : originForm url =
      units "/v1/keys?key_id=" ++ keyId.flatMap escapeUnit) :
    resolveKeyFromRawQuery reader url =
      resolveKeyDocument reader (some keyId) .query := by
  have notIn : ∀ unit : UInt16, isUnescaped unit = false → unit ≠ 0x25 →
      unit ∉ keyId.flatMap escapeUnit := by
    intro unit escaped notPercent isMember
    obtain ⟨original, -, inEscape⟩ := List.mem_flatMap.mp isMember
    rcases isUnescaped_of_mem_escapeUnit inEscape with unescaped | isPercent
    · rw [escaped] at unescaped
      cases unescaped
    · exact notPercent isPercent
  have isDecoded :=
    decodeURIComponent_escapes (ascii_of_isValidKeyId isKeyId)
  have noEncodedHash :
      ¬ [0x25, 0x32, 0x33] <:+: keyId.flatMap escapeUnit := by
    intro isInfix
    exact notMem_of_isValidKeyId isKeyId (by decide) (by decide)
      (hash_mem_of_decodeURIComponent isDecoded isInfix)
  have noHash : (0x23 : UInt16) ∉ originForm url := by
    rw [isTarget, List.mem_append, not_or]
    exact ⟨by decide, notIn 0x23 (by decide) (by decide)⟩
  have isQuery : targetQuery (originForm url) =
      units "key_id=" ++ keyId.flatMap escapeUnit := by
    have marked : originForm url = units "/v1/keys" ++ 0x3F ::
        (units "key_id=" ++ keyId.flatMap escapeUnit) := isTarget
    rw [targetQuery, marked, dropWhile_append_unit (by decide)]
    rfl
  have noAmpersand :
      (0x26 : UInt16) ∉ units "key_id=" ++ keyId.flatMap escapeUnit := by
    rw [List.mem_append, not_or]
    exact ⟨by decide, notIn 0x26 (by decide) (by decide)⟩
  have parted : units "key_id=" ++ keyId.flatMap escapeUnit =
      units "key_id" ++ 0x3D :: keyId.flatMap escapeUnit := rfl
  have isName : pairName (units "key_id=" ++ keyId.flatMap escapeUnit) =
      units "key_id" := by
    rw [parted]
    exact takeWhile_append_unit (by decide)
  have isValue : pairValue (units "key_id=" ++ keyId.flatMap escapeUnit) =
      keyId.flatMap escapeUnit := by
    rw [pairValue, parted, dropWhile_append_unit (by decide)]
    rfl
  have isPairs : keyIdPairs (originForm url) =
      [units "key_id=" ++ keyId.flatMap escapeUnit] := by
    rw [keyIdPairs, isQuery, splitOnUnit_of_notMem noAmpersand]
    exact List.filter_cons_of_pos (decide_eq_true isName)
  have isRaw : rawKeyQueryValues url = .ok [keyId] := by
    rw [rawKeyQueryValues_eq_ok_iff, isPairs]
    refine ⟨noHash, .cons ?_ .nil⟩
    unfold ReadsAs
    rw [isValue]
    exact ⟨noEncodedHash, isDecoded⟩
  unfold resolveKeyFromRawQuery
  rw [isRaw]
  rfl

/-- The path and the query of a key identifier. -/
theorem canonical_targets_agree
    (isKeyId : isValidKeyId keyId = true) (reader : KeyReader) :
    ∃ path query, keyResolverPath keyId = .ok path ∧
      keyResolverQuery keyId = .ok query ∧
      path.head? = some 0x2F ∧ query.head? = some 0x2F ∧
      originForm path = path ∧ originForm query = query ∧
      ∀ pathUrl queryUrl framework,
        originForm pathUrl = path → originForm queryUrl = query →
        (framework = none ∨ framework = some (lastSegment path)) →
        resolveKeyFromRawPath reader pathUrl framework =
          resolveKeyFromRawQuery reader queryUrl := by
  have isQuery := keyResolverQuery_of_isValidKeyId isKeyId
  have asQuery : canonicalKeyReference (some keyId) .query = .ok keyId :=
    @canonicalKeyReference_of_isForm .query keyId isKeyId
  have noColon : (0x3A : UInt16) ∉
      units "/v1/keys?key_id=" ++ keyId.flatMap escapeUnit := by
    rw [List.mem_append, not_or]
    refine ⟨by decide, ?_⟩
    intro isMember
    obtain ⟨original, -, inEscape⟩ := List.mem_flatMap.mp isMember
    rcases isUnescaped_of_mem_escapeUnit inEscape with unescaped | isPercent
    · exact absurd unescaped (by decide)
    · exact absurd isPercent (by decide)
  obtain ⟨ulid, rfl, isUlid⟩ := isValidKeyId_iff.mp isKeyId
  have asPath : canonicalKeyReference (some ulid) .path =
      .ok (units "agenid:key:" ++ ulid) :=
    @canonicalKeyReference_of_isForm .path ulid isUlid
  have isSegment : lastSegment (units "/v1/keys/" ++ ulid) = ulid := by
    have slashed : units "/v1/keys/" ++ ulid =
        units "/v1/keys" ++ 0x2F :: ulid := rfl
    rw [lastSegment, slashed, rtakeWhile_append_unit
      (notMem_of_isValidUlid isUlid (by decide))]
  refine ⟨_, _, keyResolverPath_of_valid isUlid, isQuery, rfl, rfl,
    originForm_of_notMem ?_, originForm_of_notMem noColon, ?_⟩
  · rw [List.mem_append, not_or]
    exact ⟨by decide, notMem_of_isValidUlid isUlid (by decide)⟩
  · intro pathUrl queryUrl framework isPathUrl isQueryUrl isLiteral
    rw [isSegment] at isLiteral
    rw [resolveKeyFromRawPath_of_path isUlid isPathUrl isLiteral,
      resolveKeyFromRawQuery_of_query isKeyId isQueryUrl]
    unfold resolveKeyDocument
    rw [asPath, asQuery]

end Canonical

/-! ## The two entry paths -/

omit [Platform] in
theorem status_eq_200_iff {resolution : KeyResolution} :
    resolution.status = 200 ↔ ∃ document, resolution = .found document := by
  cases resolution with
  | found document => simp [KeyResolution.status]
  | failed status error message keyId =>
      cases status <;> simp [KeyResolution.status, KeyFailureStatus.code]

/-- Over an absolute URL, the path form answers 200 exactly for a literal ULID
and the query form exactly for one value that decodes to a key identifier,
each with a published document; an escape in the segment never resolves; and
the two canonical targets of a key are answered alike. -/
theorem key_answers_200_iff
    (reader : KeyReader) {host target : JsString}
    (inHost : (0x2F : UInt16) ∉ host)
    (isTarget : target.head? = some 0x2F) :
    let url := units "https://" ++ host ++ target
    let segment := lastSegment (targetPath target)
    (∀ framework, framework = none ∨ framework = some segment →
      ((resolveKeyFromRawPath reader url framework).status = 200 ↔
        (0x23 : UInt16) ∉ target ∧ isValidUlid segment = true ∧
          ∃ document, Published reader (units "agenid:key:" ++ segment)
            document)) ∧
    ((resolveKeyFromRawQuery reader url).status = 200 ↔
      (0x23 : UInt16) ∉ target ∧
        ∃ pair keyId, keyIdPairs target = [pair] ∧
          decodeURIComponent (pairValue pair) = some keyId ∧
          isValidKeyId keyId = true ∧
          ∃ document, Published reader keyId document) ∧
    ((0x25 : UInt16) ∈ segment → ∀ framework,
      (resolveKeyFromRawPath reader url framework).status ≠ 200) ∧
    ∀ keyId, isValidKeyId keyId = true →
      ∃ path query, keyResolverPath keyId = .ok path ∧
        keyResolverQuery keyId = .ok query ∧
        ∀ framework, framework = none ∨ framework = some (lastSegment path) →
          resolveKeyFromRawPath reader path framework =
              resolveKeyFromRawQuery reader query ∧
            resolveKeyFromRawPath reader (units "https://" ++ host ++ path)
                framework =
              resolveKeyFromRawQuery reader
                (units "https://" ++ host ++ query) := by
  intro url segment
  have isOrigin : originForm url = target :=
    originForm_absolute inHost isTarget
  refine ⟨?_, ?_, ?_, ?_⟩
  · intro framework isLiteral
    rw [status_eq_200_iff]
    constructor
    · intro isServed
      obtain ⟨document, isFound⟩ := isServed
      rw [resolveKeyFromRawPath_found_iff (by rwa [isOrigin]), isOrigin]
        at isFound
      obtain ⟨noHash, isUlid, published⟩ := isFound
      exact ⟨noHash, isUlid, document, published⟩
    · intro conditions
      obtain ⟨noHash, isUlid, document, published⟩ := conditions
      refine ⟨document, ?_⟩
      rw [resolveKeyFromRawPath_found_iff (by rwa [isOrigin]), isOrigin]
      exact ⟨noHash, isUlid, published⟩
  · rw [status_eq_200_iff]
    constructor
    · intro isServed
      obtain ⟨document, isFound⟩ := isServed
      rw [resolveKeyFromRawQuery_found_iff, isOrigin] at isFound
      obtain ⟨noHash, pair, keyId, isPair, isDecoded, isKeyId, published⟩ :=
        isFound
      exact ⟨noHash, pair, keyId, isPair, isDecoded, isKeyId, document,
        published⟩
    · intro conditions
      obtain ⟨noHash, pair, keyId, isPair, isDecoded, isKeyId, document,
        published⟩ := conditions
      refine ⟨document, ?_⟩
      rw [resolveKeyFromRawQuery_found_iff, isOrigin]
      exact ⟨noHash, pair, keyId, isPair, isDecoded, isKeyId, published⟩
  · intro hasEscape framework isServed
    unfold resolveKeyFromRawPath at isServed
    split at isServed
    · cases isServed
    · rename_i raw isRaw
      obtain ⟨-, isSegment, noEscape⟩ := rawKeyPathSegment_eq_ok_iff.mp isRaw
      rw [isOrigin] at isSegment
      rw [isSegment] at noEscape
      exact noEscape hasEscape
  · intro keyId isKeyId
    obtain ⟨path, query, isPath, isQuery, pathSlash, querySlash, ownPath,
      ownQuery, agree⟩ := canonical_targets_agree isKeyId reader
    refine ⟨path, query, isPath, isQuery, ?_⟩
    intro framework isLiteral
    exact ⟨agree path query framework ownPath ownQuery isLiteral,
      agree _ _ framework (originForm_absolute inHost pathSlash)
        (originForm_absolute inHost querySlash) isLiteral⟩

/-- A reader of a registry in which only the sample key is published. -/
def sampleReader : KeyReader := fun keyId =>
  .ok (if keyId = sampleOperatorKey.keyId then
    some sampleOperatorKey.toJson else none)

omit [Platform] in
theorem sampleReader_published :
    letI := samplePlatform
    Published sampleReader sampleOperatorKey.keyId sampleOperatorKey :=
  let := samplePlatform
  ⟨_, rfl, sampleOperatorKey_accepted, rfl⟩

omit [Platform] in
/-- The sample key is served under the wire form of its identifier. -/
theorem key_answers_200_sample :
    letI := samplePlatform
    (resolveKeyFromRawPath sampleReader (units "https://" ++
      units "agenid.com" ++ units "/v1/keys/01J8Z3M9Q4XK2P7VBN6TDR8HWE")
        none).status = 200 :=
  let := samplePlatform
  ((key_answers_200_iff sampleReader (by decide) rfl).1 none
    (Or.inl rfl)).mpr ⟨by decide, rfl, _, sampleReader_published⟩

/-- Fastify's target and Next's URL are one request exactly when the target
has no scheme separator in it. -/
theorem targets_agree_iff
    {host target : JsString} (inHost : (0x2F : UInt16) ∉ host)
    (isTarget : target.head? = some 0x2F) :
    (originForm target = target ∧
        originForm (units "https://" ++ host ++ target) = target ∧
        ∀ (reader : KeyReader) (framework : Option JsString),
          resolveKeyFromRawPath reader target framework =
              resolveKeyFromRawPath reader
                (units "https://" ++ host ++ target) framework ∧
            resolveKeyFromRawQuery reader target =
              resolveKeyFromRawQuery reader
                (units "https://" ++ host ++ target)) ↔
      ¬ units "://" <:+: target := by
  have absolute := originForm_absolute inHost isTarget
  constructor
  · intro agree
    exact originForm_eq_self_iff.mp agree.1
  · intro noScheme
    have own := originForm_of_not_infix noScheme
    refine ⟨own, absolute, ?_⟩
    intro reader framework
    unfold resolveKeyFromRawPath resolveKeyFromRawQuery rawKeyPathSegment
      rawKeyQueryValues splitTarget
    rw [own, absolute]
    exact ⟨rfl, rfl⟩

omit [Platform] in
/-- The wire form of the sample key is one request to both. -/
theorem targets_agree_sample :
    letI := samplePlatform
    let target := units "/v1/keys/01J8Z3M9Q4XK2P7VBN6TDR8HWE"
    resolveKeyFromRawPath sampleReader target none =
      resolveKeyFromRawPath sampleReader
        (units "https://" ++ units "agenid.com" ++ target) none :=
  let := samplePlatform
  (((targets_agree_iff (by decide) rfl).mpr (by decide)).2.2 sampleReader
    none).1

end Resolution

/-- A target with a URL in its query is served by Next and refused by
Fastify. -/
theorem targets_disagree :
    letI := samplePlatform
    let target :=
      units "/v1/keys/01J8Z3M9Q4XK2P7VBN6TDR8HWE?from=https://a.example"
    let url := units "https://" ++ units "agenid.com" ++ target
    (0x2F : UInt16) ∉ units "agenid.com" ∧ target.head? = some 0x2F ∧
      originForm target ≠ target ∧
      resolveKeyFromRawPath sampleReader target none =
        invalidTarget KEY_ERROR_MESSAGES.bad_wire_form ∧
      resolveKeyFromRawPath sampleReader url none =
        .found sampleOperatorKey := by
  let := samplePlatform
  intro target url
  have absolute : originForm url = target :=
    originForm_absolute (by decide) rfl
  refine ⟨by decide, rfl, by decide, rfl, ?_⟩
  rw [resolveKeyFromRawPath_found_iff (Or.inl rfl), absolute]
  exact ⟨by decide, rfl, sampleReader_published⟩

end AgenId.Registry
