import AgenId.Registry.Admission
import AgenId.Registry.Register

/-!
# Declaring without registering

`api/retell/declare`: the documents of a registration are parsed and verified
at the time that the caller names, and nothing is stored.
-/

namespace AgenId.Web

open AgenId.Core
open AgenId.Ecma
open AgenId.Registry
open AgenId.Validation
open AgenId.Validation.Schema

def DECLARE_DISCLOSURES : List String := [
  "DECLARED is an operator self-declaration. It attests who signed, not " ++
    "that any third party checked them.",
  "Levels above DECLARED require an authority-signed VerificationAssertion. " ++
    "AgenID's root authority key ceremony has not been performed, so no " ++
    "such assertion can currently be issued.",
  "This result was not written to any registry: no durable write path is " ++
    "deployed."]

/-! ## Responses -/

/-- The answer to documents that verify. -/
structure Declared where
  ok : Bool
  level : String
  agentId : JsString
  manifestDigest : JsString
  keyId : JsString
  evaluatedAt : JsString
  persisted : Bool
  disclosures : List String

inductive DeclareResponse where
  | malformed (error message : String)
  | invalid (error : String) (issues : List Issue)
  | unverified (code : VerifyFailureCode) (message evaluatedAt : JsString)
  | declared (answer : Declared)

def DeclareResponse.status : DeclareResponse → ℕ
  | .malformed _ _ => 400
  | .invalid _ _ => 400
  | .unverified _ _ _ => 422
  | .declared _ => 200

/-! ## The route -/

section Declare

variable [Platform]

/-- The documents of a body, or the code and the issues of the first one that
is not accepted. -/
def readDeclaration (body : Json) :
    Except (String × List Issue) RegisterBody :=
  match Manifest.schema.safeParse (body.get? (units "manifest")) with
  | .error issues => .error ("invalid_manifest", issues)
  | .ok manifest =>
    match ManifestProof.schema.safeParse (body.get? (units "proof")) with
    | .error issues => .error ("invalid_proof", issues)
    | .ok proof =>
      match KeyDocument.schema.safeParse
          (body.get? (units "key_document")) with
      | .error issues => .error ("invalid_key_document", issues)
      | .ok keyDocument => .ok ⟨manifest, proof, keyDocument⟩

omit [Platform] in
/-- `typeof now === "string" ? now : new Date().toISOString()`. -/
def evaluationTime (body : Json) (clock : Clock) : JsString :=
  match body.get? (units "now") with
  | some (.string now) => now
  | _ => nowIso clock

/-- What is answered of documents that verify. -/
def declaredOf (registration : RegisterBody) (evaluatedAt digest : JsString) :
    Declared where
  ok := true
  level := "DECLARED"
  agentId := registration.manifest.agentId
  manifestDigest := digest
  keyId := registration.proof.keyId
  evaluatedAt := evaluatedAt
  persisted := false
  disclosures := DECLARE_DISCLOSURES

/-- `POST`, once the rate limit admits the request.  The body is none when it
is not JSON. -/
def postDeclare (body : Option Json) (clock : Clock) :
    Except AgenIdError DeclareResponse :=
  match body with
  | none => return .malformed "invalid_json" "request body must be JSON"
  | some body =>
    match readDeclaration body with
    | .error refusal => return .invalid refusal.1 refusal.2
    | .ok registration => do
      let evaluatedAt := evaluationTime body clock
      match ← verifyRegistration registration evaluatedAt with
      | .fail code message => return .unverified code message evaluatedAt
      | .ok _ _ => do
        let digest ← manifestDigestHex registration.manifest
        return .declared (declaredOf registration evaluatedAt digest)

/-! ## What is declared -/

theorem readDeclaration_eq_ok_iff
    {body : Json} {registration : RegisterBody} :
    readDeclaration body = .ok registration ↔
      Manifest.schema.accepts (body.get? (units "manifest")) =
          some registration.manifest ∧
        ManifestProof.schema.accepts (body.get? (units "proof")) =
          some registration.proof ∧
        KeyDocument.schema.accepts (body.get? (units "key_document")) =
          some registration.keyDocument := by
  obtain ⟨manifest, proof, keyDocument⟩ := registration
  rw [← safeParse_eq_ok_iff, ← safeParse_eq_ok_iff, ← safeParse_eq_ok_iff]
  unfold readDeclaration
  cases Manifest.schema.safeParse (body.get? (units "manifest")) with
  | error issues => simp only [reduceCtorEq, false_and]
  | ok otherManifest =>
      cases ManifestProof.schema.safeParse (body.get? (units "proof")) with
      | error issues => simp only [reduceCtorEq, false_and, and_false]
      | ok otherProof =>
          cases KeyDocument.schema.safeParse
            (body.get? (units "key_document")) with
          | error issues => simp only [reduceCtorEq, and_false]
          | ok otherKey =>
              simp only [Except.ok.injEq, RegisterBody.mk.injEq]

theorem accepted_of_readDeclaration
    {body : Json} {registration : RegisterBody}
    (isRead : readDeclaration body = .ok registration) :
    Registry.Accepted registration := by
  obtain ⟨isManifest, isProof, isKey⟩ := readDeclaration_eq_ok_iff.mp isRead
  exact ⟨rereads_Manifest _ _ isManifest, rereads_ManifestProof _ _ isProof,
    rereads_KeyDocument _ _ isKey⟩

/-- Exactly documents that are accepted, bound to each other and within their
window are declared. -/
theorem postDeclare_eq_declared_iff
    {body : Json} {clock : Clock} {answer : Declared} :
    postDeclare (some body) clock = .ok (.declared answer) ↔
      ∃ registration, readDeclaration body = .ok registration ∧
        ProofBound registration.proof registration.manifest
          registration.keyDocument ∧
        windowAdmits (evaluationTime body clock)
          registration.proof.createdAt registration.proof.expiresAt ∧
        answer = declaredOf registration (evaluationTime body clock)
          (manifestDigest registration.manifest) := by
  simp only [postDeclare]
  cases isRead : readDeclaration body with
  | error refusal =>
      constructor
      · intro isDeclared
        cases isDeclared
      · rintro ⟨registration, impossible, -⟩
        cases impossible
  | ok registration =>
      have verifies := verifyRegistration_succeeds_iff
        (accepted_of_readDeclaration isRead) (evaluationTime body clock)
      dsimp only
      rw [except_bind_eq_ok_iff]
      constructor
      · rintro ⟨result, isResult, isDeclared⟩
        cases result with
        | fail code message => cases isDeclared
        | ok state details =>
            obtain ⟨bound, admits⟩ := verifies.mp ⟨state, details, isResult⟩
            refine ⟨registration, rfl, bound, admits, ?_⟩
            dsimp only at isDeclared
            rw [manifestDigestHex_eq] at isDeclared
            cases isDeclared
            rfl
      · rintro ⟨other, same, bound, admits, rfl⟩
        cases same
        obtain ⟨state, details, isResult⟩ := verifies.mpr ⟨bound, admits⟩
        refine ⟨.ok state details, isResult, ?_⟩
        dsimp only
        rw [manifestDigestHex_eq]
        rfl

end Declare

end AgenId.Web
