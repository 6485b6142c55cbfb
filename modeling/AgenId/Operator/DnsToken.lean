import AgenId.Operator.Cli
import AgenId.Web.ClientEncoding
import AgenId.Web.DnsProbe

/-!
# What `agenid dns-token` prints

The printed host is the one that is queried, and the printed value, once it is
published there, proves control with the printed token and with no other.
-/

namespace AgenId.Operator.Cli

open AgenId.Core
open AgenId.Ecma
open AgenId.Web (AsksFor EndsInk IsPadded PublishesValue StatusProves TxtAnswer
  endsInk_append isBase64Url_of_mem_b64uEncode isGraphic_of_base64Url
  isWhiteSpace_of_graphic length_b64uEncode postDomainStatus
  postDomainStatus_proves_iff postVerifyDns postVerifyDns_proves_iff trim
  trim_eq_cons_iff verificationRecord)

/-- What is sent to `api/verify-dns`. -/
def probeBody (domain token : JsString) : Json :=
  .record [("domain", some (.string domain)), ("token", some (.string token))]

theorem length_dnsToken (random : TokenBytes) :
    (dnsToken random).length = 36 := by
  rw [dnsToken, List.length_append, length_b64uEncode, random.property]
  rfl

theorem dnsValue_injective {random other : TokenBytes}
    (same : dnsValue random = dnsValue other) : random = other := by
  have encoded := List.append_cancel_left (List.append_cancel_left same)
  apply Subtype.ext
  rw [← b64uDecode_b64uEncode random.val, encoded, b64uDecode_b64uEncode]

theorem endsInk_dnsToken (random : TokenBytes) :
    EndsInk (dnsToken random) := by
  have isEncoded : b64uEncode random.val ≠ [] := by
    intro isEmpty
    have length := length_b64uEncode random.val
    rw [isEmpty, random.property] at length
    cases length
  rw [dnsToken, endsInk_append isEncoded]
  intro last isLast
  exact isWhiteSpace_of_graphic (isGraphic_of_base64Url
    (isBase64Url_of_mem_b64uEncode last (List.mem_of_mem_getLast? isLast)))

theorem trim_of_padded_dnsValue {text : JsString} {random : TokenBytes}
    (padded : IsPadded text (dnsValue random)) :
    trim text = dnsValue random := by
  have nonempty : dnsToken random ≠ [] := by
    intro isEmpty
    have length := length_dnsToken random
    rw [isEmpty] at length
    cases length
  have ends : EndsInk (dnsValue random) :=
    (endsInk_append nonempty _).mpr (endsInk_dnsToken random)
  have isValue : dnsValue random =
      0x61 :: (units "genid-site-verification=" ++ dnsToken random) :=
    rfl
  have isInk : isWhiteSpace 0x61 = false := by decide
  rw [isValue] at ends padded ⊢
  exact (trim_eq_cons_iff isInk).mpr ⟨ends, padded⟩

theorem asksFor_probeBody
    {domain token : JsString} (isHostname : isValidHostname domain = true)
    (isLong : 16 ≤ token.length) :
    AsksFor (some (probeBody domain token)) domain token :=
  ⟨⟨_, rfl, rfl, rfl⟩, isHostname, isLong⟩

def sampleTokenBytes : TokenBytes :=
  ⟨[191, 211, 211, 108, 248, 38, 145, 81, 112, 190, 236, 197, 99, 237, 117,
    54, 155, 132, 71, 142, 0, 1, 2, 3], rfl⟩

/-- A zone that carries the sample value in two chunks, beside another
record. -/
def sampleZone (host : JsString) : TxtAnswer :=
  if host = units "_agenid.acmemedical.com" then
    .records
      [[units "v=spf1 -all"],
        [units "agenid-site-verification=aid_",
          b64uEncode sampleTokenBytes.val ++ [0x20]]]
  else
    .error (some (units "ENOTFOUND")) (units "queryTxt ENOTFOUND")

end AgenId.Operator.Cli
