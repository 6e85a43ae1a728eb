import ClusterConsole.Proofs.Http.Headers
import ClusterConsole.Proofs.Json.Decoder
import ClusterConsole.Transport.Bridge

/-!
# Messages over the bridge are read back

Headers are a map already, so the map made of what was read is the same one.
-/

namespace ClusterConsole.Transport

open Http (Headers)
open Json (Fields)
open Json.Decoder (Member build_object optional optional_of_ne_null)

theorem headersDecoder_headersJson (h : Headers) : headersDecoder (headersJson h) = .ok h := by
  have hread : Json.Decoder.fieldsOf Json.Decoder.string (headersJson h) = .ok h.entries :=
    Json.Decoder.fieldsOf_map fun _ _ => rfl
  rw [headersDecoder, hread]
  exact congrArg Except.ok h.ofList_entries

theorem optional_headersDecoder (h : Option Headers) :
    optional headersDecoder (nullable headersJson h) = .ok h := by
  cases h with
  | none => rfl
  | some h => exact optional_of_ne_null (headersDecoder_headersJson h) rfl

theorem optional_string (s : Option String) :
    optional Json.Decoder.string (nullable .string s) = .ok s := by
  cases s <;> rfl

namespace BridgeRequest

variable {r : BridgeRequest} {fs : Fields}

theorem decoder_object (hnames : (Fields.names fs).Nodup) (hurl : urlField.Holds fs r.url)
    (hmethod : methodField.Holds fs r.method) (hheaders : headersField.Holds fs r.headers)
    (hbody : bodyField.Holds fs r.body) : decoder (.object fs) = .ok r := by
  rw [decoder, build_object hnames]
  · rw [ofParts, Member.take_of_holds hurl, Member.take_of_holds hmethod,
      Member.take_of_holds hheaders, Member.take_of_holds hbody]
    rfl
  · simp only [List.forall_mem_cons]
    exact ⟨hurl.passes, hmethod.passes, hheaders.passes, hbody.passes, by simp⟩

theorem decoder_toJson (r : BridgeRequest) : decoder r.toJson = .ok r :=
  decoder_object (by decide : ["url", "method", "headers", "body"].Nodup) rfl rfl
    (optional_headersDecoder r.headers) (optional_string r.body)

end BridgeRequest

namespace BridgeResponse

variable {r : BridgeResponse} {fs : Fields}

theorem statusDecoder_natural (n : UInt16) :
    statusDecoder (.number (.natural n.toUInt64)) = .ok n := by
  have hnat : n.toUInt64.toNat = n.toNat := UInt16.toNat_toUInt64 n
  rw [statusDecoder, Json.Decoder.natural, hnat, if_pos n.toNat_lt]
  exact congrArg Except.ok n.ofNat_toNat

theorem decoder_object (hnames : (Fields.names fs).Nodup) (hstatus : statusField.Holds fs r.status)
    (htext : statusTextField.Holds fs r.statusText) (hheaders : headersField.Holds fs r.headers)
    (hbody : bodyField.Holds fs r.body) : decoder (.object fs) = .ok r := by
  rw [decoder, build_object hnames]
  · rw [ofParts, Member.take_of_holds hstatus, Member.take_of_holds htext,
      Member.take_of_holds hheaders, Member.take_of_holds hbody]
    rfl
  · simp only [List.forall_mem_cons]
    exact ⟨hstatus.passes, htext.passes, hheaders.passes, hbody.passes, by simp⟩

theorem decoder_toJson (r : BridgeResponse) : decoder r.toJson = .ok r :=
  decoder_object (by decide : ["status", "status_text", "headers", "body"].Nodup)
    (statusDecoder_natural r.status) rfl (headersDecoder_headersJson r.headers) rfl

end BridgeResponse

end ClusterConsole.Transport
