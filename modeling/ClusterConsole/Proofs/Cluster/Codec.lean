import ClusterConsole.Cluster.Connection
import ClusterConsole.Proofs.Json.Decoder

/-!
# Connections are read back

A connection is read from its own JSON and from its wire fields. Both give the connection, but that
an empty key is none.
-/

namespace ClusterConsole

open Json (Fields)
open Json.Decoder (Member build_object)

theorem Scheme.decoder_toJson (s : Scheme) : decoder s.toJson = .ok s := by
  cases s <;> rfl

namespace Connection

variable {c : Connection} {fs : Fields}

theorem decoder_object (hnames : (Fields.names fs).Nodup) (hid : idField.Holds fs c.id)
    (hname : nameField.Holds fs c.name) (hscheme : schemeField.Holds fs c.scheme)
    (haddress : addressField.Holds fs c.address) (hkey : keyField.Holds fs c.apiKey) :
    decoder (.object fs) = .ok c := by
  rw [decoder, build_object hnames]
  · rw [ofParts, Member.take_of_holds hid, Member.take_of_holds hname,
      Member.take_of_holds hscheme, Member.take_of_holds haddress, Member.take_of_holds hkey]
    rfl
  · simp only [List.forall_mem_cons]
    exact ⟨hid.passes, hname.passes, hscheme.passes, haddress.passes, hkey.passes, by simp⟩

def withoutEmptyKey (c : Connection) : Connection :=
  { c with apiKey := if c.apiKey = some "" then none else c.apiKey }

theorem keyDecoder_string (key : String) :
    keyDecoder (.string key) = .ok (if some key = some "" then none else some key) := by
  by_cases h : key = "" <;> simp [keyDecoder, Json.Decoder.optional, Json.Decoder.string,
    Except.map, Option.filter, h]

theorem decoder_toJson (c : Connection) : decoder c.toJson = .ok c.withoutEmptyKey := by
  obtain ⟨id, name, scheme, address, apiKey⟩ := c
  cases apiKey with
  | none =>
    exact decoder_object (by decide : ["id", "name", "scheme", "address"].Nodup) rfl rfl
      scheme.decoder_toJson rfl rfl
  | some key =>
    exact decoder_object (by decide : ["id", "name", "scheme", "address", "apiKey"].Nodup) rfl rfl
      scheme.decoder_toJson rfl (keyDecoder_string key)

theorem decoder_wireFields (c : Connection) :
    decoder (.object c.wireFields) = .ok c.withoutEmptyKey := by
  obtain ⟨id, name, scheme, address, apiKey⟩ := c
  have hnames : ["id", "name", "scheme", "address", "apiKey"].Nodup := by decide
  cases apiKey with
  | none => exact decoder_object hnames rfl rfl scheme.decoder_toJson rfl rfl
  | some key =>
    exact decoder_object hnames rfl rfl scheme.decoder_toJson rfl (keyDecoder_string key)

end Connection

end ClusterConsole
