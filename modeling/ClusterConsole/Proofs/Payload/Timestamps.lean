import ClusterConsole.Proofs.Payload.Identity
import ClusterConsole.Proofs.Text.Integer
import ClusterConsole.Proofs.Time.Millis

/-!
# The times of a record

An object gives each of its two times in milliseconds after the epoch, as a number or as text, in
its metadata or beside its properties. However the integer is given, the record has the same time:
the instant of that millisecond where the calendar has one, and else none.
-/

namespace ClusterConsole

namespace Binary64

theorem scale_pos : 0 < scale := by decide +kernel

theorem truncate_of_whole {x : Binary64} {n : Nat} (h : x.magnitude = n * scale) :
    x.truncate = if x.negative then -(n : Int) else n := by
  rw [truncate, h, Nat.mul_div_cancel n scale_pos]
  rfl

end Binary64

namespace Json

/-- The number is the integer. A binary64 number is one if it is whole. -/
inductive Number.Equals : Number → Int → Prop where
  | natural (n : UInt64) : Equals (.natural n) n.toNat
  | negative (n : Fin 0x8000000000000000) : Equals (.negative n) (-(n.val + 1))
  | whole {x : Binary64} {n : Nat} (h : x.magnitude = n * Binary64.scale) :
    Equals (.real x) (if x.negative then -n else n)

inductive Value.Denotes : Value → Int → Prop where
  | number {m : Number} {n : Int} (h : m.Equals n) : Denotes (.number m) n
  | text {s : String} {n : Int} (h : Text.Spells s n) : Denotes (.string s) n

end Json

namespace Record

open Json (Value Number Fields)
open Text (FitsInt64)
open Time (InCalendar Instant)

variable {shape : Shape} {fields : Fields} {name : String} {v : Value} {n : Int}

theorem clampInt64_of_fits (h : FitsInt64 n) : clampInt64 n = n := by
  obtain ⟨hlow, hhigh⟩ := h
  rw [clampInt64]
  omega

theorem millis?_of_equals {m : Number} (h : m.Equals n) (hfits : FitsInt64 n) :
    millis? (.number m) = some n := by
  cases h with
  | natural k =>
    have hk : k.toNat < 0x8000000000000000 := by
      obtain ⟨-, hhigh⟩ := hfits
      omega
    rw [millis?, Number.int64?, if_pos hk, Option.getD_some]
  | negative k =>
    rw [millis?, Number.int64?, Option.getD_some, Int.negSucc_eq]
  | whole hwhole =>
    rw [millis?, Number.int64?, Option.getD_none, Number.toBinary64,
      Binary64.truncate_of_whole hwhole, clampInt64_of_fits hfits]

theorem millis?_of_denotes (h : v.Denotes n) (hfits : FitsInt64 n) : millis? v = some n := by
  cases h with
  | number hn => exact millis?_of_equals hn hfits
  | text hs =>
    rw [millis?]
    exact Text.int64?_trimChars_eq_some_iff.2 ⟨hs, hfits⟩

/-- What an object has under a name: in its metadata, or beside its properties where it has null or
nothing there. -/
inductive Carries (fields : Fields) (name : String) : Value → Prop where
  | nested {v : Value} (h : nested? fields name = some v) (hv : v.isNull = false) :
    Carries fields name v
  | own {v : Value} (hnested : ∀ w, nested? fields name = some w → w.isNull = true)
    (h : Fields.get? name fields = some v) : Carries fields name v

theorem metadata_eq_some_iff : metadata fields name = some v ↔ Carries fields name v := by
  constructor
  · intro h
    rcases metadata_cases fields name with ⟨w, hw, hnull, hmetadata⟩ | ⟨hall, hown⟩
    · rw [h] at hmetadata
      cases hmetadata
      exact .nested hw hnull
    · exact .own hall (hown ▸ h)
  · intro h
    rcases metadata_cases fields name with ⟨w, hw, hnull, hmetadata⟩ | ⟨hall, hown⟩
    · cases h with
      | nested hv hnull' =>
        rw [hw] at hv
        cases hv
        exact hmetadata
      | own hall' hv =>
        rw [hall' w hw] at hnull
        cases hnull
    · cases h with
      | nested hv hnull =>
        rw [hall _ hv] at hnull
        cases hnull
      | own hall' hv => rw [hown, hv]

inductive Stamp where
  | created
  | updated

namespace Stamp

def key : Stamp → String
  | .created => "creationTimeUnix"
  | .updated => "lastUpdateTimeUnix"

def of (r : Record) : Stamp → Option Instant
  | .created => r.created
  | .updated => r.updated

theorem of_ofFields (stamp : Stamp) (shape : Shape) (fields : Fields) :
    stamp.of (ofFields shape fields) = (metadata fields stamp.key).bind instant? := by
  cases stamp <;> rfl

def GivenAs (stamp : Stamp) (fields : Fields) (n : Int) : Prop :=
  ∃ v, Carries fields stamp.key v ∧ v.Denotes n

theorem of_givenAs {stamp : Stamp} (h : stamp.GivenAs fields n) (hfits : FitsInt64 n)
    (shape : Shape) : stamp.of (ofFields shape fields) = Instant.ofMillis? n := by
  obtain ⟨v, hcarries, hv⟩ := h
  rw [of_ofFields, metadata_eq_some_iff.2 hcarries, Option.bind_some, instant?,
    millis?_of_denotes hv hfits, Option.bind_some]

end Stamp

/-- Two objects that give a time in milliseconds, each as a number or as text, become records. Such
a record has a time exactly if the calendar has the millisecond, and it is the instant of that. The
times of equal numbers are equal, and those of different numbers in the calendar are different. -/
theorem timestamps_agree {stamp stamp' : Stamp} {fields fields' : Fields} {m n : Int}
    (hm : FitsInt64 m) (hn : FitsInt64 n) (h : stamp.GivenAs fields m)
    (h' : stamp'.GivenAs fields' n) (shape shape' : Shape) :
    ∃ r r', ofItem? shape (.object fields) = some r ∧ ofItem? shape' (.object fields') = some r' ∧
      ((stamp.of r).isSome = true ↔ InCalendar m) ∧
      (∀ t, stamp.of r = some t ↔ t.IsAt m) ∧
      (m = n → stamp.of r = stamp'.of r') ∧
      (InCalendar m → m ≠ n → stamp.of r ≠ stamp'.of r') := by
  refine ⟨ofFields shape fields, ofFields shape' fields', rfl, rfl, ?_⟩
  rw [Stamp.of_givenAs h hm, Stamp.of_givenAs h' hn]
  refine ⟨Instant.isSome_ofMillis?_iff, fun t => Instant.ofMillis?_eq_some_iff, ?_, ?_⟩
  · rintro rfl
    rfl
  · intro hin hne he
    exact hne ((Instant.ofMillis?_inj hin).1 he)

def Sample.eve : Fields := [("creationTimeUnix", .number (.negative ⟨0, by decide⟩))]

def Sample.paddedEve : Fields :=
  [("_additional", .object [("lastUpdateTimeUnix", .string "\u3000-0001\n")]),
    ("lastUpdateTimeUnix", .number (.natural 7))]

def Sample.ends : Fields :=
  [("creationTimeUnix", .string "+08210266876799999"),
    ("lastUpdateTimeUnix", .number (.natural 8210266876800000))]

theorem eve_and_end_dated :
    (FitsInt64 (-1) ∧ Stamp.created.GivenAs Sample.eve (-1) ∧
      Stamp.updated.GivenAs Sample.paddedEve (-1)) ∧
    (∃ r r', ofItem? .rest (.object Sample.eve) = some r ∧
      ofItem? .graph (.object Sample.paddedEve) = some r' ∧ r.created = r'.updated ∧
      r.created.map (·.chars) = some "1969-12-31T23:59:59.999Z".toList) ∧
    ∃ r, ofItem? .rest (.object Sample.ends) = some r ∧
      r.created.map (·.chars) = some "+262142-12-31T23:59:59.999Z".toList ∧ r.updated = none := by
  have hfits : FitsInt64 (-1) := by decide
  have heve : Stamp.created.GivenAs Sample.eve (-1) :=
    ⟨_, .own (by rintro w h; cases h) rfl, .number (.negative _)⟩
  obtain ⟨hpadded, -⟩ := Text.int64?_trimChars_eq_some_iff.1
    (by decide : Text.int64? (Text.trimChars "\u3000-0001\n".toList) = some (-1))
  have hpaddedEve : Stamp.updated.GivenAs Sample.paddedEve (-1) :=
    ⟨_, .nested rfl rfl, .text hpadded⟩
  obtain ⟨hlast, hlastFits⟩ := Text.int64?_trimChars_eq_some_iff.1
    (by decide : Text.int64? (Text.trimChars "+08210266876799999".toList) =
      some 8210266876799999)
  have hend : Stamp.created.GivenAs Sample.ends 8210266876799999 :=
    ⟨_, .own (by rintro w h; cases h) rfl, .text hlast⟩
  have hbeyondFits : FitsInt64 8210266876800000 := by decide
  have hbeyond : Stamp.updated.GivenAs Sample.ends 8210266876800000 :=
    ⟨_, .own (by rintro w h; cases h) rfl, .number (.natural 8210266876800000)⟩
  obtain ⟨r, r', hr, hr', -, -, hsame, -⟩ :=
    timestamps_agree hfits hfits heve hpaddedEve .rest .graph
  obtain ⟨s, -, hs, -, hbounds, -⟩ :=
    timestamps_agree hbeyondFits hlastFits hbeyond hend .rest .rest
  refine ⟨⟨hfits, heve, hpaddedEve⟩, ⟨r, r', hr, hr', hsame rfl, ?_⟩, s, hs, ?_, ?_⟩
  · cases hr
    decide +kernel
  · cases hs
    decide +kernel
  · have hout : ¬InCalendar 8210266876800000 := by decide
    have hnone := mt hbounds.1 hout
    simpa [Stamp.of] using hnone

end Record

end ClusterConsole
