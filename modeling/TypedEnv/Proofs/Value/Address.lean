import TypedEnv.Proofs.Url.RoundTrip
import TypedEnv.Proofs.Value.Cascade

/-!
# Written addresses are read back

The text of an address begins with a letter and has a colon, so it is none of
the kinds that are tried before addresses.  It is inferred as an address only
when it has the mark `://`, which it can lose: the mark is looked for in the
text that is read, and reading takes empty segments away from a path.
-/

namespace TypedEnv

/-- What the texts of addresses have in common. -/
structure BeginsWithScheme (text : List Char) : Prop where
  letter : text.head?.map Char.isAlpha = some true
  colon : ':' ∈ text

theorem parseUrl_eq_ok_iff {text : String} {address : Url} :
    parseUrl text = .ok (.url (some address)) ↔ Url.read text.toList = .ok address := by
  rw [parseUrl]
  cases Url.read text.toList with
  | ok other => simp
  | error cause => simp

/-- An address that was inferred was read. -/
theorem read_of_infer_url {raw : String} {address : Url}
    (inferred : infer raw = .ok (.url (some address))) : Url.read raw.toList = .ok address := by
  have parsed : parseAs .url raw = .ok (.url (some address)) := parseAs_of_infer inferred
  rw [parseAs] at parsed
  split at parsed
  · cases parsed
  · split at parsed
    · exact parseUrl_eq_ok_iff.mp (Outcome.ofError_eq_ok_iff.mp parsed)
    · cases parsed

section Inferred

variable {text : String} (begins : BeginsWithScheme text.toList)
include begins

theorem BeginsWithScheme.not_isEmpty : ¬ text.isEmpty = true := by
  intro isEmpty
  have letter := begins.letter
  rw [String.isEmpty_iff.mp isEmpty] at letter
  cases letter

/-- With the mark, a text that begins with a scheme is read as an address; without it, the text
is a string. -/
theorem infer_address : infer text =
    if hasSchemeMark text.toList then .ofError (parseUrl text) else .ok (.string text) := by
  rw [infer, if_neg begins.not_isEmpty, inferNumber?_of_colon begins.colon,
    duration_read?_of_colon begins.colon]

theorem parseAs_address : parseAs .url text =
    if hasSchemeMark text.toList then .ofError (parseUrl text)
    else .error (.error ⟨text, .missingScheme⟩) := by
  rw [parseAs, if_neg begins.not_isEmpty]

variable {address : Url}

theorem infer_url_iff : infer text = .ok (.url (some address)) ↔
    hasSchemeMark text.toList = true ∧ Url.read text.toList = .ok address := by
  rw [infer_address begins]
  split
  · next marked =>
      rw [Outcome.ofError_eq_ok_iff, parseUrl_eq_ok_iff]
      exact (and_iff_right marked).symm
  · next unmarked => simp [unmarked]

theorem parseAs_url_iff : parseAs .url text = .ok (.url (some address)) ↔
    hasSchemeMark text.toList = true ∧ Url.read text.toList = .ok address := by
  rw [parseAs_address begins]
  split
  · next marked =>
      rw [Outcome.ofError_eq_ok_iff, parseUrl_eq_ok_iff]
      exact (and_iff_right marked).symm
  · next unmarked => simp [unmarked]

end Inferred

theorem hasSchemeMark_append (front rest : List Char) :
    hasSchemeMark (front ++ ':' :: '/' :: '/' :: rest) = true :=
  hasSchemeMark_eq_true_iff.mpr ⟨front, rest, by simp⟩

namespace Url

/-- What an address that was inferred needs to be inferred again from its text. -/
structure IsDurable (url : Url) : Prop extends url.IsStable where
  marked : url.authority = none → hasSchemeMark url.text = true

/-- The mark of an address with an authority is never lost. -/
theorem hasSchemeMark_text {url : Url} {authority : Authority}
    (served : url.authority = some authority) : hasSchemeMark url.text = true := by
  rw [text_eq, body, authorityText, served]
  exact hasSchemeMark_append url.scheme _

theorem beginsWithScheme_text {url : Url} (isAddress : IsAddress url) :
    BeginsWithScheme url.text := by
  have isScheme := isAddress.isScheme
  rw [text_eq]
  constructor
  · have letter := isScheme.letter
    cases scheme : url.scheme with
    | nil =>
        rw [scheme] at letter
        cases letter
    | cons first others =>
        rw [scheme] at letter
        exact letter
  · simp

/-- An inferred address is inferred and read again from its text exactly when it is durable. -/
theorem reads_back_iff {raw : String} {address : Url}
    (inferred : infer raw = .ok (.url (some address))) :
    (infer (Value.render (.url (some address))) = .ok (.url (some address)) ∧
      parseAs .url (Value.render (.url (some address))) = .ok (.url (some address))) ↔
    address.IsDurable := by
  have isAddress := isAddress_read (read_of_infer_url inferred)
  have text : (Value.render (.url (some address))).toList = address.text := String.toList_ofList
  have begins : BeginsWithScheme (Value.render (.url (some address))).toList := by
    rw [text]
    exact beginsWithScheme_text isAddress
  rw [infer_url_iff begins, parseAs_url_iff begins, and_self, text, read_text_iff isAddress]
  constructor
  · rintro ⟨marked, stable⟩
    exact ⟨stable, fun _ => marked⟩
  · intro durable
    refine ⟨?_, durable.toIsStable⟩
    cases served : address.authority with
    | none => exact durable.marked served
    | some authority => exact hasSchemeMark_text served

def loopback : Host :=
  .ipv6 [0, 0, 0, 0, 0, 0, 0, 1]

def brokerAddress : Url :=
  ⟨"mqtt".toList, some ⟨[], [], loopback, some 1883⟩, .rooted ["jobs".toList], none, none⟩

theorem reads_back_brokerAddress :
    infer "MQTT://[0:0::1]:01883/./jobs" = .ok (.url (some brokerAddress)) ∧
      brokerAddress.IsDurable ∧
      infer (Value.render (.url (some brokerAddress))) = .ok (.url (some brokerAddress)) ∧
      parseAs .url (Value.render (.url (some brokerAddress))) =
        .ok (.url (some brokerAddress)) := by
  have inferred : infer "MQTT://[0:0::1]:01883/./jobs" = .ok (.url (some brokerAddress)) :=
    (infer_url_iff ⟨rfl, by decide⟩).mpr (by decide +kernel)
  have durable : brokerAddress.IsDurable := by
    refine ⟨⟨?_, ?_⟩, ?_⟩
    · intro isFile
      exact absurd isFile (by decide)
    · rintro authority ⟨⟩ name ⟨⟩
    · rintro ⟨⟩
  exact ⟨inferred, durable, (reads_back_iff inferred).mpr durable⟩

/-- What is read from `unix:/run/db://../app`: the segment above is the empty one, so the mark is
gone. -/
def socketAddress : Url :=
  ⟨"unix".toList, none, .rooted ["run".toList, "db:".toList, "app".toList], none, none⟩

/-- A file on the drive `C:` of a host. -/
def driveAddress (host : Host) : Url :=
  ⟨"file".toList, some (fileAuthority host), .rooted ["C:".toList, "x".toList], none, none⟩

/-- The text of an address can be a string, and it can be the text of another address. -/
theorem reads_back_fails :
    (infer "unix:/run/db://../app" = .ok (.url (some socketAddress)) ∧
      infer (Value.render (.url (some socketAddress))) = .ok (.string "unix:/run/db:/app") ∧
      parseAs .url (Value.render (.url (some socketAddress))) =
        .error (.error ⟨"unix:/run/db:/app", .missingScheme⟩)) ∧
    (infer "file://[::1]//C:/x" = .ok (.url (some (driveAddress loopback))) ∧
      infer (Value.render (.url (some (driveAddress loopback)))) =
        .ok (.url (some (driveAddress (.name [])))) ∧
      parseAs .url (Value.render (.url (some (driveAddress loopback)))) =
        .ok (.url (some (driveAddress (.name []))))) := by
  have socketText : Value.render (.url (some socketAddress)) = "unix:/run/db:/app" := by
    decide +kernel
  have driveText : Value.render (.url (some (driveAddress loopback))) = "file://[::1]/C:/x" := by
    decide +kernel
  have beginsSocket : BeginsWithScheme "unix:/run/db:/app".toList := ⟨rfl, by decide⟩
  have beginsDrive : BeginsWithScheme "file://[::1]/C:/x".toList := ⟨rfl, by decide⟩
  have unmarked : ¬ hasSchemeMark "unix:/run/db:/app".toList = true := by decide
  have readsLocal : hasSchemeMark "file://[::1]/C:/x".toList = true ∧
      Url.read "file://[::1]/C:/x".toList = .ok (driveAddress (.name [])) := by decide +kernel
  rw [socketText, driveText]
  refine ⟨⟨?_, ?_, ?_⟩, ?_, ?_, ?_⟩
  · exact (infer_url_iff ⟨rfl, by decide⟩).mpr (by decide +kernel)
  · rw [infer_address beginsSocket, if_neg unmarked]
  · rw [parseAs_address beginsSocket, if_neg unmarked]
  · exact (infer_url_iff ⟨rfl, by decide⟩).mpr (by decide +kernel)
  · exact (infer_url_iff beginsDrive).mpr readsLocal
  · exact (parseAs_url_iff beginsDrive).mpr readsLocal

end Url

end TypedEnv
