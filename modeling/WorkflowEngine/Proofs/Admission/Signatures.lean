/-
This file proves which requests satisfy a signature: those whose last header of the configured name
holds the keyed hash of the body in hexadecimal digits, between blanks and behind one mark at most.
-/

import WorkflowEngine.Admission.Request
import WorkflowEngine.Proofs.Text.HexadecimalBytes
import WorkflowEngine.Proofs.Text.Trimming
import Mathlib.Data.List.Induction

namespace WorkflowEngine

open Text Digest Time

/-- The last header of a name holds. Names are told apart without regard to ASCII case. -/
def LastHeader (headers : List (String × String)) (name value : String) : Prop :=
  ∃ earlier other later, headers = earlier ++ (other, value) :: later ∧
    lowerAscii other = lowerAscii name ∧
    ∀ header ∈ later, lowerAscii header.1 ≠ lowerAscii name

/-- Only blanks stand around the digits and the mark in front of them. -/
def Wraps (text digits : List Char) : Prop :=
  ∃ front mark back, text = front ++ mark ++ digits ++ back ∧
    (∀ c ∈ front, isBlank c = true) ∧ (∀ c ∈ back, isBlank c = true) ∧
    (mark = [] ∨ mark = "sha256=".toList)

/-- Digits sign a body if they are the sixty-four digits, of any case, of its keyed hash. -/
structure Signs (secret : String) (body : List UInt8) (digits : List Char) : Prop where
  length : digits.length = 64
  hexadecimal : ∀ c ∈ digits, Hexadecimal.IsDigit c
  decodes : Hexadecimal.decode? digits = some (Hmac.authenticator (Utf8.encode secret) body)
  written : digits.map lowerAsciiChar = (signBody secret body).toList

section

variable {headers : List (String × String)} {name value secret : String} {body : List UInt8}
  {digits : List Char} {receivedAt : Timestamp}

/-- A further header holds if it has the name. -/
theorem lastHeader_append {header : String × String} :
    LastHeader (headers ++ [header]) name value ↔
      if lowerAscii header.1 = lowerAscii name then header.2 = value
      else LastHeader headers name value := by
  constructor
  · rintro ⟨earlier, other, later, listed, same, absent⟩
    rcases List.eq_nil_or_concat later with rfl | ⟨between, last, rfl⟩
    · obtain ⟨-, rfl⟩ := List.append_inj' listed rfl |>.imp_right List.singleton_inj.mp
      rw [if_pos same]
    · rw [List.concat_eq_append, ← List.cons_append, ← List.append_assoc] at listed
      obtain ⟨rfl, single⟩ := List.append_inj' listed rfl
      cases single
      rw [if_neg (absent header (by simp))]
      exact ⟨earlier, other, between, rfl, same, fun one member => absent one (by simp [member])⟩
  · intro holds
    split at holds
    · next same =>
      subst holds
      exact ⟨headers, header.1, [], rfl, same, by simp⟩
    · next different =>
      obtain ⟨earlier, other, later, rfl, same, absent⟩ := holds
      refine ⟨earlier, other, later ++ [header], by simp, same, fun one member => ?_⟩
      rcases List.mem_append.mp member with among | last
      · exact absent one among
      · rwa [List.mem_singleton.mp last]

/-- A request looks up the last header of a name. -/
theorem header?_ofHeaders :
    (WebhookRequest.ofHeaders headers body receivedAt).header? name = some value ↔
      LastHeader headers name value := by
  induction headers using List.reverseRecOn with
  | nil => simp [WebhookRequest.ofHeaders, WebhookRequest.header?, Table.get?, LastHeader]
  | append_singleton headers header inductionHypothesis =>
    unfold WebhookRequest.ofHeaders WebhookRequest.header? at inductionHypothesis ⊢
    rw [lastHeader_append, ← inductionHypothesis]
    simp only [List.foldl_append, List.foldl_cons, List.foldl_nil]
    split
    · next same => rw [same, Table.getInsertSame, Option.some.injEq]
    · next different => rw [Table.getInsertOther _ _ different]

/-- A text wraps what is taken for the digits of its signature. -/
theorem wraps_signatureDigits (value : String) :
    Wraps value.toList (Authentication.signatureDigits value) := by
  obtain ⟨front, back, between, before, behind⟩ := trim_between value.toList
  cases marked : withoutStart "sha256=".toList (trim value.toList) with
  | none =>
    simp only [Authentication.signatureDigits, marked, Option.getD_none]
    exact ⟨front, [], back, by rwa [List.append_nil], before, behind, .inl rfl⟩
  | some digits =>
    simp only [Authentication.signatureDigits, marked, Option.getD_some]
    rw [withoutStart_eq_some_iff.mp marked, ← List.append_assoc] at between
    exact ⟨front, "sha256=".toList, back, between, before, behind, .inr rfl⟩

/-- Digits do not begin with the mark. -/
theorem withoutStart_digits (hexadecimal : ∀ c ∈ digits, Hexadecimal.IsDigit c) :
    withoutStart "sha256=".toList digits = none := by
  rw [Option.eq_none_iff_forall_ne_some]
  intro rest found
  have begins := withoutStart_eq_some_iff.mp found
  have letter := hexadecimal 's' (by simp [begins])
  revert letter
  unfold Hexadecimal.IsDigit
  decide

/-- Hexadecimal digits that a text wraps are taken for those of its signature. -/
theorem signatureDigits_of_wraps (wraps : Wraps value.toList digits) (some : digits ≠ [])
    (hexadecimal : ∀ c ∈ digits, Hexadecimal.IsDigit c) :
    Authentication.signatureDigits value = digits := by
  obtain ⟨front, mark, back, text, before, behind, marked⟩ := wraps
  have visible : ∀ c ∈ mark ++ digits, isBlank c = false := by
    intro c member
    rcases List.mem_append.mp member with first | second
    · have each : ∀ c ∈ "sha256=".toList, isBlank c = false := by simp [isBlank]
      rcases marked with rfl | rfl
      · cases first
      · exact each c first
    · exact (hexadecimal c second).visible
  have trimmed := trim_surrounded before visible (by simp [some]) behind
  rw [← List.append_assoc, ← text] at trimmed
  simp only [Authentication.signatureDigits, trimmed]
  rcases marked with rfl | rfl
  · rw [List.nil_append, withoutStart_digits hexadecimal, Option.getD_none]
  · rw [withoutStart_eq_some_iff.mpr rfl, Option.getD_some]

/-- What is read as the keyed hash of a body signs it. -/
theorem signs_iff : Signs secret body digits ↔
    Hexadecimal.decode? digits = some (Hmac.authenticator (Utf8.encode secret) body) := by
  constructor
  · exact Signs.decodes
  · intro decodes
    have written := Hexadecimal.decode?_eq_some_iff.mp decodes
    have counted := congrArg List.length written
    rw [List.length_map, Hexadecimal.length_encode, Hmac.authenticatorLength] at counted
    refine ⟨counted, Hexadecimal.isDigit_of_decode? decodes, decodes, ?_⟩
    rw [written, signBody, String.toList_ofList]

/-- What is written for the keyed hash of a body signs it. -/
theorem signs_signBody (secret : String) (body : List UInt8) :
    Signs secret body (signBody secret body).toList := by
  rw [signs_iff, signBody, String.toList_ofList]
  exact Hexadecimal.decode?_encode _

/-- A text is accepted if it wraps digits that sign the body. -/
theorem signatureDigits_decode : Hexadecimal.decode? (Authentication.signatureDigits value) =
      some (Hmac.authenticator (Utf8.encode secret) body) ↔
    ∃ digits, Wraps value.toList digits ∧ Signs secret body digits := by
  constructor
  · intro decodes
    exact ⟨_, wraps_signatureDigits value, signs_iff.mpr decodes⟩
  · rintro ⟨digits, wraps, signs⟩
    have some : digits ≠ [] := List.ne_nil_of_length_pos (by simp [signs.length])
    rw [signatureDigits_of_wraps wraps some signs.hexadecimal]
    exact signs.decodes

theorem accepts_signature {header : String} {request : WebhookRequest} :
    (Authentication.signature header secret).accepts request = true ↔
      ∃ value, request.header? header = some value ∧
        Hexadecimal.decode? (Authentication.signatureDigits value) =
          some (Hmac.authenticator (Utf8.encode secret) request.body) := by
  cases found : request.header? header with
  | none => simp [Authentication.accepts, found]
  | some value => simp [Authentication.accepts, found]

end

/-- The last header of the name decides, and its digits have to sign the body. -/
theorem signature_accepts (header secret : String) (headers : List (String × String))
    (body : List UInt8) (receivedAt : Timestamp) :
    ((Authentication.signature header secret).accepts (.ofHeaders headers body receivedAt) = true ↔
      ∃ value digits, LastHeader headers header value ∧ Wraps value.toList digits ∧
        Signs secret body digits) ∧
    ∀ value, LastHeader headers header value → Wraps value.toList (signBody secret body).toList →
      (Authentication.signature header secret).accepts (.ofHeaders headers body receivedAt) =
        true := by
  have accepted : (Authentication.signature header secret).accepts
        (.ofHeaders headers body receivedAt) = true ↔
      ∃ value digits, LastHeader headers header value ∧ Wraps value.toList digits ∧
        Signs secret body digits := by
    rw [accepts_signature]
    apply exists_congr
    intro value
    rw [header?_ofHeaders, exists_and_left]
    exact and_congr_right fun _ => signatureDigits_decode
  refine ⟨accepted, fun value last wraps => accepted.mpr ?_⟩
  exact ⟨value, _, last, wraps, signs_signBody secret body⟩

/-- Of two headers of one name the last one counts. -/
theorem signature_accepts_marked : (Authentication.signature "X-Signature-256" "key").accepts
    (.ofHeaders [("x-signature-256", "0"), ("X-SIGNATURE-256",
        "\t sha256=" ++ signBody "key" [104, 105] ++ "\n"), ("accept", "*/*")] [104, 105]
      ⟨0, 0⟩) = true := by
  apply (signature_accepts _ _ _ _ _).2 ("\t sha256=" ++ signBody "key" [104, 105] ++ "\n")
  · refine ⟨[("x-signature-256", "0")], "X-SIGNATURE-256", [("accept", "*/*")], rfl, ?_, ?_⟩
    · rw [← String.toList_inj, lowerAscii, lowerAscii, String.toList_map, String.toList_map]
      decide
    · intro header member
      rw [List.mem_singleton.mp member, Ne, ← String.toList_inj, lowerAscii, lowerAscii,
        String.toList_map, String.toList_map]
      decide
  · exact ⟨['\t', ' '], "sha256=".toList, ['\n'], by simp, by simp [isBlank], by simp [isBlank],
      .inr rfl⟩

end WorkflowEngine
