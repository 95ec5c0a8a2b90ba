/-
This file reads UTF-8. A byte string is split into units: characters, and ill-formed stretches that
end before the first byte that cannot continue them.
-/

namespace WorkflowEngine.Text.Utf8

/-- A first byte fixes the range of the next byte. -/
structure Lead where
  payload : Nat
  due : Nat
  low : UInt8
  high : UInt8

/-- Overlong forms and surrogates have no second byte. -/
def lead? (byte : UInt8) : Option Lead :=
  if byte < 0x80 then some ⟨byte.toNat, 0, 0x80, 0xBF⟩
  else if byte < 0xC2 then none
  else if byte < 0xE0 then some ⟨byte.toNat - 0xC0, 1, 0x80, 0xBF⟩
  else if byte = 0xE0 then some ⟨0, 2, 0xA0, 0xBF⟩
  else if byte = 0xED then some ⟨0xD, 2, 0x80, 0x9F⟩
  else if byte < 0xF0 then some ⟨byte.toNat - 0xE0, 2, 0x80, 0xBF⟩
  else if byte = 0xF0 then some ⟨0, 3, 0x90, 0xBF⟩
  else if byte < 0xF4 then some ⟨byte.toNat - 0xF0, 3, 0x80, 0xBF⟩
  else if byte = 0xF4 then some ⟨4, 3, 0x80, 0x8F⟩
  else none

/-- A byte that does not continue is left. -/
def continuation (low high : UInt8) : Nat → Nat → List UInt8 → Option Char × List UInt8
  | 0, value, rest => (some (Char.ofNat value), rest)
  | _ + 1, _, [] => (none, [])
  | due + 1, value, byte :: rest =>
    if low ≤ byte ∧ byte ≤ high then
      continuation 0x80 0xBF due (value * 64 + (byte.toNat - 0x80)) rest
    else (none, byte :: rest)

theorem continuationLength (low high : UInt8) (due value : Nat) (bytes : List UInt8) :
    (continuation low high due value bytes).2.length ≤ bytes.length := by
  induction due generalizing low high value bytes with
  | zero => simp [continuation]
  | succ due inductionHypothesis =>
    cases bytes with
    | nil => simp [continuation]
    | cons byte rest =>
      by_cases inRange : low ≤ byte ∧ byte ≤ high
      · simp only [continuation, inRange, and_self, ↓reduceIte, List.length_cons]
        exact Nat.le_succ_of_le (inductionHypothesis ..)
      · simp [continuation, inRange]

/-- A unit is a character, or `none` for one ill-formed stretch. -/
def unit (byte : UInt8) (rest : List UInt8) : Option Char × List UInt8 :=
  match lead? byte with
  | some lead => continuation lead.low lead.high lead.due lead.payload rest
  | none => (none, rest)

theorem unitLength (byte : UInt8) (rest : List UInt8) : (unit byte rest).2.length ≤ rest.length := by
  unfold unit
  split
  · exact continuationLength ..
  · exact Nat.le_refl _

def units : List UInt8 → List (Option Char)
  | [] => []
  | byte :: rest => (unit byte rest).1 :: units (unit byte rest).2
termination_by bytes => bytes.length
decreasing_by exact Nat.lt_succ_of_le (unitLength byte rest)

def decode? (bytes : List UInt8) : Option (List Char) :=
  (units bytes).foldr (fun unit decoded =>
    match unit, decoded with
    | some c, some rest => some (c :: rest)
    | _, _ => none) (some [])

/-- One U+FFFD stands for each ill-formed stretch. -/
def decodeLossy (bytes : List UInt8) : String :=
  String.ofList ((units bytes).map fun unit => unit.getD '\uFFFD')

def encode (text : String) : List UInt8 :=
  text.toUTF8.toList

end WorkflowEngine.Text.Utf8
