namespace ContactSearch
namespace Text

/-!
# Text as bytes

A string has exactly one byte form.  Reading bytes is strict where a fault has
to be reported, and lenient where it has not: then every malformed stretch is
shown as one replacement character.  A stretch ends before the first byte that
cannot continue it, so a byte that begins a character of its own is not lost.
-/

/-- The bytes of a text. -/
def bytes (text : String) : List UInt8 :=
  text.toList.flatMap String.utf8EncodeChar

/-- The text with the given bytes, if they are well formed. -/
def ofBytes? (data : List UInt8) : Option String :=
  String.fromUTF8? data.toByteArray

theorem toByteArray_bytes (text : String) : (bytes text).toByteArray = text.toByteArray :=
  String.utf8Encode_toList

theorem ofBytes?_bytes (text : String) : ofBytes? (bytes text) = some text := by
  have valid : text.toByteArray.IsValidUTF8 := text.isValidUTF8
  unfold ofBytes?
  rw [toByteArray_bytes, String.fromUTF8?, dif_pos valid]
  rfl

/-- Reading accepts only the bytes of a text, so the byte form is unique. -/
theorem bytes_of_ofBytes? {data : List UInt8} {text : String} (read : ofBytes? data = some text) :
    bytes text = data := by
  unfold ofBytes? at read
  rw [String.fromUTF8?] at read
  split at read
  · rw [Option.some.injEq] at read
    have same : (bytes text).toByteArray = data.toByteArray := by
      rw [toByteArray_bytes, ← read]
      rfl
    exact List.toByteArray_inj.mp same
  · simp at read

/-- The character that stands for malformed bytes. -/
def replacement : Char := '\uFFFD'

/-- What may follow the first byte of a character of several bytes. -/
structure Continuation where
  count : Nat
  low : Nat
  high : Nat
  bits : Nat

/--
How a character goes on after a first byte that is not ASCII.  The bounds of the second byte
keep out overlong forms, surrogates and values beyond the last code point.
-/
def continuation? (lead : Nat) : Option Continuation :=
  if 0xC2 ≤ lead ∧ lead ≤ 0xDF then some ⟨1, 0x80, 0xBF, lead % 32⟩
  else if lead = 0xE0 then some ⟨2, 0xA0, 0xBF, lead % 16⟩
  else if lead = 0xED then some ⟨2, 0x80, 0x9F, lead % 16⟩
  else if 0xE1 ≤ lead ∧ lead ≤ 0xEF then some ⟨2, 0x80, 0xBF, lead % 16⟩
  else if lead = 0xF0 then some ⟨3, 0x90, 0xBF, lead % 8⟩
  else if 0xF1 ≤ lead ∧ lead ≤ 0xF3 then some ⟨3, 0x80, 0xBF, lead % 8⟩
  else if lead = 0xF4 then some ⟨3, 0x80, 0x8F, lead % 8⟩
  else none

/-- The continuation bytes at the front, at most `count`; only the first has special bounds. -/
def takeContinuation : Nat -> Nat -> Nat -> List UInt8 -> List Nat
  | count + 1, low, high, byte :: rest =>
      if low ≤ byte.toNat ∧ byte.toNat ≤ high then
        byte.toNat :: takeContinuation count 0x80 0xBF rest
      else
        []
  | _, _, _, _ => []

/-- The code point that bits of a first byte and continuation bytes make up. -/
def joinBits (bits : Nat) (tail : List Nat) : Nat :=
  tail.foldl (fun value byte => value * 64 + byte % 64) bits

/-- The first character, and how many bytes it takes after the first byte. -/
def firstLenient (lead : UInt8) (rest : List UInt8) : Char × Nat :=
  if lead.toNat < 0x80 then
    (Char.ofNat lead.toNat, 0)
  else
    match continuation? lead.toNat with
    | none => (replacement, 0)
    | some continuation =>
        let tail := takeContinuation continuation.count continuation.low continuation.high rest
        if tail.length = continuation.count then
          (Char.ofNat (joinBits continuation.bits tail), tail.length)
        else
          (replacement, tail.length)

/-- Read bytes, with a replacement character for every malformed stretch. -/
def lenientCharacters : List UInt8 -> List Char
  | [] => []
  | lead :: rest =>
      let (c, taken) := firstLenient lead rest
      c :: lenientCharacters (rest.drop taken)
termination_by data => data.length
decreasing_by simp only [List.length_drop, List.length_cons]; omega

/-- The text of bytes, with a replacement character for every malformed stretch. -/
def ofBytesLenient (data : List UInt8) : String :=
  String.ofList (lenientCharacters data)

end Text
end ContactSearch
