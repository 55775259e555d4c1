import ContactSearch.Text.Hexadecimal

namespace ContactSearch
namespace Text

/-!
# Percent escapes

A percent sign and two hexadecimal digits stand for a byte.  A percent sign
that is not followed by two digits stands for itself, so decoding never fails.
-/

/-- The value of a byte that is a hexadecimal digit. -/
def hexByte? (byte : UInt8) : Option Nat :=
  hexValue? (Char.ofNat byte.toNat)

/-- The byte of the percent sign. -/
def percentSign : UInt8 := 0x25

/-- Replace every percent escape by its byte. -/
def percentDecode : List UInt8 -> List UInt8
  | [] => []
  | byte :: rest =>
      if byte = percentSign then
        match rest with
        | first :: second :: rest =>
            match hexByte? first, hexByte? second with
            | some high, some low => UInt8.ofNat (high * 16 + low) :: percentDecode rest
            | _, _ => byte :: percentDecode (first :: second :: rest)
        | rest => byte :: percentDecode rest
      else
        byte :: percentDecode rest
termination_by data => data.length

end Text
end ContactSearch
