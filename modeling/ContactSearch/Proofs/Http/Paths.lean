import ContactSearch.Http.Segment

namespace ContactSearch
namespace Http

/-!
# Paths and their pieces

A path is determined by its pieces, since they are what stands between its
slashes.  Conversely any texts without slashes are the pieces of a path.  The
segments are the pieces that are not empty, so they do not tell how many
slashes stand between them.

A segment without a percent sign has no escapes and stands for itself.  Its
bytes are those of its characters, and the byte of the percent sign occurs in
no other character.
-/

/-! ## Pieces -/

/-- The path between whose slashes the given texts stand. -/
def joined (pieces : List String) : String :=
  String.ofList (['/'].intercalate (pieces.map String.toList))

theorem joined_pieces (path : String) : joined (pieces path) = path := by
  have texts : (pieces path).map String.toList = path.toList.splitOn '/' := by
    simp [pieces, Function.comp_def]
  rw [joined, texts, List.intercalate_splitOn, String.ofList_toList]

theorem pieces_joined {texts : List String} (present : texts ≠ [])
    (whole : forall text, text ∈ texts -> '/' ∉ text.toList) : pieces (joined texts) = texts := by
  have apart : forall cs, cs ∈ texts.map String.toList -> '/' ∉ cs := by
    intro cs member
    rcases List.mem_map.mp member with ⟨text, listed, rfl⟩
    exact whole text listed
  rw [pieces, joined, String.toList_ofList,
    List.splitOn_intercalate '/' apart (fun none => present (List.map_eq_nil_iff.mp none)),
    List.map_map]
  simp [Function.comp_def]

/-- The pieces of a path that are not empty. -/
def segments (path : String) : List String :=
  (pieces path).filter (· ≠ "")

/-- A text that can be written as a segment just as it is. -/
structure IsName (text : String) : Prop where
  present : text ≠ ""
  whole : '/' ∉ text.toList
  unescaped : '%' ∉ text.toList

/-- A path that is written plainly: a slash stands before each segment, and nothing is escaped. -/
structure IsPlain (path : String) : Prop where
  full : pieces path = "" :: segments path
  unescaped : '%' ∉ path.toList

/-! ## Segments without escapes -/

theorem eq_of_percentSign_eq {number : Nat} (same : Text.percentSign = UInt8.ofNat number) :
    number % 256 = 0x25 :=
  (congrArg UInt8.toNat same).symm

/-- The byte of the percent sign belongs to no other character. -/
theorem eq_of_percentSign_mem {c : Char} (member : Text.percentSign ∈ String.utf8EncodeChar c) :
    c = '%' := by
  have code : c.val.toNat = 0x25 := by
    rw [String.utf8EncodeChar] at member
    split at member
    · have byte := eq_of_percentSign_eq (List.mem_singleton.mp member)
      omega
    -- all bytes of a longer encoding are at least 128
    · split at member
      · simp only [List.mem_cons, List.not_mem_nil, or_false] at member
        rcases member with same | same <;> have byte := eq_of_percentSign_eq same <;> omega
      · split at member
        · simp only [List.mem_cons, List.not_mem_nil, or_false] at member
          rcases member with same | same | same <;>
            have byte := eq_of_percentSign_eq same <;> omega
        · simp only [List.mem_cons, List.not_mem_nil, or_false] at member
          rcases member with same | same | same | same <;>
            have byte := eq_of_percentSign_eq same <;> omega
  exact Char.ext (UInt32.toNat_inj.mp code)

theorem percentSign_not_mem_bytes {text : String} (unescaped : '%' ∉ text.toList) :
    Text.percentSign ∉ Text.bytes text := by
  intro member
  rcases List.mem_flatMap.mp member with ⟨c, written, encoded⟩
  exact unescaped (eq_of_percentSign_mem encoded ▸ written)

theorem percentDecode_of_not_mem {data : List UInt8} (unescaped : Text.percentSign ∉ data) :
    Text.percentDecode data = data := by
  induction data with
  | nil => rw [Text.percentDecode]
  | cons byte rest ih =>
      rw [List.mem_cons, not_or] at unescaped
      rw [Text.percentDecode.eq_def]
      simp only [if_neg (Ne.symm unescaped.1), ih unescaped.2]

theorem segmentText?_of_unescaped {segment : String} (unescaped : '%' ∉ segment.toList) :
    segmentText? segment = some segment := by
  rw [segmentText?, percentDecode_of_not_mem (percentSign_not_mem_bytes unescaped),
    Text.ofBytes?_bytes]

theorem IsName.segmentText? {text : String} (named : IsName text) :
    Http.segmentText? text = some text :=
  segmentText?_of_unescaped named.unescaped

/-- What stands for a name is not empty. -/
theorem IsName.present_of_segmentText? {text segment : String} (named : IsName text)
    (read : Http.segmentText? segment = some text) : segment ≠ "" := by
  rintro rfl
  have empty : Http.segmentText? "" = some "" := segmentText?_of_unescaped (by decide)
  exact named.present (Option.some.inj (read.symm.trans empty))

end Http
end ContactSearch
