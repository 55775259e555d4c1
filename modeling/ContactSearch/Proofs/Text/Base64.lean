import ContactSearch.Proofs.Outcome
import ContactSearch.Text.Base64

namespace ContactSearch
namespace Base64

/-!
# Reading exactly what is written

Writing is the simple direction: the bits of three bytes are divided into four
symbols, and a last group with fewer bytes is filled up with padding.  A text
can be read only if it is what is written for the bytes that are read from it.
There is hence one text for each sequence of bytes.
-/

/-- The symbols in the order of their values. -/
def alphabet : List Char :=
  "ABCDEFGHIJKLMNOPQRSTUVWXYZabcdefghijklmnopqrstuvwxyz0123456789+/".toList

/-- The symbol of six bits. -/
def symbol (value : Nat) : Char :=
  alphabet.getD value '='

/-! Three bytes share their bits among four symbols. -/

def firstSextet (x : UInt8) : Nat :=
  x.toNat / 4

def secondSextet (x y : UInt8) : Nat :=
  x.toNat % 4 * 16 + y.toNat / 16

def thirdSextet (y z : UInt8) : Nat :=
  y.toNat % 16 * 4 + z.toNat / 64

def fourthSextet (z : UInt8) : Nat :=
  z.toNat % 64

/-- The text that is written for bytes. -/
def encode : List UInt8 -> List Char
  | [] => []
  | [x] => [symbol (firstSextet x), symbol (secondSextet x 0), '=', '=']
  | [x, y] =>
      [symbol (firstSextet x), symbol (secondSextet x y), symbol (thirdSextet y 0), '=']
  | x :: y :: z :: rest =>
      symbol (firstSextet x) :: symbol (secondSextet x y) :: symbol (thirdSextet y z) ::
        symbol (fourthSextet z) :: encode rest

theorem length_encode (data : List UInt8) :
    (encode data).length = 4 * ((data.length + 2) / 3) := by
  induction data using encode.induct with
  | case1 => rfl
  | case2 x => simp [encode]
  | case3 x y => simp [encode]
  | case4 x y z rest ih =>
      simp only [encode, List.length_cons, ih]
      omega

/-! ## Symbols -/

theorem sextet?_symbol {value : Nat} (bound : value < 64) : sextet? (symbol value) = some value := by
  have all : forall value, value < 64 -> sextet? (symbol value) = some value := by decide +kernel
  exact all value bound

theorem toNat_lt_of_sextet? {c : Char} {value : Nat} (found : sextet? c = some value) :
    c.toNat < 128 := by
  unfold sextet? at found
  split at found
  · next range => exact Nat.lt_of_le_of_lt range.2 (by decide)
  · split at found
    · next range => exact Nat.lt_of_le_of_lt range.2 (by decide)
    · split at found
      · next range => exact Nat.lt_of_le_of_lt range.2 (by decide)
      · split at found
        · next same => exact same ▸ (by decide)
        · split at found
          · next same => exact same ▸ (by decide)
          · cases found

theorem symbol_of_sextet? {c : Char} {value : Nat} (found : sextet? c = some value) :
    c = symbol value ∧ value < 64 := by
  have all : forall code, code < 128 ->
      (sextet? (Char.ofNat code)).all
        (fun value => Char.ofNat code = symbol value ∧ value < 64) = true := by
    decide +kernel
  have checked := all c.toNat (toNat_lt_of_sextet? found)
  rw [Char.ofNat_toNat, found] at checked
  exact of_decide_eq_true checked

theorem symbol_ne_padding {value : Nat} (bound : value < 64) : symbol value ≠ '=' := by
  intro same
  have found := sextet?_symbol bound
  rw [same] at found
  cases found

theorem sextets_eq_ok_iff {offset : Nat} {cs : List Char} {values : List Nat} :
    sextets offset cs = .ok values <->
      cs = values.map symbol ∧ forall value, value ∈ values -> value < 64 := by
  induction cs generalizing offset values with
  | nil =>
      rw [sextets]
      constructor
      · intro same
        cases same
        exact ⟨rfl, nofun⟩
      · rintro ⟨same, _⟩
        rw [List.map_eq_nil_iff.mp same.symm]
  | cons c rest ih =>
      rw [sextets]
      constructor
      · intro read
        cases found : sextet? c with
        | none => rw [found] at read; cases read
        | some value =>
            rw [found] at read
            cases others : sextets (offset + 1) rest with
            | error fault => rw [others] at read; cases read
            | ok more =>
                rw [others] at read
                cases read
                rcases symbol_of_sextet? found with ⟨rfl, bound⟩
                rcases ih.mp others with ⟨rfl, bounds⟩
                exact ⟨rfl, List.forall_mem_cons.mpr ⟨bound, bounds⟩⟩
      · rintro ⟨same, bounds⟩
        cases values with
        | nil => cases same
        | cons value more =>
            rcases List.forall_mem_cons.mp bounds with ⟨bound, bounds⟩
            cases same
            rw [sextet?_symbol bound, ih.mpr ⟨rfl, bounds⟩]
            rfl

/-! ## Bytes of a group -/

theorem firstByte_sextets (x y : UInt8) : firstByte (firstSextet x) (secondSextet x y) = x := by
  apply UInt8.toNat_inj.mp
  have boundX := x.toNat_lt
  have boundY := y.toNat_lt
  rw [firstByte, firstSextet, secondSextet, UInt8.toNat_ofNat']
  omega

theorem secondByte_sextets (x y z : UInt8) :
    secondByte (secondSextet x y) (thirdSextet y z) = y := by
  apply UInt8.toNat_inj.mp
  have boundY := y.toNat_lt
  have boundZ := z.toNat_lt
  rw [secondByte, secondSextet, thirdSextet, UInt8.toNat_ofNat']
  omega

theorem thirdByte_sextets (y z : UInt8) : thirdByte (thirdSextet y z) (fourthSextet z) = z := by
  apply UInt8.toNat_inj.mp
  have boundZ := z.toNat_lt
  rw [thirdByte, thirdSextet, fourthSextet, UInt8.toNat_ofNat']
  omega

theorem sextets_bounded (x y z : UInt8) :
    firstSextet x < 64 ∧ secondSextet x y < 64 ∧ thirdSextet y z < 64 ∧ fourthSextet z < 64 := by
  have boundX := x.toNat_lt
  have boundY := y.toNat_lt
  have boundZ := z.toNat_lt
  unfold firstSextet secondSextet thirdSextet fourthSextet
  omega

section

variable {a b c d : Nat}

theorem toNat_firstByte (ha : a < 64) (hb : b < 64) : (firstByte a b).toNat = a * 4 + b / 16 := by
  rw [firstByte, UInt8.toNat_ofNat']
  omega

theorem toNat_secondByte (hc : c < 64) : (secondByte b c).toNat = b % 16 * 16 + c / 4 := by
  rw [secondByte, UInt8.toNat_ofNat']
  omega

theorem toNat_thirdByte (hd : d < 64) : (thirdByte c d).toNat = c % 4 * 64 + d := by
  rw [thirdByte, UInt8.toNat_ofNat']
  omega

theorem firstSextet_byte (ha : a < 64) (hb : b < 64) : firstSextet (firstByte a b) = a := by
  rw [firstSextet, toNat_firstByte ha hb]
  omega

theorem secondSextet_bytes (ha : a < 64) (hb : b < 64) (hc : c < 64) :
    secondSextet (firstByte a b) (secondByte b c) = b := by
  rw [secondSextet, toNat_firstByte ha hb, toNat_secondByte hc]
  omega

theorem thirdSextet_bytes (hc : c < 64) (hd : d < 64) :
    thirdSextet (secondByte b c) (thirdByte c d) = c := by
  rw [thirdSextet, toNat_secondByte hc, toNat_thirdByte hd]
  omega

theorem fourthSextet_byte (hd : d < 64) : fourthSextet (thirdByte c d) = d := by
  rw [fourthSextet, toNat_thirdByte hd]
  omega

/-- The bits that no byte uses are zero, as if a byte of zeros came next. -/
theorem secondSextet_last (ha : a < 64) (hb : b < 64) (unused : b % 16 = 0) :
    secondSextet (firstByte a b) 0 = b := by
  rw [secondSextet, toNat_firstByte ha hb, UInt8.toNat_zero]
  omega

theorem thirdSextet_last (hc : c < 64) (unused : c % 4 = 0) :
    thirdSextet (secondByte b c) 0 = c := by
  rw [thirdSextet, toNat_secondByte hc, UInt8.toNat_zero]
  omega

end

theorem encode_groupBytes {a b c d : Nat} (ha : a < 64) (hb : b < 64) (hc : c < 64) (hd : d < 64)
    (more : List UInt8) :
    encode (groupBytes [a, b, c, d] ++ more) = [a, b, c, d].map symbol ++ encode more := by
  rw [groupBytes]
  change encode (_ :: _ :: _ :: more) = _
  rw [encode, firstSextet_byte ha hb, secondSextet_bytes ha hb hc, thirdSextet_bytes hc hd,
    fourthSextet_byte hd]
  rfl

/-! ## The last group -/

/-- A group of symbols with padding behind them is divided there. -/
theorem decodeLast_padded {offset count : Nat} {values : List Nat}
    (bounds : forall value, value ∈ values -> value < 64) :
    decodeLast offset (values.map symbol ++ List.replicate count '=') =
      if count ≠ 0 ∧ values.length < 2 then .error (.symbol '=' (offset + values.length))
      else if values.length + count ≠ 0 ∧ values.length < 2 then
        .error (.length (offset + values.length))
      else if (values.length + count) % 4 ≠ 0 then .error .padding
      else lastBytes offset (values.map symbol) values := by
  have plain : forall c, c ∈ values.map symbol -> decide (c ≠ '=') = true := by
    intro c member
    rcases List.mem_map.mp member with ⟨value, held, rfl⟩
    exact decide_eq_true (symbol_ne_padding (bounds value held))
  have front : (values.map symbol ++ List.replicate count '=').takeWhile (· ≠ '=') =
      values.map symbol := by
    rw [List.takeWhile_append_of_pos plain]
    cases count <;> simp [List.replicate_succ]
  have behind : (values.map symbol ++ List.replicate count '=').dropWhile (· ≠ '=') =
      List.replicate count '=' := by
    rw [List.dropWhile_append_of_pos plain]
    cases count <;> simp [List.replicate_succ]
  have read : sextets offset (values.map symbol) = .ok values :=
    sextets_eq_ok_iff.mpr ⟨rfl, bounds⟩
  rw [decodeLast, front, behind, read]
  simp [bind, Except.bind]

/-- What is read is symbols and padding behind them. -/
theorem padded_of_decodeLast {offset : Nat} {group : List Char} {data : List UInt8}
    (decoded : decodeLast offset group = .ok data) :
    exists (values : List Nat) (count : Nat),
      (forall value, value ∈ values -> value < 64) ∧
        group = values.map symbol ++ List.replicate count '=' := by
  rw [decodeLast] at decoded
  cases read : sextets offset (group.takeWhile (· ≠ '=')) with
  | error fault => rw [read] at decoded; cases decoded
  | ok values =>
      rcases sextets_eq_ok_iff.mp read with ⟨symbols, bounds⟩
      refine ⟨values, (group.dropWhile (· ≠ '=')).length, bounds, ?_⟩
      have padding : group.dropWhile (· ≠ '=') =
          List.replicate (group.dropWhile (· ≠ '=')).length '=' := by
        apply List.eq_replicate_of_mem
        intro c member
        rw [read] at decoded
        change (if _ then _ else _) = _ at decoded
        split at decoded
        · cases decoded
        · next plain =>
            by_cases same : c = '='
            · exact same
            · have strange : (group.dropWhile (· ≠ '=')).any (· ≠ '=') = true :=
                List.any_eq_true.mpr ⟨c, member, decide_eq_true same⟩
              exact absurd ⟨List.ne_nil_of_mem member, Or.inr strange⟩ plain
      rw [← symbols, ← padding]
      exact List.takeWhile_append_dropWhile.symm

/-- What the last group holds, as symbols and padding. -/
structure LastGroup (values : List Nat) (count : Nat) (data : List UInt8) : Prop where
  bounds : forall value, value ∈ values -> value < 64
  full : values.length + count = 0 ∨ 2 ≤ values.length ∧ values.length + count = 4
  written : encode data = values.map symbol ++ List.replicate count '='
  read : forall offset symbols, lastBytes offset symbols values = .ok data

theorem encode_of_lastBytes {offset count : Nat} {symbols : List Char} {values : List Nat}
    {data : List UInt8} (bounds : forall value, value ∈ values -> value < 64)
    (full : values.length + count = 0 ∨ 2 ≤ values.length ∧ values.length + count = 4)
    (read : lastBytes offset symbols values = .ok data) :
    encode data = values.map symbol ++ List.replicate count '=' := by
  match values with
  | [] =>
      cases read
      have none : count = 0 := by
        simp only [List.length_nil] at full
        omega
      rw [none]
      rfl
  | [a] =>
      simp only [List.length_cons, List.length_nil] at full
      omega
  | [a, b] =>
      have two : count = 2 := by
        simp only [List.length_cons, List.length_nil] at full
        omega
      rw [lastBytes] at read
      split at read
      · next unused =>
          cases read
          rw [encode, firstSextet_byte (bounds a (by simp)) (bounds b (by simp)),
            secondSextet_last (bounds a (by simp)) (bounds b (by simp)) unused, two]
          rfl
      · cases read
  | [a, b, c] =>
      have one : count = 1 := by
        simp only [List.length_cons, List.length_nil] at full
        omega
      rw [lastBytes] at read
      split at read
      · next unused =>
          cases read
          rw [encode, firstSextet_byte (bounds a (by simp)) (bounds b (by simp)),
            secondSextet_bytes (bounds a (by simp)) (bounds b (by simp)) (bounds c (by simp)),
            thirdSextet_last (bounds c (by simp)) unused, one]
          rfl
      · cases read
  | [a, b, c, d] =>
      have none : count = 0 := by
        simp only [List.length_cons, List.length_nil] at full
        omega
      cases read
      have whole := encode_groupBytes (bounds a (by simp)) (bounds b (by simp))
        (bounds c (by simp)) (bounds d (by simp)) []
      rw [List.append_nil] at whole
      rw [whole, none]
      rfl
  | a :: b :: c :: d :: e :: rest =>
      simp only [List.length_cons] at full
      omega

theorem exists_lastGroup (data : List UInt8) (few : data.length ≤ 3) :
    exists values count, LastGroup values count data := by
  match data with
  | [] => exact ⟨[], 0, nofun, by simp, rfl, fun _ _ => rfl⟩
  | [x] =>
      have bounds := sextets_bounded x 0 0
      refine ⟨[firstSextet x, secondSextet x 0], 2, ?_, by simp, rfl, ?_⟩
      · simp [bounds]
      · intro offset symbols
        have unused : secondSextet x 0 % 16 = 0 := by simp [secondSextet]
        rw [lastBytes, if_pos unused, firstByte_sextets]
  | [x, y] =>
      have bounds := sextets_bounded x y 0
      refine ⟨[firstSextet x, secondSextet x y, thirdSextet y 0], 1, ?_, by simp, rfl, ?_⟩
      · simp [bounds]
      · intro offset symbols
        have unused : thirdSextet y 0 % 4 = 0 := by simp [thirdSextet]
        rw [lastBytes, if_pos unused, firstByte_sextets, secondByte_sextets]
  | [x, y, z] =>
      have bounds := sextets_bounded x y z
      refine ⟨[firstSextet x, secondSextet x y, thirdSextet y z, fourthSextet z], 0, ?_, by simp,
        rfl, ?_⟩
      · simp [bounds]
      · intro offset symbols
        rw [lastBytes, groupBytes, firstByte_sextets, secondByte_sextets, thirdByte_sextets]
        all_goals simp
  | x :: y :: z :: u :: rest =>
      simp only [List.length_cons] at few
      omega

theorem decodeLast_eq_ok_iff {offset : Nat} {group : List Char} {data : List UInt8}
    (short : group.length ≤ 4) : decodeLast offset group = .ok data <-> group = encode data := by
  constructor
  · intro decoded
    rcases padded_of_decodeLast decoded with ⟨values, count, bounds, rfl⟩
    rw [decodeLast_padded bounds] at decoded
    rw [List.length_append, List.length_map, List.length_replicate] at short
    split at decoded
    · cases decoded
    · split at decoded
      · cases decoded
      · split at decoded
        · cases decoded
        · exact (encode_of_lastBytes bounds (by omega) decoded).symm
  · rintro rfl
    rw [length_encode] at short
    rcases exists_lastGroup data (by omega) with ⟨values, count, group⟩
    have full := group.full
    rw [group.written, decodeLast_padded group.bounds, if_neg (by omega), if_neg (by omega),
      if_neg (by omega), group.read]

/-! ## Whole texts -/

theorem forall_mem_encode {holds : Char -> Prop}
    (symbols : forall value, value < 64 -> holds (symbol value)) (padding : holds '=')
    (data : List UInt8) : forall c, c ∈ encode data -> holds c := by
  induction data using encode.induct with
  | case1 => exact nofun
  | case2 x =>
      have bounds := sextets_bounded x 0 0
      simp [encode, symbols, padding, bounds]
  | case3 x y =>
      have bounds := sextets_bounded x y 0
      simp [encode, symbols, padding, bounds]
  | case4 x y z rest ih =>
      have bounds := sextets_bounded x y z
      simp only [encode, List.forall_mem_cons]
      exact ⟨symbols _ bounds.1, symbols _ bounds.2.1, symbols _ bounds.2.2.1,
        symbols _ bounds.2.2.2, ih⟩

theorem encode_cons_group {a b c d e : Char} {rest : List Char} {data : List UInt8}
    (written : a :: b :: c :: d :: e :: rest = encode data) :
    exists x y z more, data = x :: y :: z :: more ∧
      [a, b, c, d] = [firstSextet x, secondSextet x y, thirdSextet y z, fourthSextet z].map symbol ∧
        e :: rest = encode more := by
  match data with
  | [] => cases written
  | [x] => cases written
  | [x, y] => cases written
  | x :: y :: z :: more =>
      rw [encode] at written
      simp only [List.cons.injEq] at written
      rcases written with ⟨rfl, rfl, rfl, rfl, behind⟩
      exact ⟨x, y, z, more, rfl, rfl, behind⟩

theorem decodeFrom_eq_ok_iff {offset : Nat} {text : List Char} {data : List UInt8} :
    decodeFrom offset text = .ok data <-> text = encode data := by
  induction offset, text using decodeFrom.induct generalizing data with
  | case1 offset a b c d e rest ih =>
      rw [decodeFrom]
      constructor
      · intro decoded
        rcases exists_of_bind_eq_ok decoded with ⟨values, read, decoded⟩
        rcases exists_of_bind_eq_ok decoded with ⟨more, readMore, decoded⟩
        cases decoded
        rcases sextets_eq_ok_iff.mp read with ⟨symbols, bounds⟩
        match values with
        | [va, vb, vc, vd] =>
            rw [encode_groupBytes (bounds va (by simp)) (bounds vb (by simp))
              (bounds vc (by simp)) (bounds vd (by simp)), ← symbols, ← ih.mp readMore]
            rfl
      · intro written
        rcases encode_cons_group written with ⟨x, y, z, more, rfl, symbols, behind⟩
        have bounds := sextets_bounded x y z
        have read : sextets offset [a, b, c, d] =
            .ok [firstSextet x, secondSextet x y, thirdSextet y z, fourthSextet z] :=
          sextets_eq_ok_iff.mpr ⟨symbols, by simp [bounds]⟩
        rw [read, ih.mpr behind]
        change Except.ok ([_, _, _] ++ more) = _
        rw [firstByte_sextets, secondByte_sextets, thirdByte_sextets]
        rfl
  | case2 offset group short =>
      have few : group.length ≤ 4 := by
        match group with
        | [] | [_] | [_, _] | [_, _, _] | [_, _, _, _] => simp
        | a :: b :: c :: d :: e :: rest => exact absurd rfl (short a b c d e rest)
      have last : decodeFrom offset group = decodeLast offset group := by
        rw [decodeFrom]
        exact short
      rw [last]
      exact decodeLast_eq_ok_iff few

/-- A text is read as bytes exactly if it is what is written for them. -/
theorem decode_eq_ok_iff {text : List Char} {data : List UInt8} :
    decode text = .ok data <-> text = encode data := by
  rw [decode]
  constructor
  · intro decoded
    split at decoded
    · cases decoded
    · exact decodeFrom_eq_ok_iff.mp decoded
  · rintro rfl
    have whole : strayEnd? (encode data) = none := by
      rw [strayEnd?, length_encode, if_neg (by omega)]
    rw [whole]
    exact decodeFrom_eq_ok_iff.mpr rfl

example : encode [77, 97, 110, 33] = "TWFuIQ==".toList := by decide

end Base64
end ContactSearch
