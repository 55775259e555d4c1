import Mathlib.Logic.Function.Basic
import ContactSearch.Text.Quoted

namespace ContactSearch
namespace Text

/-!
# Quoted texts are told apart

What a character is shown as is never the beginning of what another one is
shown as, so a text can be told from what it is shown as between quotation
marks.  This holds for characters that are shown by their code points as well,
although no string literal has that form.

To compare such texts with string literals, a quoted text can be quoted once
more.  What the backslashes begin is then shown again by backslashes, and all
that was shown is raw or has a short escape.
-/

/-! ## Hexadecimal digits -/

theorem hexDigit_injective {first second : Nat} (small : first < 16) (small' : second < 16)
    (same : hexDigit first = hexDigit second) : first = second := by
  have values := congrArg hexValue? same
  rw [hexValue?_hexDigit small, hexValue?_hexDigit small'] at values
  exact Option.some.inj values

theorem hexDigits_ne_nil (n : Nat) : hexDigits n ≠ [] := by
  rw [hexDigits]
  split
  · exact List.cons_ne_nil _ _
  · exact List.append_ne_nil_of_right_ne_nil _ (List.cons_ne_nil _ _)

theorem exists_of_mem_hexDigits {n : Nat} {c : Char} (member : c ∈ hexDigits n) :
    exists value, value < 16 ∧ c = hexDigit value := by
  fun_induction hexDigits n with
  | case1 n small => exact ⟨n, small, List.mem_singleton.mp member⟩
  | case2 n _ ih =>
      rcases List.mem_append.mp member with front | last
      · exact ih front
      · exact ⟨n % 16, Nat.mod_lt n (by decide), List.mem_singleton.mp last⟩

theorem hexDigits_injective {first second : Nat} (same : hexDigits first = hexDigits second) :
    first = second := by
  fun_induction hexDigits first generalizing second with
  | case1 first small =>
      rw [hexDigits.eq_def second] at same
      split at same
      · next small' => exact hexDigit_injective small small' (List.head_eq_of_cons_eq same)
      · -- one digit on one side, at least two on the other
        have lengths := congrArg List.length same
        have present := List.length_pos_iff.mpr (hexDigits_ne_nil (second / 16))
        rw [List.length_append, List.length_singleton, List.length_singleton] at lengths
        omega
  | case2 first large ih =>
      rw [hexDigits.eq_def second] at same
      split at same
      · have lengths := congrArg List.length same
        have present := List.length_pos_iff.mpr (hexDigits_ne_nil (first / 16))
        rw [List.length_append, List.length_singleton, List.length_singleton] at lengths
        omega
      · rcases List.append_inj' same rfl with ⟨front, last⟩
        have quotients := ih front
        have remainders := hexDigit_injective (Nat.mod_lt first (by decide))
          (Nat.mod_lt second (by decide)) (List.head_eq_of_cons_eq last)
        rw [<- Nat.div_add_mod first 16, <- Nat.div_add_mod second 16, quotients, remainders]

/-! ## Shown characters -/

/-- The digits of a code point in braces, behind a backslash and the letter for it. -/
def shownByCode (c : Char) : List Char :=
  '\\' :: 'u' :: '{' :: hexDigits c.toNat ++ ['}']

/-- The three ways to show a character. -/
theorem shown_cases (c : Char) :
    (exists letter, (c, letter) ∈ shortEscapes ∧ shown c = ['\\', letter]) ∨
    (c ≠ '\\' ∧ shown c = [c]) ∨ shown c = shownByCode c := by
  rw [shown]
  split
  · next pair found =>
      have same : pair.1 = c := by simpa using List.find?_some found
      exact Or.inl ⟨pair.2, same ▸ List.mem_of_find?_eq_some found, rfl⟩
  · next none =>
      have others : c ≠ '\\' := by
        rintro rfl
        cases none
      split
      · exact Or.inr (Or.inr rfl)
      · exact Or.inr (Or.inl ⟨others, rfl⟩)

theorem shown_ne_nil (c : Char) : shown c ≠ [] := by
  rcases shown_cases c with ⟨letter, _, shape⟩ | ⟨_, shape⟩ | shape
  · exact shape ▸ List.cons_ne_nil _ _
  · exact shape ▸ List.cons_ne_nil _ _
  · exact shape ▸ List.cons_ne_nil _ _

theorem shortEscapes_inj : forall first, first ∈ shortEscapes -> forall second,
    second ∈ shortEscapes -> first.2 = second.2 -> first.1 = second.1 := by
  decide

theorem ne_u_of_mem_shortEscapes : forall pair, pair ∈ shortEscapes -> pair.2 ≠ 'u' := by
  decide

theorem closeBrace_notMem_hexDigits (n : Nat) : '}' ∉ hexDigits n := by
  intro member
  rcases exists_of_mem_hexDigits member with ⟨value, small, same⟩
  have values := congrArg hexValue? same
  rw [hexValue?_hexDigit small] at values
  cases values

theorem append_closeBrace_inj {first second rest rest' : List Char} (free : '}' ∉ first)
    (free' : '}' ∉ second) (same : first ++ '}' :: rest = second ++ '}' :: rest') :
    first = second ∧ rest = rest' := by
  induction first generalizing second with
  | nil =>
      cases second with
      | nil => exact ⟨rfl, (List.cons.inj same).2⟩
      | cons c second =>
          cases (List.cons.inj same).1
          exact absurd List.mem_cons_self free'
  | cons c first ih =>
      cases second with
      | nil =>
          cases (List.cons.inj same).1
          exact absurd List.mem_cons_self free
      | cons d second =>
          rcases List.cons.inj same with ⟨rfl, behind⟩
          rcases ih (List.not_mem_of_not_mem_cons free) (List.not_mem_of_not_mem_cons free') behind
            with ⟨rfl, rests⟩
          exact ⟨rfl, rests⟩

/-- What characters are shown as is no beginning of one another. -/
theorem shown_append_inj {first second : Char} {rest rest' : List Char}
    (same : shown first ++ rest = shown second ++ rest') : first = second ∧ rest = rest' := by
  rcases shown_cases first with ⟨letter, listed, shape⟩ | ⟨raw, shape⟩ | shape
  · rcases shown_cases second with ⟨letter', listed', shape'⟩ | ⟨raw', shape'⟩ | shape'
    · rw [shape, shape'] at same
      cases same
      exact ⟨shortEscapes_inj _ listed _ listed' rfl, rfl⟩
    · rw [shape, shape'] at same
      cases same
      exact absurd rfl raw'
    · rw [shape, shape'] at same
      cases same
      exact absurd rfl (ne_u_of_mem_shortEscapes _ listed)
  · rcases shown_cases second with ⟨letter', listed', shape'⟩ | ⟨raw', shape'⟩ | shape'
    · rw [shape, shape'] at same
      cases same
      exact absurd rfl raw
    · rw [shape, shape'] at same
      cases same
      exact ⟨rfl, rfl⟩
    · rw [shape, shape'] at same
      cases same
      exact absurd rfl raw
  · rcases shown_cases second with ⟨letter', listed', shape'⟩ | ⟨raw', shape'⟩ | shape'
    · rw [shape, shape'] at same
      cases same
      exact absurd rfl (ne_u_of_mem_shortEscapes _ listed')
    · rw [shape, shape'] at same
      cases same
      exact absurd rfl raw'
    · rw [shape, shape'] at same
      have behind : hexDigits first.toNat ++ '}' :: rest = hexDigits second.toNat ++ '}' :: rest' := by
        simpa [shownByCode] using same
      rcases append_closeBrace_inj (closeBrace_notMem_hexDigits _) (closeBrace_notMem_hexDigits _)
        behind with ⟨digits, rests⟩
      exact ⟨Char.toNat_inj.mp (hexDigits_injective digits), rests⟩

theorem flatMap_shown_injective : forall {first second : List Char},
    first.flatMap shown = second.flatMap shown -> first = second
  | [], [], _ => rfl
  | [], c :: second, same => by
      rw [List.flatMap_cons] at same
      exact absurd (List.append_eq_nil_iff.mp same.symm).1 (shown_ne_nil c)
  | c :: first, [], same => by
      rw [List.flatMap_cons] at same
      exact absurd (List.append_eq_nil_iff.mp same).1 (shown_ne_nil c)
  | c :: first, d :: second, same => by
      rw [List.flatMap_cons, List.flatMap_cons] at same
      rcases shown_append_inj same with ⟨rfl, behind⟩
      rw [flatMap_shown_injective behind]

/-- Apart from its backslash, what shows a code point is raw. -/
theorem shown_of_mem_digits {n : Nat} {c : Char} (member : c ∈ '{' :: hexDigits n ++ ['}']) :
    shown c = [c] := by
  have digits : forall digit : Fin 16, shown (hexDigit digit.val) = [hexDigit digit.val] := by
    decide +kernel
  rcases List.mem_append.mp member with front | last
  · rcases List.mem_cons.mp front with rfl | inside
    · decide +kernel
    · rcases exists_of_mem_hexDigits inside with ⟨value, small, rfl⟩
      exact digits ⟨value, small⟩
  · cases List.mem_singleton.mp last
    decide +kernel

theorem flatMap_shown_of_raw {text : List Char} (raw : forall c, c ∈ text -> shown c = [c]) :
    text.flatMap shown = text := by
  rw [List.flatMap_def, List.map_congr_left raw, <- List.flatMap_def, List.flatMap_singleton']

/-! ## Quoting once more -/

/-- What stands between the quotation marks of a quoted text. -/
def spelledOut (text : String) : String :=
  String.ofList (text.toList.flatMap shown)

theorem spelledOut_injective : Function.Injective spelledOut := by
  intro first second same
  exact String.toList_inj.mp (flatMap_shown_injective (String.ofList_injective same))

/-- Show again what backslashes begin, and leave all else as it is. -/
def shownAgain : List Char -> List Char
  | [] => []
  | '\\' :: c :: rest => shown '\\' ++ shown c ++ shownAgain rest
  | c :: rest => c :: shownAgain rest

/-- In front of any text, a text becomes another one when it is shown again. -/
def Respells (text again : List Char) : Prop :=
  forall rest, shownAgain (text ++ rest) = again ++ shownAgain rest

namespace Respells

variable {text again text' again' : List Char}

theorem append (first : Respells text again) (second : Respells text' again') :
    Respells (text ++ text') (again ++ again') := by
  intro rest
  rw [List.append_assoc, first, second, List.append_assoc]

theorem shownAgain (respells : Respells text again) : Text.shownAgain text = again := by
  have whole := respells []
  rwa [List.append_nil, Text.shownAgain, List.append_nil] at whole

theorem pair (c : Char) : Respells ['\\', c] (Text.shown '\\' ++ Text.shown c) := by
  intro rest
  change Text.shownAgain ('\\' :: c :: rest) = _
  rw [Text.shownAgain]

theorem single {c : Char} (other : c ≠ '\\') : Respells [c] [c] := by
  intro rest
  rw [List.singleton_append, List.singleton_append, Text.shownAgain.eq_3]
  rintro _ _ rfl
  exact fun _ => other rfl

/-- Without backslashes, a text stays as it is. -/
theorem plain : forall {text : List Char}, '\\' ∉ text -> Respells text text
  | [], _ => fun _ => rfl
  | c :: text, free => by
      have others : c ≠ '\\' := fun same => free (same ▸ List.mem_cons_self)
      exact (single others).append (plain fun inside => free (List.mem_cons_of_mem c inside))

/-- A shown character becomes what its own characters are shown as. -/
theorem shown (c : Char) : Respells (Text.shown c) ((Text.shown c).flatMap Text.shown) := by
  rcases shown_cases c with ⟨letter, listed, shape⟩ | ⟨raw, shape⟩ | shape
  · rw [shape, List.flatMap_cons, List.flatMap_singleton]
    exact pair letter
  · rw [shape, List.flatMap_singleton, shape]
    exact single raw
  · have raw (d : Char) (member : d ∈ '{' :: hexDigits c.toNat ++ ['}']) := shown_of_mem_digits member
    have free : '\\' ∉ '{' :: hexDigits c.toNat ++ ['}'] := fun member =>
      absurd (raw _ member) (by decide)
    rw [shape, shownByCode, List.cons_append, List.cons_append, List.flatMap_cons,
      List.flatMap_cons, flatMap_shown_of_raw raw, <- List.append_assoc]
    exact (pair 'u').append (plain free)

end Respells
end Text
end ContactSearch
