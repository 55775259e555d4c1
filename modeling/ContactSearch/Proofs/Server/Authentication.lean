import Mathlib.Data.List.Nodup
import Mathlib.Data.List.TakeWhile
import ContactSearch.Proofs.Outcome
import ContactSearch.Proofs.Text.Base64
import ContactSearch.Server.Credentials

namespace ContactSearch
namespace Server

/-!
# Who may log in

A header presents a name and a password if it announces credentials and goes
on with both of them, in their one encoding, perhaps between blanks.  The name
ends at the first colon, so each header presents one name and one password at
most.

The names of the users of a valid configuration are distinct and hold no
colon.  A caller is therefore taken for a user exactly if the first header
presents this user's name and password.  Every other caller is refused, and
the refusal tells whether there was no header, none that presents anything, or
one that presents what no user has.
-/

/-! ## Users of a valid configuration -/

namespace Config

/-- The names that are taken grow with every user, so no later user has one of them. -/
theorem users_of_validateUsers {taken : List String} {users : List User}
    (checked : validateUsers taken users = .ok ()) :
    (forall user, user ∈ users -> isUserName user.name = true ∧ user.name ∉ taken) ∧
      (users.map User.name).Nodup := by
  induction users generalizing taken with
  | nil => exact ⟨nofun, List.nodup_nil⟩
  | cons user rest ih =>
      rw [validateUsers] at checked
      split at checked
      · cases checked
      · next named =>
          split at checked
          · cases checked
          · next fresh =>
              rcases ih checked with ⟨others, distinct⟩
              constructor
              · intro other member
                rcases List.mem_cons.mp member with rfl | member
                · exact ⟨by simpa using named, fresh⟩
                · have apart := others other member
                  exact ⟨apart.1, fun held => apart.2 (List.mem_cons_of_mem _ held)⟩
              · apply List.nodup_cons.mpr
                refine ⟨?_, distinct⟩
                intro repeated
                rcases List.mem_map.mp repeated with ⟨other, member, same⟩
                exact (others other member).2 (same ▸ List.mem_cons_self)

theorem not_mem_of_isUserName {name : String} (named : isUserName name = true) :
    ':' ∉ name.toList := by
  have both : name ≠ "" ∧ ':' ∉ name.toList := by simpa [isUserName] using named
  exact both.2

/-- The other checks come before or after this one, so it has been passed. -/
theorem validateUsers_of_validate {config : Config} (valid : config.validate = .ok ()) :
    validateUsers [] config.access.users = .ok () := by
  cases checked : validateUsers [] config.access.users with
  | ok done => rfl
  | error fault =>
      rw [validate, checked] at valid
      repeat (split at valid <;> try cases valid)

end Config

/-! ## Reading credentials -/

namespace Credentials

theorem encodedPart?_eq_some_iff {value encoded : List Char} :
    encodedPart? value = some encoded <->
      value = "Basic ".toList ++ encoded ∨ value = "basic ".toList ++ encoded := by
  constructor
  · intro found
    rcases List.exists_of_findSome?_eq_some found with ⟨announcement, listed, announced⟩
    split at announced
    · next front =>
        have divided := List.prefix_iff_eq_append.mp (List.isPrefixOf_iff_prefix.mp front)
        rw [Option.some.inj announced] at divided
        rcases List.mem_pair.mp listed with rfl | rfl
        · exact Or.inl divided.symm
        · exact Or.inr divided.symm
    · cases announced
  · rintro (rfl | rfl)
    · rfl
    · rfl

theorem splitName?_eq_some_iff {credentials name password : String} :
    splitName? credentials = some (name, password) <->
      ':' ∉ name.toList ∧ credentials = name ++ ":" ++ password := by
  constructor
  · intro found
    simp only [splitName?] at found
    split at found
    · cases found
    · next c behind divided =>
        cases found
        have stops := List.head?_dropWhile_not (· ≠ ':') credentials.toList
        rw [divided] at stops
        have colon : c = ':' := by simpa using stops
        constructor
        · intro member
          rw [String.toList_ofList] at member
          simpa using List.mem_takeWhile_imp member
        · have whole := List.takeWhile_append_dropWhile (p := (· ≠ ':')) (l := credentials.toList)
          rw [divided, colon] at whole
          apply String.toList_inj.mp
          simp only [String.toList_append, String.toList_ofList, List.append_assoc]
          exact whole.symm
  · rintro ⟨plain, rfl⟩
    have whole : (name ++ ":" ++ password).toList = name.toList ++ ':' :: password.toList := by
      simp
    have passed : forall c, c ∈ name.toList -> decide (c ≠ ':') = true := by
      intro c member
      exact decide_eq_true fun same => plain (same ▸ member)
    simp only [splitName?, whole]
    rw [List.dropWhile_append_of_pos passed, List.takeWhile_append_of_pos passed]
    simp

/-- A header value announces credentials and then encodes a name and a password. -/
def Presents (name password value : String) : Prop :=
  Http.isVisible value = true ∧
    exists encoded, (value = "Basic " ++ encoded ∨ value = "basic " ++ encoded) ∧
      Text.trim encoded.toList = Base64.encode (Text.bytes (name ++ ":" ++ password))

theorem ofHeader_eq_ok_iff {value name password : String} :
    ofHeader value = .ok (name, password) <->
      ':' ∉ name.toList ∧ Presents name password value := by
  constructor
  · intro read
    rw [ofHeader] at read
    split at read
    · cases read
    · next visible =>
        split at read
        · cases read
        · next encoded announced =>
            split at read
            · cases read
            · next data decoded =>
                split at read
                · cases read
                · next text isText =>
                    split at read
                    · cases read
                    · next pair divided =>
                        cases read
                        rcases splitName?_eq_some_iff.mp divided with ⟨plain, rfl⟩
                        have written := Base64.decode_eq_ok_iff.mp decoded
                        rw [← Text.bytes_of_ofBytes? isText] at written
                        refine ⟨plain, by simpa using visible, String.ofList encoded, ?_, ?_⟩
                        · simpa [← String.toList_inj] using encodedPart?_eq_some_iff.mp announced
                        · rw [String.toList_ofList]
                          exact written
  · rintro ⟨plain, visible, encoded, announced, written⟩
    have part : encodedPart? value.toList = some encoded.toList := by
      apply encodedPart?_eq_some_iff.mpr
      simpa [← String.toList_inj] using announced
    have decoded := Base64.decode_eq_ok_iff.mpr written
    have divided : splitName? (name ++ ":" ++ password) = some (name, password) :=
      splitName?_eq_some_iff.mpr ⟨plain, rfl⟩
    simp [ofHeader, visible, part, decoded, Text.ofBytes?_bytes, divided]

end Credentials

/-! ## Access -/

namespace Access

theorem verify_iff {access : Access} (distinct : (access.users.map User.name).Nodup)
    {name password : String} :
    access.verify name password = true <-> ⟨name, password⟩ ∈ access.users := by
  rw [verify]
  constructor
  · intro verified
    split at verified
    · cases verified
    · next user found =>
        have member := List.mem_of_find?_eq_some found
        have sameName : user.name = name := by simpa using List.find?_some found
        have samePassword : user.password = password := by simpa using verified
        rw [← sameName, ← samePassword]
        exact member
  · intro member
    cases found : access.users.find? fun user => user.name == name with
    | none =>
        have nobody := List.find?_eq_none.mp found ⟨name, password⟩ member
        simp at nobody
    | some user =>
        have sameName : user.name = name := by simpa using List.find?_some found
        have same : user = ⟨name, password⟩ :=
          List.inj_on_of_nodup_map distinct (List.mem_of_find?_eq_some found) member sameName
        rw [same]
        simp

section

variable {access : Access} (enabled : access.enabled = true)
  (distinct : (access.users.map User.name).Nodup)

include enabled

theorem authenticate_eq_missing_iff {headers : Http.Headers} :
    access.authenticate headers = .error .missing <-> headers.first? "authorization" = none := by
  rw [authenticate, enabled]
  cases headers.first? "authorization" with
  | none => simp
  | some value =>
      cases read : Credentials.ofHeader value with
      | error fault => simp [read]
      | ok pair =>
          rcases pair with ⟨name, password⟩
          cases verified : access.verify name password <;> simp [read, verified]

theorem authenticate_eq_malformed_iff {headers : Http.Headers} {fault : HeaderFault} :
    access.authenticate headers = .error (.malformed fault) <->
      exists value, headers.first? "authorization" = some value ∧
        Credentials.ofHeader value = .error fault := by
  rw [authenticate, enabled]
  cases headers.first? "authorization" with
  | none => simp
  | some value =>
      cases read : Credentials.ofHeader value with
      | error other => simp [read]
      | ok pair =>
          rcases pair with ⟨name, password⟩
          cases verified : access.verify name password <;> simp [read, verified]

include distinct

theorem authenticate_eq_rejected_iff {headers : Http.Headers} :
    access.authenticate headers = .error .rejected <->
      exists value name password, headers.first? "authorization" = some value ∧
        Credentials.ofHeader value = .ok (name, password) ∧ ⟨name, password⟩ ∉ access.users := by
  rw [authenticate, enabled]
  cases headers.first? "authorization" with
  | none => simp
  | some value =>
      cases read : Credentials.ofHeader value with
      | error fault => simp [read]
      | ok pair =>
          rcases pair with ⟨given, password⟩
          cases verified : access.verify given password <;>
            simp [read, verified, ← verify_iff distinct]

theorem authenticate_eq_ok_iff {headers : Http.Headers} {name : String} :
    access.authenticate headers = .ok name <->
      exists value password, headers.first? "authorization" = some value ∧
        Credentials.ofHeader value = .ok (name, password) ∧ ⟨name, password⟩ ∈ access.users := by
  rw [authenticate, enabled]
  cases headers.first? "authorization" with
  | none => simp
  | some value =>
      cases read : Credentials.ofHeader value with
      | error fault => simp [read]
      | ok pair =>
          rcases pair with ⟨given, password⟩
          by_cases same : given = name
          · subst same
            cases verified : access.verify given password <;>
              simp [read, verified, ← verify_iff distinct]
          · cases verified : access.verify given password <;> simp [read, verified, same]

end

theorem sameIgnoringCase_authorization :
    Http.sameIgnoringCase "Authorization" "authorization" = true := by
  have lower : forall text : String, text.toLower.toList = text.toList.map Char.toLower :=
    fun text => String.toList_map
  rw [Http.sameIgnoringCase, beq_iff_eq, ← String.toList_inj, lower, lower]
  decide

theorem first?_authorization (value : String) (others : Http.Headers) :
    Http.Headers.first? (("Authorization", value) :: others) "authorization" = some value := by
  have found : List.find? (fun header => Http.sameIgnoringCase header.1 "authorization")
      (("Authorization", value) :: others) = some ("Authorization", value) :=
    List.find?_cons_of_pos sameIgnoringCase_authorization
  exact congrArg (Option.map Prod.snd) found

/-- The header value that a user is expected to send. -/
def credentials (user : User) : String :=
  "Basic " ++ String.ofList (Base64.encode (Text.bytes (user.name ++ ":" ++ user.password)))

theorem presents_credentials (user : User) :
    Credentials.Presents user.name user.password (credentials user) := by
  refine ⟨?_, _, Or.inl rfl, ?_⟩
  · have visible : forall c, c ∈ Base64.encode (Text.bytes (user.name ++ ":" ++ user.password)) ->
        Http.isVisibleCharacter c = true :=
      Base64.forall_mem_encode (by decide +kernel) (by decide) _
    rw [credentials, Http.isVisible, String.toList_append, List.all_append, Bool.and_eq_true]
    constructor
    · decide
    · rw [String.toList_ofList]
      exact List.all_eq_true.mpr visible
  · rw [String.toList_ofList]
    apply Text.trim_of_forall
    exact Base64.forall_mem_encode (by decide +kernel) (by decide) _

/--
With a valid configuration a caller is taken for a user exactly if the first header presents the
name and the password of this user.  Every user can log in, whatever other headers there are.  The
three refusals divide all other lists of headers among them.
-/
theorem authenticate_exact {config : Config} (valid : config.validate = .ok ())
    (enabled : config.access.enabled = true) :
    (forall headers name,
      config.access.authenticate headers = .ok name <->
        exists user value, user ∈ config.access.users ∧ user.name = name ∧
          headers.first? "authorization" = some value ∧
            Credentials.Presents user.name user.password value) ∧
    (forall user, user ∈ config.access.users -> forall others,
      config.access.authenticate (("Authorization", credentials user) :: others) =
        .ok user.name) ∧
    forall headers,
      (config.access.authenticate headers = .error .missing <->
        headers.first? "authorization" = none) ∧
      ((exists fault, config.access.authenticate headers = .error (.malformed fault)) <->
        exists value, headers.first? "authorization" = some value ∧
          forall name password, ':' ∉ name.toList ->
            ¬ Credentials.Presents name password value) ∧
      (config.access.authenticate headers = .error .rejected <->
        exists value name password, headers.first? "authorization" = some value ∧
          ':' ∉ name.toList ∧ Credentials.Presents name password value ∧
            ⟨name, password⟩ ∉ config.access.users) := by
  have users := Config.users_of_validateUsers (Config.validateUsers_of_validate valid)
  have accepted : forall headers name,
      config.access.authenticate headers = .ok name <->
        exists user value, user ∈ config.access.users ∧ user.name = name ∧
          headers.first? "authorization" = some value ∧
            Credentials.Presents user.name user.password value := by
    intro headers name
    rw [authenticate_eq_ok_iff enabled users.2]
    constructor
    · rintro ⟨value, password, sent, read, member⟩
      have presented := (Credentials.ofHeader_eq_ok_iff.mp read).2
      exact ⟨⟨name, password⟩, value, member, rfl, sent, presented⟩
    · rintro ⟨user, value, member, rfl, sent, presented⟩
      have plain := Config.not_mem_of_isUserName (users.1 user member).1
      exact ⟨value, user.password, sent, Credentials.ofHeader_eq_ok_iff.mpr ⟨plain, presented⟩,
        member⟩
  refine ⟨accepted, ?_, ?_⟩
  · intro user member others
    have sent := first?_authorization (credentials user) others
    exact (accepted _ user.name).mpr ⟨user, _, member, rfl, sent, presents_credentials user⟩
  · intro headers
    refine ⟨authenticate_eq_missing_iff enabled, ?_, ?_⟩
    · simp only [authenticate_eq_malformed_iff enabled]
      constructor
      · rintro ⟨fault, value, sent, unread⟩
        refine ⟨value, sent, ?_⟩
        intro name password plain presented
        have read := Credentials.ofHeader_eq_ok_iff.mpr ⟨plain, presented⟩
        rw [unread] at read
        cases read
      · rintro ⟨value, sent, nobody⟩
        cases read : Credentials.ofHeader value with
        | error fault => exact ⟨fault, value, sent, read⟩
        | ok pair =>
            rcases Credentials.ofHeader_eq_ok_iff.mp read with ⟨plain, presented⟩
            exact absurd presented (nobody pair.1 pair.2 plain)
    · rw [authenticate_eq_rejected_iff enabled users.2]
      simp only [Credentials.ofHeader_eq_ok_iff, and_assoc]

/-- The first user logs in, and is refused with the password of the second one. -/
theorem authenticate_exact_firstUser :
    (Config.default.validate = .ok () ∧ Config.default.access.enabled = true) ∧
      Config.default.access.authenticate [("Authorization", "Basic dXNlcjE6cGFzczE=")] =
        .ok "user1" ∧
      Config.default.access.authenticate [("Authorization", "basic \tdXNlcjE6cGFzczI= ")] =
        .error .rejected := by
  have valid : Config.default.validate = .ok () := rfl
  have exactly := authenticate_exact valid rfl
  refine ⟨⟨valid, rfl⟩, ?_, ?_⟩
  · have sent : credentials ⟨"user1", "pass1"⟩ = "Basic dXNlcjE6cGFzczE=" := by decide +kernel
    rw [← sent]
    exact exactly.2.1 ⟨"user1", "pass1"⟩ (by decide) []
  · apply (exactly.2.2 _).2.2.mpr
    refine ⟨_, "user1", "pass2", first?_authorization _ _, by decide, ?_, by decide⟩
    exact ⟨by decide, "\tdXNlcjE6cGFzczI= ", Or.inr (by decide), by decide +kernel⟩

end Access
end Server
end ContactSearch
