import ContactSearch.Proofs.Http.QuotedString
import ContactSearch.Proofs.Server.Headers
import ContactSearch.Proofs.Server.Refusals

namespace ContactSearch
namespace Server
namespace Service

/-!
# What a refused caller is asked for

Whoever is refused is told for which realm credentials are wanted, in one
header whose value holds the realm between quotation marks.  The realm is put
there as it is, so it can be read off exactly if each of its characters stands
for itself in a quoted string.  A realm that cannot be sent at all takes the
header with it.

A configuration is not asked for such a realm.  It is valid with any that is
not blank.
-/

/-- What a challenge says in front of its realm. -/
def challengeOpening : List Char := "Basic realm=\"".toList

/-- The realm that a header value asks for, if the value ends with it. -/
def realm? (value : String) : Option String :=
  if challengeOpening.isPrefixOf value.toList then
    match Http.unquote? (value.toList.drop challengeOpening.length) with
    | some (realm, []) => some (String.ofList realm)
    | _ => none
  else
    none

/-- Whether a response asks for credentials in one header, and the realm can be read off. -/
def Challenges (realm : String) (response : Http.Response) : Prop :=
  exists value, response.headers.values "www-authenticate" = [value] ∧ realm? value = some realm

/-! ## The challenge -/

theorem toList_challenge (realm : String) :
    (Access.challenge realm).toList = challengeOpening ++ (realm.toList ++ ['"']) := by
  rw [Access.challenge, String.toList_append, String.toList_append, List.append_assoc]
  rfl

theorem realm?_challenge_iff (realm : String) :
    realm? (Access.challenge realm) = some realm <->
      forall c, c ∈ realm.toList -> Http.StandsForItself c := by
  have opened : challengeOpening.isPrefixOf (Access.challenge realm).toList = true := by
    rw [toList_challenge, List.isPrefixOf_iff_prefix]
    exact List.prefix_append _ _
  rw [realm?, if_pos opened, toList_challenge, List.drop_left, ← Http.unquote?_append_iff _ []]
  constructor
  · intro named
    split at named
    · next text read =>
        have whole : text = realm.toList := by
          rw [← Option.some.inj named, String.toList_ofList]
        rw [read, whole]
    · cases named
  · intro read
    rw [read]
    exact congrArg some (String.ofList_toList)

theorem isSendable_challenge (realm : String) :
    Http.isSendable (Access.challenge realm) = Http.isSendable realm := by
  rw [Http.isSendable, toList_challenge, List.all_append, List.all_append]
  have opening : challengeOpening.all Http.isSendableCharacter = true := by decide
  have closing : ['"'].all Http.isSendableCharacter = true := by decide
  rw [opening, closing, Bool.true_and, Bool.and_true]
  rfl

theorem values_refusal (access : Access) (fault : AccessFault) :
    (access.refusal fault).headers.values "www-authenticate" =
      if Http.isSendable access.realm = true then [Access.challenge access.realm] else [] := by
  rw [Access.refusal, isSendable_challenge]
  split
  · exact Http.Headers.values_set_self _ _ _
  · have apart : Http.Apart ["content-type"] "www-authenticate" := by decide +kernel
    exact Http.Headers.values_eq_nil_of_apart apart

/-! ## Refused requests -/

variable (order : Contact.MapOrder) (service : Service) {request : Http.Request}

/-- Whoever is not let in gets a refusal, whichever of the two places it comes from. -/
theorem exists_refusal_of_receive
    (unauthorized : (receive order service request).1.status = .unauthorized) :
    exists fault, (receive order service request).1 = service.config.access.refusal fault := by
  rw [receive_eq] at unauthorized ⊢
  cases known : identified service.config.access request with
  | error fault => exact ⟨fault, rfl⟩
  | ok caller =>
      rw [known] at unauthorized
      rcases (status_dispatch_eq_unauthorized_iff order service caller).mp unauthorized with
        ⟨rfl, reading, mode, variant, isSearch⟩
      refine ⟨.missing, ?_⟩
      simp only
      rw [dispatch_search order service none isSearch, if_pos reading]
      rfl

/-- The layers leave the challenge of a response alone. -/
theorem values_layered_challenge (config : Config) (identifier : String) (request : Http.Request)
    (response : Http.Response) :
    (layered config identifier request response).headers.values "www-authenticate" =
      response.headers.values "www-authenticate" := by
  have later : Http.Apart Layers.laterNames "www-authenticate" := by decide +kernel
  have counted : Http.Apart ["x-request-id", "x-correlation-id"] "www-authenticate" := by
    decide +kernel
  have guarded : Http.Apart (Layers.transportName :: Layers.protections.map Prod.fst)
      "www-authenticate" := by decide +kernel
  rw [values_layered later, numbered, Layers.values_identify_of_apart counted,
    Layers.values_protect_of_apart guarded]

theorem values_handle_challenge {identifier : String}
    (unauthorized : (handle order service identifier request).1.status = .unauthorized) :
    (handle order service identifier request).1.headers.values "www-authenticate" =
      if Http.isSendable service.config.access.realm = true then
        [Access.challenge service.config.access.realm]
      else [] := by
  rcases (status_handle_eq_unauthorized_iff order service identifier request).mp unauthorized with
    ⟨proper, refused⟩
  have received := (status_receive_eq_unauthorized_iff order (service.begun request) request).mpr
    refused
  rcases exists_refusal_of_receive order (service.begun request) received with ⟨fault, refusal⟩
  rw [handle_of_ne order service identifier proper, values_layered_challenge, refusal]
  exact values_refusal service.config.access fault

/-- A challenge names its realm if it is sent and every character stands for itself. -/
theorem challenges_iff_of_values {realm : String} {response : Http.Response}
    (sent : response.headers.values "www-authenticate" =
      if Http.isSendable realm = true then [Access.challenge realm] else []) :
    Challenges realm response <->
      Http.isSendable realm = true ∧ forall c, c ∈ realm.toList -> Http.StandsForItself c := by
  rw [Challenges, sent, ← realm?_challenge_iff]
  split
  · next sendable =>
      constructor
      · rintro ⟨value, single, named⟩
        cases single
        exact ⟨sendable, named⟩
      · rintro ⟨_, named⟩
        exact ⟨_, rfl, named⟩
  · next unsendable => exact iff_of_false nofun fun both => unsendable both.1

/--
Whoever is refused is asked for credentials in at most one header, which is left out if it cannot
be sent.  The realm can be read off it exactly if it can be sent and holds neither a quotation
mark nor a backslash.
-/
theorem refusal_challenges_iff {identifier : String}
    (unauthorized : (handle order service identifier request).1.status = .unauthorized) :
    (handle order service identifier request).1.headers.values "www-authenticate" =
        (if Http.isSendable service.config.access.realm = true then
          [Access.challenge service.config.access.realm]
        else []) ∧
      (Challenges service.config.access.realm (handle order service identifier request).1 <->
        forall c, c ∈ service.config.access.realm.toList ->
          Http.isSendableCharacter c = true ∧ c ≠ '"' ∧ c ≠ '\\') := by
  have sent := values_handle_challenge order service unauthorized
  refine ⟨sent, ?_⟩
  rw [challenges_iff_of_values sent, Http.isSendable, List.all_eq_true]
  exact ⟨fun both c member => ⟨both.1 c member, both.2 c member⟩,
    fun each => ⟨fun c member => (each c member).1, fun c member => (each c member).2⟩⟩

/-- The first user's search, without credentials. -/
def strangerSearch : Http.Request :=
  { firstUserSearch with headers := [] }

/-- The default server, with a realm. -/
def serverOf (realm : String) : Service :=
  { seededServer with
    config := { Config.default with access := { Config.default.access with realm } } }

/-- Neither who is let in nor which paths are public depends on the realm. -/
theorem unauthorized_strangerSearch (realm : String) :
    (handle .asWritten (serverOf realm) "first" strangerSearch).1.status = .unauthorized := by
  have notPublic : Config.default.access.isPublic strangerSearch.target.path = false := by decide
  have denied : LacksCredentials (serverOf realm).config.access strangerSearch :=
    ⟨notPublic, .missing, rfl⟩
  exact (status_handle_eq_unauthorized_iff _ (serverOf realm) _ _).mpr
    ⟨Http.Method.noConfusion, Or.inl denied⟩

theorem refusal_challenges_iff_stranger :
    (handle .asWritten (serverOf "contacts") "first" strangerSearch).1.status = .unauthorized ∧
      Challenges "contacts"
        (handle .asWritten (serverOf "contacts") "first" strangerSearch).1 := by
  have unauthorized := unauthorized_strangerSearch "contacts"
  have checked : ("contacts".toList.all fun c =>
      decide (Http.isSendableCharacter c = true ∧ c ≠ '"' ∧ c ≠ '\\')) = true := by decide
  have plain : forall c, c ∈ "contacts".toList ->
      Http.isSendableCharacter c = true ∧ c ≠ '"' ∧ c ≠ '\\' :=
    fun c member => of_decide_eq_true (List.all_eq_true.mp checked c member)
  exact ⟨unauthorized,
    (refusal_challenges_iff .asWritten (serverOf "contacts") unauthorized).2.mpr plain⟩

/-- One valid realm ends at its own quotation mark, and another one is never sent. -/
theorem quotingRealm_not_challenges :
    ((serverOf "my \"realm\"").config.validate = .ok () ∧
      (serverOf "my \"realm\"").Reachable (serverOf "my \"realm\"").config ∧
      (serverOf "two\nlines").config.validate = .ok () ∧
      (serverOf "two\nlines").Reachable (serverOf "two\nlines").config) ∧
    ((handle .asWritten (serverOf "my \"realm\"") "first" strangerSearch).1.status =
        .unauthorized ∧
      (handle .asWritten (serverOf "my \"realm\"") "first" strangerSearch).1.headers.values
        "www-authenticate" = ["Basic realm=\"my \"realm\"\""] ∧
      ¬ Challenges "my \"realm\""
        (handle .asWritten (serverOf "my \"realm\"") "first" strangerSearch).1) ∧
    (handle .asWritten (serverOf "two\nlines") "first" strangerSearch).1.status =
        .unauthorized ∧
      (handle .asWritten (serverOf "two\nlines") "first" strangerSearch).1.headers.values
        "www-authenticate" = [] := by
  have sent : forall realm,
      (handle .asWritten (serverOf realm) "first" strangerSearch).1.headers.values
          "www-authenticate" =
        if Http.isSendable realm = true then [Access.challenge realm] else [] :=
    fun realm => values_handle_challenge _ (serverOf realm) (unauthorized_strangerSearch realm)
  refine ⟨⟨rfl, ⟨_, [], rfl, rfl⟩, rfl, ⟨_, [], rfl, rfl⟩⟩,
    ⟨unauthorized_strangerSearch _, (sent _).trans (by decide), ?_⟩,
    unauthorized_strangerSearch _, (sent _).trans (by decide)⟩
  rw [challenges_iff_of_values (sent _)]
  rintro ⟨_, plain⟩
  exact (plain '"' (by decide)).1 rfl

end Service
end Server
end ContactSearch
