import ContactSearch.Proofs.Http.Headers
import ContactSearch.Proofs.Server.Layers

namespace ContactSearch
namespace Server

/-!
# Headers that the layers add

A response gets its protective headers first and then the number of its
request.  Whatever later layers add, they add behind these and under other
names, and what they add depends on nothing but the request, the configured
origins and the length of the body.

So the values of a name in the final answer are those that the layer of this
name has set, and a name that belongs to no layer keeps the values that it had
in the response.
-/

namespace Layers

/-! ## What later layers add -/

/-- The headers that tell that a body could have been compressed. -/
def compressionHeaders (length : Nat) : Http.Headers :=
  if compressionThreshold ≤ length then [("vary", "accept-encoding")] else []

/-- The headers that complete a response of a length, which may have been told. -/
def completionHeaders (onPage : Bool) (method : Http.Method) (length : Nat) (told : Bool) :
    Http.Headers :=
  (if onPage = true ∧ method.isReading = false then [("allow", "GET,HEAD")] else []) ++
    if told = true then [] else [("content-length", Decimal.natText length)]

theorem headers_markCompressible (response : Http.Response) :
    (markCompressible response).headers =
      response.headers ++ compressionHeaders response.length := by
  rw [markCompressible, compressionHeaders]
  split
  · rfl
  · exact (List.append_nil _).symm

theorem headers_tellMethods (method : Http.Method) (response : Http.Response) :
    (tellMethods method response).headers =
      response.headers ++ if method.isReading = false then [("allow", "GET,HEAD")] else [] := by
  rw [tellMethods]
  cases method.isReading with
  | true => exact (List.append_nil _).symm
  | false => rfl

theorem headers_measure (response : Http.Response) :
    (measure response).headers =
      response.headers ++ if response.headers.contains "content-length" = true then []
        else [("content-length", Decimal.natText response.length)] := by
  rw [measure]
  split
  · exact (List.append_nil _).symm
  · rfl

theorem length_eq_of_content {first second : Http.Response}
    (same : first.content = second.content) : first.length = second.length :=
  congrArg (fun content => content.2.utf8ByteSize) same

/-- No method that is told is a length. -/
theorem contains_tellMethods (method : Http.Method) (response : Http.Response) :
    (tellMethods method response).headers.contains "content-length" =
      response.headers.contains "content-length" := by
  have apart : Http.Apart ([("allow", "GET,HEAD")].map Prod.fst) "content-length" := by
    decide +kernel
  rw [tellMethods]
  split
  · rfl
  · exact Http.Headers.contains_congr (Http.Headers.values_append_of_apart apart _)

theorem headers_complete (onPage : Bool) (method : Http.Method) (response : Http.Response) :
    (complete onPage method response).headers =
      response.headers ++ completionHeaders onPage method response.length
        (response.headers.contains "content-length") := by
  have length := length_eq_of_content (content_tellMethods method response)
  rw [complete, completionHeaders]
  cases onPage with
  | false =>
      simp only [Bool.false_eq_true, if_false, false_and, List.nil_append]
      exact headers_measure response
  | true =>
      simp only [if_true, true_and]
      split
      · rw [headers_measure, contains_tellMethods, length, headers_tellMethods, List.append_assoc]
      · rw [headers_measure, contains_tellMethods, length, headers_tellMethods, List.append_assoc]

/-- The headers that tell what a response of a length depends on, and whose pages may see it. -/
def opennessHeaders (config : Config) (request : Http.Request) (length : Nat) : Http.Headers :=
  compressionHeaders length ++ [("vary", originDependence)] ++ originHeaders config request

/-- The headers that are added once a response has the number of its request. -/
def laterHeaders (config : Config) (request : Http.Request) (onPage : Bool) (length : Nat)
    (told : Bool) : Http.Headers :=
  opennessHeaders config request length ++ completionHeaders onPage request.method length told

/-- The names under which later layers add headers. -/
def laterNames : List String :=
  ["vary", "access-control-allow-origin", "allow", "content-length"]

section Names

variable {config : Config} {request : Http.Request} {onPage : Bool} {length : Nat} {told : Bool}
  {header : String × String}

theorem mem_originHeaders (member : header ∈ originHeaders config request) :
    header.1 = "access-control-allow-origin" := by
  rw [originHeaders] at member
  split at member
  · split at member
    · rw [List.mem_singleton.mp member]
    · cases member
  · cases member

theorem mem_compressionHeaders (member : header ∈ compressionHeaders length) :
    header.1 = "vary" := by
  rw [compressionHeaders] at member
  split at member
  · rw [List.mem_singleton.mp member]
  · cases member

theorem mem_completionHeaders {method : Http.Method}
    (member : header ∈ completionHeaders onPage method length told) :
    header.1 ∈ ["allow", "content-length"] := by
  rcases List.mem_append.mp member with member | member
  · split at member
    · rw [List.mem_singleton.mp member]
      decide
    · cases member
  · split at member
    · cases member
    · rw [List.mem_singleton.mp member]
      exact List.mem_cons_of_mem _ List.mem_cons_self

theorem mem_opennessHeaders (member : header ∈ opennessHeaders config request length) :
    header.1 ∈ ["vary", "access-control-allow-origin"] := by
  simp only [opennessHeaders, List.mem_append, List.mem_singleton] at member
  rcases member with (member | rfl) | member
  · rw [mem_compressionHeaders member]
    decide
  · decide
  · rw [mem_originHeaders member]
    decide

theorem mem_laterHeaders (member : header ∈ laterHeaders config request onPage length told) :
    header.1 ∈ laterNames := by
  rcases List.mem_append.mp member with member | member
  · exact List.mem_append_left ["allow", "content-length"] (mem_opennessHeaders member)
  · exact List.mem_append_right ["vary", "access-control-allow-origin"]
      (mem_completionHeaders member)

end Names

theorem apart_of_mem {names : List String} {name : String} {headers : Http.Headers}
    (apart : Http.Apart names name) (named : forall header, header ∈ headers -> header.1 ∈ names) :
    Http.Apart (headers.map Prod.fst) name := by
  intro other member
  rcases List.mem_map.mp member with ⟨header, listed, rfl⟩
  exact apart header.1 (named header listed)

/-- Later layers add their headers behind those that are there. -/
theorem headers_later (config : Config) (request : Http.Request) (onPage : Bool)
    (response : Http.Response) :
    (complete onPage request.method
      (permit config request (markCompressible response))).headers =
        response.headers ++ laterHeaders config request onPage response.length
          (response.headers.contains "content-length") := by
  have opened : (permit config request (markCompressible response)).headers =
      response.headers ++ opennessHeaders config request response.length := by
    rw [permit, headers_markCompressible, opennessHeaders]
    simp only [List.append_assoc]
  have length : (permit config request (markCompressible response)).length = response.length :=
    length_eq_of_content (content_markCompressible response)
  have told : (permit config request (markCompressible response)).headers.contains
      "content-length" = response.headers.contains "content-length" := by
    have apart : Http.Apart ["vary", "access-control-allow-origin"] "content-length" := by
      decide +kernel
    rw [opened]
    apply Http.Headers.contains_congr
    apply Http.Headers.values_append_of_apart
    exact apart_of_mem apart fun _ member => mem_opennessHeaders member
  rw [headers_complete, length, told, opened, laterHeaders, List.append_assoc]

/-! ## Protective headers -/

section Protection

variable {name : String} {fields : Http.Headers}

theorem values_setAll_of_apart (apart : Http.Apart (fields.map Prod.fst) name)
    (response : Http.Response) :
    (fields.foldl (fun (response : Http.Response) header =>
      response.setHeader header.1 header.2) response).headers.values name =
        response.headers.values name := by
  induction fields generalizing response with
  | nil => rfl
  | cons header rest ih =>
      have first := apart header.1 List.mem_cons_self
      apply (ih (fun other member => apart other (List.mem_cons_of_mem _ member)) _).trans
      exact Http.Headers.values_set_of_ne first header.2

/-- Headers that are set in turn stay as they are set if no name comes twice. -/
theorem values_setAll
    (distinct : fields.Pairwise fun first second =>
      Http.sameIgnoringCase second.1 first.1 = false)
    (response : Http.Response) {header : String × String} (member : header ∈ fields) :
    (fields.foldl (fun (response : Http.Response) header =>
      response.setHeader header.1 header.2) response).headers.values header.1 =
        [header.2] := by
  induction fields generalizing response with
  | nil => cases member
  | cons first rest ih =>
      rcases List.pairwise_cons.mp distinct with ⟨behind, distinct⟩
      rcases List.mem_cons.mp member with rfl | member
      · have apart : Http.Apart (rest.map Prod.fst) header.1 := by
          intro other later
          rcases List.mem_map.mp later with ⟨field, listed, rfl⟩
          exact behind field listed
        apply (values_setAll_of_apart apart _).trans
        exact Http.Headers.values_set_self response.headers header.1 header.2
      · exact ih distinct _ member

end Protection

/-- The name of the order to stay with a protected connection. -/
def transportName : String := "strict-transport-security"

theorem values_protect (request : Http.Request) (response : Http.Response)
    {header : String × String} (member : header ∈ protections) :
    (protect request response).headers.values header.1 = [header.2] := by
  have distinct : protections.Pairwise fun first second =>
      Http.sameIgnoringCase second.1 first.1 = false := by decide +kernel
  have apart : forall header, header ∈ protections ->
      Http.sameIgnoringCase "strict-transport-security" header.1 = false := by decide +kernel
  have guarded := values_setAll distinct response member
  rw [protect]
  split
  · exact (Http.Headers.values_set_of_ne (apart header member) _).trans guarded
  · exact guarded

theorem values_protect_transport (request : Http.Request) (response : Http.Response) :
    (protect request response).headers.values transportName =
      if isProtected request = true then ["max-age=31536000; includeSubDomains"]
      else response.headers.values transportName := by
  have apart : Http.Apart (protections.map Prod.fst) transportName := by decide +kernel
  rw [protect]
  split
  · exact Http.Headers.values_set_self _ _ _
  · exact values_setAll_of_apart apart response

theorem values_protect_of_apart {name : String}
    (apart : Http.Apart (transportName :: protections.map Prod.fst) name)
    (request : Http.Request) (response : Http.Response) :
    (protect request response).headers.values name = response.headers.values name := by
  have guarded := values_setAll_of_apart
    (fun other member => apart other (List.mem_cons_of_mem _ member)) response
  rw [protect]
  split
  · exact (Http.Headers.values_set_of_ne (apart _ List.mem_cons_self) _).trans guarded
  · exact guarded

/-! ## The number of a request -/

theorem values_identify_number (identifier : String) (request : Http.Request)
    (response : Http.Response) :
    (identify identifier request response).headers.values "x-request-id" = [identifier] := by
  have numbered := Http.Headers.values_set_self response.headers "x-request-id" identifier
  have apart : Http.sameIgnoringCase "x-correlation-id" "x-request-id" = false := by
    decide +kernel
  rw [identify]
  split
  · split
    · exact numbered
    · exact (Http.Headers.values_set_of_ne apart _).trans numbered
  · exact numbered

theorem values_identify_of_apart {name : String}
    (apart : Http.Apart ["x-request-id", "x-correlation-id"] name) (identifier : String)
    (request : Http.Request) (response : Http.Response) :
    (identify identifier request response).headers.values name = response.headers.values name := by
  have numbered : (response.headers.set "x-request-id" identifier).values name =
      response.headers.values name :=
    Http.Headers.values_set_of_ne (apart "x-request-id" List.mem_cons_self) identifier
  rw [identify]
  split
  · split
    · exact numbered
    · exact (Http.Headers.values_set_of_ne (apart _ (by decide)) _).trans numbered
  · exact numbered

/-- Apart from the number of a request, its answer tells at most whether the caller guessed it. -/
theorem without_identify {identifier identifier' : String} {request : Http.Request}
    (guessed : request.headers.first? "x-request-id" = some identifier <->
      request.headers.first? "x-request-id" = some identifier')
    (response : Http.Response) :
    (identify identifier request response).headers.without "x-request-id" =
      (identify identifier' request response).headers.without "x-request-id" := by
  have apart : Http.sameIgnoringCase "x-correlation-id" "x-request-id" = false := by
    decide +kernel
  have unnumbered (identifier : String) :
      (response.headers.set "x-request-id" identifier).without "x-request-id" =
        response.headers.without "x-request-id" :=
    Http.Headers.without_set_self _ _ _
  rw [identify, identify]
  cases found : (request.headers.first? "x-request-id").filter Http.isVisible with
  | none => exact (unnumbered identifier).trans (unnumbered identifier').symm
  | some given =>
      rw [(Option.filter_eq_some_iff.mp found).1, Option.some.injEq, Option.some.injEq] at guessed
      simp only [guessed]
      split
      · exact (unnumbered identifier).trans (unnumbered identifier').symm
      · apply (Http.Headers.without_set_of_ne apart given).trans
        apply Eq.trans _ (Http.Headers.without_set_of_ne apart given).symm
        exact congrArg (fun headers => Http.Headers.set headers "x-correlation-id" given)
          ((unnumbered identifier).trans (unnumbered identifier').symm)

end Layers

namespace Service

/-! ## All layers -/

/-- A response with its protective headers and the number of its request. -/
def numbered (identifier : String) (request : Http.Request) (response : Http.Response) :
    Http.Response :=
  Layers.identify identifier request (Layers.protect request response)

theorem content_numbered (identifier : String) (request : Http.Request)
    (response : Http.Response) :
    (numbered identifier request response).content = response.content :=
  (Layers.content_identify identifier request _).trans (Layers.content_protect request response)

/-- What all layers make of a response: the later ones add to what the earlier ones have set. -/
theorem headers_layered (config : Config) (identifier : String) (request : Http.Request)
    (response : Http.Response) :
    (layered config identifier request response).headers =
      (numbered identifier request response).headers ++
        Layers.laterHeaders config request (isOnPage request) response.length
          ((numbered identifier request response).headers.contains "content-length") := by
  have length := Layers.length_eq_of_content (content_numbered identifier request response)
  rw [← length]
  exact Layers.headers_later config request (isOnPage request) _

theorem values_layered {name : String} (apart : Http.Apart Layers.laterNames name)
    (config : Config) (identifier : String) (request : Http.Request) (response : Http.Response) :
    (layered config identifier request response).headers.values name =
      (numbered identifier request response).headers.values name := by
  rw [headers_layered]
  apply Http.Headers.values_append_of_apart
  exact Layers.apart_of_mem apart fun _ member => Layers.mem_laterHeaders member

/-- The number of a request shows in no header of its answer but its own. -/
theorem without_layered {identifier identifier' : String} {request : Http.Request}
    (guessed : request.headers.first? "x-request-id" = some identifier <->
      request.headers.first? "x-request-id" = some identifier')
    (config : Config) (response : Http.Response) :
    (layered config identifier request response).headers.without "x-request-id" =
      (layered config identifier' request response).headers.without "x-request-id" := by
  have counted : Http.Apart ["x-request-id", "x-correlation-id"] "content-length" := by
    decide +kernel
  have told (identifier : String) :
      (numbered identifier request response).headers.contains "content-length" =
        (Layers.protect request response).headers.contains "content-length" :=
    Http.Headers.contains_congr (Layers.values_identify_of_apart counted identifier request _)
  rw [headers_layered, headers_layered, told, told, Http.Headers.without_append,
    Http.Headers.without_append, numbered, numbered, Layers.without_identify guessed]

end Service
end Server
end ContactSearch
