import ImportWeights.Proofs.Url.DomainName
import ImportWeights.Proofs.Url.Form
import ImportWeights.Proofs.Url.Within
import ImportWeights.Report.Diagram

/-! # Where a diagram is asked for

The path of the endpoint is put behind the text of the base URL, and the whole is read as a URL. If
the base URL has a host and neither a query nor a fragment, then what was put behind it is the end
of the path, and a request carries its own parameters and no other. Behind a query it becomes a part
of the last parameter, behind a fragment it is lost, and without a host its first segment may be
taken for one (`request_reaches_endpoint_iff`). -/

namespace ImportWeights.Report

open ImportWeights.Text ImportWeights.Url

/-! ## The path of the endpoint -/

section Path

variable {front : List Char} {special : Bool}

/-- What stands behind the first slash of the endpoint's path. -/
def belowSlash : List Char := "diagrams/create.json".toList

theorem createPath_eq : createPath.toList = '/' :: belowSlash := rfl

theorem inner_belowSlash : Inner belowSlash where
  begins c hc := by
    cases hc
    rfl
  shown c hc := by
    have all : (belowSlash.all fun c => decide (0x20 < c.toNat)) = true := rfl
    exact of_decide_eq_true (List.all_eq_true.mp all c hc)

theorem inner_nil : Inner [] := ⟨nofun, nofun⟩

theorem endsPath_createPath : ∀ c ∈ createPath.toList, endsPath c = false := fun c hc =>
  eq_false_of_ne_true (List.any_eq_false.mp (by rfl : createPath.toList.any endsPath = false) c hc)

theorem segments_belowSlash (special : Bool) (done : List (List Char)) :
    segments special done [] belowSlash =
      (joinSegments ("diagrams".toList :: done) "create.json".toList, []) := by
  cases special <;> rfl

theorem createPath_isSuffix_segments (done : List (List Char)) :
    createPath.toList <:+ (segments special done [] belowSlash).1 := by
  rw [segments_belowSlash]
  refine ⟨done.reverse.flatMap ('/' :: ·), ?_⟩
  simp only [joinSegments, List.reverse_cons, List.flatMap_append, List.append_assoc]
  rfl

/-- Whatever segments come before it, the endpoint's path is the end of the path. -/
theorem createPath_isSuffix_path (special : Bool)
    (within : ∀ c ∈ front, endsPath c = false) :
    createPath.toList <:+ (pathAfterAuthority special (front ++ createPath.toList)).1 := by
  cases front with
  | nil =>
    rw [List.nil_append, createPath_eq, pathAfterAuthority_slash, ← createPath_eq]
    exact createPath_isSuffix_segments []
  | cons d front =>
    obtain ⟨inside, within⟩ := List.forall_mem_cons.mp within
    obtain ⟨current, first⟩ := pathAfterAuthority_eq special inside
    obtain ⟨done, last, others⟩ := segments_append special [] current within
    obtain ⟨done', next⟩ := segments_of_partsSegments special done last (c := '/') rfl
      (partsSegments_slash special)
    rw [List.cons_append, first, others, createPath_eq, next, ← createPath_eq]
    exact createPath_isSuffix_segments done'

end Path

/-! ## The path put behind a base URL -/

section Base

variable {u : Url} {cs path beyond : List Char}

/-- The endpoint's path is the end of the path, and the query has no pair of its own. -/
def Reaches (u : Url) : Prop := createPath.toList <:+ u.path ∧ pairsOf u.query = []

/-- A URL with neither a query nor a fragment. What is put behind a fragment changes nothing, so a
URL with a fragment has to be the endpoint itself. -/
def IsBase (b : Url) : Prop :=
  match b.fragment with
  | none => b.query = none
  | some _ => Reaches b

/-- A file's path keeps its end when it is made to begin with one slash. -/
theorem createPath_isSuffix_file (h : createPath.toList <:+ path) :
    createPath.toList <:+ '/' :: path.dropWhile (· == '/') := by
  obtain ⟨front, rfl⟩ := h
  rw [List.dropWhile_append]
  split
  · exact List.suffix_rfl
  · exact ⟨'/' :: front.dropWhile (· == '/'), rfl⟩

theorem createPath_isSuffix_followedBy (within : ∀ c ∈ cs, endsPath c = false) :
    createPath.toList <:+ (u.followedBy (cs ++ createPath.toList)).path := by
  have suffix := createPath_isSuffix_path (isSpecialScheme u.scheme) within
  rw [followedBy_eq rfl]
  dsimp only
  split
  · exact createPath_isSuffix_file suffix
  · exact suffix

/-- Behind a question mark, the endpoint's path is a part of a parameter. -/
theorem pairsOf_createPath_ne_nil (special : Bool) (cs : List Char) :
    pairsOf (some (escape (inQueryOf special) (cs ++ createPath.toList))) ≠ [] := by
  intro nothing
  have letter : 'd' ∈ escape (inQueryOf special) createPath.toList := by
    rw [createPath_eq]
    cases special <;> decide
  have ampersand := eq_ampersand_of_readFormPairs nothing 'd' <| by
    rw [Option.getD_some, escape, List.flatMap_append]
    exact List.mem_append_right _ letter
  exact absurd ampersand (by decide)

theorem reaches_followedBy_iff (u : Url) (rest : List Char) :
    Reaches (u.followedBy (rest ++ createPath.toList)) ↔ IsBase (u.followedBy (rest ++ ['/'])) := by
  rcases within_or_beyond rest with within | ⟨front, c, more, rfl, within, ends⟩
  · -- the endpoint's path is in the path, and there is nothing else
    have glued := List.forall_mem_append.mpr ⟨within, endsPath_createPath⟩
    have closed : ∀ c ∈ rest ++ ['/'], endsPath c = false :=
      List.forall_mem_append.mpr ⟨within, List.forall_mem_singleton.mpr rfl⟩
    obtain ⟨noQuery, -⟩ := followedBy_within (u := u) glued
    obtain ⟨noQuery', noFragment⟩ := followedBy_within (u := u) closed
    refine iff_of_true ⟨createPath_isSuffix_followedBy within, ?_⟩ ?_
    · rw [noQuery]
      rfl
    · rw [IsBase, noFragment]
      exact noQuery'
  · -- the path is what comes first, and the endpoint's path stands behind it
    obtain ⟨path, read⟩ :=
      pathAfterAuthority_append_cons (isSpecialScheme u.scheme) within ends
    simp only [List.append_assoc, List.cons_append]
    rw [followedBy_eq (read (more ++ createPath.toList)), followedBy_eq (read (more ++ ['/']))]
    rcases endsPath_iff.mp ends with rfl | rfl
    · by_cases hash : '#' ∈ more
      · obtain ⟨query, fragment, rfl, plain⟩ := List.eq_append_cons_of_mem hash
        simp only [List.append_assoc, List.cons_append, queryAndFragment_both _ plain]
        exact Iff.rfl
      · have glued : '#' ∉ more ++ createPath.toList :=
          List.not_mem_append hash fun h => Bool.false_ne_true (endsPath_createPath _ h).symm
        have closed : '#' ∉ more ++ ['/'] := List.not_mem_append hash (by decide)
        rw [queryAndFragment_query _ glued, queryAndFragment_query _ closed]
        exact iff_of_false (fun reaches => pairsOf_createPath_ne_nil _ _ reaches.2) nofun
    · exact Iff.rfl

end Base

/-! ## Without a host before it -/

section Swallowed

variable {scheme : List Char} {e b : Url}

def firstSegment : Authority := ⟨none, "diagrams".toList, none⟩

theorem plain_firstSegment : firstSegment.Plain := ⟨nofun, nofun, List.all_eq_true.mp rfl⟩

/-- What is left of the endpoint's path when its first segment is a host. -/
theorem not_reaches_of_path (h : e.path = "/create.json".toList) : ¬ Reaches e := by
  rintro ⟨suffix, -⟩
  rw [h] at suffix
  exact absurd suffix.length_le (by decide)

theorem not_reaches_afterSlashes (special : Bool)
    (read : afterSlashes scheme special belowSlash = .ok e) : ¬ Reaches e := by
  have name : PlainName firstSegment.host := plainName_of_isDomainName (by decide)
  have found : afterSlashes scheme special belowSlash = .ok (firstSegment.url scheme special
      (readHost special firstSegment.host) "/create.json".toList) :=
    afterSlashes_authority plain_firstSegment (.inr ⟨_, rfl⟩) scheme
      (hostOf_plainName name special) (readHost_ne_nil name.filled special)
  cases read.symm.trans found
  refine not_reaches_of_path ?_
  cases special <;> rfl

theorem host_afterSlashes_nil (special : Bool) (read : afterSlashes scheme special [] = .ok b) :
    b.host = none := by
  cases special <;> cases read
  rfl

theorem not_reaches_fileUrl (read : fileUrl scheme ('/' :: '/' :: belowSlash) = .ok e) :
    ¬ Reaches e := by
  cases read
  exact not_reaches_of_path rfl

theorem host_fileUrl_nil (read : fileUrl scheme ['/', '/'] = .ok b) : b.host = none := by
  cases read
  rfl

end Swallowed

/-- The endpoint is reached below a text exactly if the text, closed by a slash, is a base. -/
theorem parse_createPath_iff (text : List Char) :
    (∃ e, parse (text ++ createPath.toList) = .ok e ∧ e.host ≠ none ∧ Reaches e) ↔
      ∃ b, parse (text ++ ['/']) = .ok b ∧ b.host ≠ none ∧ IsBase b := by
  rw [createPath_eq]
  cases closing text with
  | hosted out h =>
    rw [h belowSlash inner_belowSlash, h [] inner_nil, ← createPath_eq]
    cases out with
    | error e => exact iff_of_false nofun nofun
    | ok found =>
      have same := reaches_followedBy_iff found.1 found.2
      constructor
      · rintro ⟨e, read, hosted, reaches⟩
        cases read
        exact ⟨_, rfl, hosted, same.mp reaches⟩
      · rintro ⟨b, read, hosted, base⟩
        cases read
        exact ⟨_, rfl, hosted, same.mpr base⟩
  | hostless h =>
    refine iff_of_false ?_ ?_
    · rintro ⟨e, read, hosted, -⟩
      exact hosted (h belowSlash inner_belowSlash e read)
    · rintro ⟨b, read, hosted, -⟩
      exact hosted (h [] inner_nil b read)
  | swallowed plain h =>
    refine iff_of_false ?_ ?_
    · rintro ⟨e, read, -, reaches⟩
      rw [h belowSlash inner_belowSlash] at read
      exact not_reaches_afterSlashes _ read reaches
    · rintro ⟨b, read, hosted, -⟩
      rw [h [] inner_nil] at read
      exact hosted (host_afterSlashes_nil _ read)
  | swallowedByFile file h =>
    refine iff_of_false ?_ ?_
    · rintro ⟨e, read, -, reaches⟩
      rw [h belowSlash inner_belowSlash] at read
      exact not_reaches_fileUrl read reaches
    · rintro ⟨b, read, hosted, -⟩
      rw [h [] inner_nil] at read
      exact hosted (host_fileUrl_nil read)

/-! ## Requests -/

namespace DiagramClient

variable {client : DiagramClient} {request : DiagramRequest} {apiKey baseUrl folderId : String}
  {title description : String}

/-- The request for a diagram, provided that there is a host to be asked. -/
def asked (client : DiagramClient) (title description : String) : DiagramRequest :=
  ⟨"GET", client.endpoint.withoutUser.withPairs (client.parameters title description),
    "application/json"⟩

theorem request_eq_ok_iff : client.request title description = .ok request ↔
    client.endpoint.host ≠ none ∧ request = client.asked title description := by
  unfold DiagramClient.request
  cases client.endpoint.host with
  | none => exact iff_of_false nofun fun h => h.1 rfl
  | some host =>
    constructor
    · rintro ⟨⟩
      exact ⟨nofun, rfl⟩
    · rintro ⟨-, rfl⟩
      rfl

/-- A request goes to the path of the endpoint. -/
theorem path_asked (client : DiagramClient) (title description : String) :
    (client.asked title description).url.path = client.endpoint.path :=
  (withoutUser_eq client.endpoint).1

/-- The pairs of a request come after those of the endpoint. -/
theorem pairsOf_asked (client : DiagramClient) (title description : String) :
    pairsOf (client.asked title description).url.query =
      pairsOf client.endpoint.query ++ client.parameters title description := by
  rw [asked, pairsOf_withPairs, (withoutUser_eq client.endpoint).2]

theorem create_eq_ok_iff : create apiKey baseUrl folderId = .ok client ↔
    ∃ endpoint, parse (endpointText baseUrl) = .ok endpoint ∧
      client = ⟨apiKey, folderId, endpoint⟩ := by
  unfold create
  cases parse (endpointText baseUrl) with
  | error e => exact iff_of_false nofun nofun
  | ok endpoint =>
    constructor
    · rintro ⟨⟩
      exact ⟨endpoint, rfl, rfl⟩
    · rintro ⟨_, ⟨⟩, rfl⟩
      rfl

/-- The text of a base URL, closed by one slash. -/
def closedBase (baseUrl : String) : List Char := trimEnd (· == '/') baseUrl.toList ++ ['/']

/-- The text of a base URL is a URL that has a host and is a base. -/
def NamesBase (baseUrl : String) : Prop :=
  ∃ b, parse (closedBase baseUrl) = .ok b ∧ b.host ≠ none ∧ IsBase b

theorem endsPath_closedBase (question : '?' ∉ baseUrl.toList) (hash : '#' ∉ baseUrl.toList) :
    ∀ c ∈ closedBase baseUrl, endsPath c = false := by
  refine List.forall_mem_append.mpr ⟨fun c hc => ?_, List.forall_mem_singleton.mpr rfl⟩
  have given : c ∈ baseUrl.toList := by
    rw [← trimEnd_append (· == '/') baseUrl.toList]
    exact List.mem_append_left _ hc
  rw [← Bool.not_eq_true, endsPath_iff]
  rintro (rfl | rfl)
  · exact question given
  · exact hash given

/-- Without a question mark or a hash, nothing but a host is asked of a base URL. -/
theorem namesBase_iff (question : '?' ∉ baseUrl.toList) (hash : '#' ∉ baseUrl.toList) :
    NamesBase baseUrl ↔ ∃ b, parse (closedBase baseUrl) = .ok b ∧ b.host ≠ none := by
  constructor
  · rintro ⟨b, read, hosted, -⟩
    exact ⟨b, read, hosted⟩
  · rintro ⟨b, read, hosted⟩
    obtain ⟨noQuery, noFragment⟩ := parse_within (endsPath_closedBase question hash) read
    refine ⟨b, read, hosted, ?_⟩
    rw [IsBase, noFragment]
    exact noQuery

/-- A client that was made for a base URL asks the endpoint below it with the five parameters and no
other, whatever the texts are, exactly if the text names a base; without a question mark or a hash,
that is exactly if it has a host. Whatever it was made for, the five come after those that the base
URL brought in. -/
theorem request_reaches_endpoint_iff (apiKey baseUrl folderId title description : String) :
    ((∃ client request, create apiKey baseUrl folderId = .ok client ∧
        client.request title description = .ok request ∧
        createPath.toList <:+ request.url.path ∧
        readFormPairs (request.url.query.getD []) = [("apiKey", apiKey), ("folderId", folderId),
          ("title", title), ("description", description), ("security", "public")]) ↔
      NamesBase baseUrl) ∧
    ('?' ∉ baseUrl.toList → '#' ∉ baseUrl.toList →
      (NamesBase baseUrl ↔ ∃ b, parse (closedBase baseUrl) = .ok b ∧ b.host ≠ none)) ∧
    ∀ client request, create apiKey baseUrl folderId = .ok client →
      client.request title description = .ok request →
      readFormPairs (request.url.query.getD []) = readFormPairs (client.endpoint.query.getD []) ++
        [("apiKey", apiKey), ("folderId", folderId), ("title", title),
          ("description", description), ("security", "public")] := by
  refine ⟨Iff.trans ?_ (parse_createPath_iff _), namesBase_iff, ?_⟩
  · constructor
    · rintro ⟨client, request, made, sent, suffix, five⟩
      obtain ⟨endpoint, read, rfl⟩ := create_eq_ok_iff.mp made
      obtain ⟨hosted, rfl⟩ := request_eq_ok_iff.mp sent
      have noOther := (pairsOf_asked _ title description).symm.trans five
      rw [path_asked] at suffix
      exact ⟨endpoint, read, hosted, suffix, List.append_left_eq_self.mp noOther⟩
    · rintro ⟨endpoint, read, hosted, suffix, noOther⟩
      let client : DiagramClient := ⟨apiKey, folderId, endpoint⟩
      refine ⟨client, client.asked title description, create_eq_ok_iff.mpr ⟨endpoint, read, rfl⟩,
        request_eq_ok_iff.mpr ⟨hosted, rfl⟩, ?_, ?_⟩
      · rw [path_asked]
        exact suffix
      · refine (pairsOf_asked client title description).trans ?_
        rw [noOther]
        rfl
  · intro client request made sent
    obtain ⟨endpoint, -, rfl⟩ := create_eq_ok_iff.mp made
    obtain ⟨-, rfl⟩ := request_eq_ok_iff.mp sent
    exact pairsOf_asked _ title description

/-- The endpoint that is made of a base URL with a query. -/
def tenantEndpoint : Url where
  scheme := "https".toList
  hasAuthority := true
  username := []
  password := none
  host := some "diagrams.example.com".toList
  port := none
  path := "/api/v1".toList
  isFlat := false
  query := some "tenant=7/diagrams/create.json".toList
  fragment := none

def tenantClient : DiagramClient := ⟨"k", "42", tenantEndpoint⟩

theorem create_tenant :
    create "k" "https://diagrams.example.com/api/v1?tenant=7" "42" = .ok tenantClient := by
  rfl

theorem request_tenant (title description : String) :
    tenantClient.request title description = .ok (tenantClient.asked title description) :=
  rfl

theorem request_reaches_endpoint_iff_version :
    NamesBase "https://diagrams.example.com/api/v1/" ∧
    (∃ client request, create "k" "https://diagrams.example.com/api/v1/" "42" = .ok client ∧
      client.request "a & b" "2 edges" = .ok request ∧
      createPath.toList <:+ request.url.path ∧
      readFormPairs (request.url.query.getD []) = [("apiKey", "k"), ("folderId", "42"),
        ("title", "a & b"), ("description", "2 edges"), ("security", "public")]) ∧
    readFormPairs ((tenantClient.asked "t" "d").url.query.getD []) =
      [("tenant", "7/diagrams/create.json"), ("apiKey", "k"), ("folderId", "42"), ("title", "t"),
        ("description", "d"), ("security", "public")] := by
  obtain ⟨reaches, plain, -⟩ := request_reaches_endpoint_iff "k"
    "https://diagrams.example.com/api/v1/" "42" "a & b" "2 edges"
  have names : NamesBase "https://diagrams.example.com/api/v1/" :=
    (plain (by decide) (by decide)).mpr ⟨_, rfl, nofun⟩
  obtain ⟨-, -, pairs⟩ := request_reaches_endpoint_iff "k"
    "https://diagrams.example.com/api/v1?tenant=7" "42" "t" "d"
  have own : readFormPairs (tenantClient.endpoint.query.getD []) =
      [("tenant", "7/diagrams/create.json")] := by rfl
  refine ⟨names, reaches.mpr names, ?_⟩
  rw [pairs tenantClient _ create_tenant (request_tenant "t" "d"), own]
  rfl

/-- Behind a query, the endpoint's path is no part of the path. -/
theorem request_misses_endpoint :
    ¬ ∀ (apiKey baseUrl folderId title description : String) (client : DiagramClient)
      (request : DiagramRequest), create apiKey baseUrl folderId = .ok client →
      client.request title description = .ok request →
      createPath.toList <:+ request.url.path ∧
      readFormPairs (request.url.query.getD []) = [("apiKey", apiKey), ("folderId", folderId),
        ("title", title), ("description", description), ("security", "public")] := by
  intro h
  obtain ⟨suffix, -⟩ := h "k" "https://diagrams.example.com/api/v1?tenant=7" "42" "t" "d"
    tenantClient _ create_tenant (request_tenant "t" "d")
  rw [path_asked] at suffix
  exact absurd suffix.length_le (by decide)

end DiagramClient

end ImportWeights.Report
