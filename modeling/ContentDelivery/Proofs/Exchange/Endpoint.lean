/-
ContentDelivery.Proofs.Exchange.Endpoint — where requests go, and what their URL tells.

`url_tells_code_and_session`: whatever the texts are, the query of an
endpoint ends with the client code and the id of the session, and if the
chosen host is plain, nothing else in the URL depends on any text.

`default_host_kept_iff`: the host that belongs to a client code is in the
zone of the service, at the path of the service, exactly if the client
code leaves the authority open, or spells a whole URL of the service by
itself. A client code that ends the authority names the host alone
(`request_leaves_service`): it is put in front of the zone as it is.
-/
import ContentDelivery.Exchange.Endpoint
import ContentDelivery.Proofs.Url.Domain
import ContentDelivery.Proofs.Url.Reading
import Mathlib.Data.Bool.AllAny

namespace ContentDelivery

/-- The text of a URL without credentials, port and fragment. -/
theorem Url.toText_of_bare {u : Url} {text : List Char} (no_username : u.username = [])
    (no_password : u.password = []) (no_port : u.port = none) (has_query : u.query = some text)
    (no_fragment : u.fragment = none) :
    u.toText = "https://".toList ++ u.host.toText ++ u.pathText ++ '?' :: text := by
  simp [toText, credentialsText, portText, queryText, fragmentText, no_username, no_password,
    no_port, has_query, no_fragment, scheme]

namespace Endpoint

open Url (Spells significant authorityPart targetPart pathPart endsAuthority endsPath isIgnored
  isSlash eq_false_of_any_eq_false)

variable {c : Configuration} {edgeHost : Option String} {sessionId host : String} {url : Url}

/-! ## The chosen host -/

/-- Neither a server nor an edge host says where requests go. -/
structure IsDefault (c : Configuration) (edgeHost : Option String) : Prop where
  server : ∀ server, c.targetServer = some server → server = ""
  edgeHost : ∀ host, edgeHost = some host → host = ""

/-- The host that requests go to: the server that is configured, or else the edge host, or else the
one that belongs to the client code. An empty text is none. -/
inductive Chooses (c : Configuration) (edgeHost : Option String) : String → Prop
  | server {server : String} (configured : c.targetServer = some server) (named : server ≠ "") :
      Chooses c edgeHost server
  | edgeHost {host : String} (no_server : ∀ server, c.targetServer = some server → server = "")
      (cached : edgeHost = some host) (named : host ≠ "") : Chooses c edgeHost host
  | default (is_default : IsDefault c edgeHost) :
      Chooses c edgeHost (c.clientCode ++ ".tt.omtrdc.net")

theorem nonempty?_eq_none_iff {s : Option String} :
    nonempty? s = none ↔ ∀ t, s = some t → t = "" := by
  cases s <;> simp [nonempty?, Option.filter]

/-- One host is always chosen. -/
theorem chooses_iff : Chooses c edgeHost host ↔ hostText c edgeHost = host := by
  have no_server : nonempty? c.targetServer = none ↔ _ := nonempty?_eq_none_iff
  have no_edge : nonempty? edgeHost = none ↔ _ := nonempty?_eq_none_iff
  unfold hostText Configuration.serverInEffect?
  constructor
  · intro chosen
    cases chosen with
    | server configured named =>
      rw [nonempty?_eq_some.mpr ⟨configured, named⟩]
      rfl
    | edgeHost not_configured cached named =>
      rw [no_server.mpr not_configured, nonempty?_eq_some.mpr ⟨cached, named⟩]
      rfl
    | default is_default =>
      rw [no_server.mpr is_default.server, no_edge.mpr is_default.edgeHost]
      rfl
  · rintro rfl
    cases configured : nonempty? c.targetServer with
    | some server =>
      obtain ⟨configured, named⟩ := nonempty?_eq_some.mp configured
      exact .server configured named
    | none =>
      cases cached : nonempty? edgeHost with
      | some host =>
        obtain ⟨cached, named⟩ := nonempty?_eq_some.mp cached
        exact .edgeHost (no_server.mp configured) cached named
      | none => exact .default ⟨no_server.mp configured, no_edge.mp cached⟩

theorem Chooses.nonempty (chosen : Chooses c edgeHost host) : host.toList ≠ [] := by
  cases chosen with
  | server configured named => simpa using named
  | edgeHost no_server cached named => simpa using named
  | default is_default => simp

/-- The URL of an endpoint is spelled by its host and the path of the service. -/
theorem exists_base_of_url? (made : url? c edgeHost sessionId = some url) :
    ∃ base, Spells (significant ((hostText c edgeHost).toList ++ path.toList)) base ∧
      url = base.appendPairs (query c sessionId) := by
  obtain ⟨base, read, rfl⟩ := Option.map_eq_some_iff.mp made
  refine ⟨base, ?_, rfl⟩
  have spells := Url.ofText?_eq_some.mp read
  rwa [String.append_assoc, String.toList_append, String.toList_append] at spells

/-! ## Authorities and the path behind them -/

section

variable {front : List Char} {base : Url}

/-- An authority that nothing ends is followed by the path. -/
theorem authorityPart_append_path (is_open : ∀ ch ∈ front, endsAuthority ch = false) :
    authorityPart (front ++ path.toList) = front := by
  unfold authorityPart
  rw [List.takeWhile_append_of_pos (by simpa using is_open)]
  exact List.append_nil front

theorem targetPart_append_path (is_open : ∀ ch ∈ front, endsAuthority ch = false) :
    targetPart (front ++ path.toList) = path.toList := by
  unfold targetPart
  rw [List.dropWhile_append_of_pos (by simpa using is_open)]
  rfl

theorem pathText_of_target {cs : List Char} (spells : Spells cs base)
    (target : targetPart cs = path.toList) :
    base.pathText = path.toList ∧ base.query = none ∧ base.fragment = none := by
  have path_eq := spells.path
  have query_eq := spells.query
  have fragment_eq := spells.fragment
  rw [target] at path_eq query_eq fragment_eq
  refine ⟨?_, query_eq.trans rfl, fragment_eq.trans rfl⟩
  rw [Url.pathText, path_eq]
  decide

end

/-! ## Plain hosts -/

/-- Letters, digits and the three marks that names of hosts are written with. -/
def isPlain (ch : Char) : Bool := ch.isAlphanum || ch = '.' || ch = '-' || ch = '_'

/-- Nothing plain is passed over, and nothing plain delimits the parts of a URL. -/
theorem no_mark_of_isPlain {ch : Char} (plain : isPlain ch = true) :
    isIgnored ch = false ∧ isSlash ch = false ∧ endsAuthority ch = false ∧ ch ≠ '@' ∧ ch ≠ ':' := by
  have unmarked : ch ∉ ['\t', '\n', '\r', '/', '\\', '?', '#', '@', ':'] := by
    intro mark
    simp only [List.mem_cons, List.not_mem_nil, or_false] at mark
    rcases mark with rfl | rfl | rfl | rfl | rfl | rfl | rfl | rfl | rfl <;>
      exact absurd plain (by decide)
  simp only [List.mem_cons, List.not_mem_nil, or_false, not_or] at unmarked
  simp [isIgnored, isSlash, endsAuthority, unmarked]

/-- With a plain host, a URL is that host with the path of the service and nothing else. -/
structure IsPlainEndpoint (host : String) (u : Url) : Prop where
  username : u.username = []
  password : u.password = []
  host : Url.Host.ofText? host.toList = some u.host
  port : u.port = none
  pathText : u.pathText = path.toList
  query : u.query = none
  fragment : u.fragment = none

theorem isPlainEndpoint_of_spells {base : Url} (plain : ∀ ch ∈ host.toList, isPlain ch = true)
    (something : host.toList ≠ [])
    (spells : Spells (significant (host.toList ++ path.toList)) base) :
    IsPlainEndpoint host base := by
  have no_mark := fun ch among => no_mark_of_isPlain (plain ch among)
  have is_open : ∀ ch ∈ host.toList, endsAuthority ch = false :=
    fun ch among => (no_mark ch among).2.2.1
  have no_at : '@' ∉ host.toList := fun among => (no_mark _ among).2.2.2.1 rfl
  have no_colon : ':' ∉ host.toList := fun among => (no_mark _ among).2.2.2.2 rfl
  have counts : significant host.toList = host.toList :=
    Url.significant_eq_self (fun ch among => (no_mark ch among).1) fun ch among =>
      (no_mark ch among).2.1
  have whole : significant (host.toList ++ path.toList) = host.toList ++ path.toList := by
    rw [Url.significant_append (eq_false_of_any_eq_false (by decide)), counts,
      if_neg something]
  rw [whole] at spells
  have authority : Url.Authority.ofText (authorityPart (host.toList ++ path.toList)) =
      { username := [], password := [], host := host.toList, port := [] } := by
    rw [authorityPart_append_path is_open, Url.Authority.ofText_eq_host no_at no_colon]
  obtain ⟨path_eq, no_query, no_fragment⟩ :=
    pathText_of_target spells (targetPart_append_path is_open)
  have host_eq := spells.host
  have port_eq := spells.port
  have username_eq := spells.username
  have password_eq := spells.password
  rw [authority] at host_eq port_eq username_eq password_eq
  exact {
    username := username_eq, password := password_eq, host := host_eq
    port := (Option.some.inj port_eq).symm
    pathText := path_eq, query := no_query, fragment := no_fragment }

theorem queryTexts_appendPairs_query (base : Url) :
    (base.appendPairs (query c sessionId)).queryTexts =
      base.queryTexts ++
        [(some "client", some c.clientCode), (some "sessionId", some sessionId)] :=
  base.queryTexts_appendPairs _

/-- **The URL tells the client code and the session**, as the last two pairs of its query. If the
chosen host is plain, the URL is an https one at that host, with the path of the service, no query
but these two pairs, and nothing else. -/
theorem url_tells_code_and_session (made : url? c edgeHost sessionId = some url) :
    (∃ before, url.queryTexts = before ++
      [(some "client", some c.clientCode), (some "sessionId", some sessionId)]) ∧
    ∀ host, Chooses c edgeHost host → (∀ ch ∈ host.toList, isPlain ch = true) →
      url.queryTexts = [(some "client", some c.clientCode), (some "sessionId", some sessionId)] ∧
      url.username = [] ∧ url.password = [] ∧ url.port = none ∧ url.fragment = none ∧
      url.pathText = "/rest/v1/delivery/".toList ∧
      Url.Host.ofText? host.toList = some url.host ∧
      ∃ text, url.query = some text ∧
        url.toText =
          "https://".toList ++ url.host.toText ++ "/rest/v1/delivery/".toList ++ '?' :: text := by
  obtain ⟨base, spells, rfl⟩ := exists_base_of_url? made
  refine ⟨⟨_, queryTexts_appendPairs_query base⟩, ?_⟩
  intro host chosen plain
  rw [chooses_iff.mp chosen] at spells
  have is_plain := isPlainEndpoint_of_spells plain chosen.nonempty spells
  have nothing_before : base.queryTexts = [] := by
    rw [Url.queryTexts, Url.queryPairs, is_plain.query]
    rfl
  refine ⟨?_, is_plain.username, is_plain.password, is_plain.port, is_plain.fragment,
    is_plain.pathText, is_plain.host, _, rfl, ?_⟩
  · rw [queryTexts_appendPairs_query, nothing_before, List.nil_append]
  · have path_eq : (base.appendPairs (query c sessionId)).pathText = path.toList :=
      is_plain.pathText
    rw [Url.toText_of_bare (u := base.appendPairs (query c sessionId)) is_plain.username
      is_plain.password is_plain.port rfl is_plain.fragment, path_eq]
    rfl

/-- Texts full of delimiters, in a query that tells nothing else, and a client code that the host
spells in ASCII but the query tells as it is. -/
theorem url_tells_code_and_session_with_delimiters :
    (let c : Configuration :=
      { clientCode := "a&b=c +%41#é", targetServer := some "edge_1.Example-host.net" }
    ∃ url, url? c (some "other") "s=1&client=x?" = some url ∧
      Chooses c (some "other") "edge_1.Example-host.net" ∧
      (∀ ch ∈ "edge_1.Example-host.net".toList, isPlain ch = true) ∧
      url.queryTexts =
        [(some "client", some "a&b=c +%41#é"), (some "sessionId", some "s=1&client=x?")]) ∧
    let c : Configuration := { clientCode := "Bücher" }
    ∃ url, url? c none "s" = some url ∧
      url.host = .domain "xn--bcher-kva.tt.omtrdc.net".toList ∧
      ∃ before, url.queryTexts =
        before ++ [(some "client", some "Bücher"), (some "sessionId", some "s")] := by
  constructor
  · intro c
    have made : (url? c (some "other") "s=1&client=x?").isSome = true := by decide +kernel
    obtain ⟨url, made⟩ := Option.isSome_iff_exists.mp made
    have chosen : Chooses c (some "other") "edge_1.Example-host.net" := .server rfl (by decide)
    have plain : ∀ ch ∈ "edge_1.Example-host.net".toList, isPlain ch = true :=
      List.all_eq_true.mp (by decide)
    exact ⟨url, made, chosen, plain, ((url_tells_code_and_session made).2 _ chosen plain).1⟩
  · intro c
    have made : (url? c none "s").map (·.host) =
        some (.domain "xn--bcher-kva.tt.omtrdc.net".toList) := by decide +kernel
    obtain ⟨url, made, host_eq⟩ := Option.map_eq_some_iff.mp made
    exact ⟨url, made, host_eq, (url_tells_code_and_session made).1⟩

/-! ## Hosts that belong to a client code -/

/-- The zone of the hosts that belong to client codes. -/
def zone : List Char := "tt.omtrdc.net".toList

theorem isZone_zone : Url.Host.IsZone zone where
  ascii := List.all_iff_forall_prop.mp (by decide)
  unescaped := by decide
  folded := by decide
  spelled := by decide
  labelled := by decide
  no_number := by decide
  no_bracket := by decide

theorem defaultHostSuffix_eq : defaultHostSuffix.toList = '.' :: zone := by decide

/-- Requests stay with the service: their host is in its zone, and their path is its path. -/
structure StaysWithService (url : Url) : Prop where
  host : ".tt.omtrdc.net".toList <:+ url.host.toText
  path : url.pathText = "/rest/v1/delivery/".toList

/-- A client code leaves the authority open: nothing in it ends the authority, apart from what is
passed over and from slashes in front. -/
def LeavesOpen (code : String) : Prop :=
  ∀ ch ∈ significant code.toList, endsAuthority ch = false

instance (code : String) : Decidable (LeavesOpen code) :=
  decidable_of_iff ((significant code.toList).any endsAuthority = false) (by simp [LeavesOpen])

/-- A client code spells a whole URL of the service by itself, with something behind the path. -/
def SpellsService (code : String) : Prop :=
  ∃ u, Url.ofText? ("//" ++ code).toList = some u ∧ StaysWithService u ∧
    (u.query ≠ none ∨ u.fragment ≠ none)

/-- What stands behind the client code in the text of the URL. -/
def behindCode : List Char := '.' :: zone ++ path.toList

theorem significant_default (code : String) :
    significant ((code ++ defaultHostSuffix).toList ++ path.toList) =
      significant code.toList ++ behindCode := by
  rw [String.toList_append, defaultHostSuffix_eq, List.append_assoc, ← behindCode,
    Url.significant_append (eq_false_of_any_eq_false (by decide))]
  split
  · next nothing =>
    rw [nothing]
    decide
  · rfl

section

variable {front : List Char} {base : Url}

/-- An authority that is left open is continued by the zone. -/
theorem stays_of_leavesOpen (is_open : ∀ ch ∈ front, endsAuthority ch = false)
    (spells : Spells (front ++ behindCode) base) : StaysWithService base := by
  have split : front ++ behindCode = (front ++ '.' :: zone) ++ path.toList := by
    rw [behindCode, List.append_assoc]
  have zone_open : ∀ ch ∈ '.' :: zone, endsAuthority ch = false :=
    eq_false_of_any_eq_false (by decide)
  have still_open : ∀ ch ∈ front ++ '.' :: zone, endsAuthority ch = false := fun ch among =>
    (List.mem_append.mp among).elim (is_open ch) (zone_open ch)
  rw [split] at spells
  have host_eq := spells.host
  have port_eq := spells.port
  rw [authorityPart_append_path still_open] at host_eq port_eq
  refine ⟨?_, (pathText_of_target spells (targetPart_append_path still_open)).1⟩
  have no_at : '@' ∉ '.' :: zone := by decide
  have no_colon : ':' ∉ '.' :: zone := by decide
  obtain ⟨before, in_host | in_port⟩ := Url.Authority.ofText_append front no_at no_colon
  · rw [in_host] at host_eq
    obtain ⟨name, domain⟩ := Url.Host.exists_domain_of_zone isZone_zone host_eq
    rw [domain]
    exact List.suffix_append name _
  · -- The zone is no number, so that it cannot be the end of a port.
    rw [in_port] at port_eq
    have digit := Url.isDigit_of_port? port_eq '.' (by simp)
    cases digit

/-- The segments of the path of the service. -/
def segments : List (List Char) := ["rest".toList, "v1".toList, "delivery".toList, []]

theorem resolve_segments (start : List (List Char)) :
    Url.resolve start segments = start ++ segments := by
  have one_by_one : Url.resolve start segments =
      start ++ ["rest".toList] ++ ["v1".toList] ++ ["delivery".toList] ++ [[]] := rfl
  rw [one_by_one]
  simp only [List.append_assoc]
  rfl

theorem exists_splitSlashes_behindCode (front : List Char) :
    ∃ first last, Url.splitSlashes (front ++ behindCode) =
      first ++ (last ++ '.' :: zone) :: segments := by
  have whole : '/' ∉ '.' :: zone := by decide
  have tail_eq : behindCode.map (fun ch => if ch = '\\' then '/' else ch) =
      '.' :: zone ++ '/' :: "rest/v1/delivery/".toList := by decide
  have tail_split : ("rest/v1/delivery/".toList).splitOn '/' = segments := by decide
  obtain ⟨first, last, split⟩ := Url.exists_splitOn_append
    (front.map fun ch => if ch = '\\' then '/' else ch) whole
  refine ⟨first, last, ?_⟩
  rw [Url.splitSlashes, List.map_append, tail_eq, ← List.append_assoc,
    List.splitOn_append_cons_self, split, tail_split, List.append_assoc]
  rfl

/-- A path that goes on with the zone is not that of the service: the segment that ends in the zone
stays in it. -/
theorem pathText_ne_of_slash {mark : Char} (slash : isSlash mark = true)
    (path_eq : base.path = Url.pathOfText (mark :: front ++ behindCode)) :
    base.pathText ≠ path.toList := by
  obtain ⟨first, last, pieces⟩ := exists_splitSlashes_behindCode front
  have something : (last ++ '.' :: zone) :: segments ≠ [] := List.cons_ne_nil _ _
  have more : segments ≠ [] := by decide
  have letter : 't' ∈ last ++ '.' :: zone := List.mem_append_right last (by decide)
  have no_part : 't' ∉ ['%', '2', 'e', 'E', '.'] := by decide
  obtain ⟨no_dot, no_dots⟩ := Url.not_dots_of_mem no_part letter
  obtain ⟨start, resolved⟩ := Url.exists_resolve_append [] first something
  have path_eq : base.path =
      start ++ Url.Percent.encode Url.Percent.keptInPath (last ++ '.' :: zone) :: segments := by
    rw [path_eq, List.cons_append, Url.pathOfText, if_pos slash, pieces, resolved,
      Url.resolve_of_not_dots no_dot no_dots start more, resolve_segments, List.append_assoc]
    rfl
  intro same
  have lengths : base.pathText.length = path.toList.length := congrArg List.length same
  have path_length : path.toList.length = 18 := by decide
  have segments_length : (segments.flatMap ('/' :: ·)).length = 18 := by decide
  rw [Url.pathText, path_eq, List.flatMap_append, List.flatMap_cons, List.length_append,
    List.length_append, segments_length, path_length, List.length_cons] at lengths
  omega

/-- Once a client code ends the authority, what stands behind it decides of the path at most. -/
theorem parts_of_closed (closed : ∃ ch ∈ front, endsAuthority ch = true) (tail : List Char) :
    authorityPart (front ++ tail) = authorityPart front ∧
      targetPart (front ++ tail) = targetPart front ++ tail := by
  have stops : ∃ ch ∈ front, (!endsAuthority ch) = false := by simpa using closed
  exact ⟨Url.takeWhile_append_of_stop stops, Url.dropWhile_append_of_stop stops⟩

/-- A client code that ends the authority but not the path makes the path another one. -/
theorem pathText_ne_of_closed (closed : ∃ ch ∈ front, endsAuthority ch = true)
    (path_goes_on : ∀ ch ∈ targetPart front, endsPath ch = false)
    (spells : Spells (front ++ behindCode) base) : base.pathText ≠ path.toList := by
  obtain ⟨mark, rest, split⟩ : ∃ mark rest, targetPart front = mark :: rest := by
    refine List.exists_cons_of_ne_nil fun nothing => ?_
    obtain ⟨ch, among, ends⟩ := closed
    have is_open := List.dropWhile_eq_nil_iff.mp nothing ch among
    simp [ends] at is_open
  have ends : endsAuthority mark = true := by
    have first := List.head?_dropWhile_not (!endsAuthority ·) front
    rw [← targetPart, split] at first
    simpa using first
  have slash : isSlash mark = true := by
    have goes_on := path_goes_on mark (split ▸ List.mem_cons_self ..)
    simp_all [endsAuthority, endsPath]
  have behind_goes_on : ∀ ch ∈ behindCode, endsPath ch = false :=
    eq_false_of_any_eq_false (by decide)
  have whole : pathPart (mark :: rest ++ behindCode) = mark :: rest ++ behindCode := by
    refine List.takeWhile_eq_self_iff.mpr fun ch among => ?_
    rw [Bool.not_eq_true']
    exact (List.mem_append.mp among).elim (fun h => path_goes_on ch (split ▸ h))
      (behind_goes_on ch)
  have path_eq := spells.path
  rw [(parts_of_closed closed behindCode).2, split, whole] at path_eq
  exact pathText_ne_of_slash slash path_eq

/-- A client code that ends the authority spells a URL by itself, at the same host. If it ends the
path too, the path is the same. -/
theorem exists_alone_of_closed (closed : ∃ ch ∈ front, endsAuthority ch = true)
    (spells : Spells (front ++ behindCode) base) :
    ∃ alone, Spells front alone ∧ alone.host = base.host ∧
      ((∃ ch ∈ targetPart front, endsPath ch = true) → alone.pathText = base.pathText) := by
  obtain ⟨authority, target⟩ := parts_of_closed closed behindCode
  obtain ⟨host_eq, port_eq, username_eq, password_eq, path_eq, -, -⟩ := spells
  rw [authority] at host_eq port_eq username_eq password_eq
  rw [target] at path_eq
  let alone : Url :=
    { base with
      path := Url.pathOfText (pathPart (targetPart front))
      query := (Url.queryPart? (targetPart front)).map
        (Url.Percent.encode Url.Percent.keptInQuery)
      fragment := (Url.fragmentPart? (targetPart front)).map
        (Url.Percent.encode Url.Percent.keptInFragment) }
  refine ⟨alone, ⟨host_eq, port_eq, username_eq, password_eq, rfl, rfl, rfl⟩, rfl, ?_⟩
  intro path_ends
  have stops : ∃ ch ∈ targetPart front, (!endsPath ch) = false := by simpa using path_ends
  rw [pathPart, Url.takeWhile_append_of_stop stops] at path_eq
  rw [Url.pathText, Url.pathText, path_eq]
  rfl

end

theorem staysWithService_appendPairs {pairs : List (String × String)} {base : Url} :
    StaysWithService (base.appendPairs pairs) ↔ StaysWithService base :=
  ⟨fun stays => ⟨stays.host, stays.path⟩, fun stays => ⟨stays.host, stays.path⟩⟩

/-- **A host that belongs to a client code keeps requests with the service exactly if the client
code leaves it open**, or spells a whole URL of the service by itself. A client code that does not
leave it open names the host alone. -/
theorem default_host_kept_iff (is_default : IsDefault c edgeHost)
    (made : url? c edgeHost sessionId = some url) :
    (StaysWithService url ↔ LeavesOpen c.clientCode ∨ SpellsService c.clientCode) ∧
    (¬LeavesOpen c.clientCode →
      ∃ alone, Url.ofText? ("//" ++ c.clientCode).toList = some alone ∧ url.host = alone.host) := by
  obtain ⟨base, spells, rfl⟩ := exists_base_of_url? made
  have host_eq : hostText c edgeHost = c.clientCode ++ defaultHostSuffix :=
    chooses_iff.mp (.default is_default)
  rw [host_eq, significant_default] at spells
  rw [staysWithService_appendPairs]
  by_cases is_open : LeavesOpen c.clientCode
  · exact ⟨iff_of_true (stays_of_leavesOpen is_open spells) (.inl is_open), (absurd is_open ·)⟩
  · have closed : ∃ ch ∈ significant c.clientCode.toList, endsAuthority ch = true := by
      simpa [LeavesOpen] using is_open
    obtain ⟨alone, alone_spells, same_host, same_path⟩ := exists_alone_of_closed closed spells
    have read : Url.ofText? ("//" ++ c.clientCode).toList = some alone := by
      rw [Url.ofText?_eq_some, String.toList_append]
      exact alone_spells
    refine ⟨⟨fun stays => .inr ⟨alone, read, ?_⟩, ?_⟩, fun _ => ⟨alone, read, same_host.symm⟩⟩
    · -- If the path went on, the zone would be a part of it.
      have path_ends : ∃ ch ∈ targetPart (significant c.clientCode.toList), endsPath ch = true := by
        by_contra goes_on
        exact pathText_ne_of_closed closed (by simpa using goes_on) spells stays.path
      exact ⟨⟨same_host ▸ stays.host, (same_path path_ends).trans stays.path⟩,
        alone_spells.ends_path_iff.mpr path_ends⟩
    · rintro (now_open | ⟨u, also_read, stays, has_more⟩)
      · exact absurd now_open is_open
      · obtain rfl := Option.some.inj (read.symm.trans also_read)
        have path_ends := alone_spells.ends_path_iff.mp has_more
        exact ⟨same_host ▸ stays.host, (same_path path_ends).symm.trans stays.path⟩

/-- Neither credentials nor letters beyond ASCII in a client code keep a request from the service. -/
theorem default_host_kept_iff_with_credentials :
    let c : Configuration := { clientCode := "//user:word@Bücher%2Eeu" }
    ∃ url, url? c (some "") "sid" = some url ∧ IsDefault c (some "") ∧
      url.host = .domain "xn--bcher-kva.eu.tt.omtrdc.net".toList ∧ StaysWithService url := by
  intro c
  have made : (url? c (some "") "sid").map (·.host) =
      some (.domain "xn--bcher-kva.eu.tt.omtrdc.net".toList) := by decide +kernel
  obtain ⟨url, made, host_eq⟩ := Option.map_eq_some_iff.mp made
  have is_default : IsDefault c (some "") := ⟨nofun, fun _ cached => (Option.some.inj cached).symm⟩
  have is_open : LeavesOpen c.clientCode := by decide
  have stays := (default_host_kept_iff is_default made).1.mpr (.inl is_open)
  exact ⟨url, made, is_default, host_eq, stays⟩

/-- A request leaves the service: the slash in the client code ends the host. -/
theorem request_leaves_service :
    let c : Configuration := { clientCode := "a/b" }
    c.clientCode ≠ "" ∧ IsDefault c none ∧
      ∃ url, url? c none "sid" = some url ∧ url.host = .domain ['a'] ∧ ¬StaysWithService url := by
  intro c
  have made : (url? c none "sid").map (·.host) = some (.domain ['a']) := by decide +kernel
  obtain ⟨url, made, host_eq⟩ := Option.map_eq_some_iff.mp made
  refine ⟨by decide, ⟨nofun, nofun⟩, url, made, host_eq, fun stays => ?_⟩
  have in_zone := stays.host
  rw [host_eq] at in_zone
  revert in_zone
  decide

end Endpoint

end ContentDelivery
