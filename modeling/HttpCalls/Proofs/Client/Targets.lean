-- Where requests go. The URI of a request is glued together as a text and read again, and
-- still no path leads away from its endpoint: scheme and authority are those of the
-- endpoint, and without leave no request goes out without TLS.
import HttpCalls.Proofs.Client.SharedClients
import HttpCalls.Proofs.Text.Joining
import HttpCalls.Proofs.Url.WebUrls

namespace HttpCalls

/-! ## The glue -/

/-- The slash between a URL and a path: where the path is there and does not bring what
parts it from the URL. -/
def slashBetween (path : List Char) : List Char :=
  if path ≠ [] ∧ path.head? ≠ some '/' ∧ path.head? ≠ some '?' then ['/'] else []

theorem behindUrl_eq (url path : List Char) :
    behindUrl url path = withoutFinalSlashes url ++ (slashBetween path ++ path) := by
  unfold behindUrl slashBetween
  dsimp only
  split
  · rfl
  · simp
  · simp
  · rename_i hnil hslash hmark
    rw [if_pos]
    · rfl
    · rcases path with _ | ⟨c, rest⟩
      · exact absurd rfl hnil
      · refine ⟨by simp, ?_, ?_⟩
        · rintro ⟨⟩
          exact hslash rest rfl
        · rintro ⟨⟩
          exact hmark rest rfl

theorem headIn_slashBetween (path : List Char) :
    Url.HeadIn ['/', '?', '#'] (slashBetween path ++ path) := by
  unfold slashBetween
  split
  · intro c hc
    cases hc
    decide
  · rename_i hno
    intro c hc
    rcases path with _ | ⟨d, rest⟩
    · cases hc
    · cases hc
      by_cases hslash : c = '/'
      · simp [hslash]
      · by_cases hmark : c = '?'
        · simp [hmark]
        · exact absurd ⟨by simp, by simp [hslash], by simp [hmark]⟩ hno

theorem withoutFinalSlashes_of_last {a : List Char} (ha : a.getLast? ≠ some '/') :
    withoutFinalSlashes a = a := by
  rw [List.getLast?_eq_head?_reverse] at ha
  have hkept : a.reverse.dropWhile (· = '/') = a.reverse := by
    rcases hr : a.reverse with _ | ⟨c, rest⟩
    · rfl
    · have hc : c ≠ '/' := by
        rintro rfl
        rw [hr] at ha
        exact ha rfl
      simp [hc]
  rw [withoutFinalSlashes, hkept, List.reverse_reverse]

theorem withoutFinalSlashes_le (text : List Char) : withoutFinalSlashes text <+: text := by
  have hsuffix := List.dropWhile_suffix (l := text.reverse) (· = '/')
  unfold withoutFinalSlashes
  exact List.reverse_suffix.mp (by simpa using hsuffix)

/-! ## Reading the glued text -/

theorem headIn_append {heads a b : List Char} (ha : Url.HeadIn heads a) (hb : Url.HeadIn heads b) :
    Url.HeadIn heads (a ++ b) := by
  rcases a with _ | ⟨c, rest⟩
  · exact hb
  · exact ha

theorem headIn_mono {heads a b : List Char} (h : a <+: b) (hb : Url.HeadIn heads b) :
    Url.HeadIn heads a := by
  obtain ⟨rest, rfl⟩ := h
  rcases a with _ | ⟨c, more⟩
  · intro c hc
    cases hc
  · exact hb

namespace RequestUri

theorem authority_split {authority rest : List Char} (ha : Unbroken authority)
    (hrest : Url.HeadIn ['/', '?', '#'] rest) :
    authorityOf (authority ++ rest) = authority ∧ behindAuthority (authority ++ rest) = rest := by
  have hkept : ∀ c ∈ authority, (!endsAuthority c) = true := fun c hc => by rw [ha c hc]; rfl
  unfold authorityOf behindAuthority
  rw [List.takeWhile_append_of_pos hkept, List.dropWhile_append_of_pos hkept]
  rcases rest with _ | ⟨c, more⟩
  · simp
  · have hc : endsAuthority c = true := by
      have hmem := hrest c rfl
      simp only [List.mem_cons, List.not_mem_nil, or_false] at hmem
      rcases hmem with rfl | rfl | rfl <;> rfl
    simp [hc]

theorem cutScheme_web {scheme : List Char} (hs : Url.IsWebScheme scheme) (rest : List Char) :
    cutScheme (scheme ++ ':' :: '/' :: '/' :: rest) = .ok (scheme, rest) := by
  rcases hs with rfl | rfl <;> rfl

/-- The parts of a URI of the web are read off its text. -/
theorem ofText_web {scheme authority rest : List Char} {uri : RequestUri}
    (hs : Url.IsWebScheme scheme) (ha : Unbroken authority)
    (hrest : Url.HeadIn ['/', '?', '#'] rest)
    (h : ofText (scheme ++ ':' :: '/' :: '/' :: (authority ++ rest)) = .ok uri) :
    uri = { scheme, authority, resource := withoutFragment rest } := by
  obtain ⟨hauthority, hbehind⟩ := authority_split ha hrest
  unfold ofText at h
  dsimp only at h
  obtain ⟨-, h⟩ := guard_eq_ok.mp h
  obtain ⟨parts, hparts, h⟩ := bind_eq_ok.mp h
  rw [cutScheme_web hs] at hparts
  cases hparts
  obtain ⟨_, -, h⟩ := bind_eq_ok.mp h
  dsimp only at h
  rw [hauthority, hbehind] at h
  split at h
  · rename_i hscheme
    rcases hs with rfl | rfl <;> cases hscheme
  · split at h
    · cases h
    · obtain ⟨resource, hresource, h⟩ := bind_eq_ok.mp h
      unfold checkResource at hresource
      split at hresource
      · cases hresource
        cases h
        rfl
      · cases hresource

end RequestUri

/-! ## Schemes -/

/-- A scheme that requests may go out with: without TLS only if that is allowed. -/
def Security.Allows (security : Security) (scheme : List Char) : Prop :=
  scheme = "https".toList ∨ scheme = "http".toList ∧ security = .allowInsecureHttp

theorem Security.Allows.web {security : Security} {scheme : List Char}
    (h : security.Allows scheme) : Url.IsWebScheme scheme :=
  h.elim .inr fun hplain => .inl hplain.1

theorem Security.admit_eq_ok {security : Security} {uri uri' : RequestUri} :
    security.admit uri = .ok uri' ↔ uri' = uri ∧ security.Allows uri.scheme := by
  unfold Security.admit Security.Allows
  dsimp only
  by_cases htls : uri.scheme = "https".toList
  · rw [if_pos htls]
    exact ⟨fun h => ⟨(Except.ok.inj h).symm, .inl htls⟩, fun h => congrArg Except.ok h.1.symm⟩
  · rw [if_neg htls]
    by_cases hplain : uri.scheme = "http".toList
    · rw [if_neg (not_not_intro hplain)]
      cases security with
      | tlsOnly => exact iff_of_false nofun fun h => h.2.elim htls nofun
      | allowInsecureHttp =>
        exact ⟨fun h => ⟨(Except.ok.inj h).symm, .inr ⟨hplain, rfl⟩⟩,
          fun h => congrArg Except.ok h.1.symm⟩
    · rw [if_pos hplain]
      exact iff_of_false nofun fun h => h.2.elim htls fun hboth => hplain hboth.1

namespace RequestUri

theorem scheme_of_ofText {text : List Char} {uri : RequestUri} (h : ofText text = .ok uri) :
    ∃ rest, cutScheme text = .ok (uri.scheme, rest) := by
  unfold ofText at h
  dsimp only at h
  obtain ⟨-, h⟩ := guard_eq_ok.mp h
  obtain ⟨⟨scheme, rest⟩, hparts, h⟩ := bind_eq_ok.mp h
  obtain ⟨_, -, h⟩ := bind_eq_ok.mp h
  dsimp only at h
  split at h
  · split at h
    · cases h
      exact ⟨rest, hparts⟩
    · cases h
  · split at h
    · cases h
    · obtain ⟨resource, -, h⟩ := bind_eq_ok.mp h
      cases h
      exact ⟨rest, hparts⟩

/-- A text with a scheme in its written form has this scheme as a URI, or none. -/
theorem cutScheme_written {scheme rest name behind : List Char} (hs : Url.IsScheme scheme)
    (h : cutScheme (scheme ++ ':' :: rest) = .ok (name, behind)) : name = [] ∨ name = scheme := by
  unfold cutScheme at h
  dsimp only at h
  split at h
  · cases h
    exact .inl rfl
  · rename_i after hafter
    split at h
    · cases h
    · cases h
      have hcolon : ':' ∉ (scheme ++ ':' :: rest).takeWhile isSchemeChar :=
        fun hmem => absurd (List.all_eq_true.mp List.all_takeWhile ':' hmem) (by decide)
      have hsplit := List.takeWhile_append_dropWhile (p := isSchemeChar) (l := scheme ++ ':' :: rest)
      rw [Text.dropStart?_eq_some hafter] at hsplit
      rw [(Text.append_sep_inj hcolon hs.whole hsplit).1]
      right
      unfold usualScheme
      dsimp only
      rw [hs.lower]
      split <;> rfl

end RequestUri

/-! ## The URI at an endpoint -/

/-- What stands behind the authority of a URL. -/
def Url.tail (u : Url) : List Char :=
  u.path ++ u.query.elim [] ('?' :: ·) ++ u.fragment.elim [] ('#' :: ·)

section
variable {u : Url} {authority : List Char}

theorem Url.IsWeb.text_eq (h : u.IsWeb authority) :
    u.text = u.scheme ++ ':' :: '/' :: '/' :: (authority ++ u.tail) := by
  unfold Url.text Url.tail
  rw [h.authority_eq]
  cases u.query <;> cases u.fragment <;> simp

theorem Url.IsWeb.headIn_tail (h : u.IsWeb authority) : Url.HeadIn ['/', '?', '#'] u.tail := by
  unfold Url.tail
  refine headIn_append (headIn_append ?_ ?_) ?_
  · intro c hc
    have hslash := h.path_head c hc
    simp only [List.mem_singleton] at hslash
    simp [hslash]
  · cases u.query <;> intro c hc <;> cases hc
    simp
  · cases u.fragment <;> intro c hc <;> cases hc
    simp

theorem Url.IsWeb.getLast?_ne (h : u.IsWeb authority) (lead : List Char) :
    (lead ++ authority).getLast? ≠ some '/' := by
  rcases hend : authority.getLast? with _ | c
  · exact absurd (List.getLast?_eq_none_iff.mp hend) h.authority_ne_nil
  · rw [List.getLast?_append, hend]
    rintro ⟨⟩
    exact absurd (h.unbroken _ (List.mem_of_getLast? hend)) (by decide)

/-- The URL of an endpoint with a path behind it, part by part. -/
theorem behindUrl_web (h : u.IsWeb authority) (path : List Char) :
    behindUrl u.text path = u.scheme ++ ':' :: '/' :: '/' ::
      (authority ++ (withoutFinalSlashes u.tail ++ (slashBetween path ++ path))) := by
  have hsplit : u.text = (u.scheme ++ ':' :: '/' :: '/' :: authority) ++ u.tail := by
    rw [h.text_eq]
    simp
  -- the slashes that are cut away end before the authority, which has none of them
  have hlast : (u.scheme ++ ':' :: '/' :: '/' :: authority).getLast? ≠ some '/' := by
    have := h.getLast?_ne (u.scheme ++ [':', '/', '/'])
    simpa using this
  rw [behindUrl_eq, hsplit, withoutFinalSlashes_append, withoutFinalSlashes_of_last hlast]
  split
  · rename_i hnil
    simp [hnil]
  · simp

/-- What is read from the URL of an endpoint with a path behind it. -/
theorem ofText_behindUrl {path : List Char} {uri : RequestUri} (hweb : u.IsWeb authority)
    (h : RequestUri.ofText (behindUrl u.text path) = .ok uri) :
    uri = { scheme := u.scheme, authority,
            resource := RequestUri.withoutFragment
              (withoutFinalSlashes u.tail ++ (slashBetween path ++ path)) } := by
  rw [behindUrl_web hweb] at h
  have hhead : Url.HeadIn ['/', '?', '#']
      (withoutFinalSlashes u.tail ++ (slashBetween path ++ path)) :=
    headIn_append (headIn_mono (withoutFinalSlashes_le _) hweb.headIn_tail)
      (headIn_slashBetween path)
  exact RequestUri.ofText_web hweb.scheme hweb.unbroken hhead h

/-- Requests may go to a URL with such a path behind it: its scheme is allowed, and the text is
legal. -/
structure MayGo (security : Security) (url : Url) (path : List Char) : Prop where
  allowed : security.Allows url.scheme
  legal : ∃ uri, RequestUri.ofText (behindUrl url.text path) = .ok uri

/-- A request is on its way to a URL: scheme and authority are those of the URL, and its own path
stands behind what the URL has behind its authority. -/
structure AddressedTo (url : Url) (request : Request) (out : Outgoing) : Prop where
  method : out.method = request.method
  scheme : out.uri.scheme = url.scheme
  authority : url.authority = some out.uri.authority
  resource : out.uri.resource = RequestUri.withoutFragment
    (withoutFinalSlashes url.tail ++ (slashBetween request.uri ++ request.uri))

/-- What is sent of a request to a URL: the request, if it may go there. -/
inductive SentTo (security : Security) (url : Url) (request : Request) : List Outgoing → Prop
  | sent {out} : MayGo security url request.uri → AddressedTo url request out →
      SentTo security url request [out]
  | refused : ¬MayGo security url request.uri → SentTo security url request []

theorem scheme_behindUrl {source path : List Char} {uri : RequestUri}
    (hsource : Url.parse source = .ok u)
    (h : RequestUri.ofText (behindUrl u.text path) = .ok uri) :
    uri.scheme = [] ∨ uri.scheme = u.scheme := by
  obtain ⟨rest, hcut⟩ := RequestUri.scheme_of_ofText h
  obtain ⟨tail, htext⟩ : ∃ tail, u.text = (u.scheme ++ [':']) ++ tail := by
    unfold Url.text
    simp only [List.append_assoc, List.cons_append, List.nil_append]
    exact ⟨_, rfl⟩
  -- none of the slashes that are cut away stands before the colon
  have hcolon : withoutFinalSlashes (u.scheme ++ [':']) = u.scheme ++ [':'] :=
    withoutFinalSlashes_of_last (by simp)
  obtain ⟨behind, hbehind⟩ : ∃ behind, behindUrl u.text path = u.scheme ++ ':' :: behind := by
    rw [behindUrl_eq, htext, withoutFinalSlashes_append, hcolon]
    split
    · exact ⟨slashBetween path ++ path, List.append_assoc _ _ _⟩
    · exact ⟨withoutFinalSlashes tail ++ (slashBetween path ++ path), by
        simp only [List.append_assoc, List.cons_append, List.nil_append]⟩
  rw [hbehind] at hcut
  exact RequestUri.cutScheme_written (Url.isScheme_of_parse hsource) hcut

/-- There is a URI at an endpoint exactly where requests may go. -/
theorem uriAt_eq_ok {security : Security} {endpoint : Endpoint} {source path : List Char}
    {uri : RequestUri} (hsource : Url.parse source = .ok endpoint.url) :
    uriAt security endpoint path = .ok uri ↔
      security.Allows endpoint.url.scheme ∧
        RequestUri.ofText (behindUrl endpoint.url.text path) = .ok uri := by
  unfold uriAt
  dsimp only
  rw [bind_eq_ok]
  constructor
  · rintro ⟨read, hread, hadmit⟩
    obtain ⟨rfl, hallowed⟩ := Security.admit_eq_ok.mp hadmit
    have hread := mapError_eq_ok.mp hread
    refine ⟨?_, hread⟩
    rcases scheme_behindUrl hsource hread with hnone | hscheme
    · rw [hnone] at hallowed
      rcases hallowed.web with hweb | hweb <;> cases hweb
    · rwa [← hscheme]
  · rintro ⟨hallowed, hread⟩
    obtain ⟨authority, hweb⟩ := Url.isWeb_of_parse hsource hallowed.web
    refine ⟨uri, mapError_eq_ok.mpr hread, Security.admit_eq_ok.mpr ⟨rfl, ?_⟩⟩
    rwa [ofText_behindUrl hweb hread]

theorem prepare_chosen {c : HttpClient} {endpoint : Endpoint}
    (h : c.balancer.select.1 = .ok endpoint) (request : Request) :
    (c.prepare request).1 = c.outgoing request endpoint := by
  unfold HttpClient.prepare
  dsimp only
  rw [h]
  rfl

/-- What an open client sends of a request goes to the endpoint that it chooses. -/
theorem sentTo_handed {c : HttpClient} (request : Request) {endpoint : Endpoint}
    {source : List Char} (hopen : c.closed = false) (hchoice : c.balancer.select.1 = .ok endpoint)
    (hsource : Url.parse source = .ok endpoint.url) :
    SentTo c.settings.security endpoint.url request (c.handed request) := by
  unfold HttpClient.handed
  rw [hopen, if_neg nofun, prepare_chosen hchoice]
  unfold HttpClient.outgoing
  cases huri : uriAt c.settings.security endpoint request.uri with
  | error e =>
    refine .refused fun hmay => ?_
    obtain ⟨uri, hread⟩ := hmay.legal
    rw [(uriAt_eq_ok hsource).mpr ⟨hmay.allowed, hread⟩] at huri
    cases huri
  | ok uri =>
    obtain ⟨hallowed, hread⟩ := (uriAt_eq_ok hsource).mp huri
    obtain ⟨authority, hweb⟩ := Url.isWeb_of_parse hsource hallowed.web
    cases ofText_behindUrl hweb hread
    exact .sent ⟨hallowed, _, hread⟩ ⟨rfl, rfl, hweb.authority_eq, rfl⟩

theorem withoutFragment_append {a b : List Char} (ha : '#' ∉ a) :
    RequestUri.withoutFragment (a ++ b) = a ++ RequestUri.withoutFragment b := by
  apply List.takeWhile_append_of_pos
  intro c hc
  simp only [decide_eq_true_eq]
  rintro rfl
  exact ha hc

end

/-! ## The law -/

/-- A path and a query that start with a slash: an empty path is read as one. -/
def rooted (resource : List Char) : List Char :=
  if resource.head? = some '/' then resource else '/' :: resource

/-- A request that is made for an endpoint of the web goes to it: with its scheme, without TLS
only if that is allowed, with its authority whatever the path of the request looks like, and
with that path behind the path of the endpoint. -/
theorem a_request_stays_at_its_endpoint (client : HttpClient) (security : Security)
    (insecureBuiltIn : Bool) (request : Request) (endpoint : Endpoint) (source : List Char)
    (out : Outgoing) (hsecurity : client.settings.security = security.inForce insecureBuiltIn)
    (hchoice : client.balancer.select.1 = .ok endpoint)
    (hsource : Url.parse source = .ok endpoint.url) (hweb : Url.IsWebScheme endpoint.url.scheme)
    (hout : (client.prepare request).1 = .ok out) :
    out.uri.scheme = endpoint.url.scheme ∧
    endpoint.url.authority = some out.uri.authority ∧
    (security ≠ .allowInsecureHttp → out.uri.scheme = "https".toList) ∧
    (endpoint.url.query = none → endpoint.url.fragment = none →
      out.uri.asked = rooted (withoutFinalSlashes endpoint.url.path ++
        (slashBetween request.uri ++ RequestUri.withoutFragment request.uri))) := by
  obtain ⟨authority, hparts⟩ := Url.isWeb_of_parse hsource hweb
  rw [prepare_chosen hchoice] at hout
  obtain ⟨uri, huri, hmade⟩ := bind_eq_ok.mp hout
  cases hmade
  obtain ⟨hallowed, hread⟩ := (uriAt_eq_ok hsource).mp huri
  cases ofText_behindUrl hparts hread
  refine ⟨rfl, hparts.authority_eq, ?_, ?_⟩
  · intro hne
    refine hallowed.resolve_right fun hplain => ?_
    rw [hsecurity] at hplain
    cases security with
    | tlsOnly => simp [Security.inForce] at hplain
    | allowInsecureHttp => exact absurd rfl hne
  · intro hquery hfragment
    have htail : endpoint.url.tail = endpoint.url.path := by
      simp [Url.tail, hquery, hfragment]
    have hpath : '#' ∉ withoutFinalSlashes endpoint.url.path := fun hmem =>
      hparts.path_whole ((withoutFinalSlashes_le _).subset hmem)
    have hslash : '#' ∉ slashBetween request.uri := by
      unfold slashBetween
      split <;> simp
    rw [htail, withoutFragment_append hpath, withoutFragment_append hslash]
    rfl

/-- A path that looks like the rest of an authority is a path all the same. -/
theorem a_path_with_an_at_sign_stays_a_path :
    let url : Url := { scheme := "http".toList, authority := some "shop.example:8080".toList,
                       path := "/api//".toList, query := none, fragment := none }
    let client : HttpClient :=
      { service := ⟨["shop"]⟩, balancer := .fixed (.ofUrl url), codec := {}, userAgent := .json
        settings := { security := .allowInsecureHttp } }
    let request : Request := { method := .get, uri := "@evil.example:81?a=b#c".toList }
    ∃ out, (client.prepare request).1 = .ok out ∧
      out.uri.authority = "shop.example:8080".toList ∧
      out.uri.asked = "/api/@evil.example:81?a=b".toList := by
  intro url client request
  have hsource : Url.parse "HTTP://shop.example:8080/api//".toList = .ok url :=
    toOption_eq_some.mp (by decide +kernel)
  have hprepared : (client.prepare request).1.toOption.isSome = true := by decide
  obtain ⟨out, hout⟩ := Option.isSome_iff_exists.mp hprepared
  have hout := toOption_eq_some.mp hout
  obtain ⟨-, hauthority, -, hasked⟩ := a_request_stays_at_its_endpoint client .allowInsecureHttp
    true request (.ofUrl url) _ out rfl rfl hsource (.inl rfl) hout
  exact ⟨out, hout, Option.some.inj hauthority.symm, hasked rfl rfl⟩

end HttpCalls
