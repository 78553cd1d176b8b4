-- URLs of the web in their written form. Whatever text such a URL was read from, its
-- authority is there and no character in it would end it, and its path starts with a
-- slash and holds no mark of a query or a fragment.
import HttpCalls.Http.RequestUri
import HttpCalls.Proofs.Results
import HttpCalls.Proofs.Text.SmallLetters
import HttpCalls.Url.Basic

namespace HttpCalls

open Text

/-! ## Characters that end nothing -/

/-- No character of the text ends an authority. -/
def Unbroken (text : List Char) : Prop := ∀ c ∈ text, RequestUri.endsAuthority c = false

theorem Unbroken.append {a b : List Char} (ha : Unbroken a) (hb : Unbroken b) : Unbroken (a ++ b) :=
  fun c hc => (List.mem_append.mp hc).elim (ha c) (hb c)

theorem unbroken_nil : Unbroken [] := fun _ hc => nomatch hc

theorem Unbroken.ite {p : Prop} [Decidable p] {a b : List Char} (ha : Unbroken a)
    (hb : Unbroken b) : Unbroken (if p then a else b) := by
  split
  · exact ha
  · exact hb

theorem Unbroken.cons {c : Char} {text : List Char} (hc : RequestUri.endsAuthority c = false)
    (h : Unbroken text) : Unbroken (c :: text) :=
  List.forall_mem_cons.mpr ⟨hc, h⟩

theorem endsAuthority_upper (n : Nat) (h : n < 16) :
    RequestUri.endsAuthority (Hex.upper n) = false := by
  revert n
  decide

theorem mem_escaped {c d : Char} (h : d ∈ Percent.escaped c) :
    RequestUri.endsAuthority d = false := by
  obtain ⟨b, -, hd⟩ := List.mem_flatMap.mp h
  have hb : b.toNat < 256 := b.toNat_lt
  simp only [Percent.triplet, List.mem_cons, List.not_mem_nil, or_false] at hd
  rcases hd with rfl | rfl | rfl
  · rfl
  · exact endsAuthority_upper _ (by omega)
  · exact endsAuthority_upper _ (by omega)

/-- Encoding leaves nothing that ends an authority but what it keeps. -/
theorem mem_encode {keep : Char → Bool} {text : List Char} {d : Char}
    (h : d ∈ Percent.encode keep text) : keep d = true ∨ RequestUri.endsAuthority d = false := by
  obtain ⟨c, -, hd⟩ := List.mem_flatMap.mp h
  split at hd
  · rename_i hc
    rw [List.mem_singleton] at hd
    exact .inl (hd ▸ hc)
  · exact .inr (mem_escaped hd)

theorem endsAuthority_digitChar (n : Nat) : RequestUri.endsAuthority (Nat.digitChar n) = false := by
  grind [Nat.digitChar, RequestUri.endsAuthority]

theorem unbroken_toDigitsCore (base fuel n : Nat) {ds : List Char} (h : Unbroken ds) :
    Unbroken (Nat.toDigitsCore base fuel n ds) := by
  induction fuel generalizing n ds with
  | zero => exact h
  | succ fuel ih =>
    have hds : Unbroken (Nat.digitChar (n % base) :: ds) := h.cons (endsAuthority_digitChar _)
    rw [Nat.toDigitsCore]
    split
    · exact hds
    · exact ih _ hds

theorem unbroken_toDigits (base n : Nat) : Unbroken (Nat.toDigits base n) :=
  unbroken_toDigitsCore _ _ _ unbroken_nil

theorem unbroken_joined {sep : List Char} {texts : List (List Char)} (hsep : Unbroken sep)
    (h : ∀ text ∈ texts, Unbroken text) : Unbroken (joined sep texts) := by
  fun_induction joined sep texts with
  | case1 => exact unbroken_nil
  | case2 text => exact h text List.mem_cons_self
  | case3 text more _ ih =>
    exact ((h text List.mem_cons_self).append hsep).append
      (ih fun t ht => h t (List.mem_cons_of_mem _ ht))

namespace Url

/-! ## Authorities -/

theorem unbroken_encode_user (text : List Char) : Unbroken (Percent.encode keepsInUser text) := by
  intro c hc
  rcases mem_encode hc with hkeep | hends
  · simp only [keepsInUser, keepsInPath, Bool.and_eq_true, decide_eq_true_eq, Bool.not_eq_true',
      ne_eq] at hkeep
    obtain ⟨⟨⟨⟨⟨-, hhash⟩, hmark⟩, -⟩, -⟩, hslash⟩ := hkeep
    have hslash : c ≠ '/' := by
      rintro rfl
      simp at hslash
    simp [RequestUri.endsAuthority, hhash, hmark, hslash]
  · exact hends

theorem unbroken_userText (raw : List Char) : Unbroken (userText raw) := by
  have hpassword : ∀ password : List Char,
      Unbroken (if password.isEmpty then [] else ':' :: Percent.encode keepsInUser password) :=
    fun password => unbroken_nil.ite ((unbroken_encode_user password).cons rfl)
  have htext := fun name password => (unbroken_encode_user name).append (hpassword password)
  exact unbroken_nil.ite ((htext _ _).append (unbroken_nil.cons (c := '@') rfl))

theorem unbroken_ipv4Text (a : Nat) : Unbroken (ipv4Text a) := by
  apply unbroken_joined (unbroken_nil.cons rfl)
  intro text htext
  obtain ⟨n, -, rfl⟩ := List.mem_map.mp htext
  exact unbroken_toDigits 10 n

theorem unbroken_ipv6Text (gs : List Nat) : Unbroken (ipv6Text gs) := by
  have htext : ∀ l : List Nat, Unbroken (joined [':'] (l.map (Nat.toDigits 16))) := by
    intro l
    apply unbroken_joined (unbroken_nil.cons rfl)
    intro text htext
    obtain ⟨n, -, rfl⟩ := List.mem_map.mp htext
    exact unbroken_toDigits 16 n
  unfold ipv6Text
  dsimp only
  split
  · exact htext gs
  · exact ((htext _).append ((unbroken_nil.cons rfl).cons rfl)).append (htext _)

theorem unbroken_asciiDomain {text name : List Char} (h : asciiDomain? text = some name) :
    Unbroken name := by
  obtain ⟨labels, -, h⟩ := Option.bind_eq_some_iff.mp h
  dsimp only at h
  split at h
  · cases h
  · rename_i hany
    cases h
    intro c hc
    have hc := (List.any_eq_false.mp (Bool.not_eq_true _ ▸ hany)) c hc
    simp only [isForbidden, Bool.or_eq_true, decide_eq_true_eq, not_or] at hc
    have hne : ∀ d ∈ "#/:<>?@[\\]^|%".toList, c ≠ d := by
      rintro d hd rfl
      exact hc.2 (List.contains_iff_mem.mpr hd)
    simp [RequestUri.endsAuthority, hne '/' (by decide), hne '?' (by decide), hne '#' (by decide)]

theorem specialHost_spec {raw host : List Char} (h : specialHost raw = .ok host) :
    host ≠ [] ∧ Unbroken host := by
  unfold specialHost at h
  split at h
  · split at h
    · split at h
      · cases h
        exact ⟨by simp, ((unbroken_ipv6Text _).append (unbroken_nil.cons rfl)).cons rfl⟩
      · cases h
    · cases h
  · split at h
    · cases h
    · rename_i name hname
      obtain ⟨text, -, hname⟩ := Option.bind_eq_some_iff.mp hname
      split at h
      · cases h
      · rename_i hne
        split at h
        · split at h
          · cases h
            exact ⟨by simp [ipv4Text, joined], unbroken_ipv4Text _⟩
          · cases h
        · cases h
          exact ⟨by simpa using hne, unbroken_asciiDomain hname⟩

theorem unbroken_portText {scheme raw port : List Char} (h : portText scheme raw = .ok port) :
    Unbroken port := by
  unfold portText at h
  dsimp only at h
  split at h
  · repeat' split at h
    all_goals cases h
    · exact unbroken_nil
    · exact unbroken_nil
    · exact (unbroken_toDigits 10 _).cons rfl
  · cases h
    exact unbroken_nil

theorem authorityText_spec {scheme raw authority : List Char} {more : Bool}
    (h : authorityText scheme .special raw more = .ok authority) :
    authority ≠ [] ∧ Unbroken authority := by
  unfold authorityText at h
  dsimp only at h
  obtain ⟨-, h⟩ := guard_eq_ok.mp h
  obtain ⟨-, h⟩ := guard_eq_ok.mp h
  rw [if_pos rfl] at h
  obtain ⟨host, hhost, h⟩ := bind_eq_ok.mp h
  obtain ⟨port, hport, h⟩ := bind_eq_ok.mp h
  obtain ⟨hne, hunbroken⟩ := specialHost_spec hhost
  cases h
  exact ⟨by simp [hne], ((unbroken_userText _).append hunbroken).append (unbroken_portText hport)⟩

/-! ## Paths -/

theorem hash_notMem_encode (text : List Char) : '#' ∉ Percent.encode keepsInPath text := by
  intro h
  rcases mem_encode h with hkeep | hends
  · exact absurd hkeep (by decide)
  · exact absurd hends (by decide)

theorem mem_of_mem_shorten {segments : List (List Char)} {s : List Char}
    (h : s ∈ shorten segments) : s ∈ segments := by
  unfold shorten at h
  split at h
  · exact h
  · exact List.dropLast_subset _ h

/-- Every segment of a written path was read or is empty, up to the spelling of a drive. -/
theorem addSegments_spec {P : List Char → Prop} (kind : Kind) (segments done : List (List Char))
    (hempty : P []) (hdrive : ∀ segment, P segment → P (segment.take 1 ++ [':']))
    (hdone : ∀ s ∈ done, P s) (hsegments : ∀ s ∈ segments, P s) :
    ∀ s ∈ addSegments kind done segments, P s := by
  have hadded : ∀ {l : List (List Char)} {t : List Char}, (∀ s ∈ l, P s) → P t →
      ∀ s ∈ l ++ [t], P s := by
    intro l t hl ht s hs
    rcases List.mem_append.mp hs with h | h
    · exact hl s h
    · exact List.mem_singleton.mp h ▸ ht
  fun_induction addSegments kind done segments with
  | case1 done => exact hdone
  | case2 done segment more dots last hup up ih =>
    have hrest := fun s hs => hdone s (mem_of_mem_shorten hs)
    refine ih ?_ fun s hs => hsegments s (List.mem_cons_of_mem _ hs)
    split
    · exact hadded hrest hempty
    · exact hrest
  | case3 done segment more dots last hup hstay ih =>
    refine ih ?_ fun s hs => hsegments s (List.mem_cons_of_mem _ hs)
    split
    · exact hadded hdone hempty
    · exact hdone
  | case4 done segment more dots hup hstay hfile ih =>
    refine ih ?_ fun s hs => hsegments s (List.mem_cons_of_mem _ hs)
    intro s hs
    exact List.mem_singleton.mp hs ▸ hdrive _ (hsegments _ List.mem_cons_self)
  | case5 done segment more dots hup hstay hfile ih =>
    exact ih (hadded hdone (hsegments _ List.mem_cons_self))
      fun s hs => hsegments s (List.mem_cons_of_mem _ hs)

/-- What stands at the head of a text, if anything does. -/
def HeadIn (heads text : List Char) : Prop := ∀ c, text.head? = some c → c ∈ heads

theorem pathText_spec (kind : Kind) (raw : List Char) :
    HeadIn ['/'] (pathText kind raw) ∧ '#' ∉ pathText kind raw := by
  have hsegments : ∀ s ∈ addSegments kind [] ((pieces '/' (raw.map fun c =>
      if kind.isSlash c then '/' else c)).map (Percent.encode keepsInPath)), '#' ∉ s := by
    refine addSegments_spec kind _ [] List.not_mem_nil ?_ (fun s hs => nomatch hs) ?_
    · intro segment h hmem
      rcases List.mem_append.mp hmem with h' | h'
      · exact h (List.mem_of_mem_take h')
      · simp at h'
    · intro s hs
      obtain ⟨piece, -, rfl⟩ := List.mem_map.mp hs
      exact hash_notMem_encode piece
  constructor
  · intro c hc
    unfold pathText at hc
    dsimp only at hc
    rcases hlist : addSegments kind [] _ with _ | ⟨s, more⟩
    · rw [hlist] at hc
      cases hc
    · rw [hlist] at hc
      cases hc
      exact List.mem_cons_self
  · intro h
    obtain ⟨s, hs, hmem⟩ := List.mem_flatMap.mp h
    rcases List.mem_cons.mp hmem with h' | h'
    · cases h'
    · exact hsegments s hs h'

/-! ## Whole URLs -/

/-- Whether a scheme is one of the web. -/
def IsWebScheme (scheme : List Char) : Prop := scheme = "http".toList ∨ scheme = "https".toList

/-- The written form of a URL of the web: its authority is there and whole, and its path is
empty or starts with a slash. -/
structure IsWeb (u : Url) (authority : List Char) : Prop where
  scheme : IsWebScheme u.scheme
  authority_eq : u.authority = some authority
  authority_ne_nil : authority ≠ []
  unbroken : Unbroken authority
  path_head : HeadIn ['/'] u.path
  path_whole : '#' ∉ u.path

theorem readSpecial_spec {scheme rest : List Char} {u : Url} (h : readSpecial scheme rest = .ok u)
    (hs : IsWebScheme u.scheme) : ∃ authority, u.IsWeb authority := by
  obtain ⟨authority, hauthority, h⟩ := bind_eq_ok.mp h
  cases h
  obtain ⟨hne, hunbroken⟩ := authorityText_spec hauthority
  obtain ⟨hhead, hwhole⟩ := pathText_spec .special (List.drop 1 (splitTail .special
    ((rest.dropWhile Kind.special.isSlash).dropWhile (!Kind.special.endsAuthority ·))).1)
  exact ⟨authority, hs, rfl, hne, hunbroken, hhead, hwhole⟩

theorem readSpecial_scheme {scheme rest : List Char} {u : Url}
    (h : readSpecial scheme rest = .ok u) : u.scheme = scheme := by
  obtain ⟨authority, -, h⟩ := bind_eq_ok.mp h
  cases h
  rfl

theorem readFile_scheme {scheme rest : List Char} {u : Url} (h : readFile scheme rest = .ok u) :
    u.scheme = scheme := by
  unfold readFile at h
  dsimp only at h
  split at h
  · repeat' split at h
    · cases h
      rfl
    · cases h
      rfl
    · obtain ⟨host, -, h⟩ := bind_eq_ok.mp h
      cases h
      rfl
    · cases h
      rfl
    · cases h
      rfl
  · cases h
    rfl
  · cases h
    rfl

theorem readOther_scheme {scheme rest : List Char} {u : Url} (h : readOther scheme rest = .ok u) :
    u.scheme = scheme := by
  unfold readOther at h
  dsimp only at h
  split at h
  · obtain ⟨authority, -, h⟩ := bind_eq_ok.mp h
    cases h
    rfl
  · cases h
    rfl

/-- A scheme in its written form: it holds no colon and no capital. -/
structure IsScheme (scheme : List Char) : Prop where
  whole : ':' ∉ scheme
  lower : scheme.map Char.toLower = scheme

theorem isScheme_of_scheme? {text scheme rest : List Char}
    (h : scheme? text = some (scheme, rest)) : IsScheme scheme := by
  unfold scheme? at h
  split at h
  · rename_i c more after hcut
    split at h
    · cases h
      refine ⟨fun hmem => ?_, ?_⟩
      · -- a colon would be one of the text before the first colon
        obtain ⟨d, hd, hcolon⟩ := List.mem_map.mp hmem
        cases toLower_eq hcolon rfl
        exact (cut?_eq_some hcut).2 hd
      · rw [List.map_map]
        exact List.map_congr_left fun d _ => toLower_toLower d
    · cases h
  · cases h

theorem isScheme_of_parse {text : List Char} {u : Url} (h : parse text = .ok u) :
    IsScheme u.scheme := by
  unfold parse at h
  dsimp only at h
  split at h
  · cases h
  · rename_i scheme rest hscheme
    have hwritten := isScheme_of_scheme? hscheme
    split at h
    · rwa [readSpecial_scheme h]
    · rwa [readFile_scheme h]
    · rwa [readOther_scheme h]

theorem kindOf_web {scheme : List Char} (h : IsWebScheme scheme) : kindOf scheme = .special := by
  rcases h with rfl | rfl <;> decide

/-- Every URL of the web that can be read is written so. -/
theorem isWeb_of_parse {text : List Char} {u : Url} (h : parse text = .ok u)
    (hs : IsWebScheme u.scheme) : ∃ authority, u.IsWeb authority := by
  unfold parse at h
  dsimp only at h
  split at h
  · cases h
  · rename_i scheme rest _
    split at h
    · exact readSpecial_spec h hs
    · rename_i hkind
      rw [readFile_scheme h] at hs
      rw [kindOf_web hs] at hkind
      cases hkind
    · rename_i hkind
      rw [readOther_scheme h] at hs
      rw [kindOf_web hs] at hkind
      cases hkind

end Url

end HttpCalls
