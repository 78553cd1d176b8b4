-- Services that settings name. The lists are read in the order of their names, and still each
-- name leads to its own list, with the endpoints in the order of their URLs.
import HttpCalls.Proofs.Results
import HttpCalls.Settings.Basic

namespace HttpCalls

/-! ## Lists under names -/

theorem Keyed.get?_eq_find? {κ α : Type} [DecidableEq κ] (key : κ) (l : Keyed κ α) :
    Keyed.get? key l = (List.find? (·.1 = key) l).map (·.2) := by
  induction l with
  | nil => rfl
  | cons e rest ih =>
    obtain ⟨k, v⟩ := e
    by_cases hk : k = key
    · simp [Keyed.get?, hk]
    · simp [Keyed.get?, hk, ih]

namespace Resolver

theorem trans_byName {α : Type} (a b c : String × α) (hab : decide (a.1 ≤ b.1))
    (hbc : decide (b.1 ≤ c.1)) : decide (a.1 ≤ c.1) := by
  rw [decide_eq_true_eq] at hab hbc ⊢
  exact String.le_trans hab hbc

theorem total_byName {α : Type} (a b : String × α) :
    decide (a.1 ≤ b.1) || decide (b.1 ≤ a.1) := by
  simpa using String.le_total a.1 b.1

/-- Entries of one name keep their order when all are put in the order of the names. -/
theorem filter_byName {α : Type} (name : String) (entries : List (String × α)) :
    (byName entries).filter (·.1 = name) = entries.filter (·.1 = name) := by
  have hperm := (List.mergeSort_perm entries fun a b => a.1 ≤ b.1).filter (·.1 = name)
  have hsub : (entries.filter (·.1 = name)).Sublist (byName entries) := by
    apply List.sublist_mergeSort trans_byName total_byName
    · rw [List.pairwise_iff_forall_sublist]
      intro a b hab
      have ha := (List.mem_filter.mp (hab.subset List.mem_cons_self)).2
      have hb := (List.mem_filter.mp (hab.subset (List.mem_cons_of_mem _ List.mem_cons_self))).2
      simp only [decide_eq_true_eq] at ha hb ⊢
      have hsame : a.1 = b.1 := ha.trans hb.symm
      exact hsame ▸ String.le_refl a.1
    · exact List.filter_sublist
  have hkept := hsub.filter (·.1 = name)
  rw [List.filter_filter] at hkept
  simp only [Bool.and_self] at hkept
  exact (hkept.eq_of_length hperm.length_eq.symm).symm

theorem get?_byName {α : Type} (name : String) (entries : List (String × α)) :
    Keyed.get? name (byName entries) = Keyed.get? name entries := by
  rw [Keyed.get?_eq_find?, Keyed.get?_eq_find?, ← List.head?_filter, ← List.head?_filter,
    filter_byName]

theorem get?_readLists {name : String} {urls : List String}
    {entries : List (String × List String)} {lists : Keyed String (List Endpoint)}
    (h : readLists entries = .ok lists) (hurls : Keyed.get? name entries = some urls) :
    ∃ parsed, urls.mapM (readUrl name) = .ok parsed ∧
      Keyed.get? name lists = some (Endpoint.numbered name parsed) := by
  induction entries generalizing lists with
  | nil => cases hurls
  | cons e more ih =>
    obtain ⟨k, texts⟩ := e
    obtain ⟨parsed, hparsed, h⟩ := bind_eq_ok.mp h
    obtain ⟨rest, hrest, h⟩ := bind_eq_ok.mp h
    cases h
    rw [Keyed.get?] at hurls
    by_cases hk : k = name
    · subst hk
      rw [if_pos rfl] at hurls
      cases hurls
      exact ⟨parsed, hparsed, if_pos rfl⟩
    · rw [if_neg hk] at hurls
      obtain ⟨parsed', hparsed', hget⟩ := ih hrest hurls
      exact ⟨parsed', hparsed', (if_neg hk).trans hget⟩

end Resolver

/-! ## Endpoints by their numbers -/

theorem getElem?_numberedFrom (name : String) (start : Nat) (urls : List Url) (i : Nat) :
    (Endpoint.numberedFrom name start urls)[i]? =
      urls[i]?.map fun url => { id := name ++ "-" ++ toString (start + i), url } := by
  induction urls generalizing start i with
  | nil => simp [Endpoint.numberedFrom]
  | cons url more ih =>
    cases i with
    | zero => simp [Endpoint.numberedFrom]
    | succ i => simp [Endpoint.numberedFrom, ih, Nat.add_assoc, Nat.add_comm 1 i]

/-- The endpoint for a URL of a list, by the number of the URL. -/
structure EndpointOf (name : String) (urls : List String) (i : Nat) (endpoint : Endpoint) : Prop where
  id : endpoint.id = name ++ "-" ++ toString i
  url : ∃ text, urls[i]? = some text ∧ Url.parse text.toList = .ok endpoint.url

theorem endpointOf_numbered {name : String} {urls : List String} {parsed : List Url}
    (h : urls.mapM (Resolver.readUrl name) = .ok parsed) :
    (Endpoint.numbered name parsed).length = urls.length ∧
      ∀ i endpoint, (Endpoint.numbered name parsed)[i]? = some endpoint →
        EndpointOf name urls i endpoint := by
  obtain ⟨hlength, heach⟩ := mapM_eq_ok h
  constructor
  · have hurls := congrArg List.length (Endpoint.numbered_url name parsed)
    rw [List.length_map] at hurls
    rw [hurls, hlength]
  · intro i endpoint hendpoint
    unfold Endpoint.numbered at hendpoint
    rw [getElem?_numberedFrom] at hendpoint
    obtain ⟨url, hurl, rfl⟩ := Option.map_eq_some_iff.mp hendpoint
    obtain ⟨text, htext, hread⟩ := heach i url hurl
    exact ⟨by rw [Nat.zero_add], text, htext, mapError_eq_ok.mp hread⟩

/-! ## Resolving -/

/-- The first segment of a service is the name of a list, neither a URL nor a path. -/
structure ServiceId.Names (service : ServiceId) (name : String) : Prop where
  primary : service.primary? = some name
  plain : ∀ beginning ∈ ["/", "http://", "https://"], ¬beginning.toList <+: name.toList

theorem Resolver.resolve_of_names {service : ServiceId} {name : String} (r : Resolver)
    (h : service.Names name) :
    r.resolve service =
      (Keyed.get? name r.lists).map fun endpoints => .rotating { service := name } endpoints := by
  have hplain (beginning : String) (hmem : beginning ∈ ["/", "http://", "https://"]) :
      Text.startsWith beginning.toList name.toList = false := by
    rw [Text.startsWith, ← Bool.not_eq_true, List.isPrefixOf_iff_prefix]
    exact h.plain beginning hmem
  have hpath : Text.startsWith ['/'] name.toList = false := hplain "/" (by simp)
  have hurl : Resolver.urlBeginnings.any (Text.startsWith · name.toList) = false := by
    unfold Resolver.urlBeginnings
    rw [List.any_cons, List.any_cons, hplain "http://" (by simp), hplain "https://" (by simp)]
    rfl
  unfold Resolver.resolve
  rw [h.primary]
  simp only [hurl, hpath]
  rfl

/-- A service that is named takes turns on the endpoints for the URLs of its name. -/
theorem resolve_named {settings : Settings} {resolver : Resolver} {service : ServiceId}
    {name : String} {urls : List String} (hresolver : settings.resolver = .ok resolver)
    (hurls : Keyed.get? name settings.services = some urls) (hservice : service.Names name) :
    ∃ endpoints, resolver.resolve service = some (.rotating { service := name } endpoints) ∧
      endpoints.length = urls.length ∧
      ∀ i endpoint, endpoints[i]? = some endpoint → EndpointOf name urls i endpoint := by
  obtain ⟨localServer, -, h⟩ := bind_eq_ok.mp hresolver
  obtain ⟨lists, hlists, h⟩ := bind_eq_ok.mp h
  cases h
  rw [← Resolver.get?_byName] at hurls
  obtain ⟨parsed, hparsed, hget⟩ := Resolver.get?_readLists hlists hurls
  refine ⟨Endpoint.numbered name parsed, ?_, endpointOf_numbered hparsed⟩
  rw [Resolver.resolve_of_names _ hservice, hget]
  rfl

end HttpCalls
