-- Settings with texts that are no URLs. The first of them is reported with its owner: that of the
-- local server comes before all others, then come the services in the order of their names, and
-- each of them has its texts read in the order of its list.
import HttpCalls.Proofs.Endpoint.NamedServices

namespace HttpCalls

/-! ## Texts that are URLs -/

/-- Whether a text can be read as a URL. -/
def isUrl (text : String) : Bool := (Url.parse text.toList).isOk

theorem isUrl_iff {text : String} : isUrl text ↔ ∃ url, Url.parse text.toList = .ok url := by
  unfold isUrl
  cases Url.parse text.toList with
  | error reason => simp [Except.isOk, Except.toBool]
  | ok url => simp [Except.isOk, Except.toBool]

theorem not_isUrl {text : String} {reason : Url.Fault}
    (h : Url.parse text.toList = .error reason) : ¬isUrl text := by
  rw [isUrl_iff]
  rintro ⟨url, hurl⟩
  rw [h] at hurl
  cases hurl

/-! ## The first fault of settings -/

/-- The texts under a name, in order. -/
def textsUnder (name : String) (entries : List (String × List String)) : List String :=
  (entries.filter (·.1 = name)).flatMap (·.2)

namespace Settings

/-- The fault is that of the first text that is no URL: that of the local server, or the first one
under the smallest name that has any. -/
inductive FirstFault (s : Settings) (f : UrlFault) : Prop
  | localServer (owner : f.owner = "local_server_url") (url : s.localServer = some f.url)
    (reason : Url.parse f.url.toList = .error f.reason)
  | service (localServer : ∀ text ∈ s.localServer, isUrl text)
    (before : ∀ e ∈ s.services, e.1 < f.owner → ∀ text ∈ e.2, isUrl text)
    (first : (textsUnder f.owner s.services).find? (!isUrl ·) = some f.url)
    (reason : Url.parse f.url.toList = .error f.reason)

end Settings

section
variable {entries : List (String × List String)} {name text : String}

theorem mem_textsUnder (h : text ∈ textsUnder name entries) :
    ∃ e ∈ entries, e.1 = name ∧ text ∈ e.2 := by
  obtain ⟨e, he, htext⟩ := List.mem_flatMap.mp h
  obtain ⟨hmem, hname⟩ := List.mem_filter.mp he
  exact ⟨e, hmem, by simpa using hname, htext⟩

end

/-! ## Reading -/

namespace Resolver

section
variable {entries : List (String × List String)} {owner : String} {urls : List String}
  {f : UrlFault}

end

end Resolver

namespace Settings

section
variable {s : Settings} {f f' : UrlFault}

theorem bad_of_first {name text : String}
    (h : (textsUnder name s.services).find? (!isUrl ·) = some text) :
    ¬isUrl text ∧ ∃ e ∈ s.services, e.1 = name ∧ text ∈ e.2 :=
  ⟨by simpa using List.find?_some h, mem_textsUnder (List.mem_of_find?_eq_some h)⟩

theorem le_of_first {owner name text : String}
    (hbefore : ∀ e ∈ s.services, e.1 < owner → ∀ text ∈ e.2, isUrl text)
    (hfirst : (textsUnder name s.services).find? (!isUrl ·) = some text) : owner ≤ name := by
  rw [← String.not_lt]
  intro hlt
  obtain ⟨hbad, e, he, rfl, htext⟩ := bad_of_first hfirst
  exact hbad (hbefore e he hlt text htext)

theorem FirstFault.reason (h : s.FirstFault f) : Url.parse f.url.toList = .error f.reason := by
  cases h with
  | localServer _ _ hreason => exact hreason
  | service _ _ _ hreason => exact hreason

theorem FirstFault.place (h : s.FirstFault f) (h' : s.FirstFault f') :
    f.owner = f'.owner ∧ f.url = f'.url := by
  cases h with
  | localServer howner hurl hreason =>
    cases h' with
    | localServer howner' hurl' _ =>
      rw [hurl, Option.some.injEq] at hurl'
      exact ⟨howner.trans howner'.symm, hurl'⟩
    | service hlocal _ _ _ => exact absurd (hlocal _ hurl) (not_isUrl hreason)
  | service hlocal hbefore hfirst hreason =>
    cases h' with
    | localServer _ hurl' hreason' => exact absurd (hlocal _ hurl') (not_isUrl hreason')
    | service _ hbefore' hfirst' _ =>
      have howner : f.owner = f'.owner :=
        String.le_antisymm (le_of_first hbefore hfirst') (le_of_first hbefore' hfirst)
      rw [howner, hfirst', Option.some.injEq] at hfirst
      exact ⟨howner, hfirst.symm⟩

theorem FirstFault.unique (h : s.FirstFault f) (h' : s.FirstFault f') : f = f' := by
  obtain ⟨howner, hurl⟩ := h.place h'
  have hreason := h.reason
  rw [hurl, h'.reason, Except.error.injEq] at hreason
  obtain ⟨owner, url, reason⟩ := f
  cases howner
  cases hurl
  cases hreason
  rfl

end

end Settings

end HttpCalls
