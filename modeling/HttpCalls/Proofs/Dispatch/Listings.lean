-- Listings of what names lead to. A type declares other types, and these declare others in turn,
-- in cycles or over and over. One order lists all that a type leads to and each of them once:
-- what the type declares comes first, then what each of these adds, before what the next one does.
import HttpCalls.Proofs.Template.Variables

namespace HttpCalls

/-! ## The order of a listing -/

section
variable (declared : String → List String)

/-- A type leads to what is declared on it, to what is declared on that, and so on. -/
def LeadsTo : String → String → Prop :=
  Relation.TransGen fun type name => name ∈ declared type

/-- What is declared on a type and is not listed yet, each name once. -/
def news (found : List String) (type : String) : List String :=
  distinct ((declared type).filter fun name => name ∉ found)

/-- Types are looked at one after the other, where `found` is listed already. What a type adds is
listed in one go. Then each name that it added is looked at in turn, with all that this leads to,
before the types behind it are. -/
inductive Listing : List String → List String → List String → Prop
  | done {found} : Listing found [] found
  | next {found type rest below listed} :
      Listing (found ++ news declared found type) (news declared found type) below →
      Listing below rest listed → Listing found (type :: rest) listed

end

section
variable {declared : String → List String} {found types listed : List String}

theorem mem_news {type name : String} :
    name ∈ news declared found type ↔ name ∈ declared type ∧ name ∉ found := by
  simp [news]

namespace Listing

theorem added (h : Listing declared found types listed) :
    ∃ added, listed = found ++ added ∧ ∀ name ∈ added, name ∉ found := by
  induction h with
  | done => exact ⟨[], by simp⟩
  | @next found type rest below listed _ _ ihbelow ihrest =>
    obtain ⟨first, rfl, hfirst⟩ := ihbelow
    obtain ⟨later, rfl, hlater⟩ := ihrest
    refine ⟨news declared found type ++ first ++ later, by simp, ?_⟩
    intro name hname hfound
    rcases List.mem_append.mp hname with hname | hname
    · rcases List.mem_append.mp hname with hname | hname
      · exact (mem_news.mp hname).2 hfound
      · exact hfirst name hname (List.mem_append_left _ hfound)
    · exact hlater name hname (List.mem_append_left _ (List.mem_append_left _ hfound))

theorem mem_of_found (h : Listing declared found types listed) {name : String}
    (hname : name ∈ found) : name ∈ listed := by
  obtain ⟨added, rfl, -⟩ := h.added
  exact List.mem_append_left _ hname

theorem nodup (h : Listing declared found types listed) (hfound : found.Nodup) :
    listed.Nodup := by
  induction h with
  | done => exact hfound
  | next _ _ ihbelow ihrest =>
    refine ihrest (ihbelow (List.nodup_append.mpr ⟨hfound, nodup_distinct _, ?_⟩))
    rintro name hname _ hnew rfl
    exact (mem_news.mp hnew).2 hname

theorem unique {other : List String} (h : Listing declared found types listed)
    (h' : Listing declared found types other) : other = listed := by
  induction h generalizing other with
  | done =>
    cases h'
    rfl
  | next _ _ ihbelow ihrest =>
    obtain _ | ⟨hbelow, hrest⟩ := h'
    cases ihbelow hbelow
    exact ihrest hrest

/-- Whatever was looked at, or was added, has all its interfaces in the list. -/
theorem covers (h : Listing declared found types listed) {type name : String}
    (htype : type ∈ types ∨ (type ∈ listed ∧ type ∉ found)) (hname : name ∈ declared type) :
    name ∈ listed := by
  induction h with
  | done =>
    rcases htype with htype | ⟨htype, hnot⟩
    · cases htype
    · exact absurd htype hnot
  | @next found first rest below listed hbelow hrest ihbelow ihrest =>
    rcases htype with htype | ⟨htype, hnot⟩
    · rcases List.mem_cons.mp htype with rfl | htype
      · refine hrest.mem_of_found (hbelow.mem_of_found ?_)
        by_cases hfound : name ∈ found
        · exact List.mem_append_left _ hfound
        · exact List.mem_append_right _ (mem_news.mpr ⟨hname, hfound⟩)
      · exact ihrest (.inl htype)
    · by_cases hin : type ∈ below
      · refine hrest.mem_of_found (ihbelow ?_)
        by_cases hnew : type ∈ news declared found first
        · exact .inl hnew
        · exact .inr ⟨hin, fun h => (List.mem_append.mp h).elim hnot hnew⟩
      · exact ihrest (.inr ⟨htype, hin⟩)

theorem led (h : Listing declared found types listed) {name : String} (hname : name ∈ listed) :
    name ∈ found ∨ ∃ type ∈ types, LeadsTo declared type name := by
  induction h with
  | done => exact .inl hname
  | @next found first rest below listed _ _ ihbelow ihrest =>
    rcases ihrest hname with hbelow | ⟨type, htype, hleads⟩
    · rcases ihbelow hbelow with hfound | ⟨type, htype, hleads⟩
      · rcases List.mem_append.mp hfound with hfound | hnew
        · exact .inl hfound
        · exact .inr ⟨first, List.mem_cons_self, .single (mem_news.mp hnew).1⟩
      · have hfirst : LeadsTo declared first type := .single (mem_news.mp htype).1
        exact .inr ⟨first, List.mem_cons_self, hfirst.trans hleads⟩
    · exact .inr ⟨type, List.mem_cons_of_mem _ htype, hleads⟩

/-- From a type on its own, the list has what the type leads to. -/
theorem mem_iff {type : String} {order : List String}
    (h : Listing declared [type] [type] (type :: order)) (name : String) :
    name ∈ order ↔ name ≠ type ∧ LeadsTo declared type name := by
  have hnot : type ∉ order := (List.nodup_cons.mp (h.nodup (by simp))).1
  constructor
  · intro hname
    have hne : name ≠ type := fun heq => hnot (heq ▸ hname)
    rcases h.led (List.mem_cons_of_mem _ hname) with hself | ⟨owner, howner, hleads⟩
    · exact absurd (List.mem_singleton.mp hself) hne
    · exact ⟨hne, List.mem_singleton.mp howner ▸ hleads⟩
  · rintro ⟨hne, hleads⟩
    have hlisted : name ∈ type :: order := by
      clear hne
      induction hleads with
      | single hname => exact h.covers (.inl List.mem_cons_self) hname
      | @tail owner name _ hname ih =>
        by_cases howner : owner = type
        · exact h.covers (.inl (by simp [howner])) hname
        · exact h.covers (.inr ⟨ih, by simpa using howner⟩) hname
    exact (List.mem_cons.mp hlisted).resolve_left hne

/-! ## Putting listings together -/

theorem of_append {first second : List String}
    (h : Listing declared found (first ++ second) listed) :
    ∃ below, Listing declared found first below ∧ Listing declared below second listed := by
  induction first generalizing found with
  | nil => exact ⟨found, .done, h⟩
  | cons type more ih =>
    obtain _ | ⟨hbelow, hrest⟩ := h
    obtain ⟨between, hmore, hsecond⟩ := ih hrest
    exact ⟨between, .next hbelow hmore, hsecond⟩

/-- A type whose interfaces are all listed adds nothing. -/
theorem without {type : String} (hdone : ∀ name ∈ declared type, name ∈ found)
    (h : Listing declared found types listed) :
    Listing declared found (types.filter (· ≠ type)) listed := by
  induction types generalizing found with
  | nil => exact h
  | cons first more ih =>
    obtain _ | ⟨hbelow, hrest⟩ := h
    by_cases hfirst : first = type
    · subst hfirst
      have hnone : news declared found first = [] :=
        List.eq_nil_iff_forall_not_mem.mpr fun name hname =>
          (mem_news.mp hname).2 (hdone name (mem_news.mp hname).1)
      rw [hnone, List.append_nil] at hbelow
      cases hbelow
      simpa using ih hdone hrest
    · have hmore := ih (fun name hname =>
        hbelow.mem_of_found (List.mem_append_left _ (hdone name hname))) hrest
      rw [List.filter_cons_of_pos (by simpa using hfirst)]
      exact .next hbelow hmore

/-- Looking at a type once more adds nothing. -/
theorem once (h : Listing declared found types listed) :
    Listing declared found (distinct types) listed := by
  induction types generalizing found with
  | nil => exact h
  | cons type more ih =>
    obtain _ | ⟨hbelow, hrest⟩ := h
    refine .next hbelow ((ih hrest).without fun name hname => hbelow.mem_of_found ?_)
    by_cases hfound : name ∈ found
    · exact List.mem_append_left _ hfound
    · exact List.mem_append_right _ (mem_news.mpr ⟨hname, hfound⟩)

end Listing

end

end HttpCalls
