-- The interfaces of a type. Whatever is declared on whatever type, in cycles or over and over,
-- looking them up ends and finds all that the type leads to, and not the type itself. A name is
-- found as often as one of the types on the way repeats it in its declarations, so it is found
-- once unless one and the same type declares it twice.
import HttpCalls.Dispatch.Fallback
import HttpCalls.Proofs.Dispatch.Listings

namespace HttpCalls

/-! ## Setting up -/

/-- What is done to set up fallbacks. -/
inductive FallbackStep
  | register (key : OperationKey) (fallback : Fallback)
  | declare (type : String) (interfaces : List String)

namespace FallbackStep

/-- What a step declares on a type. -/
def declares (type : String) : FallbackStep → List String
  | .declare owner interfaces => if owner = type then interfaces else []
  | .register _ _ => []

end FallbackStep

/-- The interfaces that steps declare on a type, in the order of the declarations. -/
def declaredBy (steps : List FallbackStep) (type : String) : List String :=
  steps.flatMap (·.declares type)

namespace Fallbacks

/-- Takes a step. -/
def perform (f : Fallbacks) : FallbackStep → Fallbacks
  | .register key fallback => f.register key fallback
  | .declare type interfaces => f.declare type interfaces

/-- The fallbacks that steps set up, one after the other. -/
def built (steps : List FallbackStep) : Fallbacks := steps.foldl perform {}

section
variable (f : Fallbacks) (step : FallbackStep) (steps : List FallbackStep)

theorem direct_perform (type : String) :
    (f.perform step).direct type = f.direct type ++ step.declares type := by
  cases step with
  | register key fallback => simp [perform, register, direct, FallbackStep.declares]
  | declare owner interfaces =>
    by_cases h : owner = type
    · subst h
      simp [perform, declare, direct, FallbackStep.declares, Keyed.get?_put]
    · simp [perform, declare, direct, FallbackStep.declares, Keyed.get?_put, h]

theorem direct_after (type : String) :
    (steps.foldl perform f).direct type = f.direct type ++ declaredBy steps type := by
  induction steps generalizing f with
  | nil => simp [declaredBy]
  | cons step more ih =>
    rw [List.foldl_cons, ih, direct_perform, List.append_assoc]
    rfl

theorem direct_built : (built steps).direct = declaredBy steps := by
  funext type
  exact (direct_after {} steps type).trans (List.nil_append _)

end

end Fallbacks

/-! ## What is found -/

namespace Fallbacks

section
variable (f : Fallbacks)

/-- Following declarations only adds what was not seen. -/
theorem follow_added (seen waiting : List String) :
    ∃ added, f.follow seen waiting = seen ++ added ∧ ∀ name ∈ added, name ∉ seen := by
  fun_induction follow f seen waiting with
  | case1 => exact ⟨[], by simp⟩
  | case2 seen type rest fresh hnone ih => exact ih
  | case3 seen type rest fresh hsome ih =>
    obtain ⟨added, heq, hadded⟩ := ih
    refine ⟨fresh ++ added, by rw [heq, List.append_assoc], ?_⟩
    intro name hname
    rcases List.mem_append.mp hname with hname | hname
    · simpa using (List.mem_filter.mp hname).2
    · exact fun hseen => hadded name hname (List.mem_append_left _ hseen)

theorem news_direct (seen : List String) (type : String) :
    news f.direct (distinct seen) type =
      distinct ((f.direct type).filter fun name => !seen.contains name) := by
  unfold news
  congr 1
  apply List.filter_congr
  simp

/-- The names that are found, each at its first place, are listed in the documented order. -/
theorem listing_follow (seen waiting : List String) :
    Listing f.direct (distinct seen) waiting (distinct (f.follow seen waiting)) := by
  fun_induction follow f seen waiting with
  | case1 => exact .done
  | case2 seen type rest fresh hnone ih =>
    have hnews : news f.direct (distinct seen) type = [] := by
      rw [news_direct]
      exact congrArg distinct hnone
    refine .next ?_ ih
    rw [hnews, List.append_nil]
    exact .done
  | case3 seen type rest fresh hsome ih =>
    have hnews : news f.direct (distinct seen) type = distinct fresh := news_direct f seen type
    have hapart : ∀ name ∈ distinct fresh, decide (name ∉ distinct seen) = true := by
      intro name hname
      simpa using (List.mem_filter.mp ((mem_distinct _ _).mp hname)).2
    rw [distinct_append, List.filter_eq_self.mpr hapart] at ih
    obtain ⟨below, hbelow, hrest⟩ := ih.of_append
    refine .next ?_ hrest
    rw [hnews]
    exact hbelow.once

theorem follow_self (type : String) : f.follow [type] [type] = type :: f.interfacesOf type := by
  obtain ⟨added, heq, -⟩ := f.follow_added [type] [type]
  rw [interfacesOf, heq]
  rfl

theorem notMem_interfacesOf (type : String) : type ∉ f.interfacesOf type := by
  obtain ⟨added, heq, hadded⟩ := f.follow_added [type] [type]
  rw [interfacesOf, heq]
  exact fun htype => hadded type htype List.mem_cons_self

theorem listing_interfacesOf (type : String) :
    Listing f.direct [type] [type] (type :: distinct (f.interfacesOf type)) := by
  have hapart : ∀ name ∈ distinct (f.interfacesOf type), decide (name ≠ type) = true := by
    intro name hname
    have hlisted : name ∈ f.interfacesOf type := (mem_distinct _ _).mp hname
    have hne : name ≠ type := fun heq => f.notMem_interfacesOf type (heq ▸ hlisted)
    simpa using hne
  have hall : distinct (f.follow [type] [type]) = type :: distinct (f.interfacesOf type) := by
    rw [follow_self, distinct, List.filter_eq_self.mpr hapart]
  rw [← hall]
  exact f.listing_follow [type] [type]

theorem mem_interfacesOf (type name : String) :
    name ∈ f.interfacesOf type ↔ name ≠ type ∧ LeadsTo f.direct type name := by
  rw [← mem_distinct]
  exact (f.listing_interfacesOf type).mem_iff name

/-! ## How often a name is listed -/

/-- A name is found as often as the type that adds it repeats it. -/
theorem count_fresh {seen fresh : List String} {type name : String} (waiting : List String)
    (hfresh : fresh = (f.direct type).filter fun name => !seen.contains name)
    (hname : name ∈ fresh) :
    (f.follow (seen ++ fresh) waiting).count name = (f.direct type).count name := by
  obtain ⟨added, heq, hadded⟩ := f.follow_added (seen ++ fresh) waiting
  have hnew : (!seen.contains name) = true := by
    rw [hfresh] at hname
    exact (List.mem_filter.mp hname).2
  have hseen : seen.count name = 0 := List.count_eq_zero.mpr (by simpa using hnew)
  have hlater : added.count name = 0 :=
    List.count_eq_zero.mpr fun hmem => hadded name hmem (List.mem_append_right _ hname)
  rw [heq, List.count_append, List.count_append, hseen, hlater, hfresh,
    List.count_filter (by simpa using hnew)]
  simp

theorem count_follow {name : String} (seen waiting : List String) (hseen : name ∉ seen)
    (hname : name ∈ f.follow seen waiting) :
    ∃ owner, (owner ∈ waiting ∨ owner ∈ f.follow seen waiting) ∧
      (f.follow seen waiting).count name = (f.direct owner).count name := by
  fun_induction follow f seen waiting with
  | case1 => exact absurd hname hseen
  | case2 seen type rest fresh hnone ih =>
    obtain ⟨owner, howner, hcount⟩ := ih hseen hname
    exact ⟨owner, howner.imp_left (List.mem_cons_of_mem _), hcount⟩
  | case3 seen type rest fresh hsome ih =>
    by_cases hfresh : name ∈ fresh
    · exact ⟨type, .inl List.mem_cons_self, f.count_fresh _ rfl hfresh⟩
    · have hnot : name ∉ seen ++ fresh := fun h => (List.mem_append.mp h).elim hseen hfresh
      obtain ⟨owner, howner, hcount⟩ := ih hnot hname
      obtain ⟨added, heq, -⟩ := f.follow_added (seen ++ fresh) (fresh ++ rest)
      refine ⟨owner, ?_, hcount⟩
      rcases howner with hwaiting | hfound
      · rcases List.mem_append.mp hwaiting with hnew | hrest
        · refine .inr ?_
          rw [heq]
          exact List.mem_append_left _ (List.mem_append_right _ hnew)
        · exact .inl (List.mem_cons_of_mem _ hrest)
      · exact .inr hfound

theorem count_interfacesOf {type name : String} (hname : name ∈ f.interfacesOf type) :
    ∃ owner, (owner = type ∨ LeadsTo f.direct type owner) ∧
      (f.interfacesOf type).count name = (f.direct owner).count name := by
  have hne : name ≠ type := ((f.mem_interfacesOf type name).mp hname).1
  obtain ⟨owner, howner, hcount⟩ := f.count_follow [type] [type] (by simpa using hne)
    (by rw [follow_self]; exact List.mem_cons_of_mem _ hname)
  rw [follow_self, List.count_cons_of_ne hne.symm] at hcount
  refine ⟨owner, ?_, hcount⟩
  rw [follow_self, List.mem_singleton, List.mem_cons] at howner
  rcases howner with heq | heq | hlisted
  · exact .inl heq
  · exact .inl heq
  · exact .inr ((f.mem_interfacesOf type owner).mp hlisted).2

/-- What is declared on the type itself is listed as often as it is declared. -/
theorem count_direct {type name : String} (hname : name ∈ f.direct type) (hne : name ≠ type) :
    (f.interfacesOf type).count name = (f.direct type).count name := by
  have hfresh : name ∈ (f.direct type).filter fun name => !List.contains [type] name :=
    List.mem_filter.mpr ⟨hname, by simpa using hne⟩
  have hcount := f.count_fresh (((f.direct type).filter fun name => !List.contains [type] name) ++ [])
    rfl hfresh
  rw [← List.count_cons_of_ne hne.symm, ← follow_self, follow, dif_neg (List.ne_nil_of_mem hfresh)]
  exact hcount

theorem nodup_interfacesOf {type : String}
    (h : ∀ owner, owner = type ∨ LeadsTo f.direct type owner → (f.direct owner).Nodup) :
    (f.interfacesOf type).Nodup := by
  rw [List.nodup_iff_count]
  intro name
  by_cases hname : name ∈ f.interfacesOf type
  · obtain ⟨owner, howner, hcount⟩ := f.count_interfacesOf hname
    rw [hcount]
    exact List.nodup_iff_count.mp (h owner howner) name
  · rw [List.count_eq_zero.mpr hname]
    exact Nat.zero_le 1

end

end Fallbacks

/-! ## The law -/

/-- The interfaces of a type are the other types that it leads to. Each is listed as often as one
of the types on the way declares it, so all are listed once if no type declares a name twice. -/
theorem an_interface_is_listed_as_often_as_one_type_declares_it (steps : List FallbackStep)
    (type : String) :
    let listed := (Fallbacks.built steps).interfacesOf type
    let declared := declaredBy steps
    type ∉ listed ∧
    (∀ name, name ∈ listed ↔ name ≠ type ∧ LeadsTo declared type name) ∧
    (∀ name ∈ listed, ∃ owner, (owner = type ∨ LeadsTo declared type owner) ∧
      listed.count name = (declared owner).count name) ∧
    (∀ name ∈ declared type, name ≠ type → listed.count name = (declared type).count name) ∧
    ((∀ owner, owner = type ∨ LeadsTo declared type owner → (declared owner).Nodup) →
      listed.Nodup) := by
  intro listed declared
  have hdirect : (Fallbacks.built steps).direct = declared := Fallbacks.direct_built steps
  rw [← hdirect]
  exact ⟨Fallbacks.notMem_interfacesOf _ type, Fallbacks.mem_interfacesOf _ type,
    fun _ => Fallbacks.count_interfacesOf _, fun _ => Fallbacks.count_direct _,
    Fallbacks.nodup_interfacesOf _⟩

/-- An audit that is declared on two types of a cycle is listed once, and one that is declared twice
on one type is listed twice. -/
theorem an_audit_on_two_types_and_an_audit_declared_twice :
    let shared : List FallbackStep :=
      [.declare "UserClient" ["UserApi", "Auditable"], .declare "UserApi" ["BaseApi", "Auditable"],
        .declare "BaseApi" ["UserClient"]]
    let repeated : List FallbackStep :=
      [.declare "UserClient" ["Auditable"], .declare "UserClient" ["UserApi", "Auditable"]]
    ((Fallbacks.built shared).interfacesOf "UserClient").Nodup ∧
      ((Fallbacks.built repeated).interfacesOf "UserClient").count "Auditable" = 2 := by
  intro shared repeated
  obtain ⟨-, -, -, -, honce⟩ :=
    an_interface_is_listed_as_often_as_one_type_declares_it shared "UserClient"
  obtain ⟨-, -, -, htwice, -⟩ :=
    an_interface_is_listed_as_often_as_one_type_declares_it repeated "UserClient"
  constructor
  · refine honce fun owner _ => ?_
    simp only [declaredBy, shared, List.flatMap_cons, List.flatMap_nil, FallbackStep.declares]
    by_cases hclient : "UserClient" = owner
    · subst hclient
      decide
    · by_cases hapi : "UserApi" = owner
      · subst hapi
        decide
      · by_cases hbase : "BaseApi" = owner
        · subst hbase
          decide
        · simp [hclient, hapi, hbase]
  · exact htwice "Auditable" (by decide) (by decide)

end HttpCalls
