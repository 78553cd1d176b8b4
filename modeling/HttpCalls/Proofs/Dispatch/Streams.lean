-- Streams with fallbacks. A stream type decides which items of an exchange are handed on, and only
-- for these is a fallback used: once for each failure of the transport other than a missing
-- resource, however often the transformer stands in the chain.
import HttpCalls.Proofs.Dispatch.FallbackPolicy

namespace HttpCalls

variable {κ τ ω : Type}

/-! ## What a stream hands on -/

/-- What becomes of an item, and the fallbacks used for it. -/
inductive HandsOn (found : Option Resolved) (params : List Param) :
    Item → Item → List Invocation → Prop
  | replied {r e reply} : found = some r → e.isNotFound = false →
      r.fallback.answer params = .ok reply →
      HandsOn found params (.error (.transport e)) (.ok reply) [⟨r.fallback.label, params⟩]
  | failed {r e cause} : found = some r → e.isNotFound = false →
      r.fallback.answer params = .error cause →
      HandsOn found params (.error (.transport e))
        (.error (.fallbackInvocation r.declaringType cause)) [⟨r.fallback.label, params⟩]
  | kept {item} :
      (∀ r e, found = some r → item = .error (.transport e) → e.isNotFound = true) →
      HandsOn found params item item []

/-- What becomes of items in a row, and all fallbacks used for them. -/
inductive HandsOnEach (found : Option Resolved) (params : List Param) :
    List Item → List Item → List Invocation → Prop
  | none : HandsOnEach found params [] [] []
  | next {item item' used more more' usedMore} : HandsOn found params item item' used →
      HandsOnEach found params more more' usedMore →
      HandsOnEach found params (item :: more) (item' :: more') (used ++ usedMore)

/-- The items that a built-in stream type lets through. -/
inductive LetsThrough : String → List Item → List Item → Prop
  | all (items : List Item) : LetsThrough "stream" items items
  | first (items : List Item) : LetsThrough "maybe" items (items.take 1)
  | only (item : Item) (more : List Item) : LetsThrough "single" (item :: more) [item]
  | lacking : LetsThrough "single" []
      [.error (.unsupportedConversion "single" "stream completed without an item")]

/-- At most so many, all of them without a limit. -/
def upTo {α : Type} (limit : Option Nat) (l : List α) : List α :=
  match limit with
  | some n => l.take n
  | none => l

/-- What the reader of a stream has, who takes at most `limit` items, and what it cost. -/
structure DeliveredAs (type : String) (found : Option Resolved) (params : List Param)
    (items : List Item) (limit : Option Nat) (result : List Item) (effects : Effects) : Prop where
  handed : ∃ through, LetsThrough type items through ∧
    HandsOnEach found params (upTo limit through) result effects.invoked
  count : limit = none → result.length =
    if type = "stream" then items.length else if type = "single" then 1 else min 1 items.length
  pulled : effects.pulled = min result.length items.length
  pulled_once : type ≠ "stream" → effects.pulled ≤ 1

/-! ## One transformer and many -/

/-- What the transformer with a fallback makes of an item. -/
def helped (found : Option Resolved) (params : List Param) : Item → Traced Item
  | .error e => if e.isNotFound then { result := .error e } else recover found params e
  | .ok reply => { result := .ok reply }

section
variable (found : Option Resolved) (params : List Param)

theorem fallbackTransformer_eq (d : Delivery) :
    fallbackTransformer found params d = d.mapItems (helped found params) :=
  rfl

/-- A fallback is used for a failure of the transport that tells of no missing resource, if there
is a fallback at all; every other item stays as it is. -/
theorem helped_cases (item : Item) :
    (∃ r e, found = some r ∧ item = .error (.transport e) ∧ e.isNotFound = false ∧
      helped found params item =
        { result := r.invoke params, invoked := [r.invocation params] }) ∨
    ((∀ r e, found = some r → item = .error (.transport e) → e.isNotFound = true) ∧
      helped found params item = { result := item }) := by
  cases item with
  | ok reply =>
    refine .inr ⟨?_, rfl⟩
    rintro r e - ⟨⟩
  | error e =>
    by_cases hmissing : e.isNotFound = true
    · refine .inr ⟨?_, if_pos hmissing⟩
      rintro r cause - ⟨⟩
      exact hmissing
    · have hrecovered : helped found params (.error e) = recover found params e := if_neg hmissing
      rw [hrecovered]
      rcases recover_cases found params e with ⟨r, cause, hfound, rfl, hrecover⟩ | ⟨hnone, hrecover⟩
      · exact .inl ⟨r, cause, hfound, rfl, Bool.not_eq_true _ ▸ hmissing, hrecover⟩
      · refine .inr ⟨?_, hrecover⟩
        rintro r cause hfound ⟨⟩
        rcases hnone with hnone | hnone
        · cases hnone.symm.trans hfound
        · exact absurd rfl (hnone cause)

theorem handsOn_helped (item : Item) :
    HandsOn found params item (helped found params item).result
      (helped found params item).invoked := by
  rcases helped_cases found params item with ⟨r, e, hfound, rfl, he, hhelped⟩ | ⟨hkept, hhelped⟩
  · rw [hhelped, Resolved.invoke]
    cases hanswer : r.fallback.answer params with
    | ok reply => exact .replied hfound he hanswer
    | error cause => exact .failed hfound he hanswer
  · rw [hhelped]
    exact .kept hkept

/-- What a fallback made of an item is no failure that a fallback is used for again. -/
theorem helped_again (item : Item) :
    helped found params (helped found params item).result =
      { result := (helped found params item).result } := by
  rcases helped_cases found params item with ⟨r, e, -, -, -, hhelped⟩ | ⟨-, hhelped⟩
  · rw [hhelped, Resolved.invoke]
    cases r.fallback.answer params <;> rfl
  · rw [hhelped, hhelped]

theorem fallbackTransformer_again (d : Delivery) :
    fallbackTransformer found params (fallbackTransformer found params d) =
      fallbackTransformer found params d := by
  simp only [fallbackTransformer_eq, Delivery.mapItems, List.map_map, Function.comp_def,
    helped_again, List.append_nil]

/-- A chain of the transformer does what the transformer does. -/
theorem applyChain_replicate (k : Nat) (d : Delivery) :
    applyChain (List.replicate (k + 1) fallbackTransformer) found params d =
      fallbackTransformer found params d := by
  induction k generalizing d with
  | zero => rfl
  | succ k ih =>
    rw [List.replicate_succ, applyChain, List.foldl_cons]
    exact (ih _).trans (fallbackTransformer_again found params d)

end

/-! ## Taking -/

section
variable {α β : Type}

theorem mem_upTo {limit : Option Nat} {l : List α} {a : α} (h : a ∈ upTo limit l) : a ∈ l := by
  cases limit with
  | none => exact h
  | some n => exact List.mem_of_mem_take h

theorem map_upTo (f : α → β) (limit : Option Nat) (l : List α) :
    (upTo limit l).map f = upTo limit (l.map f) := by
  cases limit with
  | none => rfl
  | some n => exact List.map_take

end

/-- A delivery that asks the source once for each item. If it asks once more at its end, it has
handed on an item for each one of the source. -/
structure Delivery.AsksOnce (items : List Item) (d : Delivery) : Prop where
  asked : ∀ step ∈ d.steps, step.asked = 1
  ending : d.ending = 0 ∧ d.steps ≠ [] ∨ d.ending = 1 ∧ d.steps.length = items.length

section
variable {found : Option Resolved} {params : List Param} {items : List Item} {d : Delivery}

theorem askedFor_once {steps : List Step} (h : ∀ step ∈ steps, step.asked = 1) :
    askedFor steps = steps.length := by
  induction steps with
  | nil => rfl
  | cons step more ih =>
    rw [askedFor, h step List.mem_cons_self, ih fun s hs => h s (List.mem_cons_of_mem _ hs),
      List.length_cons, Nat.add_comm]

theorem take_items (d : Delivery) (limit : Option Nat) :
    (d.take limit).items = (upTo limit d.steps).map (·.item) := by
  cases limit <;> rfl

theorem take_invoked (d : Delivery) (limit : Option Nat) :
    (d.take limit).invoked = (upTo limit d.steps).flatMap (·.invoked) := by
  cases limit <;> rfl

theorem length_take_items (d : Delivery) (limit : Option Nat) :
    (d.take limit).items.length = (upTo limit d.steps).length := by
  rw [take_items, List.length_map]

/-- The source is asked once for each item that is taken, and once more where there are no more. -/
theorem Delivery.AsksOnce.take (h : d.AsksOnce items) (limit : Option Nat) :
    (d.take limit).asked = (d.take limit).items.length ∨
      (d.take limit).items.length = items.length ∧ (d.take limit).asked = items.length + 1 := by
  have hsteps : askedFor (upTo limit d.steps) = (upTo limit d.steps).length :=
    askedFor_once fun step hstep => h.asked step (mem_upTo hstep)
  rw [length_take_items]
  cases limit with
  | none =>
    have hasked : (d.take none).asked = askedFor (upTo none d.steps) + d.ending := rfl
    rw [hasked, hsteps]
    rcases h.ending with ⟨hend, -⟩ | ⟨hend, hall⟩
    · exact .inl (by rw [hend, Nat.add_zero])
    · have hall : (upTo none d.steps).length = items.length := hall
      exact .inr ⟨hall, by rw [hend, hall]⟩
  | some n =>
    have hasked : (d.take (some n)).asked = askedFor (upTo (some n) d.steps) +
        if d.steps.length < n then d.ending else 0 := by
      simp [Delivery.take, upTo]
    rw [hasked, hsteps]
    split
    · rename_i hn
      rcases h.ending with ⟨hend, -⟩ | ⟨hend, hall⟩
      · exact .inl (by rw [hend, Nat.add_zero])
      · have hall : (upTo (some n) d.steps).length = items.length := by
          rw [upTo, List.take_of_length_le (Nat.le_of_lt hn), hall]
        exact .inr ⟨hall, by rw [hend, hall]⟩
    · exact .inl rfl

/-- Who asks for anything asks the source. -/
theorem Delivery.AsksOnce.asks (h : d.AsksOnce items) {limit : Option Nat}
    (hlimit : limit ≠ some 0) : (d.take limit).asked ≠ 0 := by
  by_cases hsteps : d.steps = []
  · have hend : d.ending = 1 := by
      rcases h.ending with ⟨-, hsome⟩ | ⟨hend, -⟩
      · exact absurd hsteps hsome
      · exact hend
    cases limit with
    | none => simp [Delivery.take, hsteps, askedFor, hend]
    | some n =>
      have hn : 0 < n := Nat.pos_of_ne_zero fun hn => hlimit (congrArg some hn)
      simp [Delivery.take, hsteps, askedFor, hend, hn]
  · have htaken : (d.take limit).items.length ≠ 0 := by
      have hlength : d.steps.length ≠ 0 := fun hempty => hsteps (List.length_eq_zero_iff.mp hempty)
      rw [length_take_items]
      cases limit with
      | none => exact hlength
      | some n =>
        have hn : n ≠ 0 := fun hn => hlimit (congrArg some hn)
        rw [upTo, List.length_take]
        omega
    rcases h.take limit with hasked | ⟨-, hasked⟩ <;> omega

theorem Delivery.AsksOnce.helped (h : d.AsksOnce items) :
    (fallbackTransformer found params d).AsksOnce items := by
  constructor
  · intro step hstep
    obtain ⟨step', hstep', rfl⟩ := List.mem_map.mp hstep
    exact h.asked step' hstep'
  · have hlength : (fallbackTransformer found params d).steps.length = d.steps.length :=
      List.length_map ..
    have hempty : (fallbackTransformer found params d).steps = [] ↔ d.steps = [] :=
      List.map_eq_nil_iff
    rw [hlength, ne_eq, hempty]
    exact h.ending

theorem handsOnEach_steps (found : Option Resolved) (params : List Param) {steps : List Step}
    (h : ∀ step ∈ steps, step.invoked = []) :
    HandsOnEach found params (steps.map (·.item))
      (steps.map fun step => (helped found params step.item).result)
      (steps.flatMap fun step => step.invoked ++ (helped found params step.item).invoked) := by
  induction steps with
  | nil => exact .none
  | cons step more ih =>
    rw [List.map_cons, List.map_cons, List.flatMap_cons, h step List.mem_cons_self, List.nil_append]
    exact .next (handsOn_helped found params step.item)
      (ih fun s hs => h s (List.mem_cons_of_mem _ hs))

/-- Fallbacks are used for the items that are taken, and for no others. -/
theorem handsOnEach_taken (hunused : ∀ step ∈ d.steps, step.invoked = []) (limit : Option Nat) :
    let taken := (fallbackTransformer found params d).take limit
    HandsOnEach found params (upTo limit (d.steps.map (·.item))) taken.items taken.invoked := by
  intro taken
  have htaken := handsOnEach_steps found params fun step (hstep : step ∈ upTo limit d.steps) =>
    hunused step (mem_upTo hstep)
  unfold taken
  rw [take_items, take_invoked, fallbackTransformer_eq, Delivery.mapItems]
  dsimp only
  rw [← map_upTo, ← map_upTo, List.map_map, List.flatMap_map]
  exact htaken

end

/-! ## Built-in stream types -/

/-- A converter hands on the items of the source one by one, without a fallback. -/
structure Converter.IsPlain (convert : Converter) : Prop where
  once : ∀ items, (convert (.ofItems items)).AsksOnce items
  unused : ∀ items, ∀ step ∈ (convert (.ofItems items)).steps, step.invoked = []

theorem plain_of_source {items : List Item} {step : Step}
    (h : step ∈ (Delivery.ofItems items).steps) : step.asked = 1 ∧ step.invoked = [] := by
  obtain ⟨item, -, rfl⟩ := List.mem_map.mp h
  exact ⟨rfl, rfl⟩

theorem isPlain_id : Converter.IsPlain id where
  once _ := ⟨fun _ h => (plain_of_source h).1, .inr ⟨rfl, List.length_map _⟩⟩
  unused _ _ h := (plain_of_source h).2

theorem isPlain_atMostOne : Converter.IsPlain Delivery.atMostOne where
  once items := by
    cases items with
    | nil => exact isPlain_id.once []
    | cons item more => exact ⟨by simp [Delivery.atMostOne, Delivery.ofItems], .inl ⟨rfl, nofun⟩⟩
  unused items := by
    cases items with
    | nil => exact isPlain_id.unused []
    | cons item more => simp [Delivery.atMostOne, Delivery.ofItems]

theorem isPlain_exactlyOne : Converter.IsPlain Delivery.exactlyOne where
  once items := by
    cases items <;> exact ⟨by simp [Delivery.exactlyOne, Delivery.ofItems], .inl ⟨rfl, nofun⟩⟩
  unused items := by
    cases items <;> simp [Delivery.exactlyOne, Delivery.ofItems]

theorem items_ofItems (items : List Item) :
    (Delivery.ofItems items).steps.map (·.item) = items := by
  simp [Delivery.ofItems, Function.comp_def]

/-- The built-in converters let through what their stream types say. -/
theorem standard_converter {type : String} {convert : Converter}
    (h : Keyed.get? type Converters.standard = some convert) :
    convert.IsPlain ∧
      ∀ items, LetsThrough type items ((convert (.ofItems items)).steps.map (·.item)) := by
  simp only [Converters.standard, Keyed.get?] at h
  split at h
  · rename_i htype
    subst htype
    cases h
    refine ⟨isPlain_id, fun items => ?_⟩
    rw [id, items_ofItems]
    exact .all items
  · split at h
    · rename_i htype
      subst htype
      cases h
      refine ⟨isPlain_exactlyOne, fun items => ?_⟩
      cases items with
      | nil => exact .lacking
      | cons item more => exact .only item more
    · split at h
      · rename_i htype
        subst htype
        cases h
        refine ⟨isPlain_atMostOne, fun items => ?_⟩
        cases items with
        | nil => exact .first []
        | cons item more => exact .first (item :: more)
      · cases h

/-! ## Reading a stream -/

section
variable {t : Transport κ τ ω} {f : Flow τ} {s : Session κ ω} {found : Option Resolved}
  {params : List Param} {convert : Converter} {items : List Item}

/-- Who asks for nothing has nothing, and the exchange does not run. Else it runs, and brings no
more than was asked of it. -/
theorem collect_helped
    (hshape : f.shape = fun source => fallbackTransformer found params (convert source))
    (hplain : convert.IsPlain) (harrivals : (s.redeem t f.client f.ticket).1 = items.map .item)
    (limit : Option Nat) :
    let taken := f.collect t limit s
    HandsOnEach found params (upTo limit ((convert (.ofItems items)).steps.map (·.item)))
        taken.result taken.effects.invoked ∧
      taken.effects.pulled = min taken.result.length items.length := by
  intro taken
  have hasks (items : List Item) :
      (fallbackTransformer found params (convert (.ofItems items))).AsksOnce items :=
    (hplain.once items).helped
  by_cases hlimit : limit = some 0
  · subst hlimit
    have hnothing : taken = { result := [], session := s } := by
      unfold taken Flow.collect
      simp [Delivery.take, askedFor]
    rw [hnothing]
    exact ⟨.none, (Nat.zero_min _).symm⟩
  · have hasked : ((f.shape (.ofItems [])).take limit).asked ≠ 0 := by
      rw [hshape]
      exact (hasks []).asks hlimit
    have hrun : taken.result =
          ((fallbackTransformer found params (convert (.ofItems items))).take limit).items ∧
        taken.effects.invoked =
          ((fallbackTransformer found params (convert (.ofItems items))).take limit).invoked ∧
        taken.effects.pulled = min
          ((fallbackTransformer found params (convert (.ofItems items))).take limit).asked
          items.length := by
      unfold taken Flow.collect
      rw [if_neg hasked]
      simp only [harrivals, items_map_item, hshape]
      exact ⟨trivial, trivial, trivial⟩
    obtain ⟨hresult, hinvoked, hpulled⟩ := hrun
    rw [hresult, hinvoked, hpulled]
    refine ⟨handsOnEach_taken (hplain.unused items) limit, ?_⟩
    rcases (hasks items).take limit with hasked | ⟨hall, hasked⟩ <;> omega

end

/-! ## The law -/

section
variable {found : Option Resolved} {params : List Param}

theorem HandsOnEach.length {items result : List Item} {invoked : List Invocation}
    (h : HandsOnEach found params items result invoked) : result.length = items.length := by
  induction h with
  | none => rfl
  | next _ _ ih => rw [List.length_cons, List.length_cons, ih]

theorem LetsThrough.length {type : String} {items through : List Item}
    (h : LetsThrough type items through) : through.length =
      if type = "stream" then items.length
      else if type = "single" then 1
      else min 1 items.length := by
  cases h with
  | first => exact List.length_take
  | _ => rfl

theorem LetsThrough.length_le {type : String} {items through : List Item}
    (h : LetsThrough type items through) (htype : type ≠ "stream") : through.length ≤ 1 := by
  cases h with
  | all => exact absurd rfl htype
  | first => exact List.length_take_le 1 items
  | only => exact Nat.le_refl 1
  | lacking => exact Nat.le_refl 1

theorem length_upTo_le {α : Type} (limit : Option Nat) (l : List α) :
    (upTo limit l).length ≤ l.length := by
  cases limit with
  | none => exact Nat.le_refl _
  | some n => exact List.length_take_le' n l

theorem deliveredAs_of_handed {type : String} {items through result : List Item}
    {limit : Option Nat} {effects : Effects} (hthrough : LetsThrough type items through)
    (hhanded : HandsOnEach found params (upTo limit through) result effects.invoked)
    (hpulled : effects.pulled = min result.length items.length) :
    DeliveredAs type found params items limit result effects := by
  refine ⟨⟨through, hthrough, hhanded⟩, ?_, hpulled, fun htype => ?_⟩
  · rintro rfl
    exact hhanded.length.trans hthrough.length
  · have hlength := hhanded.length
    have hupTo := length_upTo_le limit through
    have hone := hthrough.length_le htype
    omega

end

/-- A call for a stream, with nothing but transformers with a fallback in the chain. The exchange
is started and not run yet. With a stream type that has no converter the call fails; with a built-in
one its stream hands on what the type lets through, and fallbacks are used for that alone. -/
theorem a_stream_hands_on_what_its_type_lets_through (d : Dispatcher τ) (t : Transport κ τ ω)
    (meanwhile : Session κ ω → Session κ ω) (call : Call) (mapping : Mapping) (type : String)
    (element : Element) (registration : Registration) (s s' : Session κ ω) (k : Nat)
    (hm : call.mapping = some mapping) (hreturns : call.returns = .stream type element)
    (hr : s.register d.resolver t call = (.ok registration, s'))
    (hchain : d.transformers = List.replicate (k + 1) fallbackTransformer) :
    let kind := element.exchangeKind
    let request :=
      issuedRequest call element (mappedRequest registration.contextPath mapping call.params)
    let begun := d.invoke t call s
    begun.effects = { started := [(kind, request)] } ∧
    begun.session = (s'.start t kind request).2 ∧
    (d.converters.supports type = false → begun.result = .error (.unsupportedStreamType type)) ∧
    (∀ convert, Keyed.get? type Converters.standard = some convert →
      Keyed.get? type d.converters = some convert →
      ∃ f, begun.result = .ok (.stream f) ∧
        ∀ items limit,
          (exchanged t meanwhile registration.client kind request s').1 = List.map .item items →
          let taken := f.collect t limit (meanwhile begun.session)
          DeliveredAs type (d.fallbacks.find call.operation) call.params items limit taken.result
            taken.effects) := by
  intro kind request begun
  have hbegun : begun = Dispatcher.issuing t call element
      (mappedRequest registration.contextPath mapping call.params)
      (d.flow call registration.client type) s' := by
    unfold begun
    rw [invoke_registered hm hr, Dispatcher.perform, hreturns]
  have hresult : begun.result =
      d.flow call registration.client type (s'.start t kind request).1 := by
    rw [hbegun]
    rfl
  have hsession : begun.session = (s'.start t kind request).2 := by
    rw [hbegun]
    rfl
  refine ⟨by rw [hbegun]; rfl, hsession, ?_, ?_⟩
  · intro hunsupported
    have hnone : Keyed.get? type d.converters = none := by
      rw [Converters.supports, Keyed.has, Option.isSome_eq_false_iff, Option.isNone_iff_eq_none]
        at hunsupported
      exact hunsupported
    rw [hresult, Dispatcher.flow, Converters.converter, hnone]
    rfl
  · intro convert hstandard hconvert
    have hconverter : d.converters.converter type = .ok convert := by
      rw [Converters.converter, hconvert]
    obtain ⟨hplain, hthrough⟩ := standard_converter hstandard
    let f : Flow τ := {
      client := registration.client
      ticket := (s'.start t kind request).1
      shape := fun source => applyChain d.transformers (d.fallbacks.find call.operation) call.params
        (convert source) }
    have hshape : f.shape = fun source =>
        fallbackTransformer (d.fallbacks.find call.operation) call.params (convert source) := by
      funext source
      unfold f
      dsimp only
      rw [hchain, applyChain_replicate]
    refine ⟨f, hresult.trans (flow_eq _ _ hconverter), fun items limit hitems => ?_⟩
    rw [hsession]
    obtain ⟨hhanded, hpulled⟩ := collect_helped (t := t) (f := f) hshape hplain hitems limit
    exact deliveredAs_of_handed (hthrough items) hhanded hpulled

/-- A user, a missing one and two failures of a busy service, under two transformers in a row: the
fallback is used for the two failures, and for none of them twice. A single user has no failure. -/
theorem two_failures_in_a_stream_of_users :
    let key : OperationKey := ⟨"UserApi", "list", []⟩
    let cached : Fallback := { label := "cached", answer := fun _ => .error "cold" }
    let busy : Item := .error (.transport (.status ⟨503, by decide⟩ [] none))
    let missing : Item := .error (.transport (.status .notFound [] none))
    let items : List Item := [.ok (.body (.bool true)), missing, busy, busy]
    let d : Dispatcher Unit :=
      { resolver := { lists := [("users", [])] }, fallbacks := ({} : Fallbacks).register key cached
        transformers := [fallbackTransformer, fallbackTransformer] }
    let call (type : String) : Call :=
      { service := ⟨["users"]⟩, operation := key, mapping := some ⟨.get, "/users"⟩
        returns := .stream type .body }
    let begun (type : String) := d.invoke (.bringing items) (call type) { outside := () }
    (begun "flux").result = .error (.unsupportedStreamType "flux") ∧
      (∃ f, (begun "single").result = .ok (.stream f) ∧
        (f.collect (.bringing items) none (begun "single").session).effects.invoked = []) ∧
      ∃ f, (begun "stream").result = .ok (.stream f) ∧
        let taken := f.collect (.bringing items) none (begun "stream").session
        DeliveredAs "stream" (d.fallbacks.find key) [] items none taken.result taken.effects ∧
          taken.effects.invoked = [⟨"cached", []⟩, ⟨"cached", []⟩] := by
  intro key cached busy missing items d call begun
  have hlaw (type : String) := a_stream_hands_on_what_its_type_lets_through d (.bringing items) id
    (call type) ⟨.get, "/users"⟩ type .body ⟨0, ""⟩ { outside := () } _ 1 rfl rfl rfl rfl
  refine ⟨(hlaw "flux").2.2.1 rfl, ?_, ?_⟩
  · obtain ⟨f, hf, -⟩ := (hlaw "single").2.2.2 .exactlyOne rfl rfl
    cases hf
    exact ⟨_, rfl, rfl⟩
  · obtain ⟨f, hf, hdelivered⟩ := (hlaw "stream").2.2.2 id rfl rfl
    have htaken := hdelivered items none rfl
    cases hf
    exact ⟨_, rfl, htaken, rfl⟩

end HttpCalls
