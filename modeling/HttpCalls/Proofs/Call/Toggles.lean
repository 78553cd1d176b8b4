-- The toggles of a codec under a client's features. A feature that is disabled is off, else one
-- that is enabled is on, else its toggle stays as it was. So all that counts is which wishes a
-- client has: not in which order they were made, and not how often.
import HttpCalls.Call.Codec

namespace HttpCalls

/-! ## Toggles -/

/-- A feature, each with a toggle of its own. -/
inductive Feature
  | writing (x : WriteFeature)
  | reading (x : ReadFeature)
deriving DecidableEq, Repr

namespace Codec

/-- Whether the toggle of a feature is on. -/
def isOn (codec : Codec) : Feature → Bool
  | .writing .indentOutput => codec.indentOutput
  | .writing .writeNullMapValues => codec.writeNullMapValues
  | .reading .unwrapSingleValueArrays => codec.unwrapSingleValueArrays
  | .reading .failOnEmptyBody => codec.failOnEmptyBody

/-- The codec with one toggle turned on or off. -/
def turned (on : Bool) (codec : Codec) : Feature → Codec
  | .writing x => codec.setWriting on x
  | .reading x => codec.setReading on x

theorem eq_of_isOn {a b : Codec} (h : ∀ x, a.isOn x = b.isOn x) : a = b := by
  obtain ⟨indent, nulls, unwrap, fail⟩ := a
  have hindent : indent = b.indentOutput := h (.writing .indentOutput)
  have hnulls : nulls = b.writeNullMapValues := h (.writing .writeNullMapValues)
  have hunwrap : unwrap = b.unwrapSingleValueArrays := h (.reading .unwrapSingleValueArrays)
  have hfail : fail = b.failOnEmptyBody := h (.reading .failOnEmptyBody)
  rw [hindent, hnulls, hunwrap, hfail]

section
variable (on : Bool) (codec : Codec)

theorem isOn_turned (x y : Feature) :
    (codec.turned on y).isOn x = if x = y then on else codec.isOn x := by
  rcases x with (_ | _) | (_ | _) <;> rcases y with (_ | _) | (_ | _) <;> rfl

/-- A loop over features turns the toggles of these and no other. -/
theorem isOn_foldl_turned (features : List Feature) (x : Feature) :
    (features.foldl (turned on) codec).isOn x = if x ∈ features then on else codec.isOn x := by
  induction features generalizing codec with
  | nil => rfl
  | cons y more ih =>
    rw [List.foldl_cons, ih, isOn_turned]
    by_cases hmore : x ∈ more
    · simp [hmore]
    · simp [hmore]

end

end Codec

/-! ## Wishes -/

/-- What a client asks for. -/
inductive Wish
  | enable (x : Feature)
  | disable (x : Feature)
deriving DecidableEq, Repr

namespace Features

/-- All that is enabled. -/
def enabled (f : Features) : List Feature :=
  f.enabledWriting.map Feature.writing ++ f.enabledReading.map Feature.reading

/-- All that is disabled. -/
def disabled (f : Features) : List Feature :=
  f.disabledWriting.map Feature.writing ++ f.disabledReading.map Feature.reading

/-- The features hold a wish, in the list that it belongs to. -/
def Holds (f : Features) : Wish → Prop
  | .enable x => x ∈ f.enabled
  | .disable x => x ∈ f.disabled

/-- The features with one more wish. -/
def wishing (f : Features) : Wish → Features
  | .enable (.writing x) => f.enableWriting x
  | .enable (.reading x) => f.enableReading x
  | .disable (.writing x) => f.disableWriting x
  | .disable (.reading x) => f.disableReading x

/-- The features behind wishes that are made one after the other. -/
def after (f : Features) (wishes : List Wish) : Features := wishes.foldl wishing f

theorem holds_wishing (f : Features) (w made : Wish) :
    (f.wishing made).Holds w ↔ f.Holds w ∨ w = made := by
  rcases made with (y | y) | (y | y) <;> rcases w with (x | x) | (x | x) <;>
    simp [wishing, Holds, enabled, disabled, enableWriting, enableReading, disableWriting,
      disableReading]

theorem holds_after (f : Features) (wishes : List Wish) (w : Wish) :
    (f.after wishes).Holds w ↔ f.Holds w ∨ w ∈ wishes := by
  induction wishes generalizing f with
  | nil => simp [after]
  | cons made more ih =>
    have hmore : ((f.wishing made).after more).Holds w ↔ (f.wishing made).Holds w ∨ w ∈ more :=
      ih (f.wishing made)
    rw [holds_wishing, or_assoc, ← List.mem_cons] at hmore
    exact hmore

end Features

/-! ## Wishes and toggles -/

namespace Codec

section
variable (codec : Codec) (f : Features)

/-- The four loops are two, one over all that is enabled and one over all that is disabled. -/
theorem withFeatures_eq :
    codec.withFeatures f = f.disabled.foldl (turned false) (f.enabled.foldl (turned true) codec) := by
  simp only [Features.enabled, Features.disabled, List.foldl_append, List.foldl_map]
  rfl

theorem isOn_withFeatures (x : Feature) :
    (codec.withFeatures f).isOn x =
      if x ∈ f.disabled then false else if x ∈ f.enabled then true else codec.isOn x := by
  rw [withFeatures_eq, isOn_foldl_turned, isOn_foldl_turned]

theorem withFeatures_twice :
    (codec.withFeatures f).withFeatures f = codec.withFeatures f := by
  apply eq_of_isOn
  intro x
  rw [isOn_withFeatures (codec.withFeatures f), isOn_withFeatures codec]
  split
  · rfl
  · split <;> rfl

end

theorem withFeatures_congr (codec : Codec) {f g : Features} (h : ∀ w, g.Holds w ↔ f.Holds w) :
    codec.withFeatures g = codec.withFeatures f := by
  have henabled (x : Feature) : x ∈ g.enabled ↔ x ∈ f.enabled := h (.enable x)
  have hdisabled (x : Feature) : x ∈ g.disabled ↔ x ∈ f.disabled := h (.disable x)
  apply eq_of_isOn
  intro x
  simp only [isOn_withFeatures, henabled, hdisabled]

end Codec

/-! ## The law -/

/-- A codec under a client's features. Each of the toggles is off if its feature is disabled, else
on if it is enabled, and else as it was. So the features change nothing when they are laid on again,
those that hold the same wishes are the same to a codec, and wishes may be made in any order. -/
theorem a_disabled_feature_is_off_and_the_order_of_wishes_is_free (codec : Codec) (f : Features) :
    (∀ x, (codec.withFeatures f).isOn x =
      if x ∈ f.disabled then false else if x ∈ f.enabled then true else codec.isOn x) ∧
    (codec.withFeatures f).withFeatures f = codec.withFeatures f ∧
    (∀ g : Features, (∀ w, g.Holds w ↔ f.Holds w) →
      codec.withFeatures g = codec.withFeatures f) ∧
    (∀ wishes wishes' : List Wish, wishes.Perm wishes' →
      codec.withFeatures (f.after wishes) = codec.withFeatures (f.after wishes')) := by
  refine ⟨codec.isOn_withFeatures f, codec.withFeatures_twice f,
    fun g => codec.withFeatures_congr, ?_⟩
  intro wishes wishes' hperm
  apply codec.withFeatures_congr
  intro w
  rw [Features.holds_after, Features.holds_after, hperm.mem_iff]

/-- Indentation is both enabled and disabled. Two clients list the same features, one of them in
another order and some of them twice; a third makes the wishes of the first one from the last on. -/
theorem indentation_that_is_enabled_and_disabled :
    let codec : Codec := {}
    let f : Features :=
      { enabledWriting := [.indentOutput], enabledReading := [.failOnEmptyBody]
        disabledWriting := [.indentOutput, .writeNullMapValues] }
    let g : Features :=
      { enabledWriting := [.indentOutput, .indentOutput], enabledReading := [.failOnEmptyBody]
        disabledWriting := [.writeNullMapValues, .indentOutput, .indentOutput] }
    let wishes : List Wish :=
      [.disable (.writing .indentOutput), .enable (.writing .indentOutput),
       .disable (.writing .writeNullMapValues), .enable (.reading .failOnEmptyBody)]
    (∀ w, g.Holds w ↔ f.Holds w) ∧ codec.withFeatures g = codec.withFeatures f ∧
      wishes.Perm wishes.reverse ∧
      codec.withFeatures (f.after wishes) = codec.withFeatures (f.after wishes.reverse) ∧
      (codec.withFeatures f).isOn (.writing .indentOutput) = false ∧
      codec.withFeatures f = { writeNullMapValues := false, failOnEmptyBody := true } := by
  intro codec f g wishes
  have hsame : ∀ w, g.Holds w ↔ f.Holds w := by
    rintro (x | x)
    · simp [Features.Holds, Features.enabled, f, g]
    · simp [Features.Holds, Features.disabled, f, g, or_comm]
  have hperm : wishes.Perm wishes.reverse := (List.reverse_perm wishes).symm
  obtain ⟨htoggles, -, hcongr, horder⟩ :=
    a_disabled_feature_is_off_and_the_order_of_wishes_is_free codec f
  refine ⟨hsame, hcongr g hsame, hperm, horder wishes wishes.reverse hperm, ?_, rfl⟩
  rw [htoggles, if_pos (by decide)]

end HttpCalls
