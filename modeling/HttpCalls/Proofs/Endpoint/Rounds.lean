-- Rounds of choices in turn. The list of endpoints may be another one at each choice. Where there
-- is nothing to choose the choice fails and its turn is not used up. While the list stays as it
-- is the choices go round it, so no endpoint is ever two choices ahead of another.
import HttpCalls.Endpoint.Balancer
import HttpCalls.Powers

namespace HttpCalls

/-! ## Places in turn -/

/-- The places on a list of `n` that `m` choices take from a turn on. -/
def placesInTurn (n turn : Nat) : Nat → List Nat
  | 0 => []
  | m + 1 => turn % n :: placesInTurn n (turn + 1) m

section
variable {n : Nat}

theorem places_append (turn k m : Nat) :
    placesInTurn n turn (k + m) = placesInTurn n turn k ++ placesInTurn n (turn + k) m := by
  induction k generalizing turn with
  | zero => simp [placesInTurn]
  | succ k ih =>
    have hturn : turn + (k + 1) = turn + 1 + k := by omega
    rw [Nat.succ_add, placesInTurn, placesInTurn, ih, hturn, List.cons_append]

theorem places_after_round (turn m : Nat) :
    placesInTurn n (turn + n) m = placesInTurn n turn m := by
  induction m generalizing turn with
  | zero => rfl
  | succ m ih =>
    have hturn : turn + n + 1 = turn + 1 + n := by omega
    rw [placesInTurn, placesInTurn, Nat.add_mod_right, hturn, ih]

theorem places_first {m : Nat} (h : m ≤ n) : placesInTurn n 0 m = List.range m := by
  induction m with
  | zero => rfl
  | succ m ih =>
    rw [places_append, ih (by omega), List.range_succ, placesInTurn, placesInTurn, Nat.zero_add,
      Nat.mod_eq_of_lt (by omega)]

/-- A round takes each place once, wherever it begins. -/
theorem places_round (turn : Nat) : (placesInTurn n turn n).Perm (List.range n) := by
  induction turn with
  | zero => rw [places_first (Nat.le_refl n)]
  | succ turn ih =>
    -- the round from the next turn on gives up the place at its head and takes it at its end
    have hround : turn % n :: placesInTurn n (turn + 1) n =
        placesInTurn n turn n ++ [turn % n] := by
      have hmore := places_append (n := n) turn n 1
      rw [placesInTurn, placesInTurn, placesInTurn, Nat.add_mod_right] at hmore
      exact hmore
    have hperm : (turn % n :: placesInTurn n (turn + 1) n).Perm
        (turn % n :: placesInTurn n turn n) :=
      hround ▸ List.perm_append_singleton _ _
    exact hperm.cons_inv.trans ih

variable {p q : Nat}

theorem count_round (hp : p < n) (turn : Nat) : (placesInTurn n turn n).count p = 1 := by
  rw [(places_round turn).count_eq, List.count_range, if_pos hp]

theorem count_part_le {m : Nat} (hp : p < n) (hm : m ≤ n) (turn : Nat) :
    (placesInTurn n turn m).count p ≤ 1 := by
  obtain ⟨rest, rfl⟩ := Nat.exists_eq_add_of_le hm
  have hround := count_round hp turn
  rw [places_append, List.count_append] at hround
  omega

/-- No place is taken more than once more often than another one. -/
theorem count_places_le (hp : p < n) (hq : q < n) (turn m : Nat) :
    (placesInTurn n turn m).count p ≤ (placesInTurn n turn m).count q + 1 := by
  induction m using Nat.strongRecOn generalizing turn with
  | ind m ih =>
    by_cases hm : m ≤ n
    · have := count_part_le hp hm turn
      omega
    · -- a whole round adds one to both, and so leaves what came behind it
      obtain ⟨rest, rfl⟩ := Nat.exists_eq_add_of_le (Nat.le_of_not_le hm)
      rw [places_append, places_after_round, List.count_append, List.count_append,
        count_round hp, count_round hq]
      have := ih rest (by omega) turn
      omega

end

/-! ## Even choices -/

/-- Choices from a list that take its places evenly. -/
structure TakenEvenly (endpoints picks : List Endpoint) : Prop where
  /-- No place on the list is taken more than once more often than another one. -/
  places : ∃ places : List Nat, picks.map some = places.map (endpoints[·]?) ∧
    ∀ p q, p < endpoints.length → q < endpoints.length → places.count p ≤ places.count q + 1
  /-- So it is with the endpoints themselves when they all differ. -/
  each : endpoints.Nodup → ∀ e ∈ endpoints, ∀ e' ∈ endpoints, picks.count e ≤ picks.count e' + 1
  /-- As many choices as there are endpoints take each of them once. -/
  round : picks.length = endpoints.length → picks.Perm endpoints

section
variable {endpoints picks : List Endpoint}

theorem count_picks {taken : List Nat} (hnodup : endpoints.Nodup)
    (hpicks : picks.map some = taken.map (endpoints[·]?)) {p : Nat} (hp : p < endpoints.length) :
    picks.count endpoints[p] = taken.count p := by
  induction taken generalizing picks with
  | nil =>
    cases picks with
    | nil => rfl
    | cons pick more => cases hpicks
  | cons place rest ih =>
    cases picks with
    | nil => cases hpicks
    | cons pick more =>
      rw [List.map_cons, List.map_cons, List.cons.injEq] at hpicks
      have hsame : pick = endpoints[p] ↔ place = p := by
        rw [eq_comm, ← Option.some.injEq, ← List.getElem?_eq_getElem hp, hpicks.1,
          List.getElem?_inj hp hnodup, eq_comm]
      simp only [List.count_cons, ih hpicks.2, beq_iff_eq, hsame]

theorem takenEvenly_of_places {turn : Nat}
    (hpicks : picks.map some =
      (placesInTurn endpoints.length turn picks.length).map (endpoints[·]?)) :
    TakenEvenly endpoints picks := by
  refine ⟨⟨_, hpicks, fun p q hp hq => count_places_le hp hq turn _⟩, ?_, ?_⟩
  · intro hnodup e he e' he'
    obtain ⟨p, hp, rfl⟩ := List.getElem_of_mem he
    obtain ⟨q, hq, rfl⟩ := List.getElem_of_mem he'
    rw [count_picks hnodup hpicks hp, count_picks hnodup hpicks hq]
    exact count_places_le hp hq turn _
  · intro hround
    rw [hround] at hpicks
    have hperm : (picks.map some).Perm ((List.range endpoints.length).map (endpoints[·]?)) :=
      hpicks ▸ (places_round turn).map _
    have hwhole : (List.range endpoints.length).map (endpoints[·]?) = endpoints.map some := by
      apply List.ext_getElem
      · simp
      · intro i h _
        simp [List.getElem?_eq_getElem (show i < endpoints.length by simpa using h)]
    rw [hwhole] at hperm
    simpa using hperm.filterMap id

end

/-! ## Choices one after the other -/

/-- What a choice from a list comes to, and the rotation `r'` behind it. -/
structure Rotation.Chooses (r : Rotation) (endpoints : List Endpoint)
    (choice : Except TransportError Endpoint) (r' : Rotation) : Prop where
  refused_iff : choice = .error (.noInstance r.service) ↔ endpoints = []
  still : endpoints = [] → r' = r
  chosen : endpoints ≠ [] →
    ∃ endpoint, endpoints[r.turn.toNat % endpoints.length]? = some endpoint ∧ choice = .ok endpoint
  next : endpoints ≠ [] → r'.turn.toNat = (r.turn.toNat + 1) % 2 ^ 64 ∧ r'.service = r.service

namespace Rotation

/-- The rotation behind a choice from each list. -/
def after (r : Rotation) (lists : List (List Endpoint)) : Rotation :=
  lists.foldl (fun r endpoints => (r.select endpoints).2) r

/-- What is chosen from each list. -/
def choices (r : Rotation) : List (List Endpoint) → List (Except TransportError Endpoint)
  | [] => []
  | endpoints :: more => (r.select endpoints).1 :: (r.select endpoints).2.choices more

section
variable (r : Rotation)

theorem chooses_select (endpoints : List Endpoint) :
    r.Chooses endpoints (r.select endpoints).1 (r.select endpoints).2 := by
  unfold select
  split
  · rename_i hempty
    exact ⟨by simp [hempty], fun _ => rfl, absurd hempty, absurd hempty⟩
  · rename_i hsome
    refine ⟨by simp [hsome], fun hempty => absurd hempty hsome, fun _ => ?_, fun _ => ⟨?_, rfl⟩⟩
    · exact ⟨_, List.getElem?_eq_getElem _, rfl⟩
    · exact UInt64.toNat_add r.turn 1

theorem after_concat (lists : List (List Endpoint)) (endpoints : List Endpoint) :
    r.after (lists ++ [endpoints]) = ((r.after lists).select endpoints).2 := by
  unfold after
  rw [List.foldl_append]
  rfl

theorem length_choices (lists : List (List Endpoint)) :
    (r.choices lists).length = lists.length := by
  induction lists generalizing r with
  | nil => rfl
  | cons endpoints more ih => rw [choices, List.length_cons, ih, List.length_cons]

theorem choices_take (lists : List (List Endpoint)) (m : Nat) :
    (r.choices lists).take m = r.choices (lists.take m) := by
  induction lists generalizing r m with
  | nil => simp [choices]
  | cons endpoints more ih =>
    cases m with
    | zero => rfl
    | succ m => rw [choices, List.take_succ_cons, ih, List.take_succ_cons, choices]

theorem choices_drop (lists : List (List Endpoint)) (i : Nat) :
    (r.choices lists).drop i = (r.after (lists.take i)).choices (lists.drop i) := by
  induction lists generalizing r i with
  | nil => simp [choices, after]
  | cons endpoints more ih =>
    cases i with
    | zero => rfl
    | succ i =>
      rw [choices, List.drop_succ_cons, ih, List.drop_succ_cons, List.take_succ_cons]
      rfl

/-- A turn is used up wherever there is something to choose. -/
theorem turn_after (lists : List (List Endpoint)) :
    (r.after lists).turn.toNat = (r.turn.toNat + lists.countP (!·.isEmpty)) % 2 ^ 64 := by
  induction lists generalizing r with
  | nil => exact (Nat.mod_eq_of_lt r.turn.toNat_lt).symm
  | cons endpoints more ih =>
    have hchooses := r.chooses_select endpoints
    have hafter : r.after (endpoints :: more) = (r.select endpoints).2.after more := rfl
    rw [hafter, ih, List.countP_cons]
    by_cases hempty : endpoints = []
    · rw [hchooses.still hempty]
      simp [hempty]
    · rw [(hchooses.next hempty).1]
      simp [hempty]
      omega

/-- While the list stays the same and the turn does not wrap, its places are taken in turn. -/
theorem choices_replicate {endpoints : List Endpoint} (hsome : endpoints ≠ []) {m : Nat}
    (hturn : r.turn.toNat + m ≤ 2 ^ 64) :
    ∃ picks : List Endpoint, r.choices (List.replicate m endpoints) = picks.map .ok ∧
      picks.map some = (placesInTurn endpoints.length r.turn.toNat m).map (endpoints[·]?) := by
  induction m generalizing r with
  | zero => exact ⟨[], rfl, rfl⟩
  | succ m ih =>
    have hchooses := r.chooses_select endpoints
    obtain ⟨endpoint, hendpoint, hchoice⟩ := hchooses.chosen hsome
    have hnext := (hchooses.next hsome).1
    -- the last turn may wrap, and then nothing follows
    have hplaces : placesInTurn endpoints.length (r.select endpoints).2.turn.toNat m =
        placesInTurn endpoints.length (r.turn.toNat + 1) m := by
      cases m with
      | zero => rfl
      | succ m => rw [hnext, Nat.mod_eq_of_lt (by omega)]
    obtain ⟨picks, hpicks, htaken⟩ := ih (r.select endpoints).2 (by omega)
    refine ⟨endpoint :: picks, ?_, ?_⟩
    · rw [List.replicate_succ, choices, hchoice, hpicks, List.map_cons]
    · rw [List.map_cons, htaken, hplaces, placesInTurn, List.map_cons, hendpoint]

end

end Rotation

/-! ## The law -/

/-- Choices from any lists one after the other. Each fails if there is nothing to choose, and then
leaves the turn as it was; else it takes the endpoint whose turn it is on the list as it is now.
The turn counts the choices that had something to choose from, and wraps. While the list stays the
same and the turn does not wrap, the choices go round the list. -/
theorem a_rotation_goes_round_its_list (r : Rotation) (lists : List (List Endpoint)) :
    (r.choices lists).length = lists.length ∧
    (∀ (i : Nat) endpoints, lists[i]? = some endpoints →
      ∃ choice, (r.choices lists)[i]? = some choice ∧
        (r.after (lists.take i)).Chooses endpoints choice (r.after (lists.take (i + 1)))) ∧
    (∀ i, (r.after (lists.take i)).turn.toNat =
      (r.turn.toNat + (lists.take i).countP (!·.isEmpty)) % 2 ^ 64) ∧
    (∀ i m endpoints, endpoints ≠ [] → (lists.drop i).take m = List.replicate m endpoints →
      (r.after (lists.take i)).turn.toNat + m ≤ 2 ^ 64 →
      ∃ picks : List Endpoint, ((r.choices lists).drop i).take m = picks.map .ok ∧
        picks.length = m ∧ TakenEvenly endpoints picks) := by
  refine ⟨r.length_choices lists, ?_, fun i => r.turn_after _, ?_⟩
  · intro i endpoints hi
    have hnow : lists.drop i = endpoints :: lists.drop (i + 1) := by
      obtain ⟨hlt, rfl⟩ := List.getElem?_eq_some_iff.mp hi
      exact List.drop_eq_getElem_cons hlt
    refine ⟨((r.after (lists.take i)).select endpoints).1, ?_, ?_⟩
    · rw [← List.head?_drop, r.choices_drop, hnow]
      rfl
    · rw [List.take_add_one, hi, Option.toList_some, r.after_concat]
      exact Rotation.chooses_select _ endpoints
  · intro i m endpoints hsome hsame hturn
    obtain ⟨picks, hpicks, htaken⟩ := Rotation.choices_replicate _ hsome hturn
    rw [r.choices_drop, Rotation.choices_take, hsame]
    have hlength : picks.length = m := by
      have := congrArg List.length hpicks
      rw [Rotation.length_choices, List.length_replicate, List.length_map] at this
      exact this.symm
    exact ⟨picks, hpicks, hlength, takenEvenly_of_places (hlength ▸ htaken)⟩

/-- Three endpoints, then none, then two of the three: the turn waits while there is none, wraps,
and goes round the two. -/
theorem a_list_that_is_empty_for_a_while :
    let a : Endpoint := .ofUrl { scheme := "https".toList, authority := some "a.example".toList,
                                 path := ['/'], query := none, fragment := none }
    let b : Endpoint := { a with id := "b" }
    let c : Endpoint := { a with id := "c" }
    let r : Rotation := { service := "users", turn := 18446744073709551614 }
    let lists := [[a, b, c], [], [a, b], [a, b], [a, b]]
    (r.choices lists)[1]? = some (.error (.noInstance "users")) ∧
      (r.after (lists.take 2)).turn.toNat = 18446744073709551615 ∧
      (r.after (lists.take 3)).turn.toNat = 0 ∧
      ∃ picks : List Endpoint, ((r.choices lists).drop 3).take 2 = picks.map .ok ∧
        picks.Perm [a, b] := by
  intro a b c r lists
  obtain ⟨-, hchoices, hturns, hrounds⟩ := a_rotation_goes_round_its_list r lists
  obtain ⟨choice, hchoice, hchooses⟩ := hchoices 1 [] rfl
  obtain ⟨picks, hpicks, hlength, heven⟩ :=
    hrounds 3 2 [a, b] (by simp) rfl (by rw [hturns 3]; decide)
  refine ⟨?_, (hturns 2).trans (by decide), (hturns 3).trans (by decide), picks, hpicks,
    heven.round hlength⟩
  rw [hchoice, hchooses.refused_iff.mpr rfl]
  rfl

end HttpCalls
