import InstallerKit.Fault.Trail
import Mathlib.Data.List.Chain

/-!
# Where trails end

A history may share problems and may go round in circles, so that a trail has no shape to go
by. It ends because it passes no problem twice, and there are finitely many. The walk back is
told here by its steps alone, with no bound on their number (`Walks`). The bound of a trail is
one that this walk never meets: it ends on its own, where nothing leads on or before a problem
that it has passed.

What makes up a trail can be said of it as a whole, too: it starts where it should, it goes back
step by step, it passes nothing twice, and it only stops where it must. There is just one such
trail.

* `back_eq_some_iff`: a step back;
* `walks_trail`: the walk ends, and what it passes is the trail;
* `isTrail_trail`, `IsTrail.eq`: what a trail is.
-/

namespace InstallerKit.Fault

variable {f : Fault} {i j : Nat} {passed t t' : List Nat} {start : Option Nat}

/-- The problem `i` leads back to `j`: to its cause, or, if it has none, to what was being dealt
    with when it came up. -/
def LeadsBack (f : Fault) (i j : Nat) : Prop :=
  ∃ n, f.nodes[i]? = some n ∧ (n.cause = some j ∨ n.cause = none ∧ n.context = some j) ∧
    j < f.nodes.length

theorem back_eq_some_iff : f.back i = some j ↔ f.LeadsBack i j := by
  have horElse (a b : Option Nat) : (a <|> b) = some j ↔ a = some j ∨ a = none ∧ b = some j := by
    cases a <;> simp
  rw [back, LeadsBack, Option.bind_eq_bind, Option.bind_eq_some_iff]
  simp only [Option.filter_eq_some_iff, horElse, decide_eq_true_eq]

theorem lt_of_back (h : f.back i = some j) : j < f.nodes.length := by
  obtain ⟨n, -, -, hj⟩ := back_eq_some_iff.1 h
  exact hj

/-! ### Walks -/

/-- A walk back that stays away from what has been passed, for as long as it goes on. -/
inductive Walks (f : Fault) : List Nat → Option Nat → List Nat → Prop
  /-- Nothing leads on. -/
  | ended {passed : List Nat} : Walks f passed none []
  | met {passed : List Nat} {i : Nat} : i ∈ passed → Walks f passed (some i) []
  | on {passed : List Nat} {i : Nat} {t : List Nat} :
      i ∉ passed → Walks f (i :: passed) (f.back i) t → Walks f passed (some i) (i :: t)

/-- There is no choice in a walk. -/
theorem Walks.eq (h : f.Walks passed start t) (h' : f.Walks passed start t') : t = t' := by
  induction h generalizing t' with
  | ended => cases h'; rfl
  | met hi =>
    cases h' with
    | met => rfl
    | on hnot => exact absurd hi hnot
  | on hi _ ih =>
    cases h' with
    | met hmet => exact absurd hmet hi
    | on _ hrest => rw [ih hrest]

/-- Where as many numbers have been passed as there are, every number has been. -/
theorem mem_of_length_le {n : Nat} (hnodup : passed.Nodup) (hpassed : ∀ j ∈ passed, j < n)
    (hlength : n ≤ passed.length) (hi : i < n) : i ∈ passed := by
  by_contra hnot
  have hsubset : i :: passed ⊆ List.range n := by
    simpa [List.cons_subset, List.subset_def, List.mem_range] using ⟨hi, hpassed⟩
  have hle := (List.nodup_cons.2 ⟨hnot, hnodup⟩).length_le_of_subset hsubset
  rw [List.length_cons, List.length_range] at hle
  omega

/-- The walk has ended when the steps of a trail are used up, if they are no fewer than what has
    not been passed. -/
theorem walks_trailFrom {fuel : Nat} (hnodup : passed.Nodup)
    (hpassed : ∀ j ∈ passed, j < f.nodes.length) (hstart : ∀ i ∈ start, i < f.nodes.length)
    (hfuel : f.nodes.length ≤ passed.length + fuel) :
    f.Walks passed start (f.trailFrom fuel passed start) := by
  induction fuel generalizing passed start with
  | zero =>
    cases start with
    | none => exact .ended
    | some i => exact .met (mem_of_length_le hnodup hpassed hfuel (hstart i rfl))
  | succ fuel ih =>
    cases start with
    | none => exact .ended
    | some i =>
      rw [trailFrom]
      split
      · next hmet => exact .met hmet
      · next hnot =>
        refine .on hnot (ih (List.nodup_cons.2 ⟨hnot, hnodup⟩) ?_ (fun j hj => lt_of_back hj) ?_)
        · exact List.forall_mem_cons.2 ⟨hstart i rfl, hpassed⟩
        · rw [List.length_cons]
          omega

/-- A walk back from anywhere ends, and what it passes is the trail. -/
theorem walks_trail (hstart : ∀ i ∈ start, i < f.nodes.length) :
    f.Walks [] start (f.trail start) :=
  walks_trailFrom List.nodup_nil (by simp) hstart (by simp)

/-! ### Trails as a whole -/

/-- The trail from a problem back, as seen when it is over. -/
structure IsTrail (f : Fault) (i : Nat) (t : List Nat) : Prop where
  head : t.head? = some i
  follows : t.IsChain f.LeadsBack
  nodup : t.Nodup
  /-- What the last problem leads back to has been passed. -/
  stops : ∀ k ∈ t.getLast?, ∀ j, f.LeadsBack k j → j ∈ t

theorem Walks.head?_eq (h : f.Walks passed start t) : ∀ k ∈ t.head?, start = some k := by
  cases h with
  | ended | met => simp
  | on => simp

theorem Walks.isChain (h : f.Walks passed start t) : t.IsChain f.LeadsBack := by
  induction h with
  | ended | met => exact .nil
  | on _ hrest ih =>
    rw [List.isChain_cons]
    exact ⟨fun k hk => back_eq_some_iff.1 (hrest.head?_eq k hk), ih⟩

theorem Walks.nodup (h : f.Walks passed start t) : t.Nodup ∧ ∀ k ∈ t, k ∉ passed := by
  induction h with
  | ended | met => simp
  | on hnot _ ih =>
    refine ⟨List.nodup_cons.2 ⟨fun hmem => ih.2 _ hmem List.mem_cons_self, ih.1⟩, ?_⟩
    exact List.forall_mem_cons.2 ⟨hnot, fun k hk hmem => ih.2 k hk (List.mem_cons_of_mem _ hmem)⟩

theorem Walks.lt (h : f.Walks passed start t) (hstart : ∀ i ∈ start, i < f.nodes.length) :
    ∀ k ∈ t, k < f.nodes.length := by
  induction h with
  | ended | met => simp
  | on _ _ ih => exact List.forall_mem_cons.2 ⟨hstart _ rfl, ih fun j hj => lt_of_back hj⟩

/-- A walk only stops where nothing leads on, or where it would come to what has been passed. -/
theorem Walks.stops (h : f.Walks passed start t) :
    (t = [] → ∀ j ∈ start, j ∈ passed) ∧
      ∀ k ∈ t.getLast?, ∀ j, f.LeadsBack k j → j ∈ passed ∨ j ∈ t := by
  induction h with
  | ended => simp
  | met hi => simp [hi]
  | @on passed i t _ _ ih =>
    refine ⟨by simp, fun k hk j hj => ?_⟩
    cases t with
    | nil =>
      obtain rfl : i = k := by simpa using hk
      have hmem := ih.1 rfl j (back_eq_some_iff.2 hj)
      simpa [or_comm] using hmem
    | cons m t =>
      rw [List.getLast?_cons_cons] at hk
      rcases ih.2 k hk j hj with hmem | hmem
      · rcases List.mem_cons.1 hmem with rfl | hmem
        · exact .inr List.mem_cons_self
        · exact .inl hmem
      · exact .inr (List.mem_cons_of_mem i hmem)

theorem Walks.isTrail (h : f.Walks [] (some i) t) : f.IsTrail i t where
  head := by
    cases h with
    | met hi => cases hi
    | on => rfl
  follows := h.isChain
  nodup := h.nodup.1
  stops k hk j hj := (h.stops.2 k hk j hj).resolve_left List.not_mem_nil

/-- Whatever goes back step by step, passes nothing twice and stops where it must is a walk. -/
theorem walks_of_isChain (hchain : (i :: t).IsChain f.LeadsBack) (hnodup : (i :: t).Nodup)
    (hpassed : ∀ k ∈ i :: t, k ∉ passed)
    (hstops : ∀ k ∈ (i :: t).getLast?, ∀ j, f.LeadsBack k j → j ∈ passed ∨ j ∈ i :: t) :
    f.Walks passed (some i) (i :: t) := by
  induction t generalizing i passed with
  | nil =>
    refine .on (hpassed i List.mem_cons_self) ?_
    cases hback : f.back i with
    | none => exact .ended
    | some j =>
      refine .met ?_
      have hmem := hstops i rfl j (back_eq_some_iff.1 hback)
      simpa [or_comm] using hmem
  | cons k t ih =>
    rw [List.isChain_cons_cons] at hchain
    rw [List.nodup_cons] at hnodup
    refine .on (hpassed i List.mem_cons_self) ?_
    rw [back_eq_some_iff.2 hchain.1]
    refine ih hchain.2 hnodup.2 (fun m hm hmem => ?_) (fun m hm j hj => ?_)
    · rcases List.mem_cons.1 hmem with rfl | hmem
      · exact hnodup.1 hm
      · exact hpassed m (List.mem_cons_of_mem i hm) hmem
    · rcases hstops m (by rwa [List.getLast?_cons_cons]) j hj with hmem | hmem
      · exact .inl (List.mem_cons_of_mem i hmem)
      · rcases List.mem_cons.1 hmem with rfl | hmem
        · exact .inl List.mem_cons_self
        · exact .inr hmem

theorem IsTrail.walks (h : f.IsTrail i t) : f.Walks [] (some i) t := by
  obtain ⟨rest, rfl⟩ := List.head?_eq_some_iff.1 h.head
  exact walks_of_isChain h.follows h.nodup (by simp) fun k hk j hj => .inr (h.stops k hk j hj)

/-- There is only one trail from a problem. -/
theorem IsTrail.eq (h : f.IsTrail i t) (h' : f.IsTrail i t') : t = t' :=
  h.walks.eq h'.walks

theorem isTrail_trail (hi : i < f.nodes.length) : f.IsTrail i (f.trail (some i)) :=
  (walks_trail (by simpa using hi)).isTrail

end InstallerKit.Fault
