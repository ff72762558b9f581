import InstallerKit.Proofs.Fault.Message
import Mathlib.Logic.Relation

/-!
# Causes of a fault

The causes of a fault are read off a walk of their own. It starts one step behind the reported
problem, where the walk for the messages comes to next, but it has not passed that problem. So
the two walks go the same way, and the only thing that can make a difference is the reported
problem itself: if going back from it leads to it again, the walk for the causes does not stop
before it, passes it, and stops there. The reported problem is then the last of its own causes.

* `Walks.mem_iff`: a walk passes whatever can be gone back to;
* `Walks.exists_walks_of_unpassed`: the walk that does not know that a problem has been passed;
* `causes_of_trail`: the causes of a fault.
-/

namespace InstallerKit.Fault

open Relation

variable {f : Fault} {i j k : Nat} {passed passed' t : List Nat} {start : Option Nat}

/-- A problem is on a circle if going back from it leads to it again. -/
def IsOnCircle (f : Fault) (i : Nat) : Prop :=
  TransGen f.LeadsBack i i

/-! ### What a walk passes -/

/-- There is nothing beside the way: a walk has passed what its problems lead back to. -/
theorem Walks.closed (h : f.Walks passed start t) :
    (∀ j ∈ start, j ∈ passed ∨ j ∈ t) ∧
      ∀ k ∈ t, ∀ j, f.LeadsBack k j → j ∈ passed ∨ j ∈ t := by
  induction h with
  | ended => simp
  | met hi => simp [hi]
  | @on passed i t _ _ ih =>
    have hstep (j : Nat) (hj : j ∈ i :: passed ∨ j ∈ t) : j ∈ passed ∨ j ∈ i :: t := by
      rcases hj with hj | hj
      · rcases List.mem_cons.1 hj with rfl | hj
        · exact .inr List.mem_cons_self
        · exact .inl hj
      · exact .inr (List.mem_cons_of_mem i hj)
    refine ⟨by simp, List.forall_mem_cons.2 ⟨fun j hj => ?_, fun k hk j hj => ?_⟩⟩
    · exact hstep j (ih.1 j (back_eq_some_iff.2 hj))
    · exact hstep j (ih.2 k hk j hj)

theorem Walks.exists_reflTransGen (h : f.Walks passed start t) :
    ∀ k ∈ t, ∃ j ∈ start, ReflTransGen f.LeadsBack j k := by
  induction h with
  | ended | met => simp
  | @on passed i t _ _ ih =>
    refine List.forall_mem_cons.2 ⟨⟨i, rfl, .refl⟩, fun k hk => ?_⟩
    obtain ⟨j, hj, hreach⟩ := ih k hk
    exact ⟨i, rfl, .head (back_eq_some_iff.1 hj) hreach⟩

/-- A walk that has passed nothing before passes just what can be gone back to. -/
theorem Walks.mem_iff (h : f.Walks [] start t) :
    k ∈ t ↔ ∃ j ∈ start, ReflTransGen f.LeadsBack j k := by
  refine ⟨h.exists_reflTransGen k, ?_⟩
  rintro ⟨j, hj, hreach⟩
  induction hreach with
  | refl => exact (h.closed.1 j hj).resolve_left List.not_mem_nil
  | tail _ hback ih => exact (h.closed.2 _ ih _ hback).resolve_left List.not_mem_nil

/-! ### The two walks -/

/-- A walk that does not know that `i` has been passed goes the same way. It only may come to
    `i` in the end, where it stops, because it has been where `i` leads back to. -/
theorem Walks.exists_walks_of_unpassed (h : f.Walks passed start t)
    (hpassed : ∀ j, j ∈ passed ↔ j = i ∨ j ∈ passed') (hi : i ∉ passed')
    (hback : ∀ j ∈ f.back i, j ∈ start ∨ j ∈ passed') :
    ∃ t', f.Walks passed' start t' ∧ (t' = t ∨ t' = t ++ [i]) := by
  induction h generalizing passed' with
  | ended => exact ⟨[], .ended, .inl rfl⟩
  | @met passed k hk =>
    rcases (hpassed k).1 hk with rfl | hk
    · refine ⟨[k], .on hi ?_, .inr rfl⟩
      cases hnext : f.back k with
      | none => exact .ended
      | some j =>
        refine .met ?_
        rcases hback j hnext with hj | hj
        · exact Option.some.inj hj ▸ List.mem_cons_self
        · exact List.mem_cons_of_mem k hj
    · exact ⟨[], .met hk, .inl rfl⟩
  | @on passed k t hk _ ih =>
    have hki : k ≠ i := fun h => hk ((hpassed k).2 (.inl h))
    have hk' : k ∉ passed' := fun h => hk ((hpassed k).2 (.inr h))
    obtain ⟨t', hwalk, ht'⟩ := @ih (k :: passed')
      (fun j => by rw [List.mem_cons, List.mem_cons, hpassed j, or_left_comm])
      (by rw [List.mem_cons, not_or]; exact ⟨hki.symm, hi⟩)
      (fun j hj => (hback j hj).elim (fun h => .inr (Option.some.inj h ▸ List.mem_cons_self))
        fun h => .inr (List.mem_cons_of_mem k h))
    exact ⟨k :: t', .on hk' hwalk, by rcases ht' with rfl | rfl <;> simp⟩

/-- The problem at every number of a walk is among the problems at its numbers. -/
theorem forall₂_problemsAt {is : List Nat} (h : ∀ i ∈ is, i < f.nodes.length) :
    List.Forall₂ (fun i p => f.nodes[i]?.map Node.problem = some p) is (f.problemsAt is) := by
  induction is with
  | nil => exact .nil
  | cons i is ih =>
    rw [List.forall_mem_cons] at h
    have hnode : f.nodes[i]?.map Node.problem = some f.nodes[i].problem := by
      rw [List.getElem?_eq_getElem h.1]
      rfl
    have hproblems : f.problemsAt (i :: is) = f.nodes[i].problem :: f.problemsAt is :=
      List.filterMap_cons_some hnode
    rw [hproblems]
    exact .cons hnode (ih h.2)

/-- The causes of a fault are the problems that the walk for its messages passes behind the
    reported one, in the same order, unless the reported problem is on a circle: then it comes
    after them as the last one. No problem is listed twice. -/
theorem causes_of_trail (f : Fault) :
    ∃ rest causes, f.Walks [] (some f.head) (f.head :: rest) ∧
      f.messages = (f.head :: rest).filterMap (fun i => line? (f.textAt i)) ∧
      f.Walks [] (f.back f.head) causes ∧
      List.Forall₂ (fun i p => f.nodes[i]?.map Node.problem = some p) causes f.causes ∧
      causes.Nodup ∧
      (¬ f.IsOnCircle f.head ∧ causes = rest ∧ f.head ∉ causes ∨
        f.IsOnCircle f.head ∧ causes = rest ++ [f.head]) := by
  have hmessages := messages_eq f
  have hwalk : f.Walks [] (some f.head) (f.trail (some f.head)) :=
    walks_trail (by simpa using f.head_lt)
  have hstart : ∀ i ∈ f.back f.head, i < f.nodes.length := fun i hi => lt_of_back hi
  have hcauses : f.Walks [] (f.back f.head) (f.trail (f.back f.head)) := walks_trail hstart
  obtain ⟨rest, hrest⟩ := List.head?_eq_some_iff.1 hwalk.isTrail.head
  rw [hrest] at hwalk hmessages
  have hbehind : f.Walks [f.head] (f.back f.head) rest := by
    cases hwalk with
    | on _ hbehind => exact hbehind
  obtain ⟨t', ht', heither⟩ := hbehind.exists_walks_of_unpassed (i := f.head)
    (by simp) List.not_mem_nil fun j hj => .inl hj
  obtain rfl := ht'.eq hcauses
  have hnot : f.head ∉ rest := (List.nodup_cons.1 hwalk.nodup.1).1
  have hcircle : f.head ∈ f.trail (f.back f.head) ↔ f.IsOnCircle f.head := by
    rw [hcauses.mem_iff, IsOnCircle, TransGen.head'_iff]
    simp only [← back_eq_some_iff, Option.mem_def]
  refine ⟨rest, _, hwalk, hmessages, hcauses, forall₂_problemsAt (hcauses.lt hstart),
    hcauses.nodup.1, ?_⟩
  rcases heither with heq | heq
  · rw [← hcircle, heq]
    exact .inl ⟨hnot, rfl, hnot⟩
  · rw [← hcircle, heq]
    exact .inr ⟨by simp, rfl⟩

/-- Of two problems that are each other's cause, the reported one is among its own causes. -/
theorem causes_of_mutual_causes :
    let f : Fault := ⟨[⟨.reported .value "a", [], some 1, none⟩,
      ⟨.reported .value "b", [], some 0, none⟩], 0, Nat.two_pos⟩
    f.trail (some f.head) = [f.head, 1] ∧ f.messages = ["a", "b"] ∧
      f.trail (f.back f.head) = [1, f.head] ∧
      f.causes.map entry = ["ValueError: b", "ValueError: a"] := by
  decide +kernel

end InstallerKit.Fault
