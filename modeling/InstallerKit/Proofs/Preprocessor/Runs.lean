import InstallerKit.Preprocessor
import Mathlib

/-!
# Runs of dollars

Protecting a text makes its runs of dollars longer and touches nothing else. Of a run only
the last dollar can open a reference, and whether it does depends on what follows the run:
a parenthesis that is closed later. As this is still so when the runs have become longer, it
is known at once how long a run is after any number of passes, and how long it has been
before the last one.

* `resize`: the text with its runs given other lengths;
* `resize_resize`: the runs may be resized one after the other, or at once;
* `iterate_escape`: the runs after any number of passes;
* `escape_eq_self_iff`: the texts that need no protection;
* `runs_iterate_escapeText`: what protecting a text does to it, and how that is undone.
-/

namespace InstallerKit.Preprocessor

/-! ### Runs -/

/-- The text with every longest run of dollars given another length, which depends on the
    length of the run and on what follows it. -/
def resize (length : Nat → List Char → Nat) : List Char → List Char
  | [] => []
  | c :: cs =>
    if c = '$' then
      let rest := cs.dropWhile (· = '$')
      List.replicate (length ((cs.takeWhile (· = '$')).length + 1) rest) '$' ++ resize length rest
    else c :: resize length cs
termination_by cs => cs.length
decreasing_by
  · exact Nat.lt_succ_of_le (List.dropWhile_suffix _).length_le
  · exact Nat.lt_succ_self _

variable {f g : Nat → List Char → Nat} {c : Char} {cs rest : List Char}

@[simp] theorem resize_nil : resize f [] = [] := by
  rw [resize]

theorem resize_cons (h : c ≠ '$') : resize f (c :: cs) = c :: resize f cs := by
  rw [resize, if_neg h]

theorem resize_run (k : Nat) (h : rest.head? ≠ some '$') :
    resize f (List.replicate (k + 1) '$' ++ rest) =
      List.replicate (f (k + 1) rest) '$' ++ resize f rest := by
  have htake : rest.takeWhile (· = '$') = [] := by
    cases rest with
    | nil => rfl
    | cons c rest => exact List.takeWhile_cons_of_neg (by simpa using h)
  have hdrop : rest.dropWhile (· = '$') = rest := by
    cases rest with
    | nil => rfl
    | cons c rest => exact List.dropWhile_cons_of_neg (by simpa using h)
  rw [List.replicate_succ, List.cons_append, resize, if_pos rfl]
  simp [List.takeWhile_append_of_pos, List.dropWhile_append_of_pos, htake, hdrop]

/-- Induction along a text, over characters that are no dollars and longest runs of
    dollars. -/
theorem byRuns {motive : List Char → Prop} (nil : motive [])
    (char : ∀ c cs, c ≠ '$' → motive cs → motive (c :: cs))
    (run : ∀ k rest, rest.head? ≠ some '$' → motive rest →
      motive (List.replicate (k + 1) '$' ++ rest)) (cs : List Char) : motive cs := by
  induction h : cs.length using Nat.strongRecOn generalizing cs with
  | ind n ih =>
    subst h
    cases cs with
    | nil => exact nil
    | cons c cs =>
      by_cases hc : c = '$'
      · -- The run ends where the first other character is, and what is left is shorter.
        subst hc
        have hrun : cs.takeWhile (· = '$') = List.replicate (cs.takeWhile (· = '$')).length '$' :=
          List.eq_replicate_of_mem fun d hd => by
            simpa using List.all_eq_true.1 (List.all_takeWhile (p := (· = '$'))) d hd
        have hhead : (cs.dropWhile (· = '$')).head? ≠ some '$' := by
          intro h
          have := List.head?_dropWhile_not (· = '$') cs
          rw [h] at this
          simp at this
        have hlt : (cs.dropWhile (· = '$')).length < ('$' :: cs).length :=
          Nat.lt_succ_of_le (List.dropWhile_suffix _).length_le
        have := run (cs.takeWhile (· = '$')).length _ hhead (ih _ hlt _ rfl)
        rwa [List.replicate_succ, ← hrun, List.cons_append, List.takeWhile_append_dropWhile] at this
      · exact char c cs hc (ih _ (Nat.lt_succ_self _) cs rfl)

/-- Runs that keep their lengths make the same text. -/
theorem resize_eq_self (h : ∀ k rest, f (k + 1) rest = k + 1) (cs : List Char) :
    resize f cs = cs := by
  induction cs using byRuns with
  | nil => exact resize_nil
  | char c cs hc ih => rw [resize_cons hc, ih]
  | run k rest hrest ih => rw [resize_run k hrest, h, ih]

/-- Characters that are no dollars stay what they are, and in their order. -/
theorem filter_resize (cs : List Char) :
    (resize f cs).filter (· ≠ '$') = cs.filter (· ≠ '$') := by
  induction cs using byRuns with
  | nil => rw [resize_nil]
  | char c cs hc ih => rw [resize_cons hc, List.filter_cons, List.filter_cons, ih]
  | run k rest hrest ih =>
    have hdollars (n : Nat) : (List.replicate n '$').filter (· ≠ '$') = [] := by simp
    rw [resize_run k hrest, List.filter_append, List.filter_append, hdollars, hdollars, ih]

theorem mem_resize_iff (hc : c ≠ '$') : c ∈ resize f cs ↔ c ∈ cs := by
  have hmem (ds : List Char) : c ∈ ds ↔ c ∈ ds.filter (· ≠ '$') := by simp [hc]
  rw [hmem, filter_resize, ← hmem]

section Composition

variable (hf : ∀ k rest, 0 < f (k + 1) rest)
include hf

/-- Where no run vanishes, a text starts as it did. -/
theorem head?_resize (cs : List Char) : (resize f cs).head? = cs.head? := by
  induction cs using byRuns with
  | nil => rw [resize_nil]
  | char c cs hc ih => rw [resize_cons hc, List.head?_cons, List.head?_cons]
  | run k rest hrest ih =>
    obtain ⟨n, hn⟩ := Nat.exists_eq_add_of_lt (hf k rest)
    rw [resize_run k hrest, hn, Nat.zero_add, List.replicate_succ, List.replicate_succ]
    rfl

/-- Runs may be resized one time after the other, or at once, unless some vanish and others
    run together. -/
theorem resize_resize (cs : List Char) :
    resize g (resize f cs) = resize (fun k rest => g (f k rest) (resize f rest)) cs := by
  induction cs using byRuns with
  | nil => rw [resize_nil, resize_nil, resize_nil]
  | char c cs hc ih => rw [resize_cons hc, resize_cons hc, resize_cons hc, ih]
  | run k rest hrest ih =>
    obtain ⟨n, hn⟩ := Nat.exists_eq_add_of_lt (hf k rest)
    rw [Nat.zero_add] at hn
    have hhead : (resize f rest).head? ≠ some '$' := by rwa [head?_resize hf]
    rw [resize_run k hrest, resize_run k hrest, hn, resize_run n hhead, ih]

end Composition

/-! ### Passes -/

/-- The length of a run of `k` dollars after `n` passes. -/
def runLength (n k : Nat) (rest : List Char) : Nat :=
  if rest.head? = some '(' ∧ ')' ∈ rest then 2 ^ n * (k - 1) + 1 else 2 ^ n * k

theorem runLength_pos (n k : Nat) (rest : List Char) : 0 < runLength n (k + 1) rest := by
  unfold runLength
  split
  · exact Nat.succ_pos _
  · exact Nat.mul_pos (Nat.two_pow_pos n) (Nat.succ_pos k)

/-- What follows a run still makes the same difference when the runs in it are longer. -/
theorem runLength_runLength (m n k : Nat) (rest : List Char) :
    runLength m (runLength n k rest) (resize (runLength n) rest) = runLength (n + m) k rest := by
  have hopens : ((resize (runLength n) rest).head? = some '(' ∧ ')' ∈ resize (runLength n) rest) ↔
      rest.head? = some '(' ∧ ')' ∈ rest := by
    rw [head?_resize (runLength_pos n), mem_resize_iff (by decide)]
  by_cases h : rest.head? = some '(' ∧ ')' ∈ rest
  · simp only [runLength, hopens, if_pos h, Nat.add_sub_cancel]
    rw [← Nat.mul_assoc, ← Nat.pow_add, Nat.add_comm m n]
  · simp only [runLength, hopens, if_neg h]
    rw [← Nat.mul_assoc, ← Nat.pow_add, Nat.add_comm m n]

theorem opensReference_iff_head? :
    opensReference cs = true ↔ cs.head? = some '(' ∧ ')' ∈ cs := by
  cases cs with
  | nil => simp [opensReference]
  | cons c cs =>
    rw [opensReference, Bool.and_eq_true, beq_iff_eq, List.contains_iff_mem, List.head?_cons,
      Option.some.injEq]
    refine and_congr_right ?_
    rintro rfl
    simp

/-- A dollar opens a reference if a parenthesis follows it that is closed later. -/
theorem opensReference_iff :
    opensReference cs = true ↔ ∃ name rest, cs = '(' :: (name ++ ')' :: rest) := by
  cases cs with
  | nil => simp [opensReference]
  | cons c cs =>
    rw [opensReference, Bool.and_eq_true, beq_iff_eq, List.contains_iff_mem, List.mem_iff_append]
    constructor
    · rintro ⟨rfl, name, rest, rfl⟩
      exact ⟨name, rest, rfl⟩
    · rintro ⟨name, rest, h⟩
      obtain ⟨rfl, rfl⟩ := List.cons.inj h
      exact ⟨rfl, name, rest, rfl⟩

/-- One pass doubles the dollars of a run, but for the last one if it opens a reference. -/
theorem escape_run (k : Nat) (rest : List Char) :
    escape (List.replicate (k + 1) '$' ++ rest) =
      List.replicate (runLength 1 (k + 1) rest) '$' ++ escape rest := by
  induction k with
  | zero =>
    rw [List.replicate_one, List.singleton_append, escape, runLength]
    by_cases hopens : opensReference rest = true
    · rw [if_neg (by simp [hopens]), if_pos (opensReference_iff_head?.1 hopens)]
      rfl
    · rw [if_pos ⟨rfl, Bool.not_eq_true _ ▸ hopens⟩, if_neg (mt opensReference_iff_head?.2 hopens)]
      rfl
  | succ k ih =>
    -- A dollar that another one follows opens nothing.
    have hdouble : escape (List.replicate (k + 1 + 1) '$' ++ rest) =
        '$' :: '$' :: escape (List.replicate (k + 1) '$' ++ rest) := by
      rw [List.replicate_succ, List.cons_append, escape, if_pos ⟨rfl, rfl⟩]
    have hlength : runLength 1 (k + 1 + 1) rest = runLength 1 (k + 1) rest + 1 + 1 := by
      unfold runLength
      split <;> omega
    rw [hdouble, ih, hlength, List.replicate_succ, List.replicate_succ]
    rfl

theorem escape_eq_resize (cs : List Char) : escape cs = resize (runLength 1) cs := by
  induction cs using byRuns with
  | nil => rw [resize_nil, escape]
  | char c cs hc ih => rw [resize_cons hc, escape, if_neg fun h => hc h.1, ih]
  | run k rest hrest ih => rw [resize_run k hrest, escape_run k rest, ih]

/-- The runs after any number of passes. -/
theorem iterate_escape (n : Nat) (cs : List Char) : escape^[n] cs = resize (runLength n) cs := by
  induction n with
  | zero =>
    refine (resize_eq_self (fun k rest => ?_) cs).symm
    unfold runLength
    split <;> omega
  | succ n ih =>
    rw [Function.iterate_succ_apply', ih, escape_eq_resize, resize_resize (runLength_pos n)]
    exact congrArg (resize · cs) (funext fun k => funext fun rest => runLength_runLength 1 n k rest)

/-- Half of each run, rounded up, is the text before the last pass. -/
theorem resize_half_escape (cs : List Char) : resize (fun k _ => (k + 1) / 2) (escape cs) = cs := by
  rw [escape_eq_resize, resize_resize (runLength_pos 1)]
  refine resize_eq_self (fun k rest => ?_) cs
  unfold runLength
  split <;> omega

theorem length_le_length_escape (cs : List Char) : cs.length ≤ (escape cs).length := by
  induction cs with
  | nil => exact Nat.zero_le _
  | cons c cs ih =>
    rw [escape]
    split <;> simp only [List.length_cons] <;> omega

/-- The texts that need no protection are those whose dollars all open references. -/
theorem escape_eq_self_iff :
    escape cs = cs ↔ ∀ after, '$' :: after <:+ cs → opensReference after = true := by
  induction cs with
  | nil => simp [escape]
  | cons c cs ih =>
    rw [escape]
    split
    · next h =>
      -- A doubled dollar makes the text longer for good.
      obtain ⟨rfl, hopens⟩ := h
      constructor
      · intro heq
        have hle := length_le_length_escape cs
        have hlength := congrArg List.length (List.cons.inj heq).2
        rw [List.length_cons] at hlength
        omega
      · intro hall
        rw [hall cs (List.suffix_refl _)] at hopens
        cases hopens
    · next h =>
      rw [List.cons.injEq, eq_self, true_and, ih]
      constructor
      · intro hall after hafter
        rcases List.suffix_cons_iff.1 hafter with heq | hafter
        · obtain ⟨rfl, rfl⟩ := List.cons.inj heq
          exact Bool.not_eq_false _ ▸ fun hopens => h ⟨rfl, hopens⟩
        · exact hall after hafter
      · exact fun hall after hafter => hall after (hafter.trans (List.suffix_cons c cs))

/-! ### Texts -/

theorem toList_escapeText (s : String) : (escapeText s).toList = escape s.toList := by
  rw [escapeText, String.toList_ofList]

theorem toList_iterate_escapeText (n : Nat) (s : String) :
    (escapeText^[n] s).toList = escape^[n] s.toList := by
  induction n generalizing s with
  | zero => rfl
  | succ n ih =>
    rw [Function.iterate_succ_apply, ih, toList_escapeText, Function.iterate_succ_apply]

/-- Every pass doubles the dollars of each run, but for a last one that opens a reference,
    and touches nothing else. So each pass can be undone, and protected texts that are the
    same come from the same text. The texts that are their own protected form are those whose
    dollars all open references, as in a text without dollars, which need not be looked
    through. -/
theorem runs_iterate_escapeText :
    (∀ (n : Nat) (s : String), (escapeText^[n] s).toList = resize (runLength n) s.toList ∧
      (escapeText^[n] s).toList.filter (· ≠ '$') = s.toList.filter (· ≠ '$')) ∧
    (∀ s : String, resize (fun k _ => (k + 1) / 2) (escapeText s).toList = s.toList) ∧
    Function.Injective escapeText ∧
    (∀ s : String, escapeText s = s ↔ ∀ after, '$' :: after <:+ s.toList →
      ∃ name rest, after = '(' :: (name ++ ')' :: rest)) ∧
    ∀ s : String, '$' ∉ s.toList → escapeText s = s := by
  have hundo (s : String) : resize (fun k _ => (k + 1) / 2) (escapeText s).toList = s.toList := by
    rw [toList_escapeText, resize_half_escape]
  have hself (s : String) : escapeText s = s ↔ ∀ after, '$' :: after <:+ s.toList →
      ∃ name rest, after = '(' :: (name ++ ')' :: rest) := by
    rw [← String.toList_inj, toList_escapeText, escape_eq_self_iff]
    simp only [opensReference_iff]
  refine ⟨fun n s => ?_, hundo, fun s t h => ?_, hself, fun s hs => ?_⟩
  · have hrun : (escapeText^[n] s).toList = resize (runLength n) s.toList := by
      rw [toList_iterate_escapeText, iterate_escape]
    exact ⟨hrun, by rw [hrun, filter_resize]⟩
  · rw [← String.toList_inj, ← hundo s, ← hundo t, h]
  · exact (hself s).2 fun after hafter => absurd (hafter.mem List.mem_cons_self) hs

/-- The last dollar of the first run opens a reference, that of the second one does not. -/
theorem runs_iterate_escapeText_of_two_runs :
    escapeText^[2] "$$$(v)$(" = "$$$$$$$$$(v)$$$$(" ∧
      '$' ∉ "v(1)".toList ∧ escapeText "v(1)" = "v(1)" := by
  obtain ⟨hruns, -, -, -, hplain⟩ := runs_iterate_escapeText
  refine ⟨?_, by decide, hplain _ (by decide)⟩
  rw [← String.toList_inj, (hruns 2 _).1]
  decide +kernel

end InstallerKit.Preprocessor
