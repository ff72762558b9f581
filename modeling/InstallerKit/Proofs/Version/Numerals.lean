import InstallerKit.Proofs.Text.Blank
import InstallerKit.Proofs.Text.Digit
import InstallerKit.Version

/-!
# The text of a version

A version is written as numerals with single full stops between them, and a rest that has no
meaning. The reader takes as many numerals as it can. So the rest that it leaves cannot go on
with them: it begins neither with a digit nor with a full stop and a digit. There is just one
way to see a text like that, and every text that begins with a digit can be seen like that. So
a text is refused only if it begins with no digit, or if one of its numerals is too long, and
otherwise its numbers are those of its numerals. Blanks around it never matter.

* `numerals_of_spells`, `exists_spells`: the numerals that a text begins with;
* `parse_of_spells`, `parse_of_not_startsWithDigit`: what is read from a text;
* `parse_grammar`: the texts that are versions.
-/

namespace InstallerKit.Version

variable {c d : Char} {n text rest rest' : List Char} {ns ns' : List (List Char)}

def startsWithDigit (cs : List Char) : Bool :=
  cs.head?.any Text.isDigit

/-- Digits, at least one. -/
structure IsNumeral (n : List Char) : Prop where
  ne_nil : n ≠ []
  isDigit : ∀ c ∈ n, Text.isDigit c = true

/-- Numerals do not go on in what comes behind them: it begins neither with a digit nor with a
    full stop and a digit. -/
structure Stops (rest : List Char) : Prop where
  noDigit : startsWithDigit rest = false
  noNumeral : ∀ more, rest = '.' :: more → startsWithDigit more = false

/-- Numerals with single full stops between them. -/
def joined (ns : List (List Char)) : List Char :=
  ['.'].intercalate ns

/-- A text spells numerals before a rest in which they do not go on. -/
structure Spells (text : List Char) (ns : List (List Char)) (rest : List Char) : Prop where
  ne_nil : ns ≠ []
  isNumeral : ∀ n ∈ ns, IsNumeral n
  stops : Stops rest
  eq : text = joined ns ++ rest

theorem joined_cons_cons (n m : List Char) (ns : List (List Char)) :
    joined (n :: m :: ns) = n ++ '.' :: joined (m :: ns) := by
  rw [joined, List.intercalate_cons_cons, List.append_assoc]
  rfl

theorem isDigit_full_stop : Text.isDigit '.' = false := by
  decide

/-! ### Reading numerals -/

theorem numerals_of_not_startsWithDigit (h : startsWithDigit text = false) : numerals text = [] := by
  match text with
  | [] => rfl
  | [c] =>
    have hc : Text.isDigit c = false := h
    simp [numerals, hc]
  | c :: d :: more =>
    have hc : Text.isDigit c = false := h
    simp [numerals, hc]

/-- Of a digit with a rest in which no numeral goes on, the digit is read. -/
theorem numerals_cons_of_stops (hc : Text.isDigit c = true) (hrest : Stops rest) :
    numerals (c :: rest) = [[c]] := by
  cases rest with
  | nil => simp [numerals, hc]
  | cons d more =>
    rw [numerals, if_neg (by simp [hc])]
    split
    · next hstop =>
      rw [numerals_of_not_startsWithDigit (hrest.noNumeral more (by rw [hstop]))]
    · rw [numerals_of_not_startsWithDigit hrest.noDigit]

theorem numerals_cons_full_stop (hc : Text.isDigit c = true) (hns : numerals rest = n :: ns) :
    numerals (c :: '.' :: rest) = [c] :: n :: ns := by
  rw [numerals, if_neg (by simp [hc]), if_pos rfl, hns]

theorem numerals_cons_digit (hc : Text.isDigit c = true) (hd : Text.isDigit d = true)
    (hns : numerals (d :: rest) = n :: ns) : numerals (c :: d :: rest) = (c :: n) :: ns := by
  have hstop : d ≠ '.' := by
    rintro rfl
    rw [isDigit_full_stop] at hd
    cases hd
  rw [numerals, if_neg (by simp [hc]), if_neg hstop, hns]

/-- A numeral is read whole, and what comes behind it is read as behind any of its digits. -/
theorem numerals_append (hn : IsNumeral n)
    (h : ∀ c, Text.isDigit c = true → numerals (c :: rest) = [c] :: ns) :
    numerals (n ++ rest) = n :: ns := by
  obtain ⟨hne, hdigits⟩ := hn
  induction n with
  | nil => exact absurd rfl hne
  | cons c n ih =>
    rw [List.forall_mem_cons] at hdigits
    cases n with
    | nil => exact h c hdigits.1
    | cons d n =>
      exact numerals_cons_digit hdigits.1 (hdigits.2 d List.mem_cons_self)
        (ih (List.cons_ne_nil d n) hdigits.2)

/-- The numerals that are read are those that the text spells. -/
theorem numerals_of_spells (h : Spells text ns rest) : numerals text = ns := by
  obtain ⟨hne, hnumerals, hstops, rfl⟩ := h
  induction ns with
  | nil => exact absurd rfl hne
  | cons n ns ih =>
    rw [List.forall_mem_cons] at hnumerals
    cases ns with
    | nil =>
      rw [joined, List.intercalate_singleton]
      exact numerals_append hnumerals.1 fun c hc => numerals_cons_of_stops hc hstops
    | cons m ns =>
      rw [joined_cons_cons, List.append_assoc]
      exact numerals_append hnumerals.1 fun c hc =>
        numerals_cons_full_stop hc (ih (List.cons_ne_nil m ns) hnumerals.2)

/-! ### Spelling numerals -/

namespace Spells

/-- A text can be spelled in one way only. -/
theorem unique (h : Spells text ns rest) (h' : Spells text ns' rest') :
    ns = ns' ∧ rest = rest' := by
  have hns : ns = ns' := (numerals_of_spells h).symm.trans (numerals_of_spells h')
  refine ⟨hns, ?_⟩
  have htext : joined ns ++ rest = joined ns ++ rest' := by
    rw [← h.eq, hns, ← h'.eq]
  exact List.append_cancel_left htext

theorem singleton (hc : Text.isDigit c = true) (hrest : Stops rest) :
    Spells (c :: rest) [[c]] rest where
  ne_nil := List.cons_ne_nil [c] []
  isNumeral := by
    rintro n hn
    rw [List.mem_singleton.1 hn]
    exact ⟨List.cons_ne_nil c [], by simpa using hc⟩
  stops := hrest
  eq := rfl

/-- A digit and a full stop before numerals are one more numeral. -/
theorem cons_full_stop (h : Spells text ns rest) (hc : Text.isDigit c = true) :
    Spells (c :: '.' :: text) ([c] :: ns) rest where
  ne_nil := List.cons_ne_nil [c] ns
  isNumeral := List.forall_mem_cons.2 ⟨⟨List.cons_ne_nil c [], by simpa using hc⟩, h.isNumeral⟩
  stops := h.stops
  eq := by
    obtain ⟨m, ms, rfl⟩ := List.exists_cons_of_ne_nil h.ne_nil
    rw [joined_cons_cons, h.eq]
    rfl

/-- A digit before numerals is one more digit of the first of them. -/
theorem exists_cons_digit (h : Spells text ns rest) (hc : Text.isDigit c = true) :
    ∃ ns, Spells (c :: text) ns rest := by
  obtain ⟨hne, hnumerals, hstops, rfl⟩ := h
  obtain ⟨n, ms, rfl⟩ := List.exists_cons_of_ne_nil hne
  rw [List.forall_mem_cons] at hnumerals
  have hfirst : IsNumeral (c :: n) :=
    ⟨List.cons_ne_nil c n, List.forall_mem_cons.2 ⟨hc, hnumerals.1.isDigit⟩⟩
  refine ⟨(c :: n) :: ms, List.cons_ne_nil _ ms, List.forall_mem_cons.2 ⟨hfirst, hnumerals.2⟩,
    hstops, ?_⟩
  rw [joined, joined, List.intercalate_cons_cons_left]
  rfl

end Spells

/-- Every text that starts with a digit spells numerals. -/
theorem exists_spells (h : startsWithDigit text = true) : ∃ ns rest, Spells text ns rest := by
  induction text using List.twoStepInduction with
  | nil => cases h
  | singleton c => exact ⟨_, _, Spells.singleton h ⟨rfl, by simp⟩⟩
  | cons_cons c d more ih ihd =>
    by_cases hd : Text.isDigit d = true
    · obtain ⟨ns, rest, hspells⟩ := ihd d hd
      obtain ⟨ns', hspells'⟩ := hspells.exists_cons_digit h
      exact ⟨ns', rest, hspells'⟩
    · by_cases hnext : d = '.' ∧ startsWithDigit more = true
      · obtain ⟨rfl, hmore⟩ := hnext
        obtain ⟨ns, rest, hspells⟩ := ih hmore
        exact ⟨_, rest, hspells.cons_full_stop h⟩
      · refine ⟨_, _, Spells.singleton h ⟨Bool.eq_false_iff.2 hd, ?_⟩⟩
        rintro _ ⟨⟩
        exact Bool.eq_false_iff.2 fun hmore => hnext ⟨rfl, hmore⟩

/-! ### Blanks around a version -/

/-- Numerals do not go on in the beginning of a text in which they do not. -/
theorem Stops.of_append (h : Stops rest) {tail : List Char} (htext : rest' ++ tail = rest) :
    Stops rest' := by
  have hbegins {cs : List Char} (hcs : startsWithDigit (cs ++ tail) = false) :
      startsWithDigit cs = false := by
    cases cs with
    | nil => rfl
    | cons c cs => exact hcs
  subst htext
  refine ⟨hbegins h.noDigit, ?_⟩
  rintro more rfl
  exact hbegins (h.noNumeral (more ++ tail) rfl)

theorem exists_joined_eq_cons (hne : ns ≠ []) (hnumerals : ∀ n ∈ ns, IsNumeral n) :
    ∃ c more, joined ns = c :: more ∧ Text.isDigit c = true := by
  obtain ⟨n, ms, rfl⟩ := List.exists_cons_of_ne_nil hne
  obtain ⟨hn, hdigits⟩ := hnumerals n List.mem_cons_self
  obtain ⟨c, n, rfl⟩ := List.exists_cons_of_ne_nil hn
  rw [joined, List.intercalate_cons_cons_left]
  exact ⟨c, _, rfl, hdigits c List.mem_cons_self⟩

theorem exists_joined_eq_concat (hne : ns ≠ []) (hnumerals : ∀ n ∈ ns, IsNumeral n) :
    ∃ before c, joined ns = before ++ [c] ∧ Text.isDigit c = true := by
  induction ns with
  | nil => exact absurd rfl hne
  | cons n ns ih =>
    rw [List.forall_mem_cons] at hnumerals
    cases ns with
    | nil =>
      obtain ⟨hn, hdigits⟩ := hnumerals.1
      rw [joined, List.intercalate_singleton]
      exact ⟨n.dropLast, n.getLast hn, (List.dropLast_concat_getLast hn).symm,
        hdigits _ (List.getLast_mem hn)⟩
    | cons m ns =>
      obtain ⟨before, c, hjoined, hc⟩ := ih (List.cons_ne_nil m ns) hnumerals.2
      refine ⟨n ++ '.' :: before, c, ?_, hc⟩
      rw [joined_cons_cons, hjoined, List.append_assoc, List.cons_append]

/-- Of a text that spells numerals only the rest can end in blanks. -/
theorem Spells.strip_eq (h : Spells text ns rest) :
    Text.strip text = joined ns ++ rest.rdropWhile Text.isBlank := by
  rw [Text.strip_eq_iff]
  refine ⟨⟨fun c hc => ?_, fun c hc => ?_⟩, [], rest.rtakeWhile Text.isBlank, ?_, ?_, ?_⟩
  · obtain ⟨first, more, hjoined, hfirst⟩ := exists_joined_eq_cons h.ne_nil h.isNumeral
    rw [hjoined] at hc
    obtain rfl : first = c := by simpa using hc
    exact Text.isBlank_of_isDigit hfirst
  · by_cases hrest : rest.rdropWhile Text.isBlank = []
    · obtain ⟨before, last, hjoined, hlast⟩ := exists_joined_eq_concat h.ne_nil h.isNumeral
      rw [hrest, hjoined] at hc
      obtain rfl : last = c := by simpa using hc
      exact Text.isBlank_of_isDigit hlast
    · rw [List.getLast?_append_of_ne_nil _ hrest, Option.mem_def,
        List.getLast?_eq_some_getLast hrest, Option.some.injEq] at hc
      rw [← hc]
      exact Bool.eq_false_iff.2 (List.rdropWhile_last_not _ _ hrest)
  · exact fun c hc => absurd hc List.not_mem_nil
  · exact fun c hc => List.mem_rtakeWhile_imp hc
  · rw [List.nil_append, List.append_assoc, List.rdropWhile_append_rtakeWhile, h.eq]

theorem Spells.strip (h : Spells text ns rest) :
    Spells (Text.strip text) ns (rest.rdropWhile Text.isBlank) where
  ne_nil := h.ne_nil
  isNumeral := h.isNumeral
  stops := h.stops.of_append List.rdropWhile_append_rtakeWhile
  eq := h.strip_eq

/-! ### Reading versions -/

/-- The number of a numeral in the decimal system. -/
def number (n : List Char) : ℕ :=
  Nat.ofDigits 10 (n.reverse.map Text.worth)

/-- Numerals that are not too long have numbers. -/
theorem mapM_component_of_short (h : ∀ n ∈ ns, n.length ≤ Text.maxDigits) :
    ns.mapM component = .ok (ns.map number) := by
  induction ns with
  | nil => rfl
  | cons n ns ih =>
    rw [List.forall_mem_cons] at h
    rw [List.mapM_cons, component, if_neg (not_lt.2 h.1), ih h.2, Text.numeralValue_eq]
    rfl

theorem forall_length_le_of_mapM_component {components : List ℕ}
    (h : ns.mapM component = .ok components) : ∀ n ∈ ns, n.length ≤ Text.maxDigits := by
  induction ns generalizing components with
  | nil => simp
  | cons n ns ih =>
    rw [List.mapM_cons, component] at h
    split at h
    · cases h
    · next hn =>
      cases hns : ns.mapM component with
      | error e =>
        rw [hns] at h
        cases h
      | ok rest => exact List.forall_mem_cons.2 ⟨not_lt.1 hn, ih hns⟩

variable {s : String} {v : Version}

theorem parse_of_not_startsWithDigit (h : startsWithDigit (Text.strip s.toList) = false) :
    parse s = .error (.malformed s) := by
  rw [parse, numerals_of_not_startsWithDigit h]

theorem parse_of_spells (h : Spells (Text.strip s.toList) ns rest) :
    parse s = (ns.mapM component).map fun components =>
      ⟨components, .ofList (Text.strip s.toList)⟩ := by
  rw [parse, numerals_of_spells h]
  cases ns with
  | nil => exact absurd rfl h.ne_nil
  | cons n ns => rfl

theorem parse_of_short (h : Spells (Text.strip s.toList) ns rest)
    (hshort : ∀ n ∈ ns, n.length ≤ Text.maxDigits) :
    parse s = .ok ⟨ns.map number, .ofList (Text.strip s.toList)⟩ := by
  rw [parse_of_spells h, mapM_component_of_short hshort]
  rfl

/-- A text that is a version spells the numerals of its components. -/
theorem exists_spells_of_parse (h : parse s = .ok v) :
    ∃ ns rest, Spells (Text.strip s.toList) ns rest ∧ (∀ n ∈ ns, n.length ≤ Text.maxDigits) ∧
      v = ⟨ns.map number, .ofList (Text.strip s.toList)⟩ := by
  cases hdigit : startsWithDigit (Text.strip s.toList) with
  | false =>
    rw [parse_of_not_startsWithDigit hdigit] at h
    cases h
  | true =>
    obtain ⟨ns, rest, hspells⟩ := exists_spells hdigit
    have hshort : ∀ n ∈ ns, n.length ≤ Text.maxDigits := by
      rw [parse_of_spells hspells] at h
      cases hcomponents : ns.mapM component with
      | error e =>
        rw [hcomponents] at h
        cases h
      | ok components => exact forall_length_le_of_mapM_component hcomponents
    rw [parse_of_short hspells hshort] at h
    exact ⟨ns, rest, hspells, hshort, (Except.ok.inj h).symm⟩

/-- Unless a numeral is too long, a text is refused if and only if it starts with no digit once it
    is stripped. Numerals before a rest in which they do not go on are read as their numbers, with
    any blanks around them, and every text that is a version can be seen like that in just one
    way. A version reads as a text that it is read from again. -/
theorem parse_grammar (s : String) :
    ((∀ ns rest, Spells (Text.strip s.toList) ns rest → ∀ n ∈ ns, n.length ≤ Text.maxDigits) →
      ((∃ e, parse s = .error e) ↔ startsWithDigit (Text.strip s.toList) = false)) ∧
    (∀ before ns rest after, s.toList = before ++ (joined ns ++ rest) ++ after →
      Text.AllBlank before → Text.AllBlank after →
      ns ≠ [] → (∀ n ∈ ns, IsNumeral n ∧ n.length ≤ Text.maxDigits) → Stops rest →
      parse s = .ok ⟨ns.map number, .ofList (Text.strip s.toList)⟩) ∧
    (∀ zero n, Text.digitValue? zero = some 0 → number (zero :: n) = number n) ∧
    ∀ v, parse s = .ok v →
      (∃! w : List (List Char) × List Char, Spells (Text.strip s.toList) w.1 w.2) ∧
        parse (toString v) = .ok v := by
  refine ⟨fun hshort => ⟨?_, ?_⟩, ?_, ?_, fun v hv => ⟨?_, ?_⟩⟩
  · rintro ⟨e, he⟩
    by_contra hdigit
    obtain ⟨ns, rest, hspells⟩ := exists_spells (Bool.not_eq_false _ ▸ hdigit)
    rw [parse_of_short hspells (hshort ns rest hspells)] at he
    cases he
  · exact fun hdigit => ⟨_, parse_of_not_startsWithDigit hdigit⟩
  · intro before ns rest after hs hbefore hafter hne hnumerals hstops
    have hspells : Spells (joined ns ++ rest) ns rest :=
      ⟨hne, fun n hn => (hnumerals n hn).1, hstops, rfl⟩
    have hstrip : Text.strip s.toList = Text.strip (joined ns ++ rest) := by
      rw [hs, Text.strip_surround hbefore hafter]
    exact parse_of_short (hstrip ▸ hspells.strip) fun n hn => (hnumerals n hn).2
  · intro zero n hzero
    have hworth : Text.worth zero = 0 := by rw [Text.worth, hzero, Option.getD_some]
    rw [number, number, ← Text.numeralValue_eq, ← Text.numeralValue_eq,
      Text.numeralValue_cons_zero hworth]
  · obtain ⟨ns, rest, hspells, -⟩ := exists_spells_of_parse hv
    refine ⟨(ns, rest), hspells, fun w hw => ?_⟩
    obtain ⟨hns, hrest⟩ := hw.unique hspells
    exact Prod.ext hns hrest
  · obtain ⟨ns, rest, hspells, hshort, rfl⟩ := exists_spells_of_parse hv
    have hraw : Text.strip (String.ofList (Text.strip s.toList)).toList = Text.strip s.toList := by
      rw [String.toList_ofList, Text.strip_strip]
    have hagain : Spells (Text.strip (String.ofList (Text.strip s.toList)).toList) ns rest := by
      rwa [hraw]
    exact (parse_of_short hagain hshort).trans (by rw [hraw])

/-- A full stop that no digit follows ends the numerals. -/
example : parse " 3.011.x.4 " = .ok ⟨[3, 11], "3.011.x.4"⟩ := by
  decide +kernel

end InstallerKit.Version
