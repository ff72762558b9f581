import InstallerKit.Proofs.Effect
import InstallerKit.Proofs.Text.Simultaneous
import InstallerKit.Proofs.Text.Utf8
import InstallerKit.Resource.Basic

/-!
# What arrives

A content arrives at the destination with its tokens replaced, one key after the other. So a
value that has been filled in is read again for the keys that come later: the tokens in it are
replaced as well, and so are those that it makes together with what is around it. If there are
none, all tokens are replaced as if at once, and the order of the keys does not matter.

* `rules`, `substitute_eq`: tokens and their values;
* `areApart_of_plain_keys`: tokens that have nothing in common;
* `ArrivesAsIs`, `finish_of_arrivesAsIs`: a content in which there is nothing to replace;
* `finish_of_undisturbed`: tokens that are replaced as if at once.
-/

namespace InstallerKit.Resource

open InstallerKit.Text

variable {t : Table String} {key : String} {text : List Char} {content : List UInt8}

/-! ### Tokens -/

/-- The tokens of a table, with their values. -/
def rules (t : Table String) : List (List Char × List Char) :=
  t.entries.map fun (key, value) => (token key, value.toList)

theorem map_fst_rules (t : Table String) : (rules t).map Prod.fst = t.keys.map token := by
  simp [rules, Table.keys]

theorem substitute_eq (t : Table String) (text : List Char) :
    substitute t text = replaceInTurn (rules t) text := by
  rw [substitute, replaceInTurn, rules, List.foldl_map]

theorem token_ne_nil (key : String) : token key ≠ [] :=
  List.cons_ne_nil _ _

theorem token_injective : Function.Injective token := by
  intro key key' h
  have hkeys := List.append_cancel_right (List.cons.inj (List.cons.inj h).2).2
  exact String.toList_inj.1 hkeys

theorem nodup_rules (t : Table String) : ((rules t).map Prod.fst).Nodup := by
  rw [map_fst_rules]
  exact t.distinct.map token_injective

/-- A key with neither a dollar nor a closing brace in it. -/
def IsPlain (key : String) : Prop :=
  '$' ∉ key.toList ∧ '\x7d' ∉ key.toList

instance (key : String) : Decidable (IsPlain key) :=
  inferInstanceAs (Decidable (_ ∧ _))

/-- No token begins within the token of a plain key. -/
theorem not_mayBegin_tail (hkey : IsPlain key) (other : String) :
    ¬ MayBegin (token other) (token key).tail := by
  rintro ⟨s, hs, hne, hcommon⟩
  -- The only dollar of the token is in front, but whatever a token starts with has one.
  have hdollar : '$' ∉ s := fun hmem => by
    have hmem' := ((List.mem_tails _ _).1 hs).subset hmem
    simp [token, hkey.1] at hmem'
  obtain ⟨c, cs, rfl⟩ := List.exists_cons_of_ne_nil hne
  rcases hcommon with hcommon | hcommon
  · exact hdollar ((List.cons_prefix_cons.1 hcommon).1 ▸ List.mem_cons_self ..)
  · exact hdollar (hcommon.subset (List.mem_cons_self ..))

theorem eq_of_prefix_token {other : String} (hother : IsPlain other)
    (h : token key <+: token other) : key = other := by
  obtain ⟨rest, hrest⟩ := h
  have hbody : other.toList ++ '\x7d' :: [] = key.toList ++ '\x7d' :: rest := by
    simpa [token] using hrest.symm
  exact String.toList_inj.1
    ((List.append_cons_inj_of_notMem hother.2 List.not_mem_nil).1 hbody).1.symm

/-- The tokens of plain keys have nothing in common. -/
theorem areApart_of_plain_keys (h : ∀ key ∈ t.keys, IsPlain key) :
    AreApart ((rules t).map Prod.fst) := by
  rw [map_fst_rules]
  refine ⟨?_, ?_, ?_⟩
  · exact List.forall_mem_map.2 fun key _ => token_ne_nil key
  · exact List.forall_mem_map.2 fun key hkey => not_mayBegin_tail (h key hkey) key
  · refine List.forall_mem_map.2 fun key hkey => List.forall_mem_map.2 fun other hother hne => ?_
    rintro ⟨s, hs, hnil, hcommon⟩
    -- Two tokens either begin in the same place, or one begins within the other one.
    rcases List.mem_cons.1 (List.tails_cons .. ▸ hs) with rfl | hs
    · refine hne (congrArg token ?_)
      rcases hcommon with hcommon | hcommon
      · exact (eq_of_prefix_token (h key hkey) hcommon).symm
      · exact eq_of_prefix_token (h other hother) hcommon
    · exact not_mayBegin_tail (h other hother) key ⟨s, hs, hnil, hcommon⟩

/-! ### Contents -/

theorem finish_of_isEmpty (h : t.isEmpty = true) (content : List UInt8) :
    finish t content = .ok content := by
  rw [finish, if_pos h]

theorem finish_of_decode (t : Table String) (h : Utf8.decode content = .ok text) :
    finish t content = .ok (Utf8.encode (substitute t text)) := by
  rw [finish]
  split
  · -- Without keys nothing is decoded, which makes no difference.
    next hempty =>
    have hentries : t.entries = [] := List.isEmpty_iff.1 hempty
    rw [substitute, hentries, List.foldl_nil, Utf8.encode_of_decode h]
  · rw [h]

theorem finish_of_decode_error {e : Utf8.Error} (hempty : t.isEmpty = false)
    (h : Utf8.decode content = .error e) : finish t content = .error (.undecodable e) := by
  rw [finish, hempty, h]
  rfl

/-- A content in which there is nothing to replace: there are no keys, or it is a text in which
    their tokens do not occur. -/
def ArrivesAsIs (t : Table String) (content : List UInt8) : Prop :=
  t.isEmpty = true ∨
    ∃ text, Utf8.decode content = .ok text ∧ ∀ key ∈ t.keys, ¬ token key <:+: text

theorem finish_of_arrivesAsIs (h : ArrivesAsIs t content) : finish t content = .ok content := by
  rcases h with hempty | ⟨text, htext, htokens⟩
  · exact finish_of_isEmpty hempty content
  · have hkeep : ∀ r ∈ rules t, r.1 ≠ [] ∧ ¬ r.1 <:+: text :=
      List.forall_mem_map.2 fun entry hentry =>
        ⟨token_ne_nil entry.1, htokens entry.1 (List.mem_map_of_mem hentry)⟩
    rw [finish_of_decode t htext, substitute_eq, replaceInTurn_of_not_infix hkeep,
      Utf8.encode_of_decode htext]

/-- Values that have nothing in common with the tokens of later keys disturb none of them,
    whatever the text is. -/
theorem undisturbed_of_areInert {t' : Table String} (hapart : AreApart ((rules t).map Prod.fst))
    (hperm : t'.entries.Perm t.entries) (h : AreInert (rules t')) (text : List Char) :
    Undisturbed text (rules t') text := by
  have hrules : (rules t').Perm (rules t) := hperm.map _
  exact Text.undisturbed_of_areInert (hapart.perm (hrules.map _)) (nodup_rules t') h text

/-- A text arrives with its tokens replaced as if at once, if none of them is disturbed by
    values that have been filled in before. In what order the keys come does not matter
    otherwise. -/
theorem finish_of_undisturbed {t' : Table String} (htext : Utf8.decode content = .ok text)
    (hapart : AreApart ((rules t).map Prod.fst)) (hperm : t'.entries.Perm t.entries)
    (h : Undisturbed text (rules t') text) :
    finish t' content = .ok (Utf8.encode (replaceEach (rules t) text)) := by
  have hrules : (rules t').Perm (rules t) := hperm.map _
  rw [finish_of_decode t' htext, substitute_eq,
    replaceInTurn_eq (hapart.perm (hrules.map _)) (nodup_rules t') h,
    replaceEach_perm hapart (nodup_rules t) hrules.symm]

end InstallerKit.Resource
