import InstallerKit.Console.Message
import InstallerKit.Proofs.Fragment.Outcome

/-!
# Messages that can be shown

A tag begins with an opening bracket. So a message without one has no tags: it is a single run
of text without styles, and nothing can go wrong when it is shown. Of the events of a build,
the one of the resources tells no more than their number, which has no brackets; the one of the
fragment tells its path, which may have any.

* `exists_messageLines`: a message without an opening bracket can be shown;
* `IsShowable`: an event can be shown, as far as it has to be;
* `isShowable_fragmentEvent`, `isShowable_stagedEvent`: the events of a build.
-/

namespace InstallerKit.Console

open Fragment (Origin)
open Fragment.Builder (fragmentEvent stagedEvent)

/-! ### Messages -/

namespace Tags

variable {cs : List Char}

theorem tag?_of_not_mem (h : '[' ∉ cs) : tag? cs = none := by
  rw [tag?]
  split
  · next rest hrest => exact absurd (List.mem_of_mem_drop (hrest ▸ List.mem_cons_self)) h
  · rfl

theorem piecesFrom_cons_of_not_mem (position : Nat) {c : Char} (h : '[' ∉ c :: cs) :
    piecesFrom position 0 (c :: cs) = before c (piecesFrom (position + 1) 0 cs) := by
  rw [piecesFrom, tag?_of_not_mem h]
  refine if_neg fun hslash => h (List.mem_cons_of_mem c ?_)
  exact List.mem_of_mem_head? hslash.2

/-- A text without an opening bracket is a single run. -/
theorem piecesFrom_of_not_mem (position : Nat) {c : Char} (h : '[' ∉ c :: cs) :
    piecesFrom position 0 (c :: cs) = [.run (c :: cs)] := by
  rw [piecesFrom_cons_of_not_mem position h]
  induction cs generalizing position c with
  | nil => rfl
  | cons d cs ih =>
    have hrest : '[' ∉ d :: cs := fun hd => h (List.mem_cons_of_mem c hd)
    rw [piecesFrom_cons_of_not_mem (position + 1) hrest, ih (position + 1) hrest]
    rfl

/-- Without tags, nothing has a style. -/
theorem exists_render_of_not_mem (h : '[' ∉ cs) :
    ∃ text, render [] 0 (piecesFrom 0 0 cs) = .ok ⟨text, []⟩ := by
  cases cs with
  | nil => exact ⟨[], rfl⟩
  | cons c cs =>
    rw [piecesFrom_of_not_mem 0 h]
    exact ⟨_, rfl⟩

theorem checkStyles_of_nil (text : List Char) : checkStyles ⟨text, []⟩ = .ok () := by
  have hcounting : counting ⟨text, []⟩ = [] := by
    rw [counting]
    split
    · rfl
    · split <;> rfl
  rw [checkStyles, hcounting, List.reverse_nil, List.mergeSort_nil]
  rfl

end Tags

theorem exists_messageLines {message : String} (h : '[' ∉ message.toList) :
    ∃ lines, messageLines message = .ok lines := by
  obtain ⟨text, htext⟩ := Tags.exists_render_of_not_mem h
  refine ⟨shownLines (.ofList text), ?_⟩
  rw [messageLines, showTags, htext]
  dsimp only [bind, Except.bind]
  rw [Tags.checkStyles_of_nil]
  rfl

/-! ### Events -/

/-- An event can be shown, whatever is to be shown. -/
def IsShowable (e : Event) : Prop :=
  ∀ s, ∃ lines, eventLines s e = .ok lines

theorem isShowable_of_summary {e : Event} {message : String}
    (hsummary : e.summary = .ok (some message)) (h : '[' ∉ message.toList) : IsShowable e := by
  intro s
  rw [eventLines, hsummary]
  split
  · exact ⟨[], rfl⟩
  · exact exists_messageLines h

theorem isShowable_of_summary_none {e : Event} (h : e.summary = .ok none) : IsShowable e := by
  intro s
  rw [eventLines, h]
  split <;> exact ⟨[], rfl⟩

theorem not_mem_toString (n : Nat) : '[' ∉ (toString n).toList := by
  rw [Nat.toString_eq_ofList_toDigits, String.toList_ofList]
  intro h
  exact absurd (Nat.isDigit_of_mem_toDigits (by decide) (by decide) h) (by decide)

theorem not_mem_plural (one : Bool) : '[' ∉ (Event.plural one).toList := by
  cases one <;> decide

/-- Of the resources, only their number is told. -/
theorem isShowable_stagedEvent (paths : List Path) : IsShowable (stagedEvent paths) := by
  cases paths with
  | nil => exact isShowable_of_summary_none rfl
  | cons p rest =>
    refine isShowable_of_summary rfl ?_
    simp only [String.toList_append, List.mem_append, not_or]
    exact ⟨⟨⟨by decide, not_mem_toString _⟩, by decide⟩, not_mem_plural _⟩

/-- Of the fragment, its path is told. -/
theorem isShowable_fragmentEvent (b : Fragment.Builder) (path : Path) (origin : Origin)
    (h : '[' ∉ (b.fragmentEvent path origin).pathText.toList) :
    IsShowable (b.fragmentEvent path origin) := by
  cases origin with
  | override =>
    refine isShowable_of_summary rfl ?_
    rw [String.toList_append, List.mem_append, not_or]
    exact ⟨by decide, h⟩
  | generated =>
    refine isShowable_of_summary rfl ?_
    simp only [String.toList_append, List.mem_append, not_or]
    refine ⟨⟨by decide, h⟩, ?_⟩
    change '[' ∉ (" (" ++ toString b.activeProducers.length ++ " fragment" ++
      Event.plural (Datum.isOne (.integer b.activeProducers.length)) ++ ")").toList
    simp only [String.toList_append, List.mem_append, not_or]
    exact ⟨⟨⟨⟨by decide, not_mem_toString _⟩, by decide⟩, not_mem_plural _⟩, by decide⟩

end InstallerKit.Console
