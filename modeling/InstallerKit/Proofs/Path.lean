import InstallerKit.Path

/-!
# Names in paths

The names of a path that is read from a text are what stands between its slashes: none of them
has a slash in it, and none is empty or a full stop. A text of this kind is a *single* name. It
leads from any path to just one more name, in which the text of the new path ends.

The last name of a path falls into a stem and a suffix, and nothing of it is lost.

* `isProper_ofString`, `IsProper.child`: the names of a path that is read;
* `child_of_isSingle`, `exists_text_child`: the path of a single name;
* `splitSuffix_append`: stem and suffix.
-/

namespace InstallerKit

namespace Text

variable {separator : Char} {cs : List Char}

theorem not_mem_of_mem_pieces {p : List Char} (h : p ∈ pieces separator cs) : separator ∉ p := by
  induction cs generalizing p with
  | nil =>
    rw [pieces, List.mem_singleton] at h
    simp [h]
  | cons c cs ih =>
    rw [pieces] at h
    split at h
    · rcases List.mem_cons.1 h with rfl | h
      · exact List.not_mem_nil
      · exact ih h
    · next hc =>
      split at h
      · next hnil => exact absurd hnil (pieces_ne_nil separator cs)
      · next q ps hpieces =>
        rw [hpieces] at ih
        rcases List.mem_cons.1 h with rfl | h
        · rw [List.mem_cons, not_or]
          exact ⟨fun hs => hc hs.symm, ih List.mem_cons_self⟩
        · exact ih (List.mem_cons_of_mem q h)

theorem pieces_of_not_mem (h : separator ∉ cs) : pieces separator cs = [cs] := by
  induction cs with
  | nil => rfl
  | cons c cs ih =>
    rw [List.mem_cons, not_or] at h
    rw [pieces, if_neg fun hc => h.1 hc.symm, ih h.2]

end Text

namespace Path

variable {s : String}

/-- A text that is one name and leads nowhere else. -/
def IsSingle (s : String) : Prop :=
  s ≠ "" ∧ s ≠ "." ∧ '/' ∉ s.toList

/-- A path has names that can stand between slashes. -/
def IsProper (p : Path) : Prop :=
  ∀ name ∈ p.names, IsSingle name

theorem isProper_ofString (s : String) : (ofString s).IsProper := by
  intro name hname
  obtain ⟨cs, hcs, rfl⟩ := List.mem_map.1 hname
  rw [List.mem_filter, decide_eq_true_eq] at hcs
  obtain ⟨hpiece, hne, hstop⟩ := hcs
  refine ⟨fun h => hne ?_, fun h => hstop ?_, ?_⟩
  · exact String.ofList_inj.1 h
  · exact String.ofList_inj.1 h
  · rw [String.toList_ofList]
    exact Text.not_mem_of_mem_pieces hpiece

/-- A path that leads on by a text is as proper as the one it starts from. -/
theorem IsProper.child {p : Path} (hp : p.IsProper) (s : String) : (p.child s).IsProper := by
  change (p.join (ofString s)).IsProper
  rw [join]
  split
  · exact isProper_ofString s
  · intro name hname
    rcases List.mem_append.1 hname with hname | hname
    · exact hp name hname
    · exact isProper_ofString s name hname

theorem IsProper.isSingle_name {p : Path} (hp : p.IsProper) (hname : p.name ≠ "") :
    IsSingle p.name := by
  rw [name] at hname ⊢
  cases hlast : p.names.getLast? with
  | none => exact absurd (by rw [hlast]; rfl) hname
  | some last => exact hp last (List.mem_of_getLast? hlast)

theorem names_eq_concat {p : Path} (hname : p.name ≠ "") :
    p.names = p.parent.names ++ [p.name] := by
  have hnil : p.names ≠ [] := fun h => hname (by simp [name, h])
  simpa [name, parent, List.getLast?_eq_some_getLast hnil] using
    (List.dropLast_concat_getLast hnil).symm

/-- Two paths with the same last name in the same directory are the same path. -/
theorem eq_of_parent_eq {p q : Path} (hparent : p.parent = q.parent) (hname : p.name = q.name)
    (hne : p.name ≠ "") : p = q := by
  have hnames : p.names = q.names :=
    calc p.names = p.parent.names ++ [p.name] := names_eq_concat hne
      _ = q.parent.names ++ [q.name] := by rw [hparent, hname]
      _ = q.names := (names_eq_concat fun h => hne (hname.trans h)).symm
  have hroot : p.parent.root = q.parent.root := by rw [hparent]
  calc p = ⟨p.parent.root, p.names⟩ := rfl
    _ = ⟨q.parent.root, q.names⟩ := by rw [hroot, hnames]
    _ = q := rfl

/-! ### Paths of a single name -/

theorem ofString_of_isSingle (h : IsSingle s) : ofString s = ⟨.here, [s]⟩ := by
  obtain ⟨hne, hstop, hslash⟩ := h
  have hroot : Root.ofChars s.toList = .here := by
    rw [Root.ofChars.eq_def]
    -- The three cases of a root start with a slash.
    split
    · next hcs => exact absurd (by simp [hcs]) hslash
    · next hcs => exact absurd (by simp [hcs]) hslash
    · next hcs => exact absurd (by simp [hcs]) hslash
    · rfl
  have hkept : s.toList ≠ [] ∧ s.toList ≠ ['.'] :=
    ⟨fun h => hne (String.toList_inj.1 h), fun h => hstop (String.toList_inj.1 h)⟩
  rw [ofString, hroot, Text.pieces_of_not_mem hslash, List.filter_cons_of_pos (by simpa using hkept)]
  simp

theorem child_of_isSingle (p : Path) (h : IsSingle s) :
    p.child s = { p with names := p.names ++ [s] } := by
  change p.join (ofString s) = _
  rw [ofString_of_isSingle h]
  rfl

/-- The text of a path of one more name ends in that name, and what comes before is always the
    same. -/
theorem exists_text_child (p : Path) :
    ∃ lead : String, ∀ s, IsSingle s → (p.child s).text = lead ++ s := by
  by_cases hp : p.names = []
  · refine ⟨p.root.text, fun s hs => ?_⟩
    rw [child_of_isSingle p hs, text, if_neg (by simp), hp]
    simp
  · refine ⟨p.root.text ++ ("/".intercalate p.names ++ "/"), fun s hs => ?_⟩
    rw [child_of_isSingle p hs, text, if_neg (by simp),
      String.intercalate_append_of_ne_nil hp (by simp), String.intercalate_singleton,
      ← String.append_assoc]

/-! ### Stems and suffixes -/

theorem splitSuffix_append (name : List Char) :
    (splitSuffix name).1 ++ (splitSuffix name).2 = name := by
  rw [splitSuffix]
  split
  · exact List.append_nil name
  · next h =>
    rw [not_or] at h
    cases hdrop : name.reverse.dropWhile (· ≠ '.') with
    | nil => exact absurd (by rw [hdrop]; rfl) h.2
    | cons c stem =>
      -- What stands before the tail, read backwards, starts with the full stop.
      obtain rfl : c = '.' := by
        have hhead := List.head?_dropWhile_not (· ≠ '.') name.reverse
        rw [hdrop] at hhead
        simpa using hhead
      calc (List.drop 1 ('.' :: stem)).reverse ++
            '.' :: (name.reverse.takeWhile (· ≠ '.')).reverse
          = (name.reverse.takeWhile (· ≠ '.') ++ '.' :: stem).reverse := by
            rw [List.reverse_append, List.reverse_cons, List.append_assoc]
            rfl
        _ = name := by rw [← hdrop, List.takeWhile_append_dropWhile, List.reverse_reverse]

end Path

end InstallerKit
