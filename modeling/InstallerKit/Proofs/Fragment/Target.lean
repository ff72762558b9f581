import InstallerKit.BuildFile.Schema
import InstallerKit.Fragment.Target
import InstallerKit.Proofs.Path
import InstallerKit.Proofs.Resource.Reach

/-!
# Targets

The path of a target ends in the name of its file, as that name leads nowhere but into the
directory. The directory is resolved without a look at what is found where, so that only a
character that no path has can keep it from being resolved, and it is resolved alike for as
long as the working directory stays the same.

A target and a build file take the same names for the file: the bare ones. A name is bare just
if it is a single name, so it is not empty, has no slash, and is not a full stop. Such a name
leads from any directory to an entry of this name directly in it, with one exception: two full
stops are a single name, too, but they lead out of the directory, to the one that holds it.

* `Target.name_path`: the name of a target's path;
* `Target.resolve_eq_error_iff`: the targets that cannot be resolved;
* `Target.resolve_congr`: what a target is resolved to;
* `Path.isBareName_iff`: the bare names;
* `Path.leadsToEntry_iff`: the names that lead to an entry directly in a directory;
* `Target.accepted_iff`: the names that are taken, and where they lead.
-/

namespace InstallerKit

/-- A path that leads on leads to the same name wherever it starts. -/
theorem Path.name_child (p : Path) {s : String} (h : (ofString s).name ≠ "") :
    (p.child s).name = (ofString s).name := by
  change (join p (ofString s)).name = _
  rw [join]
  split
  · rfl
  · cases hlast : (ofString s).names.getLast? with
    | none => simp [name, hlast] at h
    | some last => simp [name, List.getLast?_append, hlast]

namespace Fragment.Target

variable {t : Target} {fs fs' : FileSystem}

theorem fileName_ne_empty (t : Target) : t.fileName ≠ "" := by
  have hbare := t.bare
  rw [Path.isBareName, Bool.and_eq_true] at hbare
  exact of_decide_eq_true hbare.1

theorem name_ofString_fileName (t : Target) : (Path.ofString t.fileName).name = t.fileName := by
  have hbare := t.bare
  rw [Path.isBareName, Bool.and_eq_true] at hbare
  exact eq_of_beq hbare.2

theorem name_path (t : Target) : t.path.name = t.fileName := by
  have hname := t.name_ofString_fileName
  refine (t.directory.name_child ?_).trans hname
  rw [hname]
  exact t.fileName_ne_empty

theorem resolve_eq_error_iff {e : FileSystem.Error} :
    t.resolve fs = .error e ↔ e = .embeddedNul ∧ ¬ FileSystem.IsClean t.directory := by
  rw [FileSystem.IsClean, Bool.not_eq_false, resolve, FileSystem.resolve]
  cases t.directory.names.any (·.toList.contains '\x00') with
  | true => exact ⟨fun h => ⟨(Except.error.inj h).symm, rfl⟩, fun h => by rw [h.1]; rfl⟩
  | false =>
    constructor
    · intro h
      cases h
    · rintro ⟨-, h⟩
      cases h

theorem resolve_congr (h : fs.Keeps fs') (t : Target) : t.resolve fs' = t.resolve fs := by
  rw [resolve, resolve, FileSystem.resolve, FileSystem.resolve, h.start]

end Fragment.Target

/-! ### Bare names -/

open FileSystem

variable {s : String}

namespace Path

theorem isBareName_iff : isBareName s = true ↔ IsSingle s := by
  rw [isBareName, Bool.and_eq_true, decide_eq_true_eq, decide_eq_true_eq]
  constructor
  · rintro ⟨hne, hname⟩
    have hsingle := (isProper_ofString s).isSingle_name (by rwa [hname])
    rwa [hname] at hsingle
  · intro h
    rw [ofString_of_isSingle h]
    exact ⟨h.1, rfl⟩

/-- From any directory, a name leads to the entry of this name directly in it. -/
def LeadsToEntry (s : String) : Prop :=
  ∀ (fs : FileSystem) (directory : Path), fs.goal (directory.child s) = fs.goal directory ++ [s]

theorem goal_child_of_isSingle (fs : FileSystem) (directory : Path) (h : IsSingle s) :
    fs.goal (directory.child s) = enter (fs.goal directory) s := by
  rw [child_of_isSingle directory h, goal, List.foldl_append]
  rfl

theorem leadsToEntry_iff : LeadsToEntry s ↔ IsSingle s ∧ s ≠ ".." := by
  constructor
  · intro h
    -- From the root, whatever is not among the names of a text cannot be reached by it.
    have hroot : (ofString s).names.foldl enter [] = [s] := by
      rw [← List.nil_append [s]]
      refine Eq.trans ?_ (h ⟨[], []⟩ ⟨.slash, []⟩)
      cases habsolute : (ofString s).isAbsolute with
      | true => rw [goal_child_of_isAbsolute _ _ habsolute]
      | false => rw [goal_child _ _ habsolute]; rfl
    have hend : s ∈ (ofString s).names.foldl enter [] := by
      rw [hroot]
      exact List.mem_singleton_self s
    have hmem : s ∈ (ofString s).names := (mem_foldl_enter hend).resolve_left List.not_mem_nil
    refine ⟨isProper_ofString s s hmem, ?_⟩
    rintro rfl
    exact absurd hroot (by decide)
  · rintro ⟨hsingle, hup⟩ fs directory
    rw [goal_child_of_isSingle fs directory hsingle, enter, if_neg hup]

end Path

theorem FileSystem.resolve_eq_ok_iff {fs : FileSystem} {p q : Path} :
    fs.resolve p = .ok q ↔ IsClean p ∧ q = ⟨.slash, fs.goal p⟩ := by
  rw [resolve, IsClean]
  cases p.names.any (·.toList.contains '\x00') with
  | true => simp
  | false =>
    rw [if_neg Bool.false_ne_true, Except.ok.injEq, eq_comm]
    exact (and_iff_right rfl).symm

theorem FileSystem.isClean_child {directory : Path} (h : Path.IsSingle s) :
    IsClean (directory.child s) ↔ IsClean directory ∧ '\x00' ∉ s.toList := by
  rw [Path.child_of_isSingle directory h, IsClean, IsClean, List.any_append, Bool.or_eq_false_iff]
  simp

open Fragment (Target)

theorem BuildFile.checkBareName_eq_ok_iff (place : Location) :
    (∃ h, checkBareName place (.text s) = .ok ⟨s, h⟩) ↔ Path.IsSingle s := by
  rw [← Path.isBareName_iff]
  constructor
  · rintro ⟨h, -⟩
    exact h
  · intro h
    exact ⟨h, dif_pos h⟩

namespace Fragment.Target

theorem of_eq_ok_iff {directory : Path} {t : Target} :
    of directory s = .ok t ↔ t.directory = directory ∧ t.fileName = s := by
  rw [of]
  split
  · next h =>
    rw [Except.ok.injEq]
    constructor
    · rintro rfl
      exact ⟨rfl, rfl⟩
    · rintro ⟨rfl, rfl⟩
      rfl
  · next h =>
    refine iff_of_false (fun hok => by cases hok) ?_
    rintro ⟨-, rfl⟩
    exact h t.bare

theorem exists_of_iff {directory : Path} :
    (∃ t, of directory s = .ok t) ↔ Path.IsSingle s := by
  rw [← Path.isBareName_iff]
  constructor
  · rintro ⟨t, ht⟩
    obtain ⟨-, rfl⟩ := of_eq_ok_iff.1 ht
    exact t.bare
  · intro h
    exact ⟨⟨directory, s, h⟩, dif_pos h⟩

/-- A build file takes the same names as a target, whatever the directory is: those that lead to
    an entry directly in every directory, and two full stops. None of them is empty or has a
    slash. The resolved path of a target is an entry of its name in the resolved directory,
    unless that name is two full stops: then it is the path of the directory around. -/
theorem accepted_iff (s : String) (directory : Path) (place : BuildFile.Location) :
    ((∃ h, BuildFile.checkBareName place (.text s) = .ok ⟨s, h⟩) ↔
        ∃ t, Target.of directory s = .ok t) ∧
      ((∃ t, Target.of directory s = .ok t) ↔ Path.LeadsToEntry s ∨ s = "..") ∧
      ∀ t, Target.of directory s = .ok t → s ≠ "" ∧ '/' ∉ s.toList ∧
        ∀ (fs : FileSystem) r, fs.resolve directory = .ok r → '\x00' ∉ s.toList →
          ∃ p, fs.resolve t.path = .ok p ∧ (s ≠ ".." → p.name = s ∧ p.parent = r) ∧
            (s = ".." → p = r.parent) := by
  refine ⟨?_, ?_, fun t ht => ?_⟩
  · rw [BuildFile.checkBareName_eq_ok_iff, exists_of_iff]
  · rw [exists_of_iff, Path.leadsToEntry_iff]
    constructor
    · intro h
      by_cases hup : s = ".."
      · exact .inr hup
      · exact .inl ⟨h, hup⟩
    · rintro (h | rfl)
      · exact h.1
      · exact ⟨by decide, by decide, by decide⟩
  · have hsingle : Path.IsSingle s := exists_of_iff.1 ⟨t, ht⟩
    obtain ⟨rfl, rfl⟩ := of_eq_ok_iff.1 ht
    refine ⟨hsingle.1, hsingle.2.2, fun fs r hr hclean => ?_⟩
    obtain ⟨hdirectory, rfl⟩ := resolve_eq_ok_iff.1 hr
    refine ⟨⟨.slash, fs.goal t.path⟩,
      resolve_eq_ok_iff.2 ⟨(isClean_child hsingle).2 ⟨hdirectory, hclean⟩, rfl⟩, ?_⟩
    rw [path, Path.goal_child_of_isSingle fs t.directory hsingle, enter]
    constructor
    · intro hup
      rw [if_neg hup]
      simp [Path.name, Path.parent]
    · intro hup
      rw [if_pos hup]
      rfl

/-- Two full stops are taken for the name of a file, and lead out of the directory. -/
theorem path_of_two_full_stops :
    let fs : FileSystem := .withDirectory ["work"]
    ∃ t, Target.of (.ofString "out") ".." = .ok t ∧
      (∃ h, BuildFile.checkBareName [] (.text "..") = .ok ⟨"..", h⟩) ∧
      fs.resolve (.ofString "out") = .ok (.ofString "/work/out") ∧
      fs.resolve t.path = .ok (.ofString "/work") :=
  ⟨⟨.ofString "out", "..", by decide⟩, rfl, ⟨by decide, rfl⟩, rfl, rfl⟩

end Fragment.Target

end InstallerKit
