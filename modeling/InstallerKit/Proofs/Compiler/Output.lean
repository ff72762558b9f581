import InstallerKit.Proofs.Compiler
import InstallerKit.Proofs.Path
import Mathlib.Data.List.Nodup

/-!
# Object files of a plan

The object file of a source is in the output directory, whatever directory the source is in,
and it is named for the stem of the source's name: where the source is and which suffix it has
are lost. So two sources have the same object file exactly if their stems are the same, and
different sources can only be in each other's way if they are of different directories or of
different suffixes. A plan takes any sources and compares none of them.

* `Plan.output_eq_iff`: when two sources have the same object file;
* `Plan.nodup_outputs_iff`: when no object file of a plan is in the way of another one.
-/

namespace InstallerKit.Compiler

namespace Source

variable {s t : Source}

/-- The name of a source without its suffix. -/
def stem (s : Source) : String :=
  .ofList (Path.splitSuffix s.path.name.toList).1

/-- The suffix of a source. -/
def suffix (s : Source) : String :=
  .ofList (Path.splitSuffix s.path.name.toList).2

theorem stem_append_suffix (s : Source) : s.stem ++ s.suffix = s.path.name := by
  rw [stem, suffix, ← String.ofList_append, Path.splitSuffix_append, String.ofList_toList]

theorem object_eq (s : Source) : s.object = s.stem ++ ".wixobj" :=
  rfl

/-- The name of an object file leads nowhere but into the directory. -/
theorem isSingle_object (h : Path.IsSingle s.path.name) : Path.IsSingle s.object := by
  have hletter : 'w' ∈ s.object.toList := by simp [object_eq]
  refine ⟨fun hempty => ?_, fun hstop => ?_, fun hslash => ?_⟩
  · rw [hempty] at hletter
    exact absurd hletter (by decide)
  · rw [hstop] at hletter
    exact absurd hletter (by decide)
  · -- The ending has no slash, and the stem is a part of the name.
    rw [object_eq, String.toList_append, List.mem_append] at hslash
    have hstem : '/' ∈ s.stem.toList := hslash.resolve_right (by decide)
    refine h.2.2 ?_
    rw [← stem_append_suffix, String.toList_append]
    exact List.mem_append_left _ hstem

end Source

namespace Plan

variable {s t : Source}

/-- The path of the object file of a source. -/
def output (directory : Path) (s : Source) : String :=
  (directory.child s.object).text

/-- The command of a source up to the object file. -/
def options (plan : Plan) (s : Source) : List String :=
  [plan.candle, "-nologo", s.path.text] ++ plan.extensions.flatMap (fun e => ["-ext", e]) ++
    ["-arch", plan.arch]

theorem invocation_eq (plan : Plan) (directory : Path) (s : Source) :
    plan.invocation directory s = plan.options s ++ ["-out", output directory s] := by
  rw [options, List.append_assoc _ ["-arch", plan.arch]]
  rfl

theorem output_eq_iff (directory : Path) (hs : Path.IsSingle s.path.name)
    (ht : Path.IsSingle t.path.name) :
    output directory s = output directory t ↔ s.stem = t.stem := by
  obtain ⟨lead, hlead⟩ := directory.exists_text_child
  rw [output, output, hlead _ (Source.isSingle_object hs), hlead _ (Source.isSingle_object ht),
    Source.object_eq, Source.object_eq]
  constructor
  · intro h
    exact String.append_left_inj _ |>.1 (String.append_right_inj _ |>.1 h)
  · intro h
    rw [h]

/-- Every source has a command, with its object file behind `-out`. The object files are
    pairwise different if and only if the stems of the sources are; of sources of one directory
    and one suffix they always are. -/
theorem nodup_outputs_iff (plan : Plan) (directory : Path)
    (hproper : ∀ s ∈ plan.sources, s.path.IsProper) (hname : ∀ s ∈ plan.sources, s.path.name ≠ "") :
    plan.commands directory = (plan.sources.map fun s =>
        plan.options s ++ ["-out", output directory s] ++ s.definitions, none) ∧
      ((plan.sources.map (output directory)).Nodup ↔ (plan.sources.map Source.stem).Nodup) ∧
      ((∀ s ∈ plan.sources, ∀ t ∈ plan.sources,
          s.path.parent = t.path.parent ∧ s.suffix = t.suffix) →
        (plan.sources.map Source.path).Nodup → (plan.sources.map (output directory)).Nodup) := by
  have hsingle {s : Source} (hs : s ∈ plan.sources) : Path.IsSingle s.path.name :=
    (hproper s hs).isSingle_name (hname s hs)
  have houtput {s t : Source} (hs : s ∈ plan.sources) (ht : t ∈ plan.sources) :
      output directory s = output directory t ↔ s.stem = t.stem :=
    output_eq_iff directory (hsingle hs) (hsingle ht)
  refine ⟨?_, ?_, fun halike hpaths => ?_⟩
  · rw [commands_eq plan directory hname]
    simp only [invocation_eq]
  · rw [List.Nodup, List.pairwise_map, List.pairwise_map]
    exact List.Pairwise.iff_of_mem fun hs ht => not_congr (houtput hs ht)
  · rw [List.Nodup, List.pairwise_map] at hpaths ⊢
    refine hpaths.imp_of_mem fun {s t} hs ht hne hsame => hne ?_
    obtain ⟨hparent, hsuffix⟩ := halike s hs t ht
    refine Path.eq_of_parent_eq hparent ?_ (hname s hs)
    rw [← Source.stem_append_suffix, ← Source.stem_append_suffix, (houtput hs ht).1 hsame, hsuffix]

/-- Only the last of several full stops counts, and one at the start of a name does not. -/
theorem nodup_outputs_of_full_stops :
    let plan := ((new.add (.ofString "src/ui.main.wxs") none).add
      (.child (.ofString "lib") "ui.wxs") none).add (.ofString "lib/.wxs") none
    plan.sources.map (output (.ofString "obj")) =
        ["obj/ui.main.wixobj", "obj/ui.wixobj", "obj/.wxs.wixobj"] ∧
      (plan.sources.map (output (.ofString "obj"))).Nodup := by
  intro plan
  have hproper : ∀ s ∈ plan.sources, s.path.IsProper := by
    intro s hs
    simp only [plan, add, new, List.nil_append, List.mem_append, List.mem_singleton] at hs
    rcases hs with (rfl | rfl) | rfl
    · exact Path.isProper_ofString _
    · exact (Path.isProper_ofString _).child _
    · exact Path.isProper_ofString _
  exact ⟨by decide +kernel, (nodup_outputs_iff plan (.ofString "obj") hproper
    (by decide +kernel)).2.1.2 (by decide +kernel)⟩

/-- Sources of two directories that have the same name have the same object file. -/
theorem outputs_of_two_directories :
    let one := Path.ofString "one/a.wxs"
    let two := Path.ofString "two/a.wxs"
    one ≠ two ∧ one.name ≠ "" ∧ two.name ≠ "" ∧
      ((new.add one none).add two none).commands (.ofString "obj") =
        ([["candle.exe", "-nologo", "one/a.wxs", "-ext", "WixUtilExtension", "-arch", "x64",
            "-out", "obj/a.wixobj"],
          ["candle.exe", "-nologo", "two/a.wxs", "-ext", "WixUtilExtension", "-arch", "x64",
            "-out", "obj/a.wixobj"]], none) := by
  decide +kernel

end Plan

end InstallerKit.Compiler
