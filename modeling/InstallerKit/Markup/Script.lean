import InstallerKit.Fault.Basic
import InstallerKit.Markup.Writer

/-!
# Scripts

A script is what somebody does with a markup sink: it makes one call after
another, learns of each whether it was refused, and may act on that, until it is
done or fails with a fault of its own. `ofCalls` makes given calls and fails at
the first refusal.

Scripts run on a writer. What a script has written before it failed stays
written.
-/

namespace InstallerKit.Markup

/-- Calls to make, depending on the answers to those before. -/
inductive Script
  | done
  | fail (fault : Fault)
  | call (c : Call) (next : Option Error → Script)

/-- What a script has done. -/
structure Transcript where
  writer : Writer
  /-- What has been written. -/
  text : List Char
  fault : Option Fault

namespace Script

/-- One script, and, unless it fails, another one. -/
def andThen : Script → Script → Script
  | done, t => t
  | fail f, _ => fail f
  | call c next, t => call c fun e => (next e).andThen t

/-- The script with every call changed on its way to the sink, or refused there. -/
def mapCalls (change : Call → Except Error Call) : Script → Script
  | done => done
  | fail f => fail f
  | call c next =>
    match change c with
    | .ok c => call c fun e => (next e).mapCalls change
    | .error e => (next (some e)).mapCalls change

/-- The script that makes some calls and fails at the first refusal. -/
def ofCalls : List Call → Script
  | [] => done
  | c :: rest => call c fun
    | none => ofCalls rest
    | some e => fail (.of (.markup e))

/-- Runs a script on a writer. -/
def run : Script → Writer → Transcript
  | done, w => ⟨w, [], none⟩
  | fail f, w => ⟨w, [], some f⟩
  | call c next, w =>
    let r := w.step c
    let t := (next r.error).run r.writer
    ⟨t.writer, r.text ++ t.text, t.fault⟩

end Script

end InstallerKit.Markup
