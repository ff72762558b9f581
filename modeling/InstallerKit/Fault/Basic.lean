import InstallerKit.Fault.Problem

/-!
# Faults

A fault is a problem with its history: the problems that caused it, and those
that were being dealt with when it came up. Histories are graphs, as problems may
share a cause, and as nothing keeps a problem from being among its own causes.
-/

namespace InstallerKit

/-- A problem in a history. -/
structure Fault.Node where
  problem : Problem
  /-- Remarks that were added later. -/
  notes : List String
  /-- The number of the problem that caused this one. -/
  cause : Option Nat
  /-- The number of the problem that was being dealt with. -/
  context : Option Nat
  deriving Repr

/-- A history, and the problem in it that is reported. Numbers that no node has
    lead nowhere. -/
structure Fault where
  nodes : List Fault.Node
  head : Nat
  head_lt : head < nodes.length
  deriving Repr

namespace Fault

/-- The fault without a history. -/
def of (p : Problem) : Fault := ⟨[⟨p, [], none, none⟩], 0, by simp⟩

/-- The fault whose cause is another one, and which came up while that one was
    being dealt with. -/
def causedBy (p : Problem) (f : Fault) : Fault :=
  ⟨f.nodes ++ [⟨p, [], some f.head, some f.head⟩], f.nodes.length, by simp⟩

/-- The fault that came up while another one was being dealt with. -/
def during (p : Problem) (f : Fault) : Fault :=
  ⟨f.nodes ++ [⟨p, [], none, some f.head⟩], f.nodes.length, by simp⟩

/-- The fault of problems that each came up while the one after it was being
    dealt with. -/
def chain (p : Problem) : List Problem → Fault
  | [] => of p
  | q :: rest => during p (chain q rest)

/-- The fault of a file system's refusals. -/
def ofFailure (f : FileSystem.Failure) : Fault :=
  chain (.file f.error) (f.during.map .file)

/-- The node that is reported. -/
def node (f : Fault) : Node :=
  f.nodes.get ⟨f.head, f.head_lt⟩

/-- The problem that is reported. -/
def problem (f : Fault) : Problem :=
  f.node.problem

def kind (f : Fault) : Kind :=
  f.problem.kind

def message (f : Fault) : String :=
  f.problem.message

def notes (f : Fault) : List String :=
  f.node.notes

/-- The problem that caused the reported one. -/
def cause? (f : Fault) : Option Problem := do
  let i ← f.node.cause
  let n ← f.nodes[i]?
  return n.problem

/-- What is reported of a fault with a cause. -/
theorem node_causedBy (p : Problem) (f : Fault) :
    (causedBy p f).node = ⟨p, [], some f.head, some f.head⟩ := by
  simp [node, causedBy]

theorem problem_causedBy (p : Problem) (f : Fault) : (causedBy p f).problem = p := by
  rw [problem, node_causedBy]

/-- The cause is what was reported before. -/
theorem cause?_causedBy (p : Problem) (f : Fault) : (causedBy p f).cause? = some f.problem := by
  have hnode : (causedBy p f).nodes[f.head]? = some f.node := by
    rw [causedBy, List.getElem?_append_left f.head_lt]
    exact List.getElem?_eq_getElem f.head_lt
  simp [cause?, node_causedBy, hnode, problem]

end Fault

end InstallerKit
