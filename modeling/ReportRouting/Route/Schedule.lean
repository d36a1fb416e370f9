import ReportRouting.Route.Basic

/-!
Routing with several rules at work at a time.

A schedule says in which order the evaluations of rules come to an end. Once an evaluation has
failed, others may be left out, and any of the faults may be the one that is reported. Every body
goes to the place of its rule, so the order is not seen in what comes out.
-/

namespace ReportRouting

/-- The numbers of the rules evaluated, and which of the faults counts, if there are several. -/
structure Schedule where
  order : List Nat
  blame : Nat

namespace Schedule

def inOrder (n : Nat) : Schedule :=
  ⟨List.range n, 0⟩

variable {ρ ε : Type} [Record ρ ε]

/-- The evaluations that take place, with the numbers of their rules. -/
def evaluations (s : Schedule) (rules : List Rule) (records : List ρ) :
    List (Nat × Except ε (Option String)) :=
  s.order.filterMap fun i => rules[i]?.map fun r => (i, r.body? records)

/-- Every rule is evaluated, or some evaluation fails, and none is done twice. -/
structure Admissible (s : Schedule) (rules : List Rule) (records : List ρ) : Prop where
  nodup : s.order.Nodup
  complete : (∀ i < rules.length, i ∈ s.order) ∨
    ∃ p ∈ s.evaluations rules records, ∃ fault, p.2 = .error fault

def fault? : Except ε (Option String) → Option ε
  | .error fault => some fault
  | .ok _ => none

def bodyAt (done : List (Nat × Except ε (Option String))) (i : Nat) : Option String :=
  match done.lookup i with
  | some (.ok body) => body
  | _ => none

def bodies (s : Schedule) (rules : List Rule) (records : List ρ) :
    Except ε (List (Option String)) :=
  let done := s.evaluations rules records
  match done.filterMap fun p => fault? p.2 with
  | [] => .ok ((List.range rules.length).map (bodyAt done))
  | fault :: faults => .error ((fault :: faults).getD (s.blame % (faults.length + 1)) fault)

end Schedule

/-! ### Engines -/

/-- When rules are evaluated several at a time: if that is on, and there are rules enough. -/
structure Engine where
  parallel : Bool
  minRules : UInt64
  deriving DecidableEq, Repr

namespace Engine

def default : Engine :=
  ⟨false, 8⟩

/-- One rule after the other, however many there are. -/
def sequentialAlways : Engine :=
  default

/-- Several rules at a time, however few there are. -/
def parallelAlways : Engine :=
  ⟨true, 1⟩

def usesParallel (e : Engine) (rules : Nat) : Bool :=
  e.parallel && decide (max e.minRules.toNat 1 ≤ rules)

end Engine

def routeWith {ρ ε : Type} [Record ρ ε] (engine : Engine) (schedule : Schedule)
    (rules : List Rule) (records : List ρ) : Logged ε (List Group) :=
  if engine.usesParallel rules.length then account rules (schedule.bodies rules records)
  else routeInOrder rules records

def route {ρ ε : Type} [Record ρ ε] (engine : Engine) (rules : List Rule) (records : List ρ) :
    Logged ε (List Group) :=
  routeWith engine (.inOrder rules.length) rules records

end ReportRouting
