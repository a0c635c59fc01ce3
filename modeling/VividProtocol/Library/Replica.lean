import Mathlib.Tactic

/-!
# Replicas fed in order

A primary sends messages and a replica processes them in order.  `Leads` says
that processing what is still on the way takes the replica's state to the
primary's.  `Midway` marks a point of the primary's past that the replica
reaches after so many more messages, whatever is sent behind them.
-/

set_option autoImplicit false

namespace VividProtocol.Library.Replica

universe u v

variable {State : Type u} {Message : Type v} {Conveys : State → Message → State → Prop}

inductive Leads (Conveys : State → Message → State → Prop) :
    State → List Message → State → Prop where
  | level (state : State) : Leads Conveys state [] state
  | behind {replica next primary : State} {message : Message} {pending : List Message}
      (first : Conveys replica message next) (rest : Leads Conveys next pending primary) :
      Leads Conveys replica (message :: pending) primary

variable {replica primary next : State} {message : Message} {pending : List Message}

theorem Leads.eq_of_nil (leads : Leads Conveys replica [] primary) : replica = primary := by
  cases leads with
  | level state => rfl

theorem Leads.uncons (leads : Leads Conveys replica (message :: pending) primary) :
    ∃ next, Conveys replica message next ∧ Leads Conveys next pending primary := by
  cases leads with
  | behind first rest => exact ⟨_, first, rest⟩

/-- The primary sends one more message. -/
theorem Leads.snoc (leads : Leads Conveys replica pending primary)
    (sent : Conveys primary message next) :
    Leads Conveys replica (pending ++ [message]) next := by
  induction leads with
  | level state => exact .behind sent (.level next)
  | behind first rest ih => exact .behind first (ih sent)

/-- The replica is `count` messages short of `mark`, a state the primary has been in. -/
def Midway (Conveys : State → Message → State → Prop) (replica : State)
    (pending : List Message) (count : Nat) (mark primary : State) : Prop :=
  ∃ sooner later, pending = sooner ++ later ∧ sooner.length = count ∧
    Leads Conveys replica sooner mark ∧ Leads Conveys mark later primary

variable {mark : State} {count : Nat}

theorem Leads.midway (leads : Leads Conveys replica pending primary) :
    Midway Conveys replica pending pending.length primary primary :=
  ⟨pending, [], (List.append_nil pending).symm, rfl, leads, .level primary⟩

theorem Midway.snoc (midway : Midway Conveys replica pending count mark primary)
    (sent : Conveys primary message next) :
    Midway Conveys replica (pending ++ [message]) count mark next := by
  obtain ⟨sooner, later, split, long, reaches, leads⟩ := midway
  refine ⟨sooner, later ++ [message], ?_, long, reaches, leads.snoc sent⟩
  rw [split, List.append_assoc]

theorem Midway.uncons
    (midway : Midway Conveys replica (message :: pending) (count + 1) mark primary) :
    ∃ next, Conveys replica message next ∧ Midway Conveys next pending count mark primary := by
  obtain ⟨sooner, later, split, long, reaches, leads⟩ := midway
  cases sooner with
  | nil => cases long
  | cons head sooner =>
      rw [List.cons_append, List.cons.injEq] at split
      obtain ⟨rfl, rfl⟩ := split
      obtain ⟨next, first, rest⟩ := reaches.uncons
      exact ⟨next, first, sooner, later, rfl, Nat.succ.inj long, rest, leads⟩

theorem Midway.pending_ne_nil
    (midway : Midway Conveys replica pending (count + 1) mark primary) : pending ≠ [] := by
  obtain ⟨sooner, later, split, long, -, -⟩ := midway
  rintro rfl
  obtain ⟨rfl, -⟩ := List.append_eq_nil_iff.mp split.symm
  cases long

theorem Midway.eq_of_zero (midway : Midway Conveys replica pending 0 mark primary) :
    replica = mark := by
  obtain ⟨sooner, later, -, long, reaches, -⟩ := midway
  rw [List.length_eq_zero_iff.mp long] at reaches
  exact reaches.eq_of_nil

end VividProtocol.Library.Replica
