namespace Conclave

structure Agenda (ε : Type) where
  entries : List (Nat × ε)
  deriving Repr

namespace Agenda

variable {ε : Type}

def empty : Agenda ε := ⟨[]⟩

def add (due : Nat) (event : ε) (a : Agenda ε) : Agenda ε := ⟨a.entries ++ [(due, event)]⟩

def next? (a : Agenda ε) : Option Nat := (a.entries.map Prod.fst).min?

def due (clock : Nat) (a : Agenda ε) : List ε :=
  (a.entries.filter fun e => decide (e.1 ≤ clock)).map Prod.snd

def later (clock : Nat) (a : Agenda ε) : Agenda ε :=
  ⟨a.entries.filter fun e => decide (clock < e.1)⟩

end Agenda

end Conclave
