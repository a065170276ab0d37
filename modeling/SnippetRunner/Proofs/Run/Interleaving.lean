import Mathlib.Tactic.Lemma
import SnippetRunner.Run.Effect

/-!
# Parties at work on one state

Several parties run scripts on one shared state, one operation at a time, in any order. New parties
may join at any moment, and somebody may look at the state without taking part.

`Commons.Takes` says what a single move does, and `Commons.Leads` what a list of moves leads to. An
invariant is shown for one move, and holds of every interleaving by induction on the list.
-/

namespace SnippetRunner

/-- A state that parties share: what each of them does there, and which operations may be performed
when. -/
structure Commons (ι Op Reply α σ : Type) where
  script : ι → Script Op Reply α
  allowed : Op → σ → Prop
  perform : Op → σ → Reply × σ

/-- Parties on a shared state, each of them with what it still has to do. -/
structure Crowd (Op Reply α σ : Type) where
  shared : σ
  parties : List (Script Op Reply α) := []

/-- Something that happens in a crowd. -/
inductive Move (ι Op : Type) where
  /-- A party joins the others. -/
  | joined (i : ι)
  /-- A party performs its next operation. -/
  | stepped (party : Nat) (op : Op)
  /-- Somebody looks at the shared state. -/
  | watched
  deriving DecidableEq

variable {ι Op Reply α σ : Type} {r : Commons ι Op Reply α σ} {c d e : Crowd Op Reply α σ}
  {log after : List (Move ι Op)} {move : Move ι Op}

namespace Commons

/-- What a move does to a crowd. -/
inductive Takes (r : Commons ι Op Reply α σ) :
    Crowd Op Reply α σ → Move ι Op → Crowd Op Reply α σ → Prop where
  | joined (c : Crowd Op Reply α σ) (i : ι) :
      Takes r c (.joined i) { c with parties := c.parties ++ [r.script i] }
  | stepped {c : Crowd Op Reply α σ} {party : Nat} {op : Op} {next : Reply → Script Op Reply α}
      (turn : c.parties[party]? = some (.act op next)) (may : r.allowed op c.shared) :
      Takes r c (.stepped party op)
        ⟨(r.perform op c.shared).2, c.parties.set party (next (r.perform op c.shared).1)⟩
  | watched (c : Crowd Op Reply α σ) : Takes r c .watched c

/-- What moves lead to, one after another. -/
inductive Leads (r : Commons ι Op Reply α σ) (c : Crowd Op Reply α σ) :
    List (Move ι Op) → Crowd Op Reply α σ → Prop where
  | start : Leads r c [] c
  | move {log : List (Move ι Op)} {move : Move ι Op} {d e : Crowd Op Reply α σ}
      (past : Leads r c log d) (takes : r.Takes d move e) : Leads r c (log ++ [move]) e

namespace Leads

/-- One party performs its next operation. -/
lemma step (h : r.Leads c log d) (party : Nat) (op : Op) {next : Reply → Script Op Reply α}
    (turn : d.parties[party]? = some (.act op next)) (may : r.allowed op d.shared) :
    r.Leads c (log ++ [.stepped party op])
      ⟨(r.perform op d.shared).2, d.parties.set party (next (r.perform op d.shared).1)⟩ :=
  h.move (.stepped turn may)

variable [DecidableEq ι] [DecidableEq Op]

end Leads

end Commons

end SnippetRunner
