import PcRemote.Transition

/-! Programs that work on a device one transaction at a time, whatever it answers. The requests that
a program has made and their answers are its trace, and a loop adds up those of its iterations. -/
namespace PcRemote.Transactions
open Transition

variable {Req : Type} {Answer : Req → Type} {α β : Type}

inductive Program (Req : Type) (Answer : Req → Type) (α : Type) : Type
  | done (a : α)
  | ask (r : Req) (next : Answer r → Program Req Answer α)

/-- A request and the answer to it. -/
structure Entry {Req : Type} (Answer : Req → Type) where
  request : Req
  answer : Answer request

namespace Program

def bind : Program Req Answer α → (α → Program Req Answer β) → Program Req Answer β
  | .done a, f => f a
  | .ask r next, f => .ask r fun x => (next x).bind f

instance : Monad (Program Req Answer) where
  pure := .done
  bind := bind

def request (r : Req) : Program Req Answer (Answer r) := .ask r .done

/-- The traces that a program can have, each with the result. -/
inductive Runs : Program Req Answer α → List (Entry Answer) → α → Prop
  | done (a : α) : Runs (.done a) [] a
  | ask {r : Req} {next : Answer r → Program Req Answer α} {x : Answer r}
      {trace : List (Entry Answer)} {a : α} :
      Runs (next x) trace a → Runs (.ask r next) (⟨r, x⟩ :: trace) a

lemma runs_pure {a b : α} {trace : List (Entry Answer)} :
    (pure a : Program Req Answer α).Runs trace b ↔ trace = [] ∧ b = a := by
  constructor
  · rintro ⟨⟩
    exact ⟨rfl, rfl⟩
  · rintro ⟨rfl, rfl⟩
    exact .done b

lemma runs_request {r : Req} {trace : List (Entry Answer)} {x : Answer r} :
    (request r : Program Req Answer (Answer r)).Runs trace x ↔ trace = [⟨r, x⟩] := by
  constructor
  · rintro (_ | ⟨⟨⟩⟩)
    rfl
  · rintro rfl
    exact .ask (.done x)

lemma runs_bind {p : Program Req Answer α} {f : α → Program Req Answer β}
    {trace : List (Entry Answer)} {b : β} :
    (p >>= f).Runs trace b ↔ ∃ before a after, trace = before ++ after ∧ p.Runs before a ∧
      (f a).Runs after b := by
  constructor
  · intro h
    induction p generalizing trace with
    | done a => exact ⟨[], a, trace, rfl, .done a, h⟩
    | ask r next ih =>
      cases h with
      | ask hrest =>
        obtain ⟨before, a, after, rfl, hfirst, hlast⟩ := ih _ hrest
        exact ⟨_, a, after, rfl, .ask hfirst, hlast⟩
  · rintro ⟨before, a, after, rfl, hfirst, hlast⟩
    induction hfirst with
    | done a => exact hlast
    | ask _ ih => exact .ask (ih hlast)

/-- A request at the head of a program. -/
lemma runs_request_bind {r : Req} {f : Answer r → Program Req Answer β}
    {trace : List (Entry Answer)} {b : β} :
    (request r >>= f).Runs trace b ↔ ∃ x after, trace = ⟨r, x⟩ :: after ∧ (f x).Runs after b := by
  constructor
  · rintro (_ | h)
    exact ⟨_, _, rfl, h⟩
  · rintro ⟨x, after, rfl, h⟩
    exact .ask h

/-- A program that is always given the same answers. -/
def play (answer : (r : Req) → Answer r) : Program Req Answer α → List (Entry Answer) × α
  | .done a => ([], a)
  | .ask r next =>
      let rest := play answer (next (answer r))
      (⟨r, answer r⟩ :: rest.1, rest.2)

lemma runs_play (answer : (r : Req) → Answer r) (p : Program Req Answer α) :
    p.Runs (p.play answer).1 (p.play answer).2 := by
  induction p with
  | done a => exact .done a
  | ask r next ih => exact .ask (ih _)

end Program

/-! A program that is run again and again. -/
section Loop
variable {body : β → Program Req Answer β}

/-- Each event of the loop is an iteration with its trace. -/
def loop (body : β → Program Req Answer β) : System (β × List (Entry Answer)) (List (Entry Answer))
    where
  step s trace t := (body s.1).Runs trace t.1 ∧ t.2 = s.2 ++ trace

/-- What an iteration keeps of the variables and of the trace so far, the loop keeps. -/
lemma loop_invariant {I : β → List (Entry Answer) → Prop}
    (h : ∀ b c before trace, (body b).Runs trace c → I b before → I c (before ++ trace))
    {s t : β × List (Entry Answer)} {es : List (List (Entry Answer))}
    (hrun : (loop body).Run s es t) (hs : I s.1 s.2) : I t.1 t.2 := by
  refine hrun.invariant (I := fun s => I s.1 s.2) (fun s trace t hst hI => ?_) hs
  rw [hst.2]
  exact h _ _ _ _ hst.1 hI

/-- The trace of a run is that of its iterations. -/
lemma loop_trace {s t : β × List (Entry Answer)} {es : List (List (Entry Answer))}
    (hrun : (loop body).Run s es t) : t.2 = s.2 ++ es.flatten := by
  induction hrun with
  | nil => exact (List.append_nil _).symm
  | cons hst _ ih => rw [ih, hst.2, List.flatten_cons, List.append_assoc]

end Loop

end PcRemote.Transactions
